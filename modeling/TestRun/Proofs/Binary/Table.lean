import TestRun.Plist.Binary

/-! Tables that are filled place by place: what one has found, another that keeps it has found too, and equally many
places are the same places. -/

set_option autoImplicit false

namespace TestRun.Plist.Binary

variable {α β : Type}

def Found (table : Array (Option α)) (place : Nat) : Prop := (table[place]?.join).isSome = true

def filled (table : Array (Option α)) : Nat := table.countP Option.isSome

theorem found_some (table : Array (Option α)) (place : Nat) (a : α) (there : table[place]?.join = some a) :
    Found table place := by rw [Found, there]; rfl

theorem found_bound (table : Array (Option α)) (place : Nat) (found : Found table place) : place < table.size := by
  apply Decidable.byContradiction
  intro outside
  rw [Found, Array.getElem?_eq_none (Nat.le_of_not_lt outside)] at found
  cases found

theorem list_filled (xs ys : List (Option α)) (same : xs.length = ys.length)
    (kept : ∀ place : Nat, (xs[place]?.join).isSome = true → (ys[place]?.join).isSome = true) :
    xs.countP Option.isSome ≤ ys.countP Option.isSome ∧
      (ys.countP Option.isSome ≤ xs.countP Option.isSome →
        ∀ place : Nat, (ys[place]?.join).isSome = true → (xs[place]?.join).isSome = true) := by
  induction xs generalizing ys with
  | nil =>
      cases ys with
      | nil => exact ⟨Nat.le_refl _, fun _ place found => found⟩
      | cons y others => cases same
  | cons x rest ih =>
      cases ys with
      | nil => cases same
      | cons y others =>
          obtain ⟨fewer, equal⟩ := ih others (Nat.succ.inj same) fun place => kept (place + 1)
          have head : x.isSome = true → y.isSome = true := kept 0
          rw [List.countP_cons, List.countP_cons]
          refine ⟨?_, fun many place found => ?_⟩
          · by_cases here : x.isSome = true
            · rw [if_pos here, if_pos (head here)]
              omega
            · rw [if_neg here]
              omega
          · have first : y.isSome = true → x.isSome = true := by
              intro there
              apply Decidable.byContradiction
              intro missing
              rw [if_pos there, if_neg missing] at many
              omega
            have later : others.countP Option.isSome ≤ rest.countP Option.isSome := by
              by_cases here : x.isSome = true
              · rw [if_pos here, if_pos (head here)] at many
                omega
              · rw [if_neg here, if_neg (mt first here)] at many
                omega
            cases place with
            | zero => exact first found
            | succ place => exact equal later place found

theorem filled_le (small large : Array (Option α)) (same : small.size = large.size)
    (kept : ∀ place, Found small place → Found large place) : filled small ≤ filled large := by
  have listed := (list_filled small.toList large.toList same (by simpa [Found] using kept)).1
  simpa [filled] using listed

theorem filled_same (small large : Array (Option α)) (same : small.size = large.size)
    (kept : ∀ place, Found small place → Found large place) (equal : filled large ≤ filled small) (place : Nat)
    (found : Found large place) : Found small place := by
  have listed := (list_filled small.toList large.toList same (by simpa [Found] using kept)).2
  rw [Array.countP_toList, Array.countP_toList] at listed
  simpa [Found] using listed equal place (by simpa [Found] using found)

theorem filled_lt (small large : Array (Option α)) (same : small.size = large.size)
    (kept : ∀ place, Found small place → Found large place) (place : Nat) (found : Found large place)
    (missing : ¬ Found small place) : filled small < filled large := by
  apply Decidable.byContradiction
  intro fewer
  exact missing (filled_same small large same kept (by omega) place found)

theorem filled_all (table : Array (Option α)) (full : table.size ≤ filled table) (place : Nat) (inside : place < table.size) :
    Found table place := by
  have equal : filled table = table.size := Nat.le_antisymm Array.countP_le_size full
  have all := Array.countP_eq_size.mp equal table[place] (Array.getElem_mem inside)
  rw [Found, Array.getElem?_eq_getElem inside]
  exact all

theorem mem_zip_left (xs : List α) (ys : List β) (same : xs.length = ys.length) (x : α) (member : x ∈ xs) :
    ∃ y, (x, y) ∈ xs.zip ys := by
  rw [← List.map_fst_zip (Nat.le_of_eq same)] at member
  obtain ⟨⟨a, y⟩, pair, rfl⟩ := List.mem_map.mp member
  exact ⟨y, pair⟩

theorem mem_zip_right (xs : List α) (ys : List β) (same : xs.length = ys.length) (y : β) (member : y ∈ ys) :
    ∃ x, (x, y) ∈ xs.zip ys := by
  rw [← List.map_snd_zip (Nat.le_of_eq same.symm)] at member
  obtain ⟨⟨x, b⟩, pair, rfl⟩ := List.mem_map.mp member
  exact ⟨x, pair⟩

theorem map_m_found (f : α → Option β) (xs : List α) (ys : List β) (same : xs.length = ys.length)
    (found : ∀ e ∈ xs.zip ys, f e.1 = some e.2) : xs.mapM f = some ys := by
  induction xs generalizing ys with
  | nil =>
      cases ys with
      | nil => rfl
      | cons y others => cases same
  | cons x rest ih =>
      cases ys with
      | nil => cases same
      | cons y others =>
          have head : f x = some y := found (x, y) (by simp)
          have tail := ih others (Nat.succ.inj same) fun e member => found e (List.mem_cons_of_mem _ member)
          rw [List.mapM_cons, head, tail]
          rfl

theorem map_m_only {γ : Type} (f : α → Option β) (xs : List α) (ys : List γ) (meant : γ → β) (zs : List β)
    (same : xs.length = ys.length) (made : xs.mapM f = some zs)
    (only : ∀ e ∈ xs.zip ys, ∀ z, f e.1 = some z → z = meant e.2) : zs = ys.map meant := by
  induction xs generalizing ys zs with
  | nil =>
      obtain rfl : [] = zs := Option.some.inj made
      cases ys with
      | nil => rfl
      | cons y others => cases same
  | cons x rest ih =>
      cases ys with
      | nil => cases same
      | cons y others =>
          rw [List.mapM_cons] at made
          obtain ⟨z, head, tail⟩ := Option.bind_eq_some_iff.mp made
          obtain ⟨last, rested, joined⟩ := Option.bind_eq_some_iff.mp tail
          obtain rfl : z :: last = zs := Option.some.inj joined
          rw [List.map_cons, only (x, y) (by simp) z head, ih others last (Nat.succ.inj same) rested
            fun e member => only e (List.mem_cons_of_mem _ member)]

end TestRun.Plist.Binary
