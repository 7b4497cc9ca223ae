import Mathlib.Data.List.Lex
import TestRun.Proofs.Json.Plain

/-! Sorting by an order that tells all items apart: the outcome goes up from each item to the next, and it is the same
however the items stood before. -/

set_option autoImplicit false

namespace TestRun.Json

section

variable {α : Type} (less : α → α → Bool) (P : α → Prop)
variable (trans : ∀ a b c, P a → P b → P c → less a b = true → less b c = true → less a c = true)

include trans in
theorem insert_descends (a : α) (items : List α) (good : ∀ b ∈ a :: items, P b)
    (apart : ∀ b ∈ items, less a b = true ∨ less b a = true) (descends : items.Pairwise fun x y => less y x = true) :
    (insertDescending less a items).Pairwise fun x y => less y x = true := by
  induction items with
  | nil => exact List.pairwise_singleton _ a
  | cons b rest ih =>
      obtain ⟨below, descendsRest⟩ := List.pairwise_cons.mp descends
      obtain ⟨first, others⟩ := List.forall_mem_cons.mp apart
      by_cases behind : less a b = true
      · rw [insertDescending, if_pos behind]
        have goodRest : ∀ c ∈ a :: rest, P c :=
          List.forall_mem_cons.mpr ⟨good a (by simp), fun c later => good c (by simp [later])⟩
        refine List.pairwise_cons.mpr ⟨fun c member => ?_, ih goodRest others descendsRest⟩
        rcases List.mem_cons.mp ((insert_perm less a rest).mem_iff.mp member) with rfl | later
        · exact behind
        · exact below c later
      · have above : less b a = true := first.resolve_left behind
        rw [insertDescending, if_neg behind]
        refine List.pairwise_cons.mpr ⟨fun c member => ?_, descends⟩
        rcases List.mem_cons.mp member with rfl | later
        · exact above
        · exact trans c b a (good c (by simp [later])) (good b (by simp)) (good a (by simp)) (below c later) above

include trans in
theorem sorted_increases (items : List α) (good : ∀ a ∈ items, P a)
    (apart : items.Pairwise fun a b => less a b = true ∨ less b a = true) :
    (sorted less items).Pairwise fun a b => less a b = true := by
  -- What is still to be inserted is apart from all that is there.
  have fold (made : List α) (goodMade : ∀ a ∈ made, P a) (descends : made.Pairwise fun x y => less y x = true)
      (across : ∀ a ∈ items, ∀ b ∈ made, less a b = true ∨ less b a = true) :
      (items.foldl (fun made a => insertDescending less a made) made).Pairwise fun x y => less y x = true := by
    induction items generalizing made with
    | nil => exact descends
    | cons a rest ih =>
        obtain ⟨goodFirst, goodRest⟩ := List.forall_mem_cons.mp good
        obtain ⟨apartFirst, apartRest⟩ := List.pairwise_cons.mp apart
        have goodAll : ∀ b ∈ a :: made, P b := List.forall_mem_cons.mpr ⟨goodFirst, goodMade⟩
        have inserted := insert_perm less a made
        refine ih goodRest apartRest _ (fun b member => goodAll b (inserted.mem_iff.mp member))
          (insert_descends less P trans a made goodAll (across a (by simp)) descends) fun b later c member => ?_
        rcases List.mem_cons.mp (inserted.mem_iff.mp member) with rfl | before
        · exact (apartFirst b later).symm
        · exact across b (by simp [later]) c before
  exact List.pairwise_reverse.mpr (fold [] (by simp) List.Pairwise.nil (by simp))

include trans in
theorem sorted_unique (xs ys : List α) (order : xs.Perm ys) (good : ∀ a ∈ xs, P a)
    (irreflexive : ∀ a, P a → ¬ less a a = true) (apart : xs.Pairwise fun a b => less a b = true ∨ less b a = true) :
    sorted less xs = sorted less ys := by
  have goodToo : ∀ a ∈ ys, P a := fun a member => good a (order.mem_iff.mpr member)
  have apartToo : ys.Pairwise fun a b => less a b = true ∨ less b a = true :=
    order.pairwise apart fun both => both.symm
  refine List.Perm.eq_of_pairwise ?_ (sorted_increases less P trans xs good apart)
    (sorted_increases less P trans ys goodToo apartToo)
    ((sorted_perm less xs).trans (order.trans (sorted_perm less ys).symm))
  intro a b inFirst inSecond forth back
  have goodA := good a ((sorted_perm less xs).mem_iff.mp inFirst)
  have goodB := goodToo b ((sorted_perm less ys).mem_iff.mp inSecond)
  exact absurd (trans a b a goodA goodB goodA forth back) (irreflexive a goodA)

end

structure Worded {β : Type} (entries : List (Value × β)) : Prop where
  keys : ∀ e ∈ entries, e.1.isText = true
  distinct : (entries.map fun e => e.1.points?).Nodup

def entryBelow {β : Type} (a b : Value × β) : Bool := Value.keyLess a.1 b.1

theorem key_less_iff (a b : Value) (p q : List Nat) (first : a.points? = some p) (second : b.points? = some q) :
    Value.keyLess a b = true ↔ p < q := by
  rw [Value.keyLess, first, second]
  exact decide_eq_true_iff

theorem text_points (v : Value) (text : v.isText = true) : ∃ p, v.points? = some p := Option.isSome_iff_exists.mp text

theorem key_less_trans (a b c : Value) (first : a.isText = true) (second : b.isText = true) (third : c.isText = true)
    (lower : Value.keyLess a b = true) (upper : Value.keyLess b c = true) : Value.keyLess a c = true := by
  obtain ⟨p, left⟩ := text_points a first
  obtain ⟨q, middle⟩ := text_points b second
  obtain ⟨r, right⟩ := text_points c third
  rw [key_less_iff a b p q left middle] at lower
  rw [key_less_iff b c q r middle right] at upper
  exact (key_less_iff a c p r left right).mpr (lt_trans lower upper)

theorem key_less_irreflexive (a : Value) (text : a.isText = true) : ¬ Value.keyLess a a = true := by
  obtain ⟨p, points⟩ := text_points a text
  rw [key_less_iff a a p p points points]
  exact lt_irrefl p

theorem worded_apart {β : Type} (entries : List (Value × β)) (worded : Worded entries) :
    entries.Pairwise fun a b => entryBelow a b = true ∨ entryBelow b a = true := by
  have different := List.pairwise_map.mp worded.distinct
  refine different.imp_of_mem fun {a b} inFirst inSecond differs => ?_
  obtain ⟨p, left⟩ := text_points a.1 (worded.keys a inFirst)
  obtain ⟨q, right⟩ := text_points b.1 (worded.keys b inSecond)
  rw [left, right, ne_eq, Option.some.injEq] at differs
  rw [entryBelow, entryBelow, key_less_iff _ _ p q left right, key_less_iff _ _ q p right left]
  exact lt_or_gt_of_ne differs

theorem worded_increases {β : Type} (entries : List (Value × β)) (worded : Worded entries) :
    (sorted entryBelow entries).Pairwise fun a b => entryBelow a b = true :=
  sorted_increases entryBelow (fun e => e.1.isText = true) (fun a b c => key_less_trans a.1 b.1 c.1) entries worded.keys
    (worded_apart entries worded)

theorem worded_unique {β : Type} (xs ys : List (Value × β)) (order : xs.Perm ys) (worded : Worded xs) :
    sorted entryBelow xs = sorted entryBelow ys :=
  sorted_unique entryBelow (fun e => e.1.isText = true) (fun a b c => key_less_trans a.1 b.1 c.1) xs ys order worded.keys
    (fun a => key_less_irreflexive a.1) (worded_apart xs worded)

theorem worded_ordered {β : Type} (entries : List (Value × β)) (worded : Worded entries) :
    Value.areOrdered (entries.map (·.1)) = true := by
  have texts : (entries.map (·.1)).all Value.isText = true := by
    rw [List.all_map, List.all_eq_true]
    exact worded.keys
  rw [Value.areOrdered, texts, Bool.or_true, Bool.true_or]

theorem worded_keys {β γ : Type} (xs : List (Value × β)) (ys : List (Value × γ)) (keys : xs.map (·.1) = ys.map (·.1))
    (worded : Worded xs) : Worded ys := by
  have points : xs.map (fun e => e.1.points?) = ys.map fun e => e.1.points? := by
    have mapped := congrArg (List.map Value.points?) keys
    rwa [List.map_map, List.map_map] at mapped
  refine ⟨fun e member => ?_, points ▸ worded.distinct⟩
  have key : e.1 ∈ xs.map (·.1) := by
    rw [keys]
    exact List.mem_map_of_mem member
  obtain ⟨d, inside, same⟩ := List.mem_map.mp key
  rw [← same]
  exact worded.keys d inside

end TestRun.Json
