import TestRun.Plist.Markup
import TestRun.Proofs.Markup.Nesting

/-! What a builder meets outside all containers. -/

set_option autoImplicit false

namespace TestRun.Plist.Builder

open Xml (Event replay)

theorem run_error_iff (b : Builder) (events : List Event) (f : Fault) :
    b.run events = .error f ↔
      ∃ before e after inner, events = before ++ e :: after ∧ b.run before = .ok inner ∧ inner.step e = .error f := by
  induction events generalizing b with
  | nil => simp [run]
  | cons first rest ih =>
      rw [run]
      cases stepped : b.step first with
      | error g =>
          constructor
          · intro failed
            exact ⟨[], first, rest, b, rfl, rfl, stepped.trans (congrArg Except.error (Except.error.inj failed))⟩
          · rintro ⟨before, e, after, inner, parts, reached, failed⟩
            cases before with
            | nil =>
                obtain ⟨rfl, rfl⟩ := List.cons.inj parts
                cases reached
                exact stepped.symm.trans failed
            | cons head tail =>
                obtain ⟨rfl, -⟩ := List.cons.inj parts
                rw [run, stepped] at reached
                cases reached
      | ok next =>
          refine (ih next).trans ⟨?_, ?_⟩
          · rintro ⟨before, e, after, inner, rfl, reached, failed⟩
            refine ⟨first :: before, e, after, inner, rfl, ?_, failed⟩
            rw [run, stepped]
            exact reached
          · rintro ⟨before, e, after, inner, parts, reached, failed⟩
            cases before with
            | nil =>
                obtain ⟨rfl, -⟩ := List.cons.inj parts
                cases reached
                rw [stepped] at failed
                cases failed
            | cons head tail =>
                obtain ⟨rfl, rfl⟩ := List.cons.inj parts
                rw [run, stepped] at reached
                exact ⟨tail, e, after, inner, rfl, reached, failed⟩

def scalar? (name : String) : Option (List Char → Except Fault Value) :=
  if name = "integer" then some readInteger
  else if name = "real" then some readReal
  else if name = "string" then some readText
  else if name = "data" then some readData
  else if name = "date" then some readDate
  else none

def switch? (name : String) : Option Bool :=
  if name = "true" then some true else if name = "false" then some false else none

theorem scalar_no_switch (name : String) (read : List Char → Except Fault Value) (found : scalar? name = some read) :
    switch? name = none := by
  unfold switch?
  unfold scalar? at found
  grind

inductive Finishes (b : Builder) (line : Nat) : String → Except Fault Builder → Prop where
  | dict : Finishes b line "dict" (b.closeDict line)
  | array : Finishes b line "array" b.closeContainer
  | key : Finishes b line "key" (b.closeKey line)
  | switch (name : String) (v : Bool) (found : switch? name = some v) : Finishes b line name (b.add line (.bool v))
  | scalar (name : String) (read : List Char → Except Fault Value) (found : scalar? name = some read) :
      Finishes b line name (b.closeScalar line read)
  | other (name : String) (noDict : name ≠ "dict") (noArray : name ≠ "array") (noKey : name ≠ "key")
      (noSwitch : switch? name = none) (noScalar : scalar? name = none) : Finishes b line name (.ok b)

theorem finishes (b : Builder) (name : String) (line : Nat) : Finishes b line name (b.finish name line) := by
  by_cases dict : name = "dict"
  · subst dict
    exact .dict
  by_cases array : name = "array"
  · subst array
    exact .array
  by_cases key : name = "key"
  · subst key
    exact .key
  rw [finish, if_neg dict, if_neg array, if_neg key]
  by_cases yes : name = "true"
  · rw [if_pos yes]
    exact .switch name true (by simp [switch?, yes])
  by_cases no : name = "false"
  · rw [if_neg yes, if_pos no]
    exact .switch name false (by simp [switch?, no])
  rw [if_neg yes, if_neg no]
  by_cases integer : name = "integer"
  · rw [if_pos integer]
    exact .scalar name readInteger (by simp [scalar?, integer])
  by_cases real : name = "real"
  · rw [if_neg integer, if_pos real]
    exact .scalar name readReal (by simp [scalar?, real])
  by_cases string : name = "string"
  · rw [if_neg integer, if_neg real, if_pos string]
    exact .scalar name readText (by simp [scalar?, string])
  by_cases data : name = "data"
  · rw [if_neg integer, if_neg real, if_neg string, if_pos data]
    exact .scalar name readData (by simp [scalar?, data])
  by_cases date : name = "date"
  · rw [if_neg integer, if_neg real, if_neg string, if_neg data, if_pos date]
    exact .scalar name readDate (by simp [scalar?, date])
  rw [if_neg integer, if_neg real, if_neg string, if_neg data, if_neg date]
  exact .other name dict array key (by simp [switch?, yes, no]) (by simp [scalar?, integer, real, string, data, date])

theorem scalar_error (name : String) (read : List Char → Except Fault Value) (found : scalar? name = some read)
    (text : List Char) (f : Fault) (failed : read text = .error f) : f ≠ .outsideContainer ∧ f ≠ .unknownEncoding := by
  have known : read = readInteger ∨ read = readReal ∨ read = readText ∨ read = readData ∨ read = readDate := by
    unfold scalar? at found
    grind
  rcases known with rfl | rfl | rfl | rfl | rfl
  · unfold readInteger at failed
    split at failed <;> cases failed
    exact ⟨Fault.noConfusion, Fault.noConfusion⟩
  · unfold readReal at failed
    split at failed <;> cases failed
    exact ⟨Fault.noConfusion, Fault.noConfusion⟩
  · cases failed
  · unfold readData at failed
    split at failed <;> cases failed
    exact ⟨Fault.noConfusion, Fault.noConfusion⟩
  · unfold readDate at failed
    split at failed <;> cases failed
    exact ⟨Fault.noConfusion, Fault.noConfusion⟩

def kind? (name : List Char) : Option Bool :=
  if String.ofList name = "dict" then some true else if String.ofList name = "array" then some false else none

def kinds (b : Builder) : List Bool := b.frames.map fun frame => frame.container.isDict

-- The builder's frames are those of the open elements, and a key waits in a dictionary only.
structure Follows (names : List (List Char)) (b : Builder) : Prop where
  kinds : b.kinds = names.filterMap kind?
  waiting : b.waiting? ≠ none → b.kinds.head? = some true

theorem add_is_dict (slot : Slot) (v : Value) (c : Container) : (c.add slot v).isDict = c.isDict := by
  unfold Container.add
  split
  · rfl
  · split <;> rfl

theorem put_kinds (b : Builder) (slot : Slot) (v : Value) : (b.put slot v).kinds = b.kinds := by
  unfold put
  split
  · rfl
  · rename_i frame outer framed
    simp [kinds, framed, add_is_dict]

theorem put_key (b : Builder) (slot : Slot) (v : Value) : (b.put slot v).key = b.key := by
  unfold put
  split <;> rfl

theorem slot_next (b next : Builder) (line : Nat) (slot : Slot) (placed : b.slot line = .ok (slot, next)) :
    next = { b with key := none } := by
  unfold Builder.slot at placed
  split at placed
  · cases placed
  · split at placed
    · cases placed
      rfl
    · cases placed
  · rename_i free _
    cases placed
    rw [← free]
  · rename_i free _
    split at placed
    · cases placed
    · cases placed
      rw [← free]

theorem add_next (b next : Builder) (line : Nat) (v : Value) (added : b.add line v = .ok next) :
    next.kinds = b.kinds ∧ next.key = none := by
  unfold add at added
  cases placed : b.slot line with
  | error f =>
      rw [placed] at added
      cases added
  | ok result =>
      obtain ⟨slot, middle⟩ := result
      rw [placed] at added
      obtain rfl : middle.put slot v = next := Except.ok.inj added
      obtain rfl := slot_next b middle line slot placed
      exact ⟨put_kinds _ slot v, put_key _ slot v⟩

theorem close_scalar_next (b next : Builder) (line : Nat) (read : List Char → Except Fault Value)
    (closed : b.closeScalar line read = .ok next) : next.kinds = b.kinds ∧ next.key = none := by
  unfold closeScalar takeText at closed
  cases value : read b.text.reverse with
  | error f =>
      simp only [value] at closed
      cases closed
  | ok v =>
      simp only [value] at closed
      exact add_next { b with text := [] } next line v closed

theorem open_next (b next : Builder) (line : Nat) (c : Container) (opened : b.openContainer line c = .ok next) :
    next.kinds = c.isDict :: b.kinds ∧ next.key = none := by
  unfold openContainer at opened
  cases placed : b.slot line with
  | error f =>
      rw [placed] at opened
      cases opened
  | ok result =>
      obtain ⟨slot, middle⟩ := result
      rw [placed] at opened
      obtain rfl : { middle with frames := ⟨slot, c⟩ :: middle.frames } = next := Except.ok.inj opened
      obtain rfl := slot_next b middle line slot placed
      exact ⟨rfl, rfl⟩

theorem close_next (b next : Builder) (closed : b.closeContainer = .ok next) :
    b.kinds.tail = next.kinds ∧ next.key = b.key := by
  unfold closeContainer at closed
  split at closed
  · cases closed
  · rename_i frame outer framed
    obtain rfl := Except.ok.inj closed
    refine ⟨?_, put_key _ _ _⟩
    rw [put_kinds, kinds, kinds, framed]
    rfl

theorem close_key_next (b next : Builder) (line : Nat) (closed : b.closeKey line = .ok next) :
    next.kinds = b.kinds ∧ b.kinds.head? = some true := by
  unfold closeKey takeText at closed
  split at closed
  · cases closed
  · cases closed
  · rename_i frame outer _ framed
    split at closed
    · rename_i inDict
      obtain rfl := Except.ok.inj closed
      exact ⟨rfl, by simp [kinds, framed, inDict]⟩
    · cases closed

theorem waiting_none (b : Builder) (free : b.key = none) : b.waiting? = none := by rw [waiting?, free]; rfl

theorem kind_cases (name : List Char) :
    (String.ofList name = "dict" ∧ kind? name = some true) ∨ (String.ofList name = "array" ∧ kind? name = some false) ∨
      (String.ofList name ≠ "dict" ∧ String.ofList name ≠ "array" ∧ kind? name = none) := by
  unfold kind?
  by_cases dict : String.ofList name = "dict"
  · exact .inl ⟨dict, if_pos dict⟩
  · by_cases array : String.ofList name = "array"
    · exact .inr (.inl ⟨array, by rw [if_neg dict, if_pos array]⟩)
    · exact .inr (.inr ⟨dict, array, by rw [if_neg dict, if_neg array]⟩)

theorem start_follows (names : List (List Char)) (b next : Builder) (follows : Follows names b) (name : List Char)
    (line : Nat) (started : b.start (String.ofList name) line = .ok next) : Follows (name :: names) next := by
  unfold start at started
  rcases kind_cases name with ⟨dict, kind⟩ | ⟨array, kind⟩ | ⟨noDict, noArray, kind⟩
  · rw [if_pos dict] at started
    obtain ⟨kinds, free⟩ := open_next _ next line _ started
    refine ⟨?_, fun waits => absurd (waiting_none next free) waits⟩
    rw [kinds, List.filterMap_cons_some kind, ← follows.kinds]
    rfl
  · rw [if_neg (by rw [array]; decide), if_pos array] at started
    obtain ⟨kinds, free⟩ := open_next _ next line _ started
    refine ⟨?_, fun waits => absurd (waiting_none next free) waits⟩
    rw [kinds, List.filterMap_cons_some kind, ← follows.kinds]
    rfl
  · rw [if_neg noDict, if_neg noArray] at started
    obtain rfl := Except.ok.inj started
    refine ⟨?_, follows.waiting⟩
    rw [List.filterMap_cons_none kind, ← follows.kinds]
    rfl

theorem simple_kind (name : List Char)
    (simple : (switch? (String.ofList name)).isSome ∨ (scalar? (String.ofList name)).isSome) : kind? name = none := by
  rcases kind_cases name with ⟨dict, -⟩ | ⟨array, -⟩ | ⟨-, -, kind⟩
  · rw [dict] at simple
    exact absurd simple (by decide)
  · rw [array] at simple
    exact absurd simple (by decide)
  · exact kind

theorem added_follows (names : List (List Char)) (b next : Builder) (framed : b.kinds = names.filterMap kind?)
    (added : next.kinds = b.kinds ∧ next.key = none) : Follows names next :=
  ⟨added.1.trans framed, fun waits => absurd (waiting_none next added.2) waits⟩

theorem finish_follows (names : List (List Char)) (b next : Builder) (name : List Char) (follows : Follows (name :: names) b)
    (line : Nat) (finished : b.finish (String.ofList name) line = .ok next) : Follows names next := by
  have done := finishes b (String.ofList name) line
  rw [finished] at done
  have framed := follows.kinds
  generalize spelled : String.ofList name = text at done
  generalize result : Except.ok next = made at done
  cases done with
  | dict =>
      rw [List.filterMap_cons_some (show kind? name = some true by simp [kind?, spelled])] at framed
      unfold closeDict at result
      split at result
      · cases result
      · rename_i nothing
        obtain ⟨tail, key⟩ := close_next b next result.symm
        refine ⟨by rw [← tail, framed]; rfl, fun waits => absurd ?_ waits⟩
        rw [← nothing, waiting?, waiting?, key]
  | array =>
      rw [List.filterMap_cons_some (show kind? name = some false by simp [kind?, spelled])] at framed
      obtain ⟨tail, key⟩ := close_next b next result.symm
      refine ⟨by rw [← tail, framed]; rfl, fun waits => ?_⟩
      -- A key that waits behind the array waited inside it, where only a dictionary lets one wait.
      have head := follows.waiting (by rwa [waiting?, ← key, ← waiting?])
      rw [framed] at head
      cases head
  | key =>
      rw [List.filterMap_cons_none (show kind? name = none by simp [kind?, spelled])] at framed
      obtain ⟨same, head⟩ := close_key_next b next line result.symm
      exact ⟨same.trans framed, fun _ => by rw [same]; exact head⟩
  | switch _ v found =>
      rw [List.filterMap_cons_none (simple_kind name (.inl (by simp [spelled, found])))] at framed
      exact added_follows names b next framed (add_next b next line _ result.symm)
  | scalar _ read found =>
      rw [List.filterMap_cons_none (simple_kind name (.inr (by simp [spelled, found])))] at framed
      exact added_follows names b next framed (close_scalar_next b next line read result.symm)
  | other _ noDict noArray noKey noSwitch noScalar =>
      obtain rfl := Except.ok.inj result
      rw [List.filterMap_cons_none (by simp [kind?, spelled, noDict, noArray])] at framed
      exact ⟨framed, follows.waiting⟩

theorem step_follows (names inner : List (List Char)) (b next : Builder) (e : Event) (follows : Follows names b)
    (told : replay names [e] = some inner) (stepped : b.step e = .ok next) : Follows inner next := by
  cases e with
  | start name line =>
      obtain rfl : name :: names = inner := Option.some.inj told
      exact start_follows names b next follows name line stepped
  | finish name line =>
      cases names with
      | nil => cases told
      | cons top outer =>
          rw [replay] at told
          split at told
          · rename_i same
            obtain rfl : outer = inner := Option.some.inj told
            rw [← same] at follows
            exact finish_follows outer b next name follows line stepped
          · cases told
  | text c =>
      obtain rfl : names = inner := Option.some.inj told
      obtain rfl := Except.ok.inj stepped
      exact ⟨follows.kinds, follows.waiting⟩
  | entityDeclared => cases stepped
  | fault f => cases stepped

theorem replay_cons (names inner : List (List Char)) (e : Event) (rest : List Event)
    (told : replay names (e :: rest) = some inner) :
    ∃ next, replay names [e] = some next ∧ replay next rest = some inner :=
  Option.bind_eq_some_iff.mp ((Xml.replay_append names [e] rest).symm.trans told)

theorem run_follows (names inner : List (List Char)) (b next : Builder) (events : List Event) (follows : Follows names b)
    (told : replay names events = some inner) (reached : b.run events = .ok next) : Follows inner next := by
  -- A builder that fails does not go on, so each event was taken by a builder that follows.
  induction events generalizing names b with
  | nil =>
      obtain rfl : names = inner := Option.some.inj told
      obtain rfl := Except.ok.inj reached
      exact follows
  | cons e rest ih =>
      obtain ⟨middle, first, others⟩ := replay_cons names inner e rest told
      rw [run] at reached
      cases stepped : b.step e with
      | error f =>
          rw [stepped] at reached
          cases reached
      | ok after =>
          rw [stepped] at reached
          exact ih middle after (step_follows names middle b after e follows first stepped) others reached

def Brings (b : Builder) : Event → Prop
  | .start name _ => kind? name ≠ none
  | .finish name _ => (switch? (String.ofList name)).isSome = true ∨
      ∃ read v, scalar? (String.ofList name) = some read ∧ read b.text.reverse = .ok v
  | _ => False

def Strays (b : Builder) (e : Event) : Prop :=
  b.frames = [] ∧ ((∃ line, e = .finish "key".toList line) ∨ (b.key = some "" ∧ b.Brings e))

theorem outside_nothing_waits (names : List (List Char)) (b : Builder) (follows : Follows names b)
    (outside : b.frames = []) : b.waiting? = none := by
  apply Decidable.byContradiction
  intro waits
  have head := follows.waiting waits
  rw [kinds, outside] at head
  cases head

theorem slot_outside_iff (names : List (List Char)) (b : Builder) (follows : Follows names b) (line : Nat) :
    b.slot line = .error .outsideContainer ↔ b.frames = [] ∧ b.key = some "" := by
  constructor
  · intro failed
    unfold Builder.slot at failed
    split at failed
    · rename_i key held outside
      have nothing := outside_nothing_waits names b follows outside
      rw [waiting?, held] at nothing
      have empty : key = "" := by simpa using nothing
      exact ⟨outside, by rw [held, empty]⟩
    · split at failed <;> cases failed
    · cases failed
    · split at failed <;> cases failed
  · rintro ⟨outside, held⟩
    rw [Builder.slot, outside, held]

theorem add_error_iff (b : Builder) (line : Nat) (v : Value) (f : Fault) :
    b.add line v = .error f ↔ b.slot line = .error f := by
  unfold add
  cases b.slot line with
  | error g => simp [Bind.bind, Except.bind]
  | ok result => simp [Bind.bind, Except.bind]

theorem open_error_iff (b : Builder) (line : Nat) (c : Container) (f : Fault) :
    b.openContainer line c = .error f ↔ b.slot line = .error f := by
  unfold openContainer
  cases b.slot line with
  | error g => simp [Bind.bind, Except.bind]
  | ok result => simp [Bind.bind, Except.bind]

theorem slot_error (b : Builder) (line : Nat) (f : Fault) (failed : b.slot line = .error f) :
    f = .outsideContainer ∨ f = .unexpectedElement line := by
  unfold Builder.slot at failed
  split at failed
  · exact .inl (Except.error.inj failed).symm
  · split at failed
    · cases failed
    · exact .inr (Except.error.inj failed).symm
  · cases failed
  · split at failed
    · exact .inr (Except.error.inj failed).symm
    · cases failed

theorem close_scalar_error (b : Builder) (line : Nat) (read : List Char → Except Fault Value) (f : Fault) :
    b.closeScalar line read = .error f ↔
      read b.text.reverse = .error f ∨ ∃ v, read b.text.reverse = .ok v ∧ b.slot line = .error f := by
  have same : ({ b with text := [] } : Builder).slot line = .error f ↔ b.slot line = .error f := by
    obtain ⟨frames, key, root, text⟩ := b
    unfold Builder.slot
    cases key <;> cases frames <;> dsimp only <;> try split
    all_goals simp
  unfold closeScalar takeText
  cases value : read b.text.reverse with
  | error g => simp [value, Bind.bind, Except.bind]
  | ok v =>
      have added := (add_error_iff { b with text := [] } line v f).trans same
      simpa [value, Bind.bind, Except.bind] using added

theorem close_container_error (b : Builder) (f : Fault) (failed : b.closeContainer = .error f) :
    f = .outsideContainer ∧ b.frames = [] := by
  unfold closeContainer at failed
  split at failed
  · rename_i outside
    exact ⟨(Except.error.inj failed).symm, outside⟩
  · cases failed

theorem close_never_outside (names : List (List Char)) (name : List Char) (kind : Bool) (b : Builder)
    (follows : Follows (name :: names) b) (container : kind? name = some kind) : b.frames ≠ [] := by
  intro outside
  have framed := follows.kinds
  rw [List.filterMap_cons_some container, kinds, outside] at framed
  cases framed

theorem start_outside_iff (names : List (List Char)) (b : Builder) (follows : Follows names b) (name : List Char)
    (line : Nat) : b.step (.start name line) = .error .outsideContainer ↔ b.Strays (.start name line) := by
  have slot := slot_outside_iff names { b with text := [] } ⟨follows.kinds, follows.waiting⟩ line
  have strays : b.Strays (.start name line) ↔ (b.frames = [] ∧ b.key = some "") ∧ kind? name ≠ none := by
    simp [Strays, Brings, and_assoc]
  rw [strays]
  change b.start (String.ofList name) line = _ ↔ _
  unfold start
  rcases kind_cases name with ⟨dict, kind⟩ | ⟨array, kind⟩ | ⟨noDict, noArray, kind⟩
  · rw [if_pos dict, open_error_iff, slot, kind]
    simp
  · rw [if_neg (by rw [array]; decide), if_pos array, open_error_iff, slot, kind]
    simp
  · rw [if_neg noDict, if_neg noArray, kind]
    simp

theorem finish_outside_iff (names : List (List Char)) (b : Builder) (name : List Char) (follows : Follows (name :: names) b)
    (line : Nat) : b.step (.finish name line) = .error .outsideContainer ↔ b.Strays (.finish name line) := by
  have slot := slot_outside_iff (name :: names) b follows line
  have done := finishes b (String.ofList name) line
  change b.finish (String.ofList name) line = _ ↔ _
  generalize result : b.finish (String.ofList name) line = made at done
  have spelled (text : String) : String.ofList name = text ↔ name = text.toList :=
    ⟨fun same => by rw [← same, String.toList_ofList], fun same => by rw [same, String.ofList_toList]⟩
  have strays : b.Strays (.finish name line) ↔ b.frames = [] ∧ (String.ofList name = "key" ∨
      (b.key = some "" ∧ ((switch? (String.ofList name)).isSome = true ∨
        ∃ read v, scalar? (String.ofList name) = some read ∧ read b.text.reverse = .ok v))) := by
    simp [Strays, Brings, spelled]
  rw [strays]
  generalize text : String.ofList name = word at done
  cases done with
  | dict =>
      have framed := close_never_outside names name true b follows (by simp [kind?, text])
      refine iff_of_false (fun failed => ?_) fun strays => framed strays.1
      unfold closeDict at failed
      split at failed
      · cases failed
      · exact framed (close_container_error b _ failed).2
  | array =>
      have framed := close_never_outside names name false b follows (by simp [kind?, text])
      exact iff_of_false (fun failed => framed (close_container_error b _ failed).2) fun strays => framed strays.1
  | key =>
      refine ⟨fun failed => ?_, fun strays => ?_⟩
      · unfold closeKey at failed
        split at failed
        · cases failed
        · rename_i outside
          exact ⟨outside, .inl rfl⟩
        · split at failed <;> cases failed
      · rw [closeKey, outside_nothing_waits _ b follows strays.1, strays.1]
  | switch _ v found =>
      have noKey : word ≠ "key" := by
        rintro rfl
        cases found
      rw [add_error_iff, slot]
      simp [noKey, found]
  | scalar _ read found =>
      have noKey : word ≠ "key" := by
        rintro rfl
        cases found
      have noSwitch := scalar_no_switch word read found
      rw [close_scalar_error, slot]
      have sane : read b.text.reverse ≠ .error .outsideContainer := fun failed =>
        (scalar_error word read found _ _ failed).1 rfl
      simp [noKey, noSwitch, found, sane, and_left_comm, and_comm]
  | other _ noDict noArray noKey noSwitch noScalar =>
      simp [noKey, noSwitch, noScalar]

end TestRun.Plist.Builder
