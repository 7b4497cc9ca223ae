import TestRun.Plist.Binary.Object

/-! Binary property lists. Every object is read once; references may form cycles, which are followed as deep as any
schema looks. -/

set_option autoImplicit false

namespace TestRun.Plist.Binary

abbrev Objects := Array (Option Object)

abbrev Values := Array (Option Value)

def readAll? (l : Layout) : (refs : List Nat) → Objects → (next : List Nat) → Option (Objects × List Nat)
  | [], read, next => some (read, next)
  | ref :: rest, read, next =>
      match read[ref]? with
      | some (some _) => readAll? l rest read next
      | _ => do
          let object ← l.object? ref
          readAll? l rest (read.setIfInBounds ref (some object)) (object.parts ++ next)

-- Reads all that a list of references leads to. Each of the `rounds` reads at least one object that
-- was not read before, but for the last.
def reach? (l : Layout) : (rounds : Nat) → (refs : List Nat) → Objects → Option Objects
  | _, [], read => some read
  | 0, _, _ => none
  | rounds + 1, refs, read => do
      let (read, next) ← readAll? l refs read []
      reach? l rounds next read

def objects? (l : Layout) (root : Nat) : Option Objects :=
  reach? l (l.offsets.size + 1) [root] (Array.replicate l.offsets.size none)

def Values.get? (values : Values) (ref : Nat) : Option Value := values[ref]?.join

def Object.value? (values : Values) : Object → Option Value
  | .scalar v => some v
  | .array items => do
      let items ← items.mapM values.get?
      some (.array items)
  | .dict slots _ => do
      let entries ← slots.mapM fun slot => (values.get? slot.value).map fun v => (slot.key, v)
      some (.dict entries)

def Values.extend (objects : Objects) (values parts : Values) : Values :=
  values.mapIdx fun ref known =>
    match known with
    | some v => some v
    | none => objects[ref]?.join.bind (Object.value? parts)

def Values.count (values : Values) : Nat := values.countP Option.isSome

def Values.settle (objects : Objects) : (rounds : Nat) → Values → Values
  | 0, values => values
  | rounds + 1, values =>
      let more := values.extend objects values
      if more.count = values.count then values else settle objects rounds more

-- The values of all objects that lead into no cycle.
def Objects.values (objects : Objects) : Values :=
  Values.settle objects objects.size (Array.replicate objects.size none)

def upToTurn {α β : Type} (value? : α → Option β) (turn : α → β) : List α → List β
  | [] => []
  | a :: rest =>
      match value? a with
      | some b => b :: upToTurn value? turn rest
      | none => [turn a]

-- Follows the first part that has no value, until it leads back to an object on the path. Nothing
-- that comes later in the objects on the path is met before the cycle closes.
def lasso (objects : Objects) (values : Values) : (fuel : Nat) → (path : List Nat) → (ref : Nat) → Value
  | 0, _, _ => .enclosing
  | fuel + 1, path, ref =>
      if ref ∈ path then .enclosing
      else
        let turn := lasso objects values fuel (ref :: path)
        match objects[ref]?.join with
        | some (.scalar v) => v
        | some (.array items) => .array (upToTurn values.get? turn items)
        | some (.dict slots _) =>
            .dict (upToTurn (fun slot => (values.get? slot.value).map fun v => (slot.key, v))
              (fun slot => (slot.key, turn slot.value)) slots)
        | none => .enclosing

-- Gives a value to each object that leads into a cycle: followed `depth` deep, and below that only
-- as far as the way leads back.
def Values.unroll (objects : Objects) (values : Values) : (depth : Nat) → Values
  | 0 =>
      values.mapIdx fun ref known =>
        match known with
        | some v => some v
        | none => some (lasso objects values (objects.size + 1) [] ref)
  | depth + 1 => values.extend objects (unroll objects values depth)

-- How deep a document is looked into by its schema: the root, a list of configurations, one of
-- them, its list of targets, one of them, and the value of one of its keys.
def schemaDepth : Nat := 6

def root? (bytes : List UInt8) : Option Value := do
  let (l, root) ← layout? bytes.toArray
  let objects ← objects? l root
  let values := objects.values
  match values.get? root with
  | some v => some v
  | none => (values.unroll objects schemaDepth).get? root

end TestRun.Plist.Binary
