import TestRun.Number.Binary64
import TestRun.Text.Wording
import TestRun.Timestamp

/-! The values that documents hold, and the entries of their dictionaries. -/

set_option autoImplicit false

namespace TestRun

inductive Value where
  | null
  | bool (b : Bool)
  | int (i : Int)
  | real (x : Binary64)
  | text (s : String)
  -- Text with a surrogate that is not part of a pair, by its code points.
  | brokenText (points : List Nat)
  | data (bytes : List UInt8)
  | date (t : Timestamp)
  | uid (n : Nat)
  | array (items : List Value)
  | dict (entries : List (Value × Value))
  -- A reference back to an array or dictionary that encloses it.
  | enclosing
  deriving Inhabited

abbrev Entries := List (Value × Value)

namespace Value

def number? : Value → Option (Int ⊕ Binary64)
  | .bool b => some (.inl (if b then 1 else 0))
  | .int i => some (.inl i)
  | .real x =>
      match x.toInt? with
      | some i => some (.inl i)
      | none => some (.inr x)
  | _ => none

def sameKey (a b : Value) : Bool :=
  match a, b with
  | .null, .null => true
  | .text s, .text t => s == t
  | .brokenText s, .brokenText t => s == t
  | .data s, .data t => s == t
  | .date s, .date t => s == t
  | .uid m, .uid n => m == n
  | a, b =>
      match a.number?, b.number? with
      | some (.inl m), some (.inl n) => m == n
      | some (.inr x), some (.inr y) => !x.isNaN && x == y
      | _, _ => false

def isKey : Value → Bool
  | .array _ => false
  | .dict _ => false
  | .enclosing => false
  | _ => true

def ofWording : Wording → Value
  | .text s => .text s
  | .broken points => .brokenText points

end Value

namespace Entries

def put (key value : Value) : Entries → Entries
  | [] => [(key, value)]
  | (k, v) :: rest => if k.sameKey key then (k, value) :: rest else (k, v) :: put key value rest

def merge (base added : Entries) : Entries := added.foldl (fun made e => put e.1 e.2 made) base

def ofList (entries : List (Value × Value)) : Entries := merge [] entries

def get? (name : String) : Entries → Option Value
  | [] => none
  | (k, v) :: rest => if k.sameKey (.text name) then some v else get? name rest

end Entries
end TestRun
