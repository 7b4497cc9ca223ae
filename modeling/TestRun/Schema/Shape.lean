import TestRun.Schema.Scalar
import TestRun.Value.Literal

/-! Dictionaries with known keys, lists, and dictionaries with any text keys. -/

set_option autoImplicit false

namespace TestRun

abbrev Environment := List (String × Value)

namespace Environment

def put (key : String) (value : Value) : Environment → Environment
  | [] => [(key, value)]
  | (k, v) :: rest => if k = key then (k, value) :: rest else (k, v) :: put key value rest

def merge (base added : Environment) : Environment := added.foldl (fun made e => put e.1 e.2 made) base

end Environment

namespace Schema

variable {α : Type}

def field (name : String) (default : α) (check : Value → Checked α) (entries : Entries) : Checked α :=
  match Entries.get? name entries with
  | none => .ok default
  | some v => (check v).under (.key name)

-- A key that must be there under one of several names. The first one that is there decides,
-- whatever its value is; if there is none, the first name says what is missing.
def required (name : String) (others : List String) (check : Value → Checked α) (entries : Entries) :
    Checked α :=
  match (name :: others).find? fun key => (Entries.get? key entries).isSome with
  | none => (Checked.fail .missing).under (.key name)
  | some key =>
      match Entries.get? key entries with
      | none => (Checked.fail .missing).under (.key name)
      | some v => (check v).under (.key key)

def optional (check : Value → Checked α) (v : Value) : Checked (Option α) :=
  match v with
  | .null => .ok none
  | v =>
      match check v with
      | .ok a => .ok (some a)
      | .bad issues => .bad issues

def listOf (check : Value → Checked α) (v : Value) : Checked (List α) :=
  match v with
  | .array items => Checked.all (fun i item => (check item).under (.index i)) 0 items
  | _ => .fail .listType

def model (check : Entries → Checked α) (v : Value) : Checked α :=
  match v with
  | .dict entries => check entries
  | _ => .fail .modelType

-- The step to a key: its number if it has one of sixty-four bits, else its literal, which only a
-- long integer has not.
def keyStep (key : Value) : Step :=
  let literal := Step.key ((key.literal?).getD "<unprintable int object>")
  match key with
  | .text s => .key s
  | .bool b => .index (if b then 1 else 0)
  | .int i => if isWord i then .index i else literal
  | .uid n => if isWord n then .index n else literal
  | _ => literal

def keyIssue (key : Value) (i : Issue) : Issue := (i.under (.key "[key]")).under (keyStep key)

def textKeys (made : Environment) : Entries → Checked Environment
  | [] => .ok made
  | (key, v) :: rest =>
      match plainText key with
      | .ok name => textKeys (Environment.put name v made) rest
      | .bad issues => (Checked.bad (issues.map (keyIssue key)) : Checked (Environment → Environment)).apply (textKeys made rest)

def environment (v : Value) : Checked Environment :=
  match v with
  | .dict entries => textKeys [] entries
  | _ => .fail .dictType

end Schema
end TestRun
