/-! The outcome of checking a value against a schema: what it means, or every fault in it with the place where it
lies. -/

set_option autoImplicit false

namespace TestRun.Schema

inductive Step where
  | key (name : String)
  | index (i : Int)
  deriving DecidableEq, Repr

inductive FaultKind where
  | modelType
  | missing
  | stringType
  | stringUnicode
  | boolType
  | boolParsing
  | intType
  | intParsing
  | intParsingSize
  | intFromFloat
  | finiteNumber
  | listType
  | dictType
  deriving DecidableEq, Repr

def FaultKind.name : FaultKind → String
  | .modelType => "model_type"
  | .missing => "missing"
  | .stringType => "string_type"
  | .stringUnicode => "string_unicode"
  | .boolType => "bool_type"
  | .boolParsing => "bool_parsing"
  | .intType => "int_type"
  | .intParsing => "int_parsing"
  | .intParsingSize => "int_parsing_size"
  | .intFromFloat => "int_from_float"
  | .finiteNumber => "finite_number"
  | .listType => "list_type"
  | .dictType => "dict_type"

structure Issue where
  location : List Step
  kind : FaultKind
  deriving DecidableEq, Repr

def Issue.under (step : Step) (i : Issue) : Issue := { i with location := step :: i.location }

inductive Checked (α : Type) where
  | ok (a : α)
  | bad (issues : List Issue)

namespace Checked

variable {α β : Type}

def issues : Checked α → List Issue
  | .ok _ => []
  | .bad issues => issues

def fail (kind : FaultKind) : Checked α := .bad [⟨[], kind⟩]

def under (step : Step) : Checked α → Checked α
  | .ok a => .ok a
  | .bad issues => .bad (issues.map (Issue.under step))

def apply (f : Checked (α → β)) (a : Checked α) : Checked β :=
  match f, a with
  | .ok f, .ok a => .ok (f a)
  | .ok _, .bad issues => .bad issues
  | .bad issues, .ok _ => .bad issues
  | .bad issues, .bad more => .bad (issues ++ more)

def all (check : Nat → α → Checked β) : Nat → List α → Checked (List β)
  | _, [] => .ok []
  | i, a :: rest => ((ok List.cons).apply (check i a)).apply (all check (i + 1) rest)

theorem issues_under (step : Step) (c : Checked α) :
    (under step c).issues = c.issues.map (Issue.under step) := by
  cases c <;> rfl

theorem issues_apply (f : Checked (α → β)) (a : Checked α) :
    (apply f a).issues = f.issues ++ a.issues := by
  cases f <;> cases a <;> simp [apply, issues]

end Checked
end TestRun.Schema
