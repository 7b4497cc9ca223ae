import TestRun.Format.Version
import TestRun.TestTarget

/-! Version 1: one target, under a key that is not known beforehand. -/

set_option autoImplicit false

namespace TestRun.Format.SingleTarget

def select? : Entries → Option (Value × Entries)
  | [] => none
  | (key, value) :: rest =>
      if key.sameKey (.text metadataKey) then select? rest
      else
        match value with
        | .dict block => some (key, block)
        | _ => select? rest

def failure (key : Value) (issues : List Schema.Issue) : Failure :=
  match key.display? with
  | some name => .problem (.targetInvalid name issues)
  | none => .escape .integerTooLong

def ofRoot (root : Entries) : Except Failure (List TestTarget) :=
  match select? root with
  | none => .ok []
  | some (key, block) =>
      match TestTarget.ofEntries block with
      | .ok target => .ok [target]
      | .bad issues => .error (failure key issues)

def parse (content : List UInt8) : Except Failure (List TestTarget) := do
  ofRoot (← Document.load content)

end TestRun.Format.SingleTarget
