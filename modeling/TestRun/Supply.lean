import TestRun.TestConfig

/-! Apps that many requests look at, one after the other. -/

set_option autoImplicit false

namespace TestRun

structure Supply where
  apps : Option Inventory
  once : Bool

namespace Supply

inductive Request where
  | find (path : String)
  | get (path : String)
  | build (strict : Bool) (target : TestTarget)
  | buildAll (strict : Bool) (targets : List TestTarget)

inductive Answer where
  | found (id : Option Wording)
  | identifier (id : Wording)
  | config (c : TestConfig)
  | configs (cs : List TestConfig)
  | problem (p : Problem)
  | noApps

def Request.path? : Request → Option String
  | .find path => some path
  | .get path => some path
  | .build _ target => if target.isInterfaceTest then some target.targetPath else none
  | .buildAll _ _ => none

def left (request : Request) (apps : Inventory) : Inventory :=
  match request with
  | .buildAll _ _ => []
  | _ =>
      match request.path? with
      | some path => apps.behind path
      | none => apps

def reply (session : Session) (apps : Option Inventory) : Request → Answer
  | .find path =>
      match apps with
      | some apps => .found (apps.find? path)
      | none => .noApps
  | .get path =>
      match apps with
      | some apps =>
          match apps.get path with
          | .ok id => .identifier id
          | .error p => .problem p
      | none => .noApps
  | .build strict target =>
      match TestConfig.build session apps strict target with
      | .ok c => .config c
      | .error p => .problem p
  | .buildAll strict targets =>
      match TestConfig.buildAll session apps strict targets with
      | .ok cs => .configs cs
      | .error p => .problem p

def answer (session : Session) (s : Supply) (request : Request) : Answer × Supply :=
  (reply session s.apps request,
    if s.once then { s with apps := s.apps.map (left request) } else s)

def run (session : Session) (s : Supply) : List Request → List Answer
  | [] => []
  | request :: rest =>
      let (made, s) := s.answer session request
      made :: run session s rest

end Supply
end TestRun
