import TestRun.Format.SingleTarget
import TestRun.Format.TestPlan

/-! Decoding by version: the versions that a caller accepts must all be known ones, and the version of the document
must be one of them. -/

set_option autoImplicit false

namespace TestRun.Format

def knownVersions : List Int := [1, 2]

def decoder (version : Int) : List UInt8 → Except Failure (List TestTarget) :=
  if version = 1 then SingleTarget.parse else PlanDocument.parse

def unsupported (version : Int) (supported : List Int) : Failure :=
  if Numeral.isWritable version then .problem (.unsupportedVersion version supported) else .escape .integerTooLong

def decode (supported : List Int) (content : List UInt8) : Except Failure (List TestTarget) :=
  match supported.filter fun v => !knownVersions.contains v with
  | [] =>
      match detect content with
      | .error f => .error f
      | .ok version =>
          if supported.contains version then decoder version content
          else .error (unsupported version supported)
  | unknown => .error (.escape (.unknownVersions unknown))

end TestRun.Format
