import TestRun.Payload
import TestRun.Proofs.Json.Reading

/-! What a report tells once it is written as JSON and read again: five members, and four for each remark. -/

set_option autoImplicit false

namespace TestRun

open Environment (keyed)
open Json (Textual)
open Payload (orNull)

structure Remark.Told (r : Remark) (entries : Entries) : Prop where
  keys : entries.map (·.1) = ["app_name", "code", "message", "scheme_index"].map .text
  code : entries.get? "code" = some (.text r.code.text)
  message : entries.get? "message" = some (.text r.message)
  index : entries.get? "scheme_index" = some (r.index.elim .null fun n => .int n)
  appName : entries.get? "app_name" = some (r.appName.elim .null .text)

def Remark.ToldBy (r : Remark) (v : Value) : Prop := ∃ entries, v = .dict entries ∧ r.Told entries

structure Report.Told (r : Report) (entries : Entries) : Prop where
  keys : entries.map (·.1) = ["errors", "format_version", "ok", "scheme_count", "warnings"].map .text
  good : entries.get? "ok" = some (.bool r.errors.isEmpty)
  version : entries.get? "format_version" = some (r.version.elim .null .int)
  count : entries.get? "scheme_count" = some (.int r.count)
  errors : ∃ remarks, entries.get? "errors" = some (.array remarks) ∧ List.Forall₂ Remark.ToldBy r.errors remarks
  warnings : ∃ remarks, entries.get? "warnings" = some (.array remarks) ∧ List.Forall₂ Remark.ToldBy r.warnings remarks

theorem or_null_textual {α : Type} (f : α → Value) (o : Option α) (each : ∀ a, Textual (f a)) : Textual (orNull f o) := by
  cases o with
  | none => exact .null
  | some a => exact each a

theorem or_null_ordered {α : Type} (f : α → Value) (o : Option α) (kept : ∀ a, Json.ordered (f a) = f a) :
    Json.ordered (orNull f o) = o.elim .null f := by
  cases o with
  | none => rfl
  | some a => exact kept a

namespace Remark

def memberOf (r : Remark) : String → Value
  | "code" => .text r.code.text
  | "message" => .text r.message
  | "scheme_index" => orNull (fun n => .int (Int.ofNat n)) r.index
  | _ => orNull .text r.appName

def memberNames : List String := ["code", "message", "scheme_index", "app_name"]

theorem payload_named (r : Remark) : r.payload = .dict (keyed (memberNames.map fun name => (name, r.memberOf name))) := rfl

theorem payload_textual (r : Remark) : Textual r.payload := by
  have distinct : memberNames.Nodup := by decide
  rw [payload_named]
  refine .dict _ distinct fun e member => ?_
  obtain ⟨name, listed, rfl⟩ := List.mem_map.mp member
  simp only [memberNames, List.mem_cons, List.not_mem_nil, or_false] at listed
  rcases listed with rfl | rfl | rfl | rfl
  · exact .text _
  · exact .text _
  · exact or_null_textual _ r.index fun n => .int n
  · exact or_null_textual _ r.appName .text

theorem payload_told (r : Remark) : r.ToldBy (Json.ordered r.payload) := by
  have order : Json.sorted (fun a b => Value.keyLess (.text a) (.text b)) memberNames =
      ["app_name", "code", "message", "scheme_index"] := by
    decide
  refine ⟨_, Json.ordered_named memberNames _ r.memberOf order, ?_⟩
  exact {
    keys := rfl
    code := rfl
    message := rfl
    index := congrArg some (or_null_ordered _ r.index fun _ => rfl)
    appName := congrArg some (or_null_ordered _ r.appName fun _ => rfl) }

end Remark

namespace Report

def memberOf (r : Report) : String → Value
  | "ok" => .bool r.isGood
  | "format_version" => orNull .int r.version
  | "scheme_count" => .int r.count
  | "errors" => .array (r.errors.map Remark.payload)
  | _ => .array (r.warnings.map Remark.payload)

def memberNames : List String := ["ok", "format_version", "scheme_count", "errors", "warnings"]

theorem payload_named (r : Report) : r.payload = .dict (keyed (memberNames.map fun name => (name, r.memberOf name))) := rfl

theorem remarks_textual (remarks : List Remark) : Textual (.array (remarks.map Remark.payload)) :=
  .array _ (List.forall_mem_map.mpr fun r _ => r.payload_textual)

theorem payload_textual (r : Report) : Textual r.payload := by
  have distinct : memberNames.Nodup := by decide
  rw [payload_named]
  refine .dict _ distinct fun e member => ?_
  obtain ⟨name, listed, rfl⟩ := List.mem_map.mp member
  simp only [memberNames, List.mem_cons, List.not_mem_nil, or_false] at listed
  rcases listed with rfl | rfl | rfl | rfl | rfl
  · exact .bool _
  · exact or_null_textual _ r.version .int
  · exact .int _
  · exact remarks_textual r.errors
  · exact remarks_textual r.warnings

theorem remarks_told (remarks : List Remark) :
    ∃ told, Json.ordered (.array (remarks.map Remark.payload)) = .array told ∧ List.Forall₂ Remark.ToldBy remarks told := by
  refine ⟨_, by rw [Json.ordered, Json.ordered_items, List.map_map], ?_⟩
  rw [List.forall₂_map_right_iff, List.forall₂_same]
  exact fun r _ => r.payload_told

theorem payload_told (r : Report) : ∃ entries, Json.ordered r.payload = .dict entries ∧ r.Told entries := by
  have order : Json.sorted (fun a b => Value.keyLess (.text a) (.text b)) memberNames =
      ["errors", "format_version", "ok", "scheme_count", "warnings"] := by
    decide
  obtain ⟨errors, shownErrors, toldErrors⟩ := remarks_told r.errors
  obtain ⟨warnings, shownWarnings, toldWarnings⟩ := remarks_told r.warnings
  refine ⟨_, Json.ordered_named memberNames _ r.memberOf order, ?_⟩
  exact {
    keys := rfl
    good := rfl
    version := congrArg some (or_null_ordered _ r.version fun _ => rfl)
    count := rfl
    errors := ⟨errors, congrArg some shownErrors, toldErrors⟩
    warnings := ⟨warnings, congrArg some shownWarnings, toldWarnings⟩ }

end Report
end TestRun
