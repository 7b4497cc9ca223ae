import TestRun.Proofs.Markup.Loading

/-! A written tree can be checked for being sound, and the shortest page around one that passes loads as what the tree
stands for. -/

set_option autoImplicit false

namespace TestRun.Plist.Written

open Environment (keyed collapse)

def isReadable (text : List Char) : Bool := text.all fun c => Xml.isAllowed c && c != '\r'

mutual
def Element.passes : Element → Bool
  | .text s _ => isReadable s.toList
  | .integer i => (Nat.toDigits 10 i.natAbs).length ≤ Numeral.maxDigits
  | .switch _ _ => true
  | .data bytes spelling _ => spelling.filter (fun c => !isGap c) == Base64.encode bytes
  | .array items gap _ => items.passes && gap.all isGap
  | .dict fields gap _ => fields.passes && gap.all isGap
def Items.passes : Items → Bool
  | .nil => true
  | .cons gap item rest => gap.all isGap && (item.passes && rest.passes)
def Fields.passes : Fields → Bool
  | .nil => true
  | .cons gap key _ between value rest =>
      gap.all isGap && (isReadable key.toList && (between.all isGap && (value.passes && rest.passes)))
end

mutual
theorem element_sound (e : Element) (passes : e.passes = true) : e.Sound := by
  cases e with
  | text s brief => exact readable_of_all s.toList passes
  | integer i => exact (Numeral.short_iff i).mpr (of_decide_eq_true passes)
  | switch b brief => trivial
  | data bytes spelling brief => exact eq_of_beq passes
  | array items gap brief =>
      obtain ⟨inner, blank⟩ := Bool.and_eq_true_iff.mp passes
      exact ⟨items_sound items inner, gap_of_all gap blank⟩
  | dict fields gap brief =>
      obtain ⟨inner, blank⟩ := Bool.and_eq_true_iff.mp passes
      exact ⟨fields_sound fields inner, gap_of_all gap blank⟩
theorem items_sound (items : Items) (passes : items.passes = true) : items.Sound := by
  cases items with
  | nil => trivial
  | cons gap item rest =>
      obtain ⟨blank, others⟩ := Bool.and_eq_true_iff.mp passes
      obtain ⟨head, tail⟩ := Bool.and_eq_true_iff.mp others
      exact ⟨gap_of_all gap blank, element_sound item head, items_sound rest tail⟩
theorem fields_sound (fields : Fields) (passes : fields.passes = true) : fields.Sound := by
  cases fields with
  | nil => trivial
  | cons gap key brief between value rest =>
      obtain ⟨blank, others⟩ := Bool.and_eq_true_iff.mp passes
      obtain ⟨readable, more⟩ := Bool.and_eq_true_iff.mp others
      obtain ⟨apart, values⟩ := Bool.and_eq_true_iff.mp more
      obtain ⟨head, tail⟩ := Bool.and_eq_true_iff.mp values
      exact ⟨gap_of_all gap blank, readable_of_all _ readable, gap_of_all between apart, element_sound value head,
        fields_sound rest tail⟩
end

theorem page_of_sound (fields : Fields) (passes : fields.passes = true) : (pageOf fields).Sound := by
  have empty : Gap [] := by simp [Gap]
  exact ⟨by simp [pageOf], empty, empty, empty, ⟨fields_sound fields passes, empty⟩, empty, empty⟩

theorem load_page_of (fields : Fields) (passes : fields.passes = true) :
    Document.load (pageOf fields).bytes = .ok (keyed (collapse fields.entries)) :=
  load_page (pageOf fields) (page_of_sound fields passes)

end TestRun.Plist.Written
