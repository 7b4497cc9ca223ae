import TestRun.Proofs.Binary.Image
import TestRun.Proofs.Binary.Settling
import TestRun.Proofs.Markup.Loading
import TestRun.Report

/-! Whole binary documents: a header, the objects, the table of their offsets and a trailer of thirty-two bytes. -/

set_option autoImplicit false

namespace TestRun.Plist.Binary.Image

open Environment (keyed)
open Written (Page Tidy Writable)

def header : List UInt8 := ascii "bplist00"

def trailer (m : Image) (unused : List UInt8) : List UInt8 :=
  unused ++ (write 1 m.offsetWidth ++ (write 1 m.refWidth ++
    (write 8 m.offsets.length ++ (write 8 m.top ++ write 8 m.table))))

structure Sound (m : Image) : Prop where
  lead : ∀ b ∈ m.lead, Text.isAsciiBlankCode b.toNat = true
  header : header <+: m.bytes
  offsetWide : 0 < m.offsetWidth ∧ m.offsetWidth < 256
  refWide : 0 < m.refWidth ∧ m.refWidth < 256
  offsetsFit : ∀ o ∈ m.offsets, o < 256 ^ m.offsetWidth
  tablePlaced : Placed m.bytes m.table (m.offsets.flatMap (write m.offsetWidth))
  numbersFit : m.offsets.length < 256 ^ 8 ∧ m.top < 256 ^ 8 ∧ m.table < 256 ^ 8
  trailed : ∃ front unused, unused.length = 6 ∧ m.bytes = front ++ m.trailer unused

theorem field_value (front back : List UInt8) (start width n : Nat) (behind : front.length = start)
    (fits : n < 256 ^ width) : bigEndian (((front ++ (write width n ++ back)).drop start).take width) = n := by
  rw [List.drop_left' behind, List.take_left' (write_length width n), big_endian_write width n fits]

theorem layout_read (m : Image) (sound : m.Sound) : layout? m.bytes.toArray = some (m.layout, m.top) := by
  obtain ⟨front, unused, six, parts⟩ := sound.trailed
  obtain ⟨countFits, topFits, tableFits⟩ := sound.numbersFit
  have length : (m.trailer unused).length = 32 := by
    simp [trailer, write_length, six]
  have size : m.bytes.length = front.length + 32 := by
    rw [parts, List.length_append, length]
  have last : (m.bytes.toArray.extract (m.bytes.length - 32) m.bytes.length).toList = m.trailer unused := by
    rw [extract_list, size, Nat.add_sub_cancel, Nat.add_sub_cancel_left, parts, List.drop_left, ← length,
      List.take_length]
  have offsetField := field_value unused (write 1 m.refWidth ++ (write 8 m.offsets.length ++ (write 8 m.top ++
    write 8 m.table))) 6 1 m.offsetWidth six (by simpa using sound.offsetWide.2)
  have refField := field_value (unused ++ write 1 m.offsetWidth) (write 8 m.offsets.length ++ (write 8 m.top ++
    write 8 m.table)) 7 1 m.refWidth (by simp [write_length, six]) (by simpa using sound.refWide.2)
  have countField := field_value (unused ++ (write 1 m.offsetWidth ++ write 1 m.refWidth)) (write 8 m.top ++
    write 8 m.table) 8 8 m.offsets.length (by simp [write_length, six]) countFits
  have topField := field_value (unused ++ (write 1 m.offsetWidth ++ (write 1 m.refWidth ++ write 8 m.offsets.length)))
    (write 8 m.table) 16 8 m.top (by simp [write_length, six]) topFits
  have tableField := field_value (unused ++ (write 1 m.offsetWidth ++ (write 1 m.refWidth ++ (write 8 m.offsets.length ++
    write 8 m.top)))) [] 24 8 m.table (by simp [write_length, six]) tableFits
  simp only [List.append_assoc, List.append_nil] at offsetField refField countField topField tableField
  have offsets := table_placed m.bytes m.table m.offsetWidth m.offsets (by have := sound.offsetWide.1; omega)
    sound.offsetsFit sound.tablePlaced
  unfold layout?
  rw [List.size_toArray, if_neg (by omega)]
  dsimp only
  rw [last]
  unfold trailer
  rw [offsetField, refField, countField, topField, tableField, offsets]
  rfl

theorem held_read (m : Image) (sound : m.Sound) (v : Value) (holds : Holds m.layout m.top v) :
    Plist.read m.content = .ok (some v) := by
  obtain ⟨rest, headed⟩ := sound.header
  have bare : stripped m.content = m.bytes := by
    rw [content, stripped, List.dropWhile_append_of_pos sound.lead, ← headed]
    rfl
  have noMarkup : isMarkup m.bytes = false := by
    rw [← headed]
    rfl
  have binary : isBinary m.bytes = true := by
    rw [← headed]
    rfl
  have root := root_value m.bytes m.layout m.top v (layout_read m sound) holds
  rw [Plist.read, bare, noMarkup, if_neg (by decide), if_pos binary, root]

theorem binary_read (m : Image) (sound : m.Sound) (v : Value) (encoded : m.Encoded m.top v) :
    Plist.read m.content = .ok (some v) := by
  have wide : m.refWidth ≠ 0 := by
    have := sound.refWide.1
    omega
  exact held_read m sound v (encoded_holds m wide m.top v encoded)

theorem binary_loads (m : Image) (sound : m.Sound) (entries : Environment)
    (encoded : m.Encoded m.top (.dict (keyed entries))) : Document.load m.content = .ok (keyed entries) := by
  rw [Document.load, binary_read m sound _ encoded]
  rfl

theorem encoded_tidy (m : Image) (ref : Nat) (v : Value) (encoded : m.Encoded ref v) : Tidy v := by
  induction encoded with
  | text ref s _ => exact .text s
  | bool ref b _ => exact .bool b
  | unsigned ref power n _ _ _ => exact .int n
  | signed ref power i _ _ _ _ _ => exact .int i
  | data ref head bytes _ _ => exact .data bytes
  | array ref head numbers items _ _ _ same _ ih =>
      refine .array items fun v member => ?_
      obtain ⟨number, pair⟩ := mem_zip_right numbers items same v member
      exact ih (number, v) pair
  | dict ref head keys numbers entries _ _ _ _ _ same distinct _ _ ih =>
      refine .dict entries distinct fun e member => ?_
      obtain ⟨number, pair⟩ := mem_zip_right numbers entries same e member
      exact ih (number, e) pair

theorem loads_alike (a b : List UInt8) (same : Document.load a = Document.load b) :
    Format.detect a = Format.detect b ∧ Format.SingleTarget.parse a = Format.SingleTarget.parse b ∧
      Format.PlanDocument.parse a = Format.PlanDocument.parse b ∧
      (∀ supported, Format.decode supported a = Format.decode supported b) ∧
      ∀ supported apps, Report.ofContent supported apps a = Report.ofContent supported apps b := by
  have detected : Format.detect a = Format.detect b := by rw [Format.detect, Format.detect, same]
  have single : Format.SingleTarget.parse a = Format.SingleTarget.parse b := by
    rw [Format.SingleTarget.parse, Format.SingleTarget.parse, same]
  have plan : Format.PlanDocument.parse a = Format.PlanDocument.parse b := by
    rw [Format.PlanDocument.parse, Format.PlanDocument.parse, same]
  have decoded (version : Int) : Format.decoder version a = Format.decoder version b := by
    unfold Format.decoder
    split
    · exact single
    · exact plan
  have decodes (supported : List Int) : Format.decode supported a = Format.decode supported b := by
    simp only [Format.decode, detected, decoded]
  refine ⟨detected, single, plan, decodes, fun supported apps => ?_⟩
  simp only [Report.ofContent, detected, decodes]

theorem binary_agrees_with_markup (m : Image) (sound : m.Sound) (entries : Environment)
    (encoded : m.Encoded m.top (.dict (keyed entries))) :
    Document.load m.content = .ok (keyed entries) ∧
      (Writable (.dict (keyed entries)) → ∃ p : Page, p.Sound ∧ p.fields.written = entries) ∧
      ∀ p : Page, p.Sound → p.fields.written = entries →
        Document.load p.bytes = Document.load m.content ∧
        Format.detect m.content = Format.detect p.bytes ∧
        Format.SingleTarget.parse m.content = Format.SingleTarget.parse p.bytes ∧
        Format.PlanDocument.parse m.content = Format.PlanDocument.parse p.bytes ∧
        (∀ supported, Format.decode supported m.content = Format.decode supported p.bytes) ∧
        ∀ supported apps, Report.ofContent supported apps m.content = Report.ofContent supported apps p.bytes := by
  have loaded := binary_loads m sound entries encoded
  refine ⟨loaded, Written.writable_page entries, fun p written same => ?_⟩
  subst same
  have markup := Written.load_tidy_page p written (encoded_tidy m m.top _ encoded)
  exact ⟨markup.trans loaded.symm, loads_alike m.content p.bytes (loaded.trans markup.symm)⟩

def sharedImage : Image where
  lead := [10]
  bytes := header ++ [0xd1, 1, 2, 0x51, 97, 0xa2, 3, 3, 0x10, 7, 8, 11, 13, 16] ++ List.replicate 6 0 ++
    [1, 1, 0, 0, 0, 0, 0, 0, 0, 4, 0, 0, 0, 0, 0, 0, 0, 0, 0, 0, 0, 0, 0, 0, 0, 18]
  offsets := [8, 11, 13, 16]
  offsetWidth := 1
  refWidth := 1
  top := 0
  table := 18

def sharedEntries : Environment := [("a", .array [.int 7, .int 7])]

def sharedPage : Page :=
  Written.pageOf (.cons [] "a" false [] (.array (.cons [] (.integer 7) (.cons [] (.integer 7) .nil)) [] false) .nil)

theorem shared_image_sound : sharedImage.Sound where
  lead := List.all_eq_true.mp rfl
  header := ⟨_, rfl⟩
  offsetWide := by decide
  refWide := by decide
  offsetsFit := by decide
  tablePlaced := by unfold Placed; decide
  numbersFit := by decide
  trailed := ⟨sharedImage.bytes.take 22, List.replicate 6 0, rfl, by decide⟩

theorem shared_image_encoded : sharedImage.Encoded 0 (.dict (keyed sharedEntries)) := by
  have seven : sharedImage.Encoded 3 (.int (7 : Nat)) :=
    .unsigned 3 0 7 (by decide) (by decide) ⟨16, rfl, by unfold Placed; decide⟩
  have name : sharedImage.EncodedText 1 "a" :=
    .narrow _ (.brief (by decide)) (by simp) ⟨11, rfl, by unfold Placed; decide⟩
  have items : sharedImage.Encoded 2 (.array [.int 7, .int 7]) := by
    refine .array 2 _ [3, 3] _ (.brief (by decide)) ⟨13, rfl, by unfold Placed; decide⟩ (by unfold Fits; decide) rfl ?_
    intro e member
    have only : e = (3, .int 7) := by simpa using member
    rw [only]
    exact seven
  refine .dict 0 _ [1] [2] sharedEntries (.brief (by decide)) ⟨8, rfl, by unfold Placed; decide⟩ (by unfold Fits; decide)
    (by unfold Fits; decide) rfl rfl (by simp [sharedEntries]) ?_ ?_
  · intro e member
    have only : e = (1, "a", .array [.int 7, .int 7]) := by simpa [sharedEntries] using member
    rw [only]
    exact name
  · intro e member
    have only : e = (2, "a", .array [.int 7, .int 7]) := by simpa [sharedEntries] using member
    rw [only]
    exact items

theorem shared_image_agrees :
    sharedImage.Sound ∧ sharedImage.Encoded 0 (.dict (keyed sharedEntries)) ∧ sharedPage.Sound ∧
      Document.load sharedImage.content = .ok [(.text "a", .array [.int 7, .int 7])] ∧
      Format.detect sharedImage.content = Format.detect sharedPage.bytes := by
  have gap : Written.Gap [] := by simp [Written.Gap]
  have seven : Numeral.Short 7 := (Numeral.short_iff 7).mpr (by decide)
  have readable : Written.Readable "a".toList := Written.readable_of_all _ (by decide)
  have page : sharedPage.Sound := ⟨by simp [sharedPage, Written.pageOf], gap, gap, gap,
    ⟨⟨gap, readable, gap, ⟨⟨gap, seven, gap, seven, trivial⟩, gap⟩, trivial⟩, gap⟩, gap, gap⟩
  obtain ⟨loaded, -, alike⟩ :=
    binary_agrees_with_markup sharedImage shared_image_sound sharedEntries shared_image_encoded
  exact ⟨shared_image_sound, shared_image_encoded, page, loaded, (alike sharedPage page rfl).2.1⟩

end TestRun.Plist.Binary.Image
