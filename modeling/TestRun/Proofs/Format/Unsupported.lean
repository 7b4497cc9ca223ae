import TestRun.Proofs.Format.Detection
import TestRun.Proofs.Format.Dispatch
import TestRun.Proofs.Report.Raising

/-! Documents of a version that is not supported. -/

set_option autoImplicit false

namespace TestRun.Format

open Environment (keyed)
open Plist.Binary
open Plist.Binary.Image (assembled assembled_sound assembled_stands header)

def TellsVersion (content : List UInt8) (v : Int) : Prop :=
  ∃ root block, Document.load content = .ok root ∧ Entries.get? metadataKey root = some (.dict block) ∧
    Entries.get? "FormatVersion" block = some (.int v)

theorem told_detected (content : List UInt8) (v : Int) (tells : TellsVersion content v) : detect content = .ok v := by
  obtain ⟨root, block, loaded, present, told⟩ := tells
  rw [detect_root content root loaded, version_told root block (.int v) present told, Schema.integer]

theorem integer_element_long (text : List Char) (v : Int) (read : Plist.Builder.readInteger text = .ok (.int v))
    (long : ¬ Numeral.Short v) : ∃ rest, text = '0' :: 'x' :: rest ∨ text = '0' :: 'X' :: rest := by
  apply Numeral.document_integer_long text v ?_ long
  unfold Plist.Builder.readInteger at read
  split at read
  · rename_i i found
    obtain rfl := Value.int.inj (Except.ok.inj read)
    exact found
  · cases read

def versionObjects : List UInt8 :=
  header ++ [0xd1, 1, 2] ++ ([0x5f, 0x10, 22] ++ Plist.ascii metadataKey) ++ [0xd1, 3, 4] ++
    (0x5d :: Plist.ascii "FormatVersion")

def versionOffsets : List Nat := [8, 11, 36, 39, 53]

def versionUnder (power : Nat) (v : Int) : Image :=
  assembled (versionObjects ++ UInt8.ofNat (16 + power) :: writeSigned (2 ^ power) v) versionOffsets 1

theorem version_stands (power : Nat) (v : Int) (ref place : Nat) (written : List UInt8)
    (numbered : versionOffsets[ref]? = some place) (inside : place ≤ versionObjects.length)
    (placed : Placed versionObjects place written) : (versionUnder power v).Stands ref written := by
  refine assembled_stands _ versionOffsets 1 ref place written numbered ?_ ?_
  · rw [List.length_append]
    omega
  · exact placed_front versionObjects _ place written inside placed

theorem version_sound (power : Nat) (v : Int) (legal : power < 16) : (versionUnder power v).Sound := by
  refine assembled_sound _ versionOffsets 1 ⟨_, rfl⟩ (by decide) (by decide) (by decide) ?_
  have front : versionObjects.length = 53 := rfl
  have width : 2 ^ power ≤ 2 ^ 15 := Nat.pow_le_pow_right (by decide) (by omega)
  rw [List.length_append, List.length_cons, front, writeSigned, write_length]
  omega

theorem version_encoded (power : Nat) (v : Int) (wide : 3 ≤ power) (legal : power < 16)
    (low : -(128 * 256 ^ (2 ^ power - 1) : Nat) ≤ v) (high : v < (128 * 256 ^ (2 ^ power - 1) : Nat)) :
    (versionUnder power v).Encoded 0 (.dict (keyed [(metadataKey, .dict (keyed [("FormatVersion", .int v)]))])) := by
  have integer : (versionUnder power v).Encoded 4 (.int v) := by
    refine .signed 4 power v wide legal low high ⟨53, rfl, ?_⟩
    change Placed ((versionObjects ++ UInt8.ofNat (16 + power) :: writeSigned (2 ^ power) v) ++ _) 53 _
    rw [List.append_assoc]
    exact placed_behind versionObjects _ _ 53 rfl
  have name : (versionUnder power v).EncodedText 3 "FormatVersion" :=
    .narrow _ (.brief (by decide)) (ascii_of_all _ rfl) (version_stands power v 3 39 _ rfl (by decide) (by unfold Placed; decide))
  have metadataName : (versionUnder power v).EncodedText 1 metadataKey :=
    .narrow _ (.long 0 (by decide) (by decide)) (ascii_of_all _ rfl)
      (version_stands power v 1 11 _ rfl (by decide) (by unfold Placed; decide))
  have block : (versionUnder power v).Encoded 2 (.dict (keyed [("FormatVersion", .int v)])) := by
    refine .dict 2 _ [3] [4] _ (.brief (by simp))
      (version_stands power v 2 36 [0xd1, 3, 4] rfl (by decide) (by unfold Placed; decide))
      (by simp [Image.Fits, versionUnder, assembled]) (by simp [Image.Fits, versionUnder, assembled]) rfl rfl (by simp) ?_ ?_
    · simpa using name
    · simpa using integer
  refine .dict 0 _ [1] [2] _ (.brief (by simp))
    (version_stands power v 0 8 [0xd1, 1, 2] rfl (by decide) (by unfold Placed; decide))
    (by simp [Image.Fits, versionUnder, assembled]) (by simp [Image.Fits, versionUnder, assembled]) rfl rfl (by simp) ?_ ?_
  · simpa using metadataName
  · simpa using block

theorem every_width_is_told (power : Nat) (v : Int) (wide : 3 ≤ power) (legal : power < 16)
    (low : -(128 * 256 ^ (2 ^ power - 1) : Nat) ≤ v) (high : v < (128 * 256 ^ (2 ^ power - 1) : Nat)) :
    TellsVersion (versionUnder power v).content v :=
  ⟨_, _, Image.binary_loads (versionUnder power v) (version_sound power v legal) _
    (version_encoded power v wide legal low high), rfl, rfl⟩

theorem unsupported_version_is_told (supported : List Int) (content : List UInt8) (v : Int)
    (known : ∀ s ∈ supported, s = 1 ∨ s = 2) (tells : TellsVersion content v) (refused : v ∉ supported) :
    detect content = .ok v ∧
      (Numeral.Short v →
        decode supported content = .error (.problem (.unsupportedVersion v supported)) ∧
          ∀ apps, Report.ofContent supported apps content =
            .ok ⟨some v, 0, [⟨.unsupportedFormatVersion, Problem.unsupportedMessage v supported, none, none⟩], []⟩) ∧
      (¬ Numeral.Short v →
        decode supported content = .error (.escape .integerTooLong) ∧
          ∀ apps, Report.ofContent supported apps content = .error .integerTooLong) := by
  have detected := told_detected content v tells
  refine ⟨detected, fun short => ?_, fun long => ?_⟩
  · have fails := decode_refused supported content v known detected refused short
    exact ⟨fails, fun apps => of_content_failed supported apps content known _ fails⟩
  · have fails := (decode_escape_iff supported content known _).mpr (.version v detected refused long)
    exact ⟨fails, fun apps => of_content_failed supported apps content known _ fails⟩

theorem third_version_is_told :
    TellsVersion (versionUnder 3 3).content 3 ∧
      decode [1, 2] (versionUnder 3 3).content = .error (.problem (.unsupportedVersion 3 [1, 2])) ∧
      Report.ofContent [1, 2] none (versionUnder 3 3).content =
        .ok ⟨some 3, 0, [⟨.unsupportedFormatVersion, Problem.unsupportedMessage 3 [1, 2], none, none⟩], []⟩ := by
  have tells := every_width_is_told 3 3 (by decide) (by decide) (by decide) (by decide)
  have short : Numeral.Short 3 := (Numeral.short_iff 3).mpr (by decide)
  obtain ⟨-, reported, -⟩ := unsupported_version_is_told [1, 2] _ 3 (by decide) tells (by decide)
  exact ⟨tells, (reported short).1, (reported short).2 none⟩

def longVersion : Int := (256 ^ (2 ^ 11 - 1) : Nat)

theorem long_version_is_long : ¬ Numeral.Short longVersion := by
  have digits : Numeral.maxDigits = 43 * 100 := rfl
  rw [Numeral.Short, longVersion, Int.natAbs_natCast, digits]
  exact Nat.not_lt.mpr (digits_in_bytes 100 (2 ^ 11 - 1) (by decide))

theorem power_below_sign (n : Nat) : 256 ^ n < 128 * 256 ^ n := by
  have positive : 0 < 256 ^ n := Nat.pow_pos (by decide)
  omega

theorem long_version_is_not_told :
    TellsVersion (versionUnder 11 longVersion).content longVersion ∧ longVersion ∉ ([1, 2] : List Int) ∧
      decode [1, 2] (versionUnder 11 longVersion).content = .error (.escape .integerTooLong) ∧
      Report.ofContent [1, 2] none (versionUnder 11 longVersion).content = .error .integerTooLong := by
  have tells : TellsVersion (versionUnder 11 longVersion).content longVersion := by
    refine every_width_is_told 11 longVersion (by decide) (by decide) ?_ ?_
    · exact Int.le_trans (Int.neg_nonpos_of_nonneg (Int.natCast_nonneg _)) (Int.natCast_nonneg _)
    · rw [longVersion]
      exact Int.ofNat_lt.mpr (power_below_sign (2 ^ 11 - 1))
  have refused : longVersion ∉ ([1, 2] : List Int) := by
    intro member
    apply long_version_is_long
    rcases List.mem_cons.mp member with first | others
    · rw [first]
      exact (Numeral.short_iff 1).mpr (by decide)
    · rw [List.mem_singleton.mp others]
      exact (Numeral.short_iff 2).mpr (by decide)
  have detected := told_detected _ longVersion tells
  have fails := (decode_escape_iff [1, 2] _ (by decide) _).mpr (.version longVersion detected refused long_version_is_long)
  exact ⟨tells, refused, fails, of_content_failed [1, 2] none _ (by decide) _ fails⟩

end TestRun.Format
