import TestRun.Proofs.Report.Escapes

/-! When there is no report. -/

set_option autoImplicit false

namespace TestRun

open Plist (StraysOutside DeclaresUnknown)

inductive Ends (supported : List Int) (content : List UInt8) : Escape → Prop where
  | stray (outside : StraysOutside content) : Ends supported content .outsideContainer
  | encoding (unknown : DeclaresUnknown content) : Ends supported content .unknownEncoding
  | version (version : Int) (detected : Format.detect content = .ok version) (refused : version ∉ supported)
      (long : ¬ Numeral.Short version) : Ends supported content .integerTooLong
  | target (accepted : 1 ∈ supported) (detected : Format.detect content = .ok 1) (nameless : NamelessTarget content) :
      Ends supported content .integerTooLong

theorem decode_escape_iff (supported : List Int) (content : List UInt8) (known : ∀ v ∈ supported, v = 1 ∨ v = 2)
    (e : Escape) : Format.decode supported content = .error (.escape e) ↔ Ends supported content e := by
  rw [decode_known supported content known]
  constructor
  · intro fails
    cases detected : Format.detect content with
    | error f =>
        rw [detected] at fails
        obtain rfl : f = .escape e := Except.error.inj fails
        rcases (detect_escape_iff content e).mp detected with ⟨rfl, outside⟩ | ⟨rfl, unknown⟩
        · exact .stray outside
        · exact .encoding unknown
    | ok version =>
        obtain ⟨root, loaded⟩ := detect_loaded content version detected
        rw [detected] at fails
        dsimp only at fails
        split at fails
        · rename_i accepted
          obtain ⟨rfl, rfl, nameless⟩ := (decoder_escape_iff version content e root loaded).mp fails
          exact .target (List.contains_iff_mem.mp accepted) detected nameless
        · rename_i refused
          obtain ⟨rfl, long⟩ := (unsupported_escape_iff version supported e).mp (Except.error.inj fails)
          exact .version version detected (fun member => refused (List.contains_iff_mem.mpr member)) long
  · intro ends
    cases ends with
    | stray outside => rw [(detect_escape_iff content _).mpr (.inl ⟨rfl, outside⟩)]
    | encoding unknown => rw [(detect_escape_iff content _).mpr (.inr ⟨rfl, unknown⟩)]
    | version version detected refused long =>
        rw [detected]
        dsimp only
        rw [if_neg fun member => refused (List.contains_iff_mem.mp member),
          (unsupported_escape_iff version supported _).mpr ⟨rfl, long⟩]
    | target accepted detected nameless =>
        obtain ⟨root, loaded⟩ := detect_loaded content 1 detected
        rw [detected]
        dsimp only
        rw [if_pos (List.contains_iff_mem.mpr accepted)]
        exact (decoder_escape_iff 1 content _ root loaded).mpr ⟨rfl, rfl, nameless⟩

theorem of_content_cases (supported : List Int) (apps : Option Inventory) (content : List UInt8)
    (known : ∀ v ∈ supported, v = 1 ∨ v = 2) :
    (∃ e, Format.decode supported content = .error (.escape e) ∧ Report.ofContent supported apps content = .error e) ∨
      (∃ p, Format.decode supported content = .error (.problem p) ∧
        Report.ofContent supported apps content = .ok (failedReport content p)) ∨
      ∃ targets r, Format.decode supported content = .ok targets ∧
        Report.ofContent supported apps content = .ok r ∧ r.errors = [] := by
  cases decoded : Format.decode supported content with
  | error f =>
      have made := of_content_failed supported apps content known f decoded
      cases f with
      | escape e => exact .inl ⟨e, rfl, made⟩
      | problem p => exact .inr (.inl ⟨p, rfl, made⟩)
  | ok targets =>
      obtain ⟨version, -, detected⟩ := decode_detected supported content known targets decoded
      exact .inr (.inr ⟨targets, _, rfl, of_content_decoded supported apps content version detected targets decoded, rfl⟩)

theorem of_content_escape_iff (supported : List Int) (apps : Option Inventory) (content : List UInt8)
    (known : ∀ v ∈ supported, v = 1 ∨ v = 2) (e : Escape) :
    Report.ofContent supported apps content = .error e ↔ Ends supported content e := by
  rw [← decode_escape_iff supported content known e]
  rcases of_content_cases supported apps content known with ⟨f, decoded, made⟩ | ⟨p, decoded, made⟩ | ⟨ts, r, decoded, made, -⟩
  · rw [decoded, made]
    simp
  · rw [decoded, made]
    simp
  · rw [decoded, made]
    simp

theorem decode_malformed (supported : List Int) (content : List UInt8) (known : ∀ v ∈ supported, v = 1 ∨ v = 2)
    (f : Plist.Fault) (unread : Plist.read content = .error f) (placed : f ≠ .outsideContainer)
    (encoded : f ≠ .unknownEncoding) :
    Format.decode supported content = .error (.problem (.notPropertyList f)) := by
  have loaded : Document.load content = .error (.problem (.notPropertyList f)) := by
    rw [Document.load, unread]
    cases f <;> first | rfl | contradiction
  rw [decode_known supported content known, Format.detect, loaded]

theorem source_escape_iff (fs : Files) (s : Source) (e : Escape) :
    s.content fs = .error (.escape e) ↔ e = .nulInPath ∧ ∃ path, s = .file path ∧ path.hasNul = true := by
  cases s with
  | bytes content => simp [Source.content]
  | file path =>
      rw [Source.content]
      by_cases nul : path.hasNul = true
      · rw [if_pos nul]
        exact ⟨fun same => ⟨(Failure.escape.inj (Except.error.inj same)).symm, path, rfl, nul⟩,
          fun both => by rw [both.1]⟩
      · rw [if_neg nul]
        cases fs.read path <;> simp [nul]

theorem report_raises_only_when_it_ends (fs : Files) (supported : List Int) (apps : Option Inventory) (s : Source)
    (known : ∀ v ∈ supported, v = 1 ∨ v = 2) :
    (∀ e, Report.ofSource fs supported apps s = .error e ↔
      (e = .nulInPath ∧ ∃ path, s = .file path ∧ path.hasNul = true) ∨
        ∃ content, s.content fs = .ok content ∧ Ends supported content e) ∧
    (∀ r, Report.ofSource fs supported apps s = .ok r →
      (∃ targets, s.targets fs supported = .ok targets ∧ r.errors = []) ∨
        ∃ p, s.targets fs supported = .error (.problem p) ∧ r.errors = [⟨p.code, p.message, none, none⟩]) ∧
    ∀ content f, s.content fs = .ok content → Plist.read content = .error f → f ≠ .outsideContainer →
      f ≠ .unknownEncoding → ∃ r message, Report.ofSource fs supported apps s = .ok r ∧
        r.errors = [⟨.malformedDocument, message, none, none⟩] := by
  refine ⟨fun e => ?_, fun r made => ?_, fun content f held unread placed encoded => ?_⟩
  · have source := source_escape_iff fs s e
    unfold Report.ofSource
    cases held : s.content fs with
    | error f =>
        rw [held] at source
        cases f with
        | escape g => simpa [Report.ofFailure] using source
        | problem p => simpa [Report.ofFailure] using source
    | ok content =>
        rw [held] at source
        have document := of_content_escape_iff supported apps content known e
        simpa [← source] using document
  · unfold Report.ofSource at made
    unfold Source.targets
    cases held : s.content fs with
    | error f =>
        rw [held] at made
        cases f with
        | escape e => cases made
        | problem p =>
            obtain rfl := Except.ok.inj made
            exact .inr ⟨p, rfl, rfl⟩
    | ok content =>
        rw [held] at made
        change Report.ofContent supported apps content = .ok r at made
        change (∃ targets, Format.decode supported content = .ok targets ∧ _) ∨
          ∃ p, Format.decode supported content = .error (.problem p) ∧ _
        rcases of_content_cases supported apps content known with
          ⟨e, -, escaped⟩ | ⟨p, decoded, listed⟩ | ⟨targets, good, decoded, listed, clean⟩
        · rw [escaped] at made
          cases made
        · obtain rfl := Except.ok.inj (listed.symm.trans made)
          exact .inr ⟨p, decoded, rfl⟩
        · obtain rfl := Except.ok.inj (listed.symm.trans made)
          exact .inl ⟨targets, decoded, clean⟩
  · have decoded := decode_malformed supported content known f unread placed encoded
    have made := of_content_failed supported apps content known _ decoded
    rw [Report.ofSource, held]
    exact ⟨_, _, made, rfl⟩

theorem no_bytes_are_malformed_and_nul_ends :
    Plist.read [] = .error .unrecognized ∧
      (∃ r message, Report.ofSource (Files.empty []) [1, 2] none (.bytes []) = .ok r ∧
        r.errors = [⟨.malformedDocument, message, none, none⟩]) ∧
      Report.ofSource (Files.empty []) [1, 2] none (.file ⟨"", ["\x00"]⟩) = .error .nulInPath := by
  have unread : Plist.read [] = .error .unrecognized := by
    have markup : Plist.isMarkup (Plist.stripped []) = false := by decide
    have binary : Plist.isBinary (Plist.stripped []) = false := by decide
    rw [Plist.read, markup, binary]
    rfl
  have empty : (Source.bytes []).content (Files.empty []) = .ok [] := rfl
  have nul : Path.hasNul ⟨"", ["\x00"]⟩ = true := by decide
  have bytes := report_raises_only_when_it_ends (Files.empty []) [1, 2] none (.bytes []) (by decide)
  have path := report_raises_only_when_it_ends (Files.empty []) [1, 2] none (.file ⟨"", ["\x00"]⟩) (by decide)
  refine ⟨unread, ?_, ?_⟩
  · exact bytes.2.2 [] .unrecognized empty unread Plist.Fault.noConfusion Plist.Fault.noConfusion
  · exact (path.1 .nulInPath).mpr (.inl ⟨rfl, _, rfl, nul⟩)

theorem stray_key_has_no_report :
    Report.ofSource (Files.empty []) [1, 2] none (.bytes strayKey) = .error .outsideContainer := by
  rw [Report.ofSource, Source.content]
  dsimp only
  rw [Report.ofContent, stray_key_undetected]
  rfl

end TestRun
