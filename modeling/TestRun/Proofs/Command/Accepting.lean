import TestRun.Command.Arguments

/-! What an accepted command line is. -/

set_option autoImplicit false

namespace TestRun.Command

-- Tokens that are read to their end with nothing left over, from the settings and the path that were found before them.
-- The path may have the separator at either side.
inductive Reads : Settings → Option String → List Token → Settings → String → Prop where
  | done (s : Settings) (path : String) : Reads s (some path) [] s path
  | path (s made : Settings) (text path : String) (rest : List Token) (reads : Reads s (some text) rest made path) :
      Reads s none (.plain text :: rest) made path
  | pathBefore (s made : Settings) (text path : String) (rest : List Token) (reads : Reads s (some text) rest made path) :
      Reads s none (.plain text :: .separator :: rest) made path
  | pathBehind (s made : Settings) (text path : String) (rest : List Token) (reads : Reads s (some text) rest made path) :
      Reads s none (.separator :: .plain text :: rest) made path
  | value (s given made : Settings) (before : Option String) (sw : Switch) (name text path : String) (rest : List Token)
      (takes : sw.takesValue = true) (gives : s.give sw text = .ok given) (reads : Reads given before rest made path) :
      Reads s before (.switch sw name .nothing :: .plain text :: rest) made path
  | alone (s given made : Settings) (before : Option String) (sw : Switch) (name : String) (attached : Attached)
      (path : String) (rest : List Token) (single : ¬ (sw.takesValue = true ∧ attached = .nothing))
      (gives : s.attach sw attached = .ok given) (reads : Reads given before rest made path) :
      Reads s before (.switch sw name attached :: rest) made path

theorem no_second_separator (s made : Settings) (found path : String) (rest : List Token) :
    ¬ Reads s (some found) (.separator :: rest) made path := by
  rintro ⟨⟩

theorem read_extras (p q : Progress) (ts : List Token) (done : p.read ts = .ok q) (clean : q.extras = []) :
    p.extras = [] := by
  fun_induction Progress.read p ts <;> simp_all [Progress.leave]

theorem reads_of_read (p q : Progress) (ts : List Token) (path : String) (done : p.read ts = .ok q)
    (clean : q.extras = []) (found : q.path = some path) : Reads p.settings p.path ts q.settings path := by
  -- What is left over stays left over, so no step of this reading leaves anything.
  have kept (p : Progress) (args : List String) (ts : List Token) (some : args ≠ []) (done : (p.leave args).read ts = .ok q) :
      False := by
    have none := read_extras _ q ts done clean
    simp [Progress.leave, some] at none
  fun_induction Progress.read p ts with
  | case1 p =>
      obtain rfl := Except.ok.inj done
      rw [found]
      exact .done _ path
  | case2 p text rest free ih =>
      rw [free]
      exact .pathBefore _ _ text path rest (ih done)
  | case4 p text rest _ free ih =>
      rw [free]
      exact .path _ _ text path rest (ih done)
  | case6 p text rest free ih =>
      rw [free]
      exact .pathBehind _ _ text path rest (ih done)
  | case3 | case5 | case7 | case8 | case9 => exact (kept _ _ _ (by simp) done).elim
  | case10 p s name attached takes text rest settings gives ih =>
      rw [takes.2]
      exact .value _ settings _ _ s name text path rest takes.1 gives (ih done)
  | case13 p s name attached rest single settings gives ih =>
      exact .alone _ settings _ _ s name attached path rest single gives (ih done)
  | case11 | case12 | case14 => cases done

theorem read_of_reads (s made : Settings) (before : Option String) (ts : List Token) (path : String)
    (reads : Reads s before ts made path) : Progress.read ⟨s, before, []⟩ ts = .ok ⟨made, some path, []⟩ := by
  induction reads with
  | done s path => rfl
  | path s made text path rest reads ih =>
      cases rest with
      | nil => exact ih
      | cons t rest =>
          cases t with
          | separator => exact (no_second_separator s made text path rest reads).elim
          | _ => exact ih
  | pathBefore s made text path rest reads ih => exact ih
  | pathBehind s made text path rest reads ih => exact ih
  | value s given made before sw name text path rest takes gives reads ih =>
      rw [Progress.read, if_pos ⟨takes, rfl⟩]
      dsimp only
      rw [gives]
      exact ih
  | alone s given made before sw name attached path rest single gives reads ih =>
      rw [Progress.read.eq_def]
      dsimp only
      rw [if_neg single, gives]
      exact ih

theorem follow_letters_turns (sw : Switch) (text : List Char) :
    (∀ s : Settings, s.followLetters sw text = s.turnOn sw) ∨
      ∃ stop, ∀ s : Settings, s.followLetters sw text = .error stop := by
  induction text using Settings.followLetters.induct with
  | case1 => exact .inl fun _ => rfl
  | case2 rest => exact .inr ⟨_, fun s => by rw [Settings.followLetters.eq_def]; rfl⟩
  | case3 value _ => exact .inr ⟨_, fun s => rfl⟩
  | case4 rest apart _ ih =>
      have through (s : Settings) : s.followLetters sw ('h' :: rest) = s.followLetters sw rest := by
        rw [Settings.followLetters, if_neg (by decide), if_pos rfl]
        exact apart
      rcases ih with turns | ⟨stop, ends⟩
      · exact .inl fun s => (through s).trans (turns s)
      · exact .inr ⟨stop, fun s => (through s).trans (ends s)⟩
  | case5 c rest noMark other =>
      refine .inl fun s => ?_
      rw [Settings.followLetters.eq_def]
      dsimp only
      rw [if_neg noMark, if_neg other]

theorem attach_uniform (sw : Switch) (attached : Attached) (t given : Settings) (gives : t.attach sw attached = .ok given) :
    (∀ s : Settings, s.attach sw attached = s.turnOn sw) ∨
      sw.takesValue = true ∧ ∃ text, ∀ s : Settings, s.attach sw attached = s.give sw text := by
  cases attached with
  | nothing => exact .inl fun _ => rfl
  | value text =>
      cases takes : sw.takesValue with
      | true => exact .inr ⟨rfl, text, fun s => by rw [Settings.attach, if_pos takes]⟩
      | false =>
          rw [Settings.attach, takes] at gives
          cases gives
  | letters text =>
      rcases follow_letters_turns sw text.toList with turns | ⟨stop, ends⟩
      · exact .inl turns
      · rw [Settings.attach, ends] at gives
        cases gives

theorem reads_keep (P : Settings → Prop)
    (gives : ∀ s given sw text, P s → s.give sw text = .ok given → P given)
    (turns : ∀ s given sw, P s → s.turnOn sw = .ok given → P given)
    (s made : Settings) (before : Option String) (ts : List Token) (path : String) (reads : Reads s before ts made path)
    (start : P s) : P made := by
  induction reads with
  | done s path => exact start
  | path s made text path rest reads ih => exact ih start
  | pathBefore s made text path rest reads ih => exact ih start
  | pathBehind s made text path rest reads ih => exact ih start
  | value s given made before sw name text path rest takes given' reads ih => exact ih (gives s given sw text start given')
  | alone s given made before sw name attached path rest single given' reads ih =>
      rcases attach_uniform sw attached s given given' with turn | ⟨-, text, value⟩
      · exact ih (turns s given sw start (turn s ▸ given'))
      · exact ih (gives s given sw text start (value s ▸ given'))

def KnownVersions (s : Settings) : Prop := ∀ v ∈ s.versions, v = 1 ∨ v = 2

theorem give_known (s given : Settings) (sw : Switch) (text : String) (known : KnownVersions s)
    (gives : s.give sw text = .ok given) : KnownVersions given := by
  cases sw with
  | formatVersion =>
      rw [Settings.give, versionOf] at gives
      split at gives
      · cases gives
      rename_i version _
      split at gives
      · rename_i choice
        rw [← Except.ok.inj gives]
        intro v member
        rcases List.mem_append.mp member with old | new
        · exact known v old
        · rw [List.mem_singleton.mp new]
          simpa [versionChoices] using choice
      · cases gives
  | _ =>
      rw [← Except.ok.inj gives]
      exact known

theorem turn_on_known (s given : Settings) (sw : Switch) (known : KnownVersions s) (turns : s.turnOn sw = .ok given) :
    KnownVersions given := by
  cases sw with
  | help => cases turns
  | version => cases turns
  | _ =>
      rw [← Except.ok.inj turns]
      exact known

inductive Taken (switches : List Switch) (arg : String) : Token → Prop where
  | plain : Taken switches arg (.plain arg)
  | unknown : Taken switches arg (.unknown arg)
  | switch (s : Switch) (name : String) (attached : Attached) (listed : s ∈ switches) :
      Taken switches arg (.switch s name attached)

theorem named_listed (switches : List Switch) (entry : String × Switch) (member : entry ∈ named switches) :
    entry.2 ∈ switches := by
  obtain ⟨s, inside, entries⟩ := List.mem_flatMap.mp member
  obtain ⟨_, -, rfl⟩ := List.mem_map.mp entries
  exact inside

theorem full_name_listed (switches : List Switch) (name : String) (s : Switch)
    (found : fullName? switches name = some s) : s ∈ switches := by
  obtain ⟨entry, hit, rfl⟩ := Option.map_eq_some_iff.mp found
  exact named_listed switches entry (List.mem_of_find?_eq_some hit)

theorem candidate_taken (switches : List Switch) (arg : String) (t : Token) (member : t ∈ candidates switches arg) :
    Taken switches arg t := by
  rw [candidates] at member
  split at member <;>
  · obtain ⟨entry, inside, rfl⟩ := List.mem_map.mp member
    exact .switch _ _ _ (named_listed switches entry (List.mem_filter.mp inside).1)

theorem classify_taken (switches : List Switch) (arg : String) (t : Token) (classified : classify switches arg = .ok t) :
    Taken switches arg t := by
  rw [classify] at classified
  by_cases bare : (!arg.startsWith "-" || decide (arg = "-")) = true
  · rw [if_pos bare] at classified
    rw [← Except.ok.inj classified]
    exact .plain
  rw [if_neg bare] at classified
  cases whole : fullName? switches arg with
  | some s =>
      rw [whole] at classified
      rw [← Except.ok.inj classified]
      exact .switch s _ _ (full_name_listed switches arg s whole)
  | none =>
      rw [whole] at classified
      dsimp only at classified
      cases front : fullName? switches (splitAttached arg).1 with
      | some s =>
          rw [front] at classified
          rw [← Except.ok.inj classified]
          exact .switch s _ _ (full_name_listed switches _ s front)
      | none =>
          rw [front] at classified
          dsimp only at classified
          rw [guess] at classified
          split at classified
          · rename_i only
            rw [Except.ok.inj classified] at only
            exact candidate_taken switches arg t (by rw [only]; exact List.mem_singleton_self t)
          · split at classified <;> rw [← Except.ok.inj classified]
            · exact .plain
            · exact .unknown
          · cases classified

theorem tokens_cons (switches : List Switch) (arg : String) (rest : List String) (ts : List Token) (apart : arg ≠ "--")
    (read : tokens switches (arg :: rest) = .ok ts) :
    ∃ t others, classify switches arg = .ok t ∧ tokens switches rest = .ok others ∧ ts = t :: others := by
  rw [tokens, if_neg apart] at read
  cases first : classify switches arg with
  | error message =>
      rw [first] at read
      cases read
  | ok t =>
      rw [first] at read
      cases more : tokens switches rest with
      | error message =>
          rw [more] at read
          cases read
      | ok others =>
          rw [more] at read
          exact ⟨t, others, rfl, rfl, (Except.ok.inj read).symm⟩

theorem tokens_length (switches : List Switch) (args : List String) (ts : List Token)
    (read : tokens switches args = .ok ts) : ts.length = args.length := by
  induction args generalizing ts with
  | nil =>
      rw [← Except.ok.inj read]
      rfl
  | cons arg rest ih =>
      by_cases apart : arg = "--"
      · rw [tokens, if_pos apart] at read
        rw [← Except.ok.inj read]
        simp
      · obtain ⟨t, others, -, more, rfl⟩ := tokens_cons switches arg rest ts apart read
        rw [List.length_cons, ih others more, List.length_cons]

theorem tokens_beside (switches : List Switch) (args : List String) (ts : List Token)
    (read : tokens switches args = .ok ts) : (args.zip ts).map (·.1) = args :=
  List.map_fst_zip (Nat.le_of_eq (tokens_length switches args ts read).symm)

theorem leading_switch_stops (s : Switch) (attached : Attached) (leading : s ∈ leadingSwitches) :
    ∃ stop, Settings.initial.attach s attached = .error stop := by
  have turns : ∃ stop, Settings.initial.turnOn s = .error stop := by
    simp only [leadingSwitches, List.mem_cons, List.not_mem_nil, or_false] at leading
    rcases leading with rfl | rfl
    · exact ⟨_, rfl⟩
    · exact ⟨_, rfl⟩
  have single : s.takesValue = false := by
    simp only [leadingSwitches, List.mem_cons, List.not_mem_nil, or_false] at leading
    rcases leading with rfl | rfl <;> rfl
  have letters (text : List Char) : ∃ stop, Settings.initial.followLetters s text = .error stop := by
    fun_induction Settings.followLetters Settings.initial s text with
    | case1 => exact turns
    | case2 => exact ⟨_, rfl⟩
    | case3 => exact ⟨_, rfl⟩
    | case4 rest _ _ ih => exact ih
    | case5 => exact turns
  cases attached with
  | nothing => exact turns
  | value text =>
      rw [Settings.attach, single]
      exact ⟨_, rfl⟩
  | letters text => exact letters text.toList

theorem extras_refused (extras : List String) (some : extras ≠ []) (parsed : Parsed) (sub : Subcommand)
    (settings : Settings) (path : Path) : orExtras extras parsed ≠ .command sub settings path := by
  rw [orExtras, if_neg (by simpa using some)]
  exact Parsed.noConfusion

theorem parse_sub_extras (sub wanted : Subcommand) (extras args : List String) (settings : Settings) (path : Path)
    (accepted : parseSub sub extras args = .command wanted settings path) :
    sub = wanted ∧ extras = [] ∧ ∃ ts text, tokens sub.switches args = .ok ts ∧
      Reads .initial none ts settings text ∧ path = Path.ofString text := by
  rw [parseSub] at accepted
  cases read : tokens sub.switches args with
  | error message =>
      rw [read] at accepted
      cases accepted
  | ok ts =>
      rw [read] at accepted
      dsimp only at accepted
      cases done : Progress.read ⟨.initial, none, []⟩ ts with
      | error stop =>
          rw [done] at accepted
          cases stop <;> cases accepted
      | ok q =>
          rw [done] at accepted
          obtain ⟨made, found, left⟩ := q
          cases found with
          | none => cases accepted
          | some text =>
              dsimp only at accepted
              by_cases clean : extras ++ left = []
              · rw [orExtras, if_pos (by rw [clean]; rfl)] at accepted
                obtain ⟨rfl, rfl, rfl⟩ := Parsed.command.inj accepted
                obtain ⟨none, unleft⟩ := List.append_eq_nil_iff.mp clean
                exact ⟨rfl, none, ts, text, rfl, reads_of_read _ _ ts text done unleft rfl, rfl⟩
              · exact (extras_refused _ clean _ _ _ _ accepted).elim

theorem parse_named_accepted (name : String) (extras args : List String) (sub : Subcommand) (settings : Settings)
    (path : Path) (accepted : parseNamed name extras args = .command sub settings path) :
    sub.name = name ∧ parseSub sub extras args = .command sub settings path := by
  rw [parseNamed] at accepted
  cases found : subcommands.find? fun sub => sub.name = name with
  | none =>
      rw [found] at accepted
      cases accepted
  | some other =>
      rw [found] at accepted
      obtain ⟨rfl, -⟩ := parse_sub_extras other sub extras args settings path accepted
      exact ⟨by simpa using List.find?_some found, accepted⟩

theorem leading_extras_refused (extras : List String) (pairs : List (String × Token)) (some : extras ≠ [])
    (sub : Subcommand) (settings : Settings) (path : Path) : parseLeading extras pairs ≠ .command sub settings path := by
  fun_induction parseLeading extras pairs with
  | case1 extras => exact extras_refused extras some _ _ _ _
  | case2 extras arg name rest =>
      intro accepted
      have inner := (parse_named_accepted name extras _ sub settings path accepted).2
      exact some (parse_sub_extras sub sub extras _ settings path inner).2.1
  | case3 extras arg rest empty => exact extras_refused _ (by simp) _ _ _ _
  | case4 extras arg rest more =>
      intro accepted
      have inner := (parse_named_accepted "--" extras _ sub settings path accepted).2
      exact some (parse_sub_extras sub sub extras _ settings path inner).2.1
  | case5 extras arg text rest ih => exact ih (by simp)
  | case6 extras arg s name attached rest stop ends =>
      cases stop <;> exact Parsed.noConfusion
  | case7 extras arg s name attached rest _ _ ih => exact ih some

theorem accepted_parts (args : List String) (sub : Subcommand) (settings : Settings) (path : Path)
    (accepted : parse args = .command sub settings path) :
    ∃ rest leading ts text, args = sub.name :: rest ∧ tokens leadingSwitches rest = .ok leading ∧
      tokens sub.switches rest = .ok ts ∧ Reads .initial none ts settings text ∧ path = Path.ofString text := by
  rw [parse] at accepted
  cases read : tokens leadingSwitches args with
  | error message =>
      rw [read] at accepted
      cases accepted
  | ok all =>
      rw [read] at accepted
      dsimp only at accepted
      cases args with
      | nil =>
          rw [← Except.ok.inj read] at accepted
          cases accepted
      | cons arg rest =>
          by_cases apart : arg = "--"
          · rw [tokens, if_pos apart] at read
            rw [← Except.ok.inj read, List.zip_cons_cons, parseLeading] at accepted
            split at accepted
            · exact (extras_refused _ (by simp) _ _ _ _ accepted).elim
            · obtain ⟨named, -⟩ := parse_named_accepted _ _ _ _ _ _ accepted
              cases sub <;> exact absurd named (by decide)
          · obtain ⟨t, others, classified, behind, rfl⟩ := tokens_cons leadingSwitches arg rest all apart read
            rw [List.zip_cons_cons] at accepted
            cases classify_taken leadingSwitches arg t classified with
            | unknown =>
                rw [parseLeading] at accepted
                exact (leading_extras_refused _ _ (by simp) _ _ _ accepted).elim
            | switch s name attached listed =>
                obtain ⟨stop, ends⟩ := leading_switch_stops s attached listed
                rw [parseLeading, ends] at accepted
                cases stop <;> cases accepted
            | plain =>
                rw [parseLeading, tokens_beside leadingSwitches rest others behind] at accepted
                obtain ⟨rfl, inner⟩ := parse_named_accepted arg [] rest sub settings path accepted
                obtain ⟨-, -, ts, text, tokens, reads, whole⟩ := parse_sub_extras sub sub [] rest settings path inner
                exact ⟨rest, others, ts, text, rfl, behind, tokens, reads, whole⟩

theorem accepted_known (args : List String) (sub : Subcommand) (settings : Settings) (path : Path)
    (accepted : parse args = .command sub settings path) : KnownVersions settings := by
  obtain ⟨-, -, ts, text, -, -, -, reads, -⟩ := accepted_parts args sub settings path accepted
  exact reads_keep KnownVersions give_known turn_on_known .initial settings none ts text reads (by simp [KnownVersions, Settings.initial])

theorem parse_of_parts (sub : Subcommand) (rest : List String) (leading ts : List Token) (settings : Settings)
    (text : String) (ahead : tokens leadingSwitches rest = .ok leading) (read : tokens sub.switches rest = .ok ts)
    (reads : Reads .initial none ts settings text) :
    parse (sub.name :: rest) = .command sub settings (Path.ofString text) := by
  have dashless : (!sub.name.startsWith "-" || sub.name = "-") = true := by
    cases sub <;> decide +kernel
  have plain : classify leadingSwitches sub.name = .ok (.plain sub.name) := by
    rw [classify, if_pos dashless]
  have apart : sub.name ≠ "--" := by
    cases sub <;> decide
  have named : subcommands.find? (fun other => other.name = sub.name) = some sub := by
    cases sub <;> decide
  have whole : tokens leadingSwitches (sub.name :: rest) = .ok (.plain sub.name :: leading) := by
    rw [tokens, if_neg apart, plain, ahead]
    rfl
  rw [parse, whole]
  dsimp only
  rw [List.zip_cons_cons, parseLeading, tokens_beside leadingSwitches rest leading ahead, parseNamed, named]
  dsimp only
  rw [parseSub, read]
  dsimp only
  rw [read_of_reads _ _ _ _ _ reads]
  rfl

end TestRun.Command
