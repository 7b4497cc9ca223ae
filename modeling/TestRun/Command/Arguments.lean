import TestRun.Command.Switch
import TestRun.Text.Quoted

/-! Reading a command line: what is to be done, or what is wrong with it. -/

set_option autoImplicit false

namespace TestRun.Command

structure Settings where
  quiet : Bool
  verbose : Bool
  strict : Bool
  apps : Option Path
  versions : List Int
  output : Option Path
  udid : Option String
  deriving DecidableEq, Repr

def Settings.initial : Settings := ⟨false, false, false, none, [], none, none⟩

inductive Parsed where
  | help
  | nothing
  | version
  | fault (sub : Option Subcommand) (message : String)
  | command (sub : Subcommand) (settings : Settings) (path : Path)
  deriving DecidableEq, Repr

inductive Stop where
  | help
  | version
  | fault (message : String)
  deriving DecidableEq, Repr

def versionChoices : List Int := [1, 2]

def versionOf (text : String) : Except Stop Int :=
  match Numeral.integer? text.toList with
  | none => .error (.fault (Switch.formatVersion.fault ("invalid int value: " ++ Text.quoted text)))
  | some version =>
      if versionChoices.contains version then .ok version
      else
        .error (.fault (Switch.formatVersion.fault ("invalid choice: " ++ toString version ++
          " (choose from " ++ ", ".intercalate (versionChoices.map toString) ++ ")")))

def Settings.give (settings : Settings) (s : Switch) (text : String) : Except Stop Settings :=
  match s with
  | .apps => .ok { settings with apps := some (Path.ofString text) }
  | .formatVersion => do
      let version ← versionOf text
      .ok { settings with versions := settings.versions ++ [version] }
  | .outputDirectory => .ok { settings with output := some (Path.ofString text) }
  | .udid => .ok { settings with udid := some text }
  | _ => .ok settings

def Settings.turnOn (settings : Settings) (s : Switch) : Except Stop Settings :=
  match s with
  | .help => .error .help
  | .version => .error .version
  | .quiet => .ok { settings with quiet := true }
  | .verbose => .ok { settings with verbose := true }
  | .strict => .ok { settings with strict := true }
  | _ => .ok settings

-- Follows the letters behind a short name, of which there is one: each that is the same name again
-- is passed over, any other one that is no mark is not wanted, and a mark is a fault.
def Settings.followLetters (settings : Settings) (s : Switch) : List Char → Except Stop Settings
  | [] => settings.turnOn s
  | c :: rest =>
      if c = '-' then .error (excess s (String.ofList (c :: rest)))
      else if c = 'h' then
        match rest with
        | '=' :: value => .error (excess s (String.ofList value))
        | _ => followLetters settings s rest
      else settings.turnOn s
where
  excess (s : Switch) (text : String) : Stop :=
    .fault (s.fault ("ignored explicit argument " ++ Text.quoted text))

def Settings.attach (settings : Settings) (s : Switch) : Attached → Except Stop Settings
  | .nothing => settings.turnOn s
  | .value text =>
      if s.takesValue then settings.give s text else .error (followLetters.excess s text)
  | .letters text => settings.followLetters s text.toList

structure Progress where
  settings : Settings
  path : Option String
  extras : List String

def Progress.leave (p : Progress) (args : List String) : Progress := { p with extras := p.extras ++ args }

def Progress.read (p : Progress) : List Token → Except Stop Progress
  | [] => .ok p
  | .plain text :: .separator :: rest =>
      match p.path with
      | none => read { p with path := some text } rest
      | some _ => read (p.leave [text, "--"]) rest
  | .plain text :: rest =>
      match p.path with
      | none => read { p with path := some text } rest
      | some _ => read (p.leave [text]) rest
  | .separator :: .plain text :: rest =>
      match p.path with
      | none => read { p with path := some text } rest
      | some _ => read (p.leave ["--", text]) rest
  | .separator :: rest => read (p.leave ["--"]) rest
  | .unknown text :: rest => read (p.leave [text]) rest
  | .switch s _ attached :: rest =>
      if s.takesValue ∧ attached = .nothing then
        match rest with
        | .plain text :: rest =>
            match p.settings.give s text with
            | .ok settings => read { p with settings } rest
            | .error stop => .error stop
        | _ => .error (.fault (s.fault "expected one argument"))
      else
        match p.settings.attach s attached with
        | .ok settings => read { p with settings } rest
        | .error stop => .error stop

def Stop.parsed (sub : Option Subcommand) : Stop → Parsed
  | .help => .help
  | .version => .version
  | .fault message => .fault sub message

def orExtras (extras : List String) (parsed : Parsed) : Parsed :=
  if extras.isEmpty then parsed
  else .fault none ("unrecognized arguments: " ++ " ".intercalate extras)

def parseSub (sub : Subcommand) (extras : List String) (args : List String) : Parsed :=
  match tokens sub.switches args with
  | .error message => .fault (some sub) message
  | .ok tokens =>
      match Progress.read ⟨.initial, none, []⟩ tokens with
      | .error stop => stop.parsed (some sub)
      | .ok ⟨_, none, _⟩ => .fault (some sub) "the following arguments are required: xctestrun_path"
      | .ok ⟨settings, some path, left⟩ =>
          orExtras (extras ++ left) (.command sub settings (Path.ofString path))

def subcommands : List Subcommand := [.configs, .verify]

def parseNamed (name : String) (extras : List String) (args : List String) : Parsed :=
  match subcommands.find? fun sub => sub.name = name with
  | some sub => parseSub sub extras args
  | none =>
      .fault none ("argument command: invalid choice: " ++ Text.quoted name ++ " (choose from " ++
        ", ".intercalate (subcommands.map fun sub => Text.quoted sub.name) ++ ")")

def parseLeading (extras : List String) : List (String × Token) → Parsed
  | [] => orExtras extras .nothing
  | (_, .plain name) :: rest => parseNamed name extras (rest.map (·.1))
  | (_, .separator) :: rest =>
      if rest.isEmpty then orExtras (extras ++ ["--"]) .nothing else parseNamed "--" extras []
  | (_, .unknown text) :: rest => parseLeading (extras ++ [text]) rest
  | (_, .switch s _ attached) :: rest =>
      match Settings.initial.attach s attached with
      | .error stop => stop.parsed none
      | .ok _ => parseLeading extras rest

def parse (args : List String) : Parsed :=
  match tokens leadingSwitches args with
  | .error message => .fault none message
  | .ok tokens => parseLeading [] (args.zip tokens)

end TestRun.Command
