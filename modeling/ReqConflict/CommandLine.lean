import ReqConflict.Report

/-!
# The command line

A command line names a command and gives its options.  An option has a long
name behind two dashes and a letter behind one; letters can be written together,
and a value can follow in the same word.  No option is given twice.
-/

namespace ReqConflict

inductive Command where
  /-- Reports the conflicts in a model. -/
  | detect (model : String) (rules output : Option String) (format : ReportFormat)
  /-- Compiles rules and lists their names. -/
  | checkRules (rules : Option String)
  /-- Writes a model in canonical form. -/
  | normalize (model : String) (output : Option String)
deriving DecidableEq, Repr

inductive Unrunnable where
  | misuse
  | help
  | version
deriving DecidableEq, Repr

namespace CommandLine

structure Switch where
  name : String
  letter : Char
  takesValue : Bool
deriving DecidableEq, Repr

def model : Switch := ⟨"model", 'm', true⟩

def rules : Switch := ⟨"rules", 'r', true⟩

def output : Switch := ⟨"output", 'o', true⟩

def format : Switch := ⟨"format", 'f', true⟩

/-- Asks for a log of the run, which changes no result. -/
def verbose : Switch := ⟨"verbose", 'v', false⟩

def help : Switch := ⟨"help", 'h', false⟩

def version : Switch := ⟨"version", 'V', false⟩

abbrev Settings := List (Switch × String)

def misuse {α : Type} : Except Unrunnable α :=
  .error .misuse

def give (settings : Settings) (switch : Switch) (value : String) : Except Unrunnable Settings :=
  if switch = help then .error .help
  else if switch = version then .error .version
  else if (settings.lookup switch).isSome then misuse
  else .ok ((switch, value) :: settings)

/-- Whether a word can only be a switch, and no value. -/
def isSwitch : List Char → Bool
  | '-' :: _ :: _ => true
  | _ => false

/-- What a word with switches leaves: the settings, and a switch whose value is
to follow in the next word. -/
abbrev Given := Settings × Option Switch

/-- Switches by letters written together, of which the last may have a value
behind it. -/
def readLetters (switches : List Switch) (settings : Settings) :
    List Char → Except Unrunnable Given
  | [] => .ok (settings, none)
  | letter :: rest =>
      match switches.find? fun switch => switch.letter == letter with
      | none => misuse
      | some switch =>
          if !switch.takesValue then do
            readLetters switches (← give settings switch "") rest
          else
            match rest with
            | [] => .ok (settings, some switch)
            | '=' :: value => do return (← give settings switch (String.ofList value), none)
            | value => do return (← give settings switch (String.ofList value), none)

/-- A switch by its name, which may have a value behind an equals sign. -/
def readName (switches : List Switch) (settings : Settings) (word : List Char) :
    Except Unrunnable Given :=
  let name := String.ofList (word.takeWhile (· != '='))
  match switches.find? (fun switch => switch.name == name), word.dropWhile (· != '=') with
  | none, _ => misuse
  | some switch, [] =>
      if switch.takesValue then .ok (settings, some switch)
      else do return (← give settings switch "", none)
  | some switch, _ :: value =>
      if switch.takesValue then do return (← give settings switch (String.ofList value), none)
      else misuse

/-- Reads switches up to the first word that is none.  `pending` is a switch
whose value has to follow. -/
def readSwitches (switches : List Switch) (settings : Settings) :
    Option Switch → List String → Except Unrunnable (Settings × List String)
  | none, [] => .ok (settings, [])
  | some _, [] => misuse
  | some switch, word :: words =>
      if isSwitch word.toList then misuse
      else do readSwitches switches (← give settings switch word) none words
  | none, word :: words =>
      match word.toList with
      | ['-', '-'] => if words.isEmpty then .ok (settings, []) else misuse
      | '-' :: '-' :: name => do
          let (settings, pending) ← readName switches settings name
          readSwitches switches settings pending words
      | '-' :: letter :: letters => do
          let (settings, pending) ← readLetters switches settings (letter :: letters)
          readSwitches switches settings pending words
      | _ => .ok (settings, word :: words)

def readAll (switches : List Switch) (words : List String) : Except Unrunnable Settings := do
  match ← readSwitches (switches ++ [verbose, help]) [] none words with
  | (settings, []) => return settings
  | _ => misuse

def path (text : String) : Except Unrunnable String :=
  if text.isEmpty then misuse else .ok text

def path? (settings : Settings) (switch : Switch) : Except Unrunnable (Option String) :=
  (settings.lookup switch).mapM path

def requiredPath (settings : Settings) (switch : Switch) : Except Unrunnable String :=
  match settings.lookup switch with
  | some text => path text
  | none => misuse

/-- The path of the rules, which an environment variable may give instead. -/
def rulesPath (settings : Settings) (environment : Option String) :
    Except Unrunnable (Option String) :=
  ((settings.lookup rules).or environment).mapM path

def reportFormat (settings : Settings) : Except Unrunnable ReportFormat :=
  match settings.lookup format with
  | none | some "text" => .ok .text
  | some "json" => .ok .json
  | some _ => misuse

def command (environment : Option String) (name : String) (words : List String) :
    Except Unrunnable Command := do
  if name = "detect" then
    let settings ← readAll [model, rules, output, format] words
    return .detect (← requiredPath settings model) (← rulesPath settings environment)
      (← path? settings output) (← reportFormat settings)
  else if name = "check-rules" then
    let settings ← readAll [rules] words
    return .checkRules (← rulesPath settings environment)
  else if name = "normalize" then
    let settings ← readAll [model, output] words
    return .normalize (← requiredPath settings model) (← path? settings output)
  else if name = "help" then throw .help
  else misuse

/-- The command of a command line.  The flag for a log may also stand in front
of the command. -/
def read (environment : Option String) (words : List String) : Except Unrunnable Command := do
  match ← readSwitches [verbose, help, version] [] none words with
  | (_, name :: words) => command environment name words
  | (_, []) => misuse

end CommandLine

end ReqConflict
