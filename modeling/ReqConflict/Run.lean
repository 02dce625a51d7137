import ReqConflict.CommandLine
import ReqConflict.Detection
import ReqConflict.Load

/-!
# Runs

A run carries out a command line on a host.  It ends with an exit code and what
is written to the standard output and to the error output.
-/

namespace ReqConflict

structure Outcome where
  exitCode : UInt8
  output : String
  error : String
deriving DecidableEq, Repr

namespace Outcome

def success (output : String) : Outcome :=
  ⟨0, output, ""⟩

def failure (error : RunError) : Outcome :=
  ⟨1, "", error.line⟩

def ofExcept : Except RunError String → Outcome
  | .ok output => success output
  | .error error => failure error

end Outcome

namespace Run

def name : String :=
  "reqconflict"

def versionText : String :=
  name ++ " 0.1.0\n"

def usageText : String :=
  "Usage: " ++ name ++ " [-v] <command> [options]\n\n"
    ++ "  detect -m <model> [-r <rules>] [-o <output>] [-f text|json]\n"
    ++ "  check-rules [-r <rules>]\n"
    ++ "  normalize -m <model> [-o <output>]\n"

variable {m : Type → Type} [Monad m]

/-- Puts a text into a file, or else leaves it for the standard output. -/
def deliver (host : Host m) (path : Option String) (text : String) :
    ExceptT RunError m String := do
  match path with
  | none => return text
  | some path =>
      match ← host.write path text with
      | .ok () => return ""
      | .error fault => throw (.uncreatable path fault)

def conflicts (rules : RuleSet) (path : String) (requirements : List Requirement) :
    Except RunError (List (Conflict Requirement)) :=
  match rules.detect requirements with
  | .ok found => .ok (found.map fun conflict => conflict.ofPositions requirements)
  | .error error => .error (.failedDetection path error)

/-- What a command writes to the standard output. -/
def perform (host : Host m) : Command → ExceptT RunError m String
  | .detect model rules output format => do
      let source ← liftM (RulesSource.resolve host rules none)
      let rules ← ExceptT.mk (source.loadRules host)
      let (requirements, _) ← ExceptT.mk (Model.load host model .empty)
      let found ← ExceptT.mk (pure (conflicts rules model requirements))
      deliver host output (Report.write format found)
  | .checkRules rules => do
      let source ← liftM (RulesSource.resolve host rules none)
      let rules ← ExceptT.mk (source.loadRules host)
      let names := rules.names.map fun name => "  " ++ name ++ "\n"
      return source.text ++ ": " ++ toString rules.size ++ " rules\n" ++ String.join names
  | .normalize model output => do
      let (requirements, _) ← ExceptT.mk (Model.load host model .empty)
      deliver host output (Model.render requirements)

end Run

/-- Carries out a command line.  `environment` is the path of the rules that the
environment gives. -/
def run {m : Type → Type} [Monad m] (host : Host m) (environment : Option String)
    (words : List String) : m Outcome :=
  match CommandLine.read environment words with
  | .error .misuse => return ⟨2, "", Run.usageText⟩
  | .error .help => return .success Run.usageText
  | .error .version => return .success Run.versionText
  | .ok command => return .ofExcept (← (Run.perform host command).run)

end ReqConflict
