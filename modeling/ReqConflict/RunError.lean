import ReqConflict.Files
import ReqConflict.Model
import ReqConflict.Rule.Error
import ReqConflict.Yaml.Cursor

/-!
# Errors of a run

What ends a run of the program.  An error is shown on one line: its own message
and then that of each cause in turn, even where a message already quotes its
cause.
-/

namespace ReqConflict

inductive RulesSource where
  | file (path : String)
  | builtin
deriving DecidableEq, Repr

def RulesSource.text : RulesSource → String
  | file path => path
  | builtin => "<built-in rules>"

inductive RunError where
  | unreadableRules (path : String) (cause : FileFault)
  | malformedRules (source : RulesSource) (cause : Yaml.Fault)
  | invalidRules (source : RulesSource) (cause : RuleError)
  | unreadableModel (path : String) (cause : FileFault)
  | malformedModel (path : String) (cause : ModelError)
  | failedDetection (model : String) (cause : RuleError)
  | uncreatable (path : String) (cause : FileFault)
deriving DecidableEq, Repr

/-- The messages of an error and its causes. -/
def RuleError.chain : RuleError → List String
  | inRule rule cause => (inRule rule cause).message :: chain cause
  | invalidComparison relation type cause =>
      [(invalidComparison relation type cause).message, cause.message]
  | other => [other.message]

def ModelError.chain (error : ModelError) : List String :=
  [error.message, error.cause.message]

namespace RunError

/-- The message of an error, its causes aside. -/
def message : RunError → String
  | unreadableRules path _ => "Failed to read " ++ path
  | malformedRules (.file path) _ => "Failed to parse " ++ path
  | malformedRules .builtin _ => "Failed to parse built-in rules"
  | invalidRules source _ => "Invalid rules document " ++ source.text
  | unreadableModel path _ => "Failed to read model file: " ++ path
  | malformedModel path _ => "Failed to parse model file: " ++ path
  | failedDetection model _ => "Detection failed for " ++ model
  | uncreatable path _ => "Failed to create " ++ path

def causes : RunError → List String
  | unreadableRules _ cause | unreadableModel _ cause | uncreatable _ cause => [cause.message]
  | malformedRules _ cause => [cause.message]
  | invalidRules _ cause | failedDetection _ cause => cause.chain
  | malformedModel _ cause => cause.chain

def line (error : RunError) : String :=
  "error: " ++ String.intercalate ": " (error.message :: error.causes) ++ "\n"

end RunError

end ReqConflict
