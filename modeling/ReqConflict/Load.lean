import ReqConflict.RuleSet
import ReqConflict.RulesDocument.Builtin
import ReqConflict.RunError

/-!
# Loading rules and models

The rules come from a path that is given, else from the path in an environment
variable, else from the default path if there is a file, else they are the
built-in ones.
-/

namespace ReqConflict

namespace RulesSource

def environmentVariable : String :=
  "REQCONFLICT_RULES"

def defaultPath : String :=
  "config/rules.yaml"

variable {m : Type → Type} [Monad m]

/-- Decides where the rules come from. -/
def resolve (host : Host m) (path environment : Option String) : m RulesSource :=
  match path.or environment with
  | some path => return .file path
  | none => return if ← host.isFile defaultPath then .file defaultPath else .builtin

def readDocument (source : RulesSource) (text : String) : Except RunError RulesDocument :=
  match RulesDocument.read text with
  | .ok document => .ok document
  | .error fault => .error (.malformedRules source fault)

def load (host : Host m) (source : RulesSource) : m (Except RunError RulesDocument) := do
  match source with
  | .builtin => return source.readDocument RulesDocument.builtinText
  | .file path =>
      match ← host.read path with
      | .ok text => return source.readDocument text
      | .error fault => return .error (.unreadableRules path fault)

def compile (source : RulesSource) (document : RulesDocument) : Except RunError RuleSet :=
  match RuleSet.ofDocument document with
  | .ok rules => .ok rules
  | .error error => .error (.invalidRules source error)

def loadRules (host : Host m) (source : RulesSource) : m (Except RunError RuleSet) := do
  return (← source.load host).bind source.compile

end RulesSource

namespace Model

variable {m : Type → Type} [Monad m]

/-- The requirements of a model file, and the pool with their entities. -/
def load (host : Host m) (path : String) (pool : Pool) :
    m (Except RunError (List Requirement × Pool)) := do
  match ← host.read path with
  | .error fault => return .error (.unreadableModel path fault)
  | .ok text =>
      match read text pool with
      | (.ok requirements, pool) => return .ok (requirements, pool)
      | (.error error, _) => return .error (.malformedModel path error)

end Model

end ReqConflict
