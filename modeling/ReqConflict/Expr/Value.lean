import ReqConflict.Expr.Basic

/-!
# Values of expressions

A value is a part of a requirement, or the whole of a condition.  Lists are
compared in order by `==` and as sets by the set functions.
-/

namespace ReqConflict

inductive Value where
  | bool (value : Bool)
  | text (value : String)
  | nothing
  | entity (value : Entity)
  | operation (value : Operation)
  | entities (values : List Entity)
  | strings (values : List String)
  | modifiers (values : Modifiers)
  | conditions (values : List Condition)
  | condition (value : Condition)
deriving DecidableEq, Repr, Inhabited

namespace Value

def kind : Value → String
  | bool _ => "bool"
  | text _ => "text"
  | nothing => "nothing"
  | entity _ => "entity"
  | operation _ => "operation"
  | entities _ => "entity list"
  | strings _ => "string list"
  | modifiers _ => "modifier set"
  | conditions _ => "condition list"
  | condition _ => "condition"

/-- What an attribute reaches.  Nothing has every attribute, so that the owner
of an owner may be asked for. -/
def reach (value : Value) (wanted : Attribute) : Except ExprError Value :=
  match value, wanted with
  | nothing, _ => .ok nothing
  | entity e, .base => .ok (text e.base)
  | entity e, .modifier => .ok (modifiers e.modifiers)
  | entity e, .isAll => .ok (bool e.isAll)
  | entity e, .entirety => .ok ((e.whole?.map entity).getD nothing)
  | operation o, .predicate => .ok (text o.predicate)
  | operation o, .negated => .ok (bool o.negated)
  | operation o, .able => .ok (bool o.able)
  | condition c, .agent => .ok (entity c.agent)
  | condition c, .operation => .ok (operation c.operation)
  | condition c, .input => .ok (entities c.input)
  | condition c, .output => .ok (entities c.output)
  | condition c, .restriction => .ok (strings c.restriction)
  | other, wanted => .error (.noAttribute wanted other.kind)

/-- Equality of values of one kind.  An entity differs from nothing, and other
kinds are not compared. -/
def equals : Value → Value → Except ExprError Bool
  | bool a, bool b => .ok (a = b)
  | text a, text b => .ok (a = b)
  | nothing, nothing => .ok true
  | nothing, entity _ | entity _, nothing => .ok false
  | entity a, entity b => .ok (a = b)
  | operation a, operation b => .ok (a = b)
  | entities a, entities b => .ok (a = b)
  | strings a, strings b => .ok (a = b)
  | modifiers a, modifiers b => .ok (a = b)
  | conditions a, conditions b => .ok (a = b)
  | condition a, condition b => .ok (a = b)
  | left, right => .error (.incomparable left.kind right.kind)

def truth (purpose : String) : Value → Except ExprError Bool
  | bool value => .ok value
  | other => .error (.kind purpose "bool" other.kind)

def elements (purpose : String) : Value → Except ExprError (List Value)
  | entities values => .ok (values.map entity)
  | strings values => .ok (values.map text)
  | modifiers values => .ok (values.toList.map text)
  | conditions values => .ok (values.map condition)
  | other => .error (.kind purpose "a list or set" other.kind)

/-- Whether a value equals a member, up to the first that it cannot be compared
with. -/
def isMember (value : Value) : List Value → Except ExprError Bool
  | [] => .ok false
  | member :: members => do
      if ← member.equals value then return true else isMember value members

/-- Every one of some values is among the members. -/
def isSubset (members : List Value) : List Value → Except ExprError Bool
  | [] => .ok true
  | value :: values => do
      if ← isMember value members then isSubset members values else return false

/-- None of some values is among the members. -/
def isDisjoint (members : List Value) : List Value → Except ExprError Bool
  | [] => .ok true
  | value :: values => do
      if ← isMember value members then return false else isDisjoint members values

end Value

end ReqConflict
