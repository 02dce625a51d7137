/-!
# Relations

The three ways in which two fields can be related.
-/

namespace ReqConflict

inductive Relation where
  | equals
  | includes
  | contradicts
deriving DecidableEq, Repr

namespace Relation

def name : Relation → String
  | equals => "equal"
  | includes => "include"
  | contradicts => "contradict"

def every : List Relation :=
  [equals, includes, contradicts]

def ofName? (name : String) : Option Relation :=
  every.find? fun relation => relation.name == name

end Relation

end ReqConflict
