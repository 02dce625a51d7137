/-!
# Names of rules

The rules that the program asks for by name.  All of them but the last are
defined in the rules document.
-/

namespace ReqConflict.RuleName

def conditionInclude : String := "condition include"

def conditionContradict : String := "condition contradict"

def operationInconsistency : String := "operation inconsistency"

def restrictionInconsistency : String := "restriction inconsistency"

def eventInconsistency : String := "event inconsistency"

def operationInclusion : String := "operation inclusion"

def eventInclusion : String := "event inclusion"

def operationEventInterlock : String := "operation event interlock"

/-- The rules that every rules document has to define. -/
def required : List String :=
  [conditionInclude, conditionContradict, operationInconsistency, restrictionInconsistency,
    eventInconsistency, operationInclusion, eventInclusion, operationEventInterlock]

/-- The rule that is derived, whatever a rules document says about it. -/
def inputOutputInterlock : String := "input output interlock"

end ReqConflict.RuleName
