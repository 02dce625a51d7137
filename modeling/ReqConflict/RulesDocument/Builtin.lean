import ReqConflict.RulesDocument

/-!
# The built-in rules

The rules that hold where no rules document is given.
-/

namespace ReqConflict.RulesDocument

def builtinText : String :=
"# Requirement conflict rules
#
# field types    tuple field -> type tag
# allowed types  relation -> type tags the relation may be applied to
# operators      relation -> type tag -> comparison over `a` and `b`
# rules          named rules; a rule may only call rules defined above it
#
# Base relations read `index field relation index field`, where index 1 is
# the first tuple of the pair and 2 the second.

field types:
  agent: entity
  operation: operation
  input: entity-set
  output: entity-set
  restriction: string-set
  event: condition-set

allowed types:
  equal: [entity, operation, entity-set, string-set, condition-set]
  include: [entity, entity-set, string-set, condition-set]
  contradict: [operation, string-set]

operators:
  equal:
    entity: a == b
    operation: a == b
    entity-set: set_eq(a, b)
    string-set: set_eq(a, b)
    condition-set: set_eq(a, b)

  include:
    # a covers b: same thing with no more qualifiers, or every instance of it
    entity: >-
      a == b or (a.base == b.base and a.entirety == b.entirety
      and (a.is_all or subset(a.modifier, b.modifier)))
    entity-set: entity_set_include(a, b)
    # fewer restrictions cover more situations
    string-set: subset(b, a)
    # an unconditional requirement covers every trigger
    condition-set: empty(a) or condition_set_include(a, b)

  contradict:
    operation: a.predicate == b.predicate and a.not != b.not
    string-set: not empty(a) and not empty(b) and disjoint(a, b)

rules:
  # ---------------------------------------------------------------------------
  # Condition helpers (called by condition_set_include / condition_contradict)
  # ---------------------------------------------------------------------------
  # the second condition covers the first; condition_set_include(a, b)
  # judges (condition of b, condition of a)
  condition include:
    and:
      - 2 agent include 1 agent
      - 1 operation equal 2 operation
      - 2 input include 1 input
      - 2 output include 1 output

  input overlap:
    or:
      - 1 input include 2 input
      - 2 input include 1 input

  condition contradict:
    and:
      - 1 agent equal 2 agent
      - 1 operation contradict 2 operation
      - function: input overlap

  # ---------------------------------------------------------------------------
  # Shared building blocks
  # ---------------------------------------------------------------------------
  event overlap:
    or:
      - 1 event include 2 event
      - 2 event include 1 event

  same action:
    and:
      - 1 agent equal 2 agent
      - 1 operation equal 2 operation
      - function: input overlap

  action triggers event:
    and:
      - 2 agent include 1 agent
      - 1 operation equal 2 operation
      - 2 input include 1 input

  # ---------------------------------------------------------------------------
  # Direct conflicts
  # ---------------------------------------------------------------------------
  operation inconsistency:
    and:
      - 1 agent equal 2 agent
      - 1 operation contradict 2 operation
      - function: input overlap
      - not: 1 restriction contradict 2 restriction
      - function: event overlap

  restriction inconsistency:
    and:
      - function: same action
      - function: event overlap
      - 1 restriction contradict 2 restriction

  # one requirement's trigger is forbidden (or demanded) by the other
  event inconsistency:
    or:
      - for:
          label: or
          index: 1
          field: event
          condition:
            function: condition contradict
      - for:
          label: or
          index: 2
          field: event
          condition:
            function: condition contradict

  operation inclusion:
    and:
      - 1 operation equal 2 operation
      - 1 agent include 2 agent
      - 1 input include 2 input
      - 1 output include 2 output
      - 2 restriction include 1 restriction
      - 1 event equal 2 event

  event inclusion:
    and:
      - 1 agent equal 2 agent
      - 1 operation equal 2 operation
      - 1 input equal 2 input
      - 1 output equal 2 output
      - 1 event include 2 event
      - not: 1 event equal 2 event

  # ---------------------------------------------------------------------------
  # Interlock edges (cycles become conflicts)
  # ---------------------------------------------------------------------------
  # the first requirement's action fires one of the second's triggers
  operation event interlock:
    for:
      label: or
      index: 2
      field: event
      condition:
        function: action triggers event

  # `input output interlock` is derived: no event inconsistency either way and
  # an output of the first requirement feeds an input of the second.
"

end ReqConflict.RulesDocument
