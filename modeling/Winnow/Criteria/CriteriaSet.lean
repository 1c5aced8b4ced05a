/-
  Sets of criteria, in the order in which they are combined, and the steps that build them. A
  step adds one criterion, or says how the last one is joined to the next.
-/
import Winnow.Criteria.Criterion

namespace Winnow

/-- Criteria in order. The connector of each joins all up to it to the next. -/
structure CriteriaSet where
  criteria : List Criterion

namespace CriteriaSet

def empty : CriteriaSet := ⟨[]⟩

instance : Inhabited CriteriaSet := ⟨empty⟩

def isEmpty (s : CriteriaSet) : Bool := s.criteria.isEmpty

def push (s : CriteriaSet) (c : Criterion) : CriteriaSet := ⟨s.criteria ++ [c]⟩

/-- Joins the last criterion to the next one; without criteria nothing happens. -/
def connect (s : CriteriaSet) (connector : Connector) : CriteriaSet :=
  match s.criteria.getLast? with
  | none => s
  | some c => ⟨s.criteria.dropLast ++ [{ c with connector := connector }]⟩

/-- Adds a criterion, if it can be built. -/
def append (s : CriteriaSet) (c : Except Error Criterion) : Except Error CriteriaSet :=
  c.map s.push

/-- Adds a criterion with an operand of a type. -/
def add (s : CriteriaSet) (t : ValueType) (property : String) (op : Operator)
    (value : t.Carrier) (value2 : Option Value) (connector : Connector) :
    Except Error CriteriaSet :=
  s.append (Criterion.new t property op value value2 connector)

/-- Adds a criterion without an operand. -/
def addUnary (s : CriteriaSet) (t : ValueType) (property : String) (op : Operator) :
    Except Error CriteriaSet :=
  s.append (Criterion.ofType t property op .and)

/-- The type of the texts that a member is checked for. -/
def textType : ValueType := .scalar (.text .owned)

/-- The null test that equality with a null stands for, and likewise for inequality. -/
def nullTest? : Operator → Option Operator
  | .equal => some .isNull
  | .notEqual => some .isNotNull
  | _ => none

/-- Adds a criterion that compares the member to a value. A comparison for equality with a null
is recorded as a null test. -/
def addTest (s : CriteriaSet) (t : ValueType) (property : String) (op : Operator)
    (value : t.Carrier) : Except Error CriteriaSet :=
  match nullTest? op, t.toValue value with
  | some test, .null => s.addUnary t property test
  | _, _ => s.add t property op value none .and

/-- Adds a criterion that checks the text of the member: that it is empty or blank, or not. -/
def addTextCheck (s : CriteriaSet) (property : String) (op : Operator) :
    Except Error CriteriaSet :=
  s.addUnary textType property op

/-- Adds a criterion that the member lies between two values. -/
def addBetween (s : CriteriaSet) (t : ValueType) (property : String) (low high : t.Carrier) :
    Except Error CriteriaSet :=
  s.add t property .between low (some (t.toValue high)) .and

/-- Adds a criterion that the member is at most a distance away from a geometry. -/
def addWithinDistance (s : CriteriaSet) (t : ValueType) (property : String)
    (value : t.Carrier) (distance : Double) : Except Error CriteriaSet :=
  s.add t property .isWithinDistance value (some (.scalar (.number (.float distance)))) .and

/-! ## Steps -/

/-- One step in building a set. -/
inductive Step where
  | connect (connector : Connector)
  | push (c : Criterion)
  | add (t : ValueType) (property : String) (op : Operator) (value : t.Carrier)
      (value2 : Option Value) (connector : Connector)
  | test (op : Operator) (t : ValueType) (property : String) (value : t.Carrier)
  | textCheck (op : Operator) (property : String)
  | nullCheck (op : Operator) (t : ValueType) (property : String)
  | between (t : ValueType) (property : String) (low high : t.Carrier)
  | withinDistance (t : ValueType) (property : String) (value : t.Carrier) (distance : Double)

namespace Step

/-! ### Methods

Every method is a step of one of the families, with an operator of its own. A range, a distance, a
criterion that is already built and one of any operator are steps by themselves. -/

section

variable (t : ValueType) (property : String) (value : t.Carrier)

def or : Step := .connect .or
def and : Step := .connect .and

def equal : Step := .test .equal t property value
def notEqual : Step := .test .notEqual t property value
def startsWith : Step := .test .startsWith t property value
def endsWith : Step := .test .endsWith t property value
def greaterThan : Step := .test .greaterThan t property value
def greaterThanOrEqual : Step := .test .greaterThanOrEqual t property value
def lessThan : Step := .test .lessThan t property value
def lessThanOrEqual : Step := .test .lessThanOrEqual t property value
def isIn : Step := .test .isIn t property value
def notIn : Step := .test .notIn t property value
def contains : Step := .test .contains t property value
def notContains : Step := .test .notContains t property value
def covers : Step := .test .covers t property value
def crosses : Step := .test .crosses t property value
def touches : Step := .test .touches t property value
def overlaps : Step := .test .overlaps t property value
def coveredBy : Step := .test .coveredBy t property value
def disjoint : Step := .test .disjoint t property value
def intersects : Step := .test .intersects t property value
def within : Step := .test .within t property value

def isEmpty : Step := .textCheck .isEmpty property
def isNotEmpty : Step := .textCheck .isNotEmpty property
def isNullOrWhiteSpace : Step := .textCheck .isNullOrWhiteSpace property
def isNotNullOrWhiteSpace : Step := .textCheck .isNotNullOrWhiteSpace property

def isNull : Step := .nullCheck .isNull t property
def isNotNull : Step := .nullCheck .isNotNull t property

end

/-- The methods that compare the member to an operand, by name. -/
def tests : List (String × ((t : ValueType) → String → t.Carrier → Step)) :=
  [("equal", equal), ("not_equal", notEqual), ("starts_with", startsWith),
    ("ends_with", endsWith), ("greater_than", greaterThan),
    ("greater_than_or_equal", greaterThanOrEqual), ("less_than", lessThan),
    ("less_than_or_equal", lessThanOrEqual), ("is_in", isIn), ("not_in", notIn),
    ("contains", contains), ("not_contains", notContains), ("covers", covers),
    ("crosses", crosses), ("touches", touches), ("overlaps", overlaps),
    ("covered_by", coveredBy), ("disjoint", disjoint), ("intersects", intersects),
    ("within", within)]

/-- The methods that check the text of the member, by name. -/
def textChecks : List (String × (String → Step)) :=
  [("is_empty", isEmpty), ("is_not_empty", isNotEmpty),
    ("is_null_or_white_space", isNullOrWhiteSpace),
    ("is_not_null_or_white_space", isNotNullOrWhiteSpace)]

/-- The methods that check whether the member has a value, by name. -/
def nullChecks : List (String × (ValueType → String → Step)) :=
  [("is_null", isNull), ("is_not_null", isNotNull)]

/-- Every operator with an operand has its method, under its own name, besides the two operators
that take a second value. -/
theorem tests_eq : tests =
    (Operator.all.filter fun op => !op.isUnary && op != .between && op != .isWithinDistance).map
      fun op => (op.method, test op) := rfl

/-- So does every operator without one that is no null test, -/
theorem textChecks_eq : textChecks =
    (Operator.all.filter fun op => op.isUnary && !OperandType.nullOperators.contains op).map
      fun op => (op.method, textCheck op) := rfl

/-- and each of the null tests. -/
theorem nullChecks_eq : nullChecks =
    OperandType.nullOperators.map fun op => (op.method, nullCheck op) := rfl

end Step

/-- Takes a step. -/
def step (s : CriteriaSet) : Step → Except Error CriteriaSet
  | .connect connector => .ok (s.connect connector)
  | .push c => .ok (s.push c)
  | .add t property op value value2 connector => s.add t property op value value2 connector
  | .test op t property value => s.addTest t property op value
  | .textCheck op property => s.addTextCheck property op
  | .nullCheck op t property => s.addUnary t property op
  | .between t property low high => s.addBetween t property low high
  | .withinDistance t property value distance => s.addWithinDistance t property value distance

/-- Takes a step; one that fails leaves the set as it is. -/
def attempt (s : CriteriaSet) (st : Step) : CriteriaSet :=
  match s.step st with
  | .ok next => next
  | .error _ => s

/-- The set after steps of which those that fail do nothing. -/
def attemptAll (s : CriteriaSet) (steps : List Step) : CriteriaSet := steps.foldl attempt s

/-- The set after steps that all have to succeed. -/
def ofSteps? (steps : List Step) : Except Error CriteriaSet := steps.foldlM step empty

end CriteriaSet

end Winnow
