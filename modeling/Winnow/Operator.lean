/-
  The closed set of filter operators a criterion can carry, the families they fall into, and
  the connector that joins a criterion to the next one of its set.
-/

namespace Winnow

/-- A filter operator, in the order in which operators are listed to users. -/
inductive Operator where
  | equal
  | notEqual
  | startsWith
  | endsWith
  | greaterThan
  | greaterThanOrEqual
  | lessThan
  | lessThanOrEqual
  | between
  | isNull
  | isNotNull
  | isEmpty
  | isNotEmpty
  | isNullOrWhiteSpace
  | isNotNullOrWhiteSpace
  | isIn
  | notIn
  | contains
  | notContains
  | covers
  | crosses
  | touches
  | overlaps
  | coveredBy
  | disjoint
  | intersects
  | within
  | isWithinDistance
  deriving DecidableEq, Repr

namespace Operator

/-- Every operator, in declaration order. -/
def all : List Operator :=
  [equal, notEqual, startsWith, endsWith, greaterThan, greaterThanOrEqual, lessThan,
    lessThanOrEqual, between, isNull, isNotNull, isEmpty, isNotEmpty, isNullOrWhiteSpace,
    isNotNullOrWhiteSpace, isIn, notIn, contains, notContains, covers, crosses, touches,
    overlaps, coveredBy, disjoint, intersects, within, isWithinDistance]

/-- The name an operator is written with. -/
def name : Operator → String
  | equal => "Equal"
  | notEqual => "NotEqual"
  | startsWith => "StartsWith"
  | endsWith => "EndsWith"
  | greaterThan => "GreaterThan"
  | greaterThanOrEqual => "GreaterThanOrEqual"
  | lessThan => "LessThan"
  | lessThanOrEqual => "LessThanOrEqual"
  | between => "Between"
  | isNull => "IsNull"
  | isNotNull => "IsNotNull"
  | isEmpty => "IsEmpty"
  | isNotEmpty => "IsNotEmpty"
  | isNullOrWhiteSpace => "IsNullOrWhiteSpace"
  | isNotNullOrWhiteSpace => "IsNotNullOrWhiteSpace"
  | isIn => "In"
  | notIn => "NotIn"
  | contains => "Contains"
  | notContains => "NotContains"
  | covers => "Covers"
  | crosses => "Crosses"
  | touches => "Touches"
  | overlaps => "Overlaps"
  | coveredBy => "CoveredBy"
  | disjoint => "Disjoint"
  | intersects => "Intersects"
  | within => "Within"
  | isWithinDistance => "IsWithinDistance"

/-- Reads an operator from its exact name. -/
def ofName? (s : String) : Option Operator := all.find? (·.name == s)

/-- The name an operator is called by, on a set of criteria and in the text of a predicate. -/
def method : Operator → String
  | equal => "equal"
  | notEqual => "not_equal"
  | startsWith => "starts_with"
  | endsWith => "ends_with"
  | greaterThan => "greater_than"
  | greaterThanOrEqual => "greater_than_or_equal"
  | lessThan => "less_than"
  | lessThanOrEqual => "less_than_or_equal"
  | between => "between"
  | isNull => "is_null"
  | isNotNull => "is_not_null"
  | isEmpty => "is_empty"
  | isNotEmpty => "is_not_empty"
  | isNullOrWhiteSpace => "is_null_or_white_space"
  | isNotNullOrWhiteSpace => "is_not_null_or_white_space"
  | isIn => "is_in"
  | notIn => "not_in"
  | contains => "contains"
  | notContains => "not_contains"
  | covers => "covers"
  | crosses => "crosses"
  | touches => "touches"
  | overlaps => "overlaps"
  | coveredBy => "covered_by"
  | disjoint => "disjoint"
  | intersects => "intersects"
  | within => "within"
  | isWithinDistance => "is_within_distance"

/-- Reads an operator from the name it is called by. -/
def ofMethod? (s : String) : Option Operator := all.find? (·.method == s)

/-- The position of an operator in `all`. -/
def index (op : Operator) : Nat := all.idxOf op

/-- The operators that test membership: of a list, of a text or of a set of flags. -/
def isMembership : Operator → Bool
  | isIn | notIn | contains | notContains => true
  | _ => false

/-- The membership operators that hold when the test fails. -/
def isNegatedMembership : Operator → Bool
  | notIn | notContains => true
  | _ => false

/-- The operators that need an order on the values, the range test included. -/
def isOrdering : Operator → Bool
  | greaterThan | greaterThanOrEqual | lessThan | lessThanOrEqual | between => true
  | _ => false

/-- The operators on geometries. -/
def isSpatial : Operator → Bool
  | covers | crosses | touches | overlaps | coveredBy | disjoint | intersects | within
  | isWithinDistance => true
  | _ => false

/-- The operators that take no operand. -/
def isUnary : Operator → Bool
  | isNull | isNotNull | isEmpty | isNotEmpty | isNullOrWhiteSpace | isNotNullOrWhiteSpace => true
  | _ => false

end Operator

/-- Joins a criterion to the next one of its set; on the last one it means nothing. -/
inductive Connector where
  | and
  | or
  deriving DecidableEq, Repr

namespace Connector

/-- The connector of a criterion that names none. -/
instance : Inhabited Connector := ⟨.and⟩

/-- The name a connector is written with. -/
def name : Connector → String
  | and => "And"
  | or => "Or"

/-- Reads a connector from its exact name. -/
def ofName? (s : String) : Option Connector := [and, or].find? (·.name == s)

end Connector

end Winnow
