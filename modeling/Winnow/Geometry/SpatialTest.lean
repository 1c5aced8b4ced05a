/-
  The tests of a geometry against another that the spatial operators stand for.
-/
import Winnow.Operator
import Winnow.Geometry.Relation
import Winnow.Geometry.Distance

namespace Winnow

/-- A test of a geometry against another: a relation, or a bound on the distance. -/
inductive SpatialTest where
  | relation (r : Relation)
  | isWithinDistance
  deriving DecidableEq, Repr

namespace SpatialTest

/-- The test that an operator stands for; only spatial operators stand for one. -/
def ofOperator? : Operator → Option SpatialTest
  | .covers => some (.relation .covers)
  | .crosses => some (.relation .crosses)
  | .touches => some (.relation .touches)
  | .overlaps => some (.relation .overlaps)
  | .coveredBy => some (.relation .coveredBy)
  | .disjoint => some (.relation .disjoint)
  | .intersects => some (.relation .intersects)
  | .within => some (.relation .within)
  | .isWithinDistance => some .isWithinDistance
  | _ => none

/-- The operator that stands for a test. -/
def operator : SpatialTest → Operator
  | relation .covers => .covers
  | relation .crosses => .crosses
  | relation .touches => .touches
  | relation .overlaps => .overlaps
  | relation .coveredBy => .coveredBy
  | relation .disjoint => .disjoint
  | relation .intersects => .intersects
  | relation .within => .within
  | isWithinDistance => .isWithinDistance

theorem isSome_ofOperator? (op : Operator) : (ofOperator? op).isSome = op.isSpatial := by
  cases op <;> rfl

/-- The name a test is called by. -/
def name (t : SpatialTest) : String := t.operator.method

/-- The test holds of a geometry and another. Only a bound on the distance reads `distance`,
and without one it fails. -/
def holds (t : SpatialTest) (subject other : Geometry) (distance : Option Double) : Bool :=
  match t with
  | relation r => r.holds subject other
  | isWithinDistance => distance.any (subject.isWithinDistance other)

end SpatialTest

end Winnow
