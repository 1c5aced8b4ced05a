/-
  Where a point lies in a geometry, and the dimension and the box of a geometry.
-/
import Winnow.Geometry.Plane

namespace Winnow

/-- Where a point lies: in the interior, on the boundary or in the exterior of a geometry. -/
inductive Position where
  | inside
  | boundary
  | outside
  deriving DecidableEq, Repr

/-- The dimension of a geometry or of a common part. -/
inductive Dimension where
  | empty
  | zero
  | one
  | two
  deriving DecidableEq, Repr

namespace Dimension

def rank : Dimension → Nat
  | empty => 0
  | zero => 1
  | one => 2
  | two => 3

/-- The larger of two dimensions. -/
def max (a b : Dimension) : Dimension := if a.rank < b.rank then b else a

def lt (a b : Dimension) : Bool := a.rank < b.rank

end Dimension

/-- What the parts of a geometry say of a point: that it is inside one, and how many have it on
their boundary. -/
structure Tally where
  inside : Bool
  boundaries : Nat

namespace Tally

/-- A point is on the boundary of the whole if it is on the boundary of an odd number of
parts. -/
def position (t : Tally) : Position :=
  if t.boundaries % 2 = 1 then .boundary else if t.inside then .inside else .outside

def addInside (t : Tally) : Tally := { t with inside := true }

def addBoundary (t : Tally) : Tally := { t with boundaries := t.boundaries + 1 }

end Tally

namespace Geometry

/-! ## Rings and areas -/

/-- Where a point lies in a ring: on a side, or inside if the ring winds around it. -/
def positionInRing (ring : List Coord) (c : Coord) : Position :=
  match ring with
  | [] => .outside
  | [a] => if c.same a then .boundary else .outside
  | _ =>
    let sides := Segment.ofChain ring
    let onSide (s : Segment) : Bool :=
      ((s.start.y.le c.y && c.y.le s.finish.y) || (s.finish.y.le c.y && c.y.lt s.start.y)) &&
        turn s.start s.finish c = .straight && isBetween c.x s.start.x s.finish.x
    let winding (s : Segment) : Int :=
      if s.start.y.le c.y then
        if c.y.lt s.finish.y && turn s.start s.finish c = .left then 1 else 0
      else if s.finish.y.le c.y && turn s.start s.finish c = .right then -1
      else 0
    if sides.any onSide then .boundary
    else if sides.foldl (fun n s => n + winding s) 0 = 0 then .outside
    else .inside

/-- Adds what an area says of a point. -/
def tallyArea (p : Polygon) (c : Coord) (t : Tally) : Tally :=
  match positionInRing p.exterior c with
  | .outside => t
  | .boundary => t.addBoundary
  | .inside =>
    match (p.interiors.map (positionInRing · c)).find? (· ≠ .outside) with
    | some .boundary => t.addBoundary
    | some _ => t
    | none => t.addInside

/-- The area does not leave the point outside. -/
def areaMeetsPoint (p : Polygon) (c : Coord) : Bool :=
  (tallyArea p c ⟨false, 0⟩).position ≠ .outside

/-! ## Points and chains -/

/-- Adds what a segment says of a point: its ends are its boundary. -/
def tallySegment (s : Segment) (c : Coord) (t : Tally) : Tally :=
  if s.start.same s.finish then (if c.same s.start then t.addInside else t)
  else if c.same s.start || c.same s.finish then t.addBoundary
  else if s.contains c then t.addInside else t

/-- Adds what a chain says of a point: its ends are its boundary unless it is closed. -/
def tallyChain (cs : List Coord) (c : Coord) (t : Tally) : Tally :=
  match cs with
  | [] | [_] => t
  | [a, b] => tallySegment ⟨a, b⟩ c t
  | a :: rest =>
    if !isClosed cs && (c.same a || (rest.getLast?.any c.same)) then t.addBoundary
    else if (Segment.ofChain cs).any (·.contains c) then t.addInside
    else t

/-- What a triangle says of a point stands for what was said before of its inside. A side has
the points on it whose first coordinate is not that of its end, so that a corner is counted
once. -/
def tallyTriangle (a b c p : Coord) (t : Tally) : Tally :=
  let sides : List Segment := [⟨a, b⟩, ⟨b, c⟩, ⟨c, a⟩]
  let turns := sides.map fun s => turn s.start s.finish p
  let onSides := sides.filter fun s => s.contains p && !p.x.eq s.finish.x
  ⟨turns = [.left, .left, .left] || turns = [.right, .right, .right],
    t.boundaries + onSides.length⟩

/-- Adds what a rectangle says of a point. -/
def tallyRect (low high c : Coord) (t : Tally) : Tally :=
  if !(⟨low, high⟩ : Box).contains c then t
  else if c.x.eq low.x || c.y.eq low.y || c.x.eq high.x || c.y.eq high.y then t.addBoundary
  else t.addInside

/-! ## Geometries -/

mutual

/-- Adds what a geometry says of a point. -/
def tally : Geometry → Coord → Tally → Tally
  | .point a, c, t => if c.same a then t.addInside else t
  | .line a b, c, t => tallySegment ⟨a, b⟩ c t
  | .lineString cs, c, t => tallyChain cs c t
  | .polygon p, c, t => tallyArea p c t
  | .multiPoint cs, c, t => if cs.any c.same then t.addInside else t
  | .multiLineString chains, c, t => chains.foldl (fun t cs => tallyChain cs c t) t
  | .multiPolygon ps, c, t => ps.foldl (fun t p => tallyArea p c t) t
  | .rect low high, c, t => tallyRect low high c t
  | .triangle a b d, c, t => tallyTriangle a b d c t
  | .collection parts, c, t => tallyParts parts c t

/-- Adds what the geometries of a list say of a point, in order. -/
def tallyParts : List Geometry → Coord → Tally → Tally
  | [], _, t => t
  | g :: gs, c, t => tallyParts gs c (g.tally c t)

end

/-- Where a point lies in a geometry. -/
def position (g : Geometry) (c : Coord) : Position := (g.tally c ⟨false, 0⟩).position

/-- The dimension of a list of points that are the corners of one chain or ring; `most` bounds
it. -/
def chainDimension (most : Dimension) : List Coord → Dimension
  | [] => .empty
  | a :: rest =>
    match rest.dropWhile a.same with
    | [] => .zero
    | b :: others =>
      if others.all fun c => c.same a || c.same b then .one else most

/-- The dimension of an area, by the distinct corners of its outer ring. -/
def areaDimension (p : Polygon) : Dimension := chainDimension .two p.exterior

mutual

/-- The dimension of a geometry. -/
def dimension : Geometry → Dimension
  | .point _ => .zero
  | .line a b => chainDimension .one [a, b]
  | .lineString cs => chainDimension .one cs
  | .polygon p => areaDimension p
  | .multiPoint cs => if cs.isEmpty then .empty else .zero
  | .multiLineString chains =>
    chains.foldl (fun d cs => d.max (chainDimension .one cs)) .empty
  | .multiPolygon ps => ps.foldl (fun d p => d.max (areaDimension p)) .empty
  | .rect a b => if a.same b then .zero else if a.x.eq b.x || a.y.eq b.y then .one else .two
  | .triangle a b c =>
    if turn a b c ≠ .straight then .two else chainDimension .one [a, b, c]
  | .collection parts => partsDimension parts

/-- The largest dimension of a list of geometries. -/
def partsDimension : List Geometry → Dimension
  | [] => .empty
  | g :: gs => g.dimension.max (partsDimension gs)

end

mutual

/-- The box of a geometry; a geometry without points has none. -/
def box? : Geometry → Option Box
  | .point c => Box.ofCoords [c]
  | .line a b => Box.ofCoords [a, b]
  | .lineString cs => Box.ofCoords cs
  | .polygon p => Box.ofCoords p.exterior
  | .multiPoint cs => Box.ofCoords cs
  | .multiLineString chains => Box.ofCoords chains.flatten
  | .multiPolygon ps => Box.ofCoords (ps.flatMap Polygon.exterior)
  | .rect a b => Box.ofCoords [a, b]
  | .triangle a b c => Box.ofCoords [a, b, c]
  | .collection parts => partsBox? parts

/-- The box of a list of geometries. -/
def partsBox? : List Geometry → Option Box
  | [] => none
  | g :: gs => Box.join? g.box? (partsBox? gs)

end

end Geometry

end Winnow
