/-
  The intersection matrix of two geometries, read off the arrangement of both, and the spatial
  relations it decides. The matrix has the dimension of what the interior, boundary and exterior
  of one geometry have in common with those of the other.
-/
import Winnow.Geometry.Arrangement

namespace Winnow

/-- The dimensions of the nine common parts of two geometries. -/
structure Matrix where
  entry : Position → Position → Dimension

namespace Matrix

/-- Geometries are bounded, so their exteriors have an area in common. -/
def initial : Matrix :=
  ⟨fun a b => if a = .outside ∧ b = .outside then .two else .empty⟩

/-- Raises an entry to a dimension, if it is less. -/
def raise (m : Matrix) (a b : Position) (d : Dimension) : Matrix :=
  ⟨fun x y => if x = a ∧ y = b then (m.entry x y).max d else m.entry x y⟩

/-- Raises the entry of two positions if both are known. -/
def raise? (m : Matrix) (a b : Option Position) (d : Dimension) : Matrix :=
  match a, b with
  | some a, some b => m.raise a b d
  | _, _ => m

/-- Raises several entries. -/
def raiseAll (m : Matrix) (entries : List (Position × Position × Dimension)) : Matrix :=
  entries.foldl (fun m (a, b, d) => m.raise a b d) m

/-- What an edge with a label adds to the matrix: the edge itself, and the areas beside it. -/
def addEdge (m : Matrix) (l : Label) : Matrix :=
  let m := m.raise? l.subject.on l.other.on .one
  if l.isArea then
    (m.raise? l.subject.left l.other.left .two).raise? l.subject.right l.other.right .two
  else m

def addNode (m : Matrix) (n : Node) : Matrix := m.raise? n.subject n.other .zero

end Matrix

/-! ## Edges around a node -/

/-- An edge as it leaves a node. -/
structure Spoke where
  origin : Coord
  toward : Coord
  label : Label

namespace Spoke

def dx (s : Spoke) : Double := s.toward.x - s.origin.x

def dy (s : Spoke) : Double := s.toward.y - s.origin.y

/-- The quadrant of the direction, against the clock from east; no direction has none. -/
def quadrant (s : Spoke) : Option Nat :=
  if s.dx.eq .zero && s.dy.eq .zero then none
  else some <|
    if (Binary.zero : Double).le s.dy then (if (Binary.zero : Double).le s.dx then 0 else 1)
    else (if (Binary.zero : Double).le s.dx then 3 else 2)

/-- Compares the directions of two spokes of a node, against the clock from east. -/
def compareDirection (s t : Spoke) : Ordering :=
  if s.dx.eq t.dx && s.dy.eq t.dy then .eq
  else
    let byTurn : Ordering :=
      match turn t.origin t.toward s.toward with
      | .right => .lt
      | .left => .gt
      | .straight => .eq
    match s.quadrant, t.quadrant with
    | some a, some b => (compare a b).then byTurn
    | _, _ => byTurn

/-- The spokes at the marks of an edge: one towards the mark before and one towards the mark
after, or towards a corner of the edge that comes first. -/
def ofEdge (e : Edge) : List Spoke :=
  let marks := e.addEnds.marks
  let befores : List (Option Mark) := none :: marks.map some
  let afters : List (Option Mark) := marks.tail.map some ++ [none]
  ((befores.zip afters).zip marks).flatMap fun ((before, after), m) =>
    let backward : List Spoke :=
      if m.along.eq .zero && m.index = 0 then []
      else
        let i := if m.along.eq .zero then m.index - 1 else m.index
        let corner := e.coords.getD i m.coord
        let toward := match before with
          | some b => if i ≤ b.index then b.coord else corner
          | none => corner
        [⟨m.coord, toward, e.label.flip⟩]
    let forward : List Spoke :=
      if e.coords.size ≤ m.index + 1 && after.isNone then []
      else
        let corner := e.coords.getD (m.index + 1) m.coord
        let toward := match after with
          | some a => if a.index = m.index then a.coord else corner
          | none => corner
        [⟨m.coord, toward, e.label⟩]
    backward ++ forward

end Spoke

/-- The spokes of a node that leave in one direction. -/
structure Bundle where
  first : Spoke
  others : List Spoke

namespace Bundle

def spokes (b : Bundle) : List Spoke := b.first :: b.others

/-- Adds a spoke to the bundles around a node, which are in the order of their directions. -/
def insert (s : Spoke) : List Bundle → List Bundle
  | [] => [⟨s, []⟩]
  | b :: bs =>
    match s.compareDirection b.first with
    | .lt => ⟨s, []⟩ :: b :: bs
    | .eq => { b with others := b.others ++ [s] } :: bs
    | .gt => b :: insert s bs

/-- The position of the direction itself: on the boundary if an odd number of edges of areas run
along it, inside if an even number do or if a line does. -/
def on (b : Bundle) (p : Party) : Option Position :=
  let positions := b.spokes.map fun s => (s.label.get p).on
  let boundaries := positions.count (some .boundary)
  if 0 < boundaries then some (Arrangement.oddBoundary boundaries)
  else if positions.contains (some .inside) then some .inside
  else none

/-- The position beside the direction: inside if it is inside for some edge of an area. -/
def side (b : Bundle) (side : Topology → Option Position) (p : Party) : Option Position :=
  let positions := (b.spokes.filter (·.label.isArea)).map fun s => side (s.label.get p)
  if positions.contains (some .inside) then some .inside
  else if positions.contains (some .outside) then some .outside
  else none

/-- The label of the bundle. -/
def label (b : Bundle) : Label :=
  let isArea := b.spokes.any (·.label.isArea)
  let topology (p : Party) : Topology :=
    ⟨b.on p, if isArea then some (b.side Topology.left p, b.side Topology.right p) else none⟩
  ⟨topology .subject, topology .other⟩

end Bundle

/-- The labels of the directions around a node, in order. -/
abbrev Star := List Label

namespace Star

/-- Carries the position of the last known left side around the node: between two edges of areas
nothing changes. -/
def propagate (p : Party) (star : Star) : Star :=
  let start := star.foldl
    (fun (acc : Option Position) l => (l.get p).left <|> acc) none
  match start with
  | none => star
  | some start =>
    (star.foldl
      (fun (current, done) l =>
        let t := l.get p
        let t := { t with on := t.on <|> some current }
        if t.isArea then
          match t.right with
          | some _ => (t.left.getD current, done ++ [l.set p t])
          | none => (current, done ++ [l.set p { t with sides := some (some current, some current) }])
        else (current, done ++ [l.set p t]))
      (start, ([] : Star))).2

/-- A line runs along the boundary, as a collapsed area leaves it. -/
def hasCollapse (p : Party) (star : Star) : Bool :=
  star.any fun l => !(l.get p).isArea && (l.get p).on = some .boundary

/-- Puts `position` wherever the geometry of a party is not known. -/
def complete (p : Party) (position : Position) (star : Star) : Star :=
  star.map fun l => if (l.get p).isPartial then l.set p ((l.get p).fill position) else l

end Star

/-! ## Two geometries -/

/-- What the crossings of the edges of two geometries have shown so far. -/
structure CrossingState where
  subject : Array Edge
  other : Array Edge
  proper : Bool
  properInterior : Bool

namespace Geometry

/-- Marks the crossings of the edges of two arrangements. A proper crossing is no node of the
arrangement of both; it is kept in the last two answers. -/
def crossEdges (a b : Arrangement) : CrossingState :=
  let boundaries := a.boundaryCoords ++ b.boundaryCoords
  let start : CrossingState := ⟨a.edges.toArray, b.edges.toArray, false, false⟩
  a.edges.zipIdx.foldl (fun st (e, k) =>
    b.edges.zipIdx.foldl (fun st (f, l) =>
      (List.range e.segmentCount).foldl (fun st i =>
        (List.range f.segmentCount).foldl (fun st j =>
          match (e.segment i).meet? (f.segment j) with
          | none => st
          | some m =>
            let st := { st with
              subject := st.subject.modify k fun e => { e with isolated := false }
              other := st.other.modify l fun f => { f with isolated := false } }
            match m with
            | .point c true =>
              { st with
                proper := true
                properInterior := st.properInterior || !boundaries.any c.same }
            | m =>
              { st with
                subject := st.subject.modify k (·.addMeeting i m)
                other := st.other.modify l (·.addMeeting j m) }) st) st) st) start

/-- What proper crossings alone say of the matrix, by the dimensions of the geometries. -/
def properEntries (a b : Dimension) (proper properInterior : Bool) :
    List (Position × Position × Dimension) :=
  match a, b with
  | .two, .two =>
    if proper then
      [(.inside, .inside, .two), (.inside, .boundary, .one), (.inside, .outside, .two),
        (.boundary, .inside, .one), (.boundary, .boundary, .zero), (.boundary, .outside, .one),
        (.outside, .inside, .two), (.outside, .boundary, .one), (.outside, .outside, .two)]
    else []
  | .two, .one =>
    (if proper then [(.boundary, .inside, .zero), (.outside, .outside, .two)] else []) ++
      if properInterior then
        [(.inside, .inside, .one), (.outside, .inside, .one)]
      else []
  | .one, .two =>
    (if proper then [(.inside, .boundary, .zero), (.outside, .outside, .two)] else []) ++
      if properInterior then
        [(.inside, .inside, .one), (.inside, .outside, .one)]
      else []
  | .one, .one => if properInterior then [(.inside, .inside, .zero)] else []
  | _, _ => []

/-- The matrix of geometries whose boxes do not meet, as far as relations read it: each lies in the
exterior of the other. -/
def apartMatrix (a b : Geometry) : Matrix :=
  (Matrix.initial.raise .inside .outside a.dimension).raise .outside .inside b.dimension

/-- Makes nodes of the marks of an edge, on the boundary or inside as the edge is; an edge of an
area turns a node it meets again from the boundary to the inside and back. -/
def nodesOfMarks (p : Party) (edges : List Edge) (nodes : List Node) : List Node :=
  edges.foldl (fun nodes e =>
    e.marks.foldl (fun nodes m =>
      Node.update m.coord (fun n =>
        if (e.label.get p).on = some .boundary then
          n.set p (if n.get p = some .boundary then .inside else .boundary)
        else if (n.get p).isNone then n.set p .inside else n) nodes) nodes) nodes

/-- The nodes of an arrangement take the place of what the marks have given. -/
def nodesOfArrangement (p : Party) (g : Arrangement) (nodes : List Node) : List Node :=
  g.nodes.foldl (fun nodes n =>
    match n.get p with
    | some pos => Node.update n.coord (·.set p pos) nodes
    | none => nodes) nodes

/-- A node of one geometry alone takes its position in the other. -/
def completeNode (a b : Geometry) (n : Node) : Node :=
  match n.subject, n.other with
  | none, some _ => n.set .subject (a.position n.coord)
  | some _, none => n.set .other (b.position n.coord)
  | _, _ => n

/-- The star of the spokes that leave a point, with every position known: what no edge at the
point decides is decided by where the point lies in the geometry, if that is an area, and is
outside otherwise. -/
def starAt (a b : Geometry) (spokes : List Spoke) (c : Coord) : Star :=
  let own := spokes.filter fun s => s.origin.same c
  let bundles := own.foldl (fun bs s => Bundle.insert s bs) []
  let star := Star.propagate .other (Star.propagate .subject (bundles.map Bundle.label))
  let rest (p : Party) (g : Geometry) : Position :=
    if Star.hasCollapse p star then .outside
    else if g.dimension = .two then g.position c
    else .outside
  Star.complete .other (rest .other b) (Star.complete .subject (rest .subject a) star)

/-- The label of an edge that the other geometry leaves alone: its first point says where all of
it lies. -/
def isolatedLabel (p : Party) (target : Geometry) (e : Edge) : Label :=
  let position :=
    if target.dimension.lt .one then Position.outside
    else match e.coords[0]? with
      | some c => target.position c
      | none => .outside
  e.label.set p ((e.label.get p).setAll position)

/-- The intersection matrix of two geometries. -/
def relate (a b : Geometry) : Matrix :=
  match a.box?, b.box? with
  | some boxA, some boxB =>
    if !boxA.meets boxB then apartMatrix a b
    else
      let graphA := Arrangement.ofGeometry .subject a
      let graphB := Arrangement.ofGeometry .other b
      let crossed := crossEdges graphA graphB
      let edgesA := crossed.subject.toList
      let edgesB := crossed.other.toList
      let nodes := nodesOfMarks .other edgesB (nodesOfMarks .subject edgesA [])
      let nodes := nodesOfArrangement .other graphB (nodesOfArrangement .subject graphA nodes)
      let spokes := edgesA.flatMap Spoke.ofEdge ++ edgesB.flatMap Spoke.ofEdge
      let nodes := spokes.foldl (fun nodes s => Node.update s.origin id nodes) nodes
      let nodes := nodes.map (completeNode a b)
      let m := Matrix.initial.raiseAll
        (properEntries a.dimension b.dimension crossed.proper crossed.properInterior)
      let m := (edgesA.filter (·.isolated)).foldl
        (fun m e => m.addEdge (isolatedLabel .other b e)) m
      let m := (edgesB.filter (·.isolated)).foldl
        (fun m e => m.addEdge (isolatedLabel .subject a e)) m
      nodes.foldl
        (fun m n => (starAt a b spokes n.coord).foldl Matrix.addEdge (m.addNode n)) m
  | _, _ => apartMatrix a b

end Geometry

/-! ## Relations -/

/-- A spatial relation of two geometries. -/
inductive Relation where
  | covers
  | crosses
  | touches
  | overlaps
  | coveredBy
  | disjoint
  | intersects
  | within
  deriving DecidableEq, Repr

namespace Matrix

def isEmpty (m : Matrix) (a b : Position) : Bool := m.entry a b = .empty

/-- Interiors or boundaries have a point in common. -/
def haveCommonPoint (m : Matrix) : Bool :=
  !(m.isEmpty .inside .inside && m.isEmpty .inside .boundary && m.isEmpty .boundary .inside &&
    m.isEmpty .boundary .boundary)

/-- The dimension of the interior of the first geometry. -/
def subjectDimension (m : Matrix) : Dimension :=
  ((m.entry .inside .inside).max (m.entry .inside .boundary)).max (m.entry .inside .outside)

/-- The dimension of the interior of the second geometry. -/
def otherDimension (m : Matrix) : Dimension :=
  ((m.entry .inside .inside).max (m.entry .boundary .inside)).max (m.entry .outside .inside)

/-- The matrix shows a relation. -/
def shows (m : Matrix) : Relation → Bool
  | .disjoint => !m.haveCommonPoint
  | .intersects => m.haveCommonPoint
  | .covers => m.haveCommonPoint && m.isEmpty .outside .inside && m.isEmpty .outside .boundary
  | .coveredBy =>
    m.haveCommonPoint && m.isEmpty .inside .outside && m.isEmpty .boundary .outside
  | .within =>
    !m.isEmpty .inside .inside && m.isEmpty .inside .outside && m.isEmpty .boundary .outside
  | .touches => m.isEmpty .inside .inside && m.haveCommonPoint
  | .crosses =>
    if m.subjectDimension.lt m.otherDimension then
      !m.isEmpty .inside .inside && !m.isEmpty .inside .outside
    else if m.otherDimension.lt m.subjectDimension then
      !m.isEmpty .inside .inside && !m.isEmpty .outside .inside
    else m.subjectDimension = .one && m.entry .inside .inside = .zero
  | .overlaps =>
    m.subjectDimension = m.otherDimension &&
      (if m.subjectDimension = .one then m.entry .inside .inside = .one
        else !m.isEmpty .inside .inside) &&
      !m.isEmpty .inside .outside && !m.isEmpty .outside .inside

end Matrix

/-- The first geometry stands in a relation to the second. -/
def Relation.holds (r : Relation) (a b : Geometry) : Bool := (a.relate b).shows r

end Winnow
