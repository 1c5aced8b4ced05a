/-
  The arrangement of one geometry: its edges, each labelled with the position of the edge and of
  its two sides, its nodes, and the points in which edges are crossed. A second geometry brings
  an arrangement of its own; every edge and node has a label for each of the two.
-/
import Winnow.Geometry.Position

namespace Winnow

/-- One of the two geometries that are related. -/
inductive Party where
  | subject
  | other
  deriving DecidableEq, Repr

/-- The positions, in one geometry, of a point or line and, for an edge of an area, of its left
and right side; what is not known is left out. -/
structure Topology where
  on : Option Position
  sides : Option (Option Position × Option Position)
  deriving DecidableEq

namespace Topology

def unknownLine : Topology := ⟨none, none⟩

def unknownArea : Topology := ⟨none, some (none, none)⟩

def isArea (t : Topology) : Bool := t.sides.isSome

def left (t : Topology) : Option Position := t.sides.bind Prod.fst

def right (t : Topology) : Option Position := t.sides.bind Prod.snd

/-- The sides change places when the edge is walked the other way. -/
def flip (t : Topology) : Topology := { t with sides := t.sides.map Prod.swap }

/-- Some position is not known. -/
def isPartial (t : Topology) : Bool :=
  t.on.isNone || (t.isArea && (t.left.isNone || t.right.isNone))

/-- Puts a position wherever none is known. -/
def fill (t : Topology) (p : Position) : Topology :=
  ⟨t.on <|> some p, t.sides.map fun (l, r) => (l <|> some p, r <|> some p)⟩

/-- Puts a position everywhere. -/
def setAll (t : Topology) (p : Position) : Topology :=
  ⟨some p, t.sides.map fun _ => (some p, some p)⟩

end Topology

/-- The topologies in both geometries. -/
structure Label where
  subject : Topology
  other : Topology

namespace Label

def unknownLine : Label := ⟨.unknownLine, .unknownLine⟩

def unknownArea : Label := ⟨.unknownArea, .unknownArea⟩

def get (l : Label) : Party → Topology
  | .subject => l.subject
  | .other => l.other

def set (l : Label) (p : Party) (t : Topology) : Label :=
  match p with
  | .subject => { l with subject := t }
  | .other => { l with other := t }

/-- Both topologies are of the same form: an edge of an area has sides in both geometries. -/
def of (p : Party) (t : Topology) : Label :=
  (if t.isArea then unknownArea else unknownLine).set p t

def isArea (l : Label) : Bool := l.subject.isArea || l.other.isArea

def flip (l : Label) : Label := ⟨l.subject.flip, l.other.flip⟩

end Label

/-- A point where an edge is crossed or ends: on which segment, how far along it, and where. -/
structure Mark where
  index : Nat
  along : Double
  coord : Coord

/-- An edge: a chain without repeated points, its label, the points where it is crossed in the
order along the edge, and whether the other geometry leaves it alone. -/
structure Edge where
  coords : Array Coord
  label : Label
  marks : List Mark
  isolated : Bool

/-- A point with its position in each geometry, as far as it is known. -/
structure Node where
  coord : Coord
  subject : Option Position
  other : Option Position

namespace Node

def get (n : Node) : Party → Option Position
  | .subject => n.subject
  | .other => n.other

def set (n : Node) (p : Party) (pos : Position) : Node :=
  match p with
  | .subject => { n with subject := some pos }
  | .other => { n with other := some pos }

/-- Changes the node at a point, which is added if it is new. -/
def update (c : Coord) (f : Node → Node) : List Node → List Node
  | [] => [f ⟨c, none, none⟩]
  | n :: ns => if n.coord.same c then f n :: ns else n :: update c f ns

end Node

/-- The edges and nodes of one geometry. -/
structure Arrangement where
  party : Party
  edges : List Edge
  nodes : List Node

/-! ## Marks -/

namespace Mark

/-- How far along a segment a point of it lies, measured on the longer of its two extents. -/
def distanceAlong (s : Segment) (c : Coord) : Double :=
  let dx := (s.finish.x - s.start.x).abs
  let dy := (s.finish.y - s.start.y).abs
  if c.same s.start then .zero
  else if c.same s.finish then (if dy.lt dx then dx else dy)
  else
    let px := (c.x - s.start.x).abs
    let py := (c.y - s.start.y).abs
    let d := if dy.lt dx then px else py
    if d.eq .zero then px.max py else d

/-- One mark stands before another on its edge. -/
def before (a b : Mark) : Bool :=
  a.index < b.index || (a.index = b.index && a.along.lt b.along)

/-- Adds a mark in its place, unless there is one in that place. -/
def insert (m : Mark) : List Mark → List Mark
  | [] => [m]
  | n :: ns =>
    if m.before n then m :: n :: ns
    else if n.before m then n :: insert m ns
    else n :: ns

end Mark

namespace Edge

def segmentCount (e : Edge) : Nat := e.coords.size - 1

def segment (e : Edge) (i : Nat) : Segment :=
  ⟨e.coords.getD i ⟨.zero, .zero⟩, e.coords.getD (i + 1) ⟨.zero, .zero⟩⟩

def isClosed (e : Edge) : Bool := Winnow.isClosed e.coords.toList

/-- Marks a point of the segment `i`; the end of a segment is the start of the next. -/
def addPoint (e : Edge) (i : Nat) (c : Coord) : Edge :=
  let atEnd := e.coords[i + 1]?.any c.same
  let mark : Mark :=
    if atEnd then ⟨i + 1, .zero, c⟩ else ⟨i, Mark.distanceAlong (e.segment i) c, c⟩
  { e with marks := mark.insert e.marks }

/-- Marks what the segment `i` has in common with another segment. -/
def addMeeting (e : Edge) (i : Nat) : Meeting → Edge
  | .point c _ => e.addPoint i c
  | .stretch s => (e.addPoint i s.start).addPoint i s.finish

/-- Marks the two ends of the edge. -/
def addEnds (e : Edge) : Edge :=
  match e.coords[0]?, e.coords.back? with
  | some a, some b =>
    { e with marks := Mark.insert ⟨e.segmentCount, .zero, b⟩ (Mark.insert ⟨0, .zero, a⟩ e.marks) }
  | _, _ => e

end Edge

/-! ## Building -/

namespace Arrangement

/-- The boundary of a union has the points that an odd number of boundaries have. -/
def oddBoundary (count : Nat) : Position := if count % 2 = 1 then .boundary else .inside

def setNode (g : Arrangement) (c : Coord) (p : Position) : Arrangement :=
  { g with nodes := Node.update c (·.set g.party p) g.nodes }

/-- Counts a point once more on the boundary: it leaves the boundary if it was on it. -/
def addBoundaryPoint (g : Arrangement) (c : Coord) : Arrangement :=
  let f (n : Node) : Node :=
    n.set g.party (oddBoundary (if n.get g.party = some .boundary then 2 else 1))
  { g with nodes := Node.update c f g.nodes }

def addEdge (g : Arrangement) (cs : List Coord) (t : Topology) : Arrangement :=
  { g with edges := g.edges ++ [⟨cs.toArray, Label.of g.party t, [], true⟩] }

/-- The chain without points that repeat the one before. -/
def withoutRepeats : List Coord → List Coord
  | [] => []
  | c :: cs =>
    match withoutRepeats cs with
    | d :: ds => if c.same d then c :: ds else c :: d :: ds
    | [] => [c]

/-- The turn of a ring at the least of its corners, which is the way the ring goes round. -/
def ringTurn (ring : List Coord) : Turn :=
  if ring.length < 4 || !isClosed ring then .straight
  else
    let least := ring.foldl
      (fun (best : Option Coord) c => match best with
        | none => some c
        | some b => if c.x.lt b.x || (c.x.eq b.x && c.y.lt b.y) then some c else some b) none
    match least with
    | none => .straight
    | some corner =>
      -- the ring from its least corner on; the corner itself is passed over in both directions
      let cycle := ring.dropLast
      let i := cycle.findIdx corner.same
      let others := (cycle.drop i ++ cycle.take i).filter fun c => !c.same corner
      match others.head?, (others.getLast?) with
      | some next, some previous => turn previous corner next
      | _, _ => .straight

/-- Adds a ring as an edge; `left` and `right` are the positions of its sides when it goes round
to the right. -/
def addRing (g : Arrangement) (ring : List Coord) (left right : Position) : Arrangement :=
  match ring with
  | [] => g
  | first :: _ =>
    let (l, r) := if ringTurn ring = .left then (right, left) else (left, right)
    (g.addEdge (withoutRepeats ring) ⟨some .boundary, some (some l, some r)⟩).setNode first
      .boundary

/-- Adds an area: its outer ring has the interior on the right when it goes round to the right,
and its holes have it on the left. -/
def addArea (g : Arrangement) (p : Polygon) : Arrangement :=
  p.interiors.foldl (fun g hole => g.addRing hole .inside .outside)
    (g.addRing p.exterior .outside .inside)

/-- Adds a chain; one that stays in a point is that point. -/
def addChain (g : Arrangement) (cs : List Coord) : Arrangement :=
  match withoutRepeats cs with
  | [] => g
  | [c] => g.setNode c .inside
  | a :: rest =>
    let last := rest.getLast?.getD a
    ((g.addBoundaryPoint a).addBoundaryPoint last).addEdge (a :: rest) ⟨some .inside, none⟩

/-- Adds a segment, which may stay in a point. -/
def addSegment (g : Arrangement) (a b : Coord) : Arrangement :=
  ((g.addBoundaryPoint a).addBoundaryPoint b).addEdge [a, b] ⟨some .inside, none⟩

end Arrangement

namespace Geometry

mutual

/-- Adds a geometry to an arrangement. -/
def arrange : Geometry → Arrangement → Arrangement
  | .point c, g => g.setNode c .inside
  | .line a b, g => g.addSegment a b
  | .lineString cs, g => g.addChain cs
  | .polygon p, g => if p.exterior.isEmpty then g else g.addArea p
  | .multiPoint cs, g => cs.foldl (fun g c => g.setNode c .inside) g
  | .multiLineString chains, g => chains.foldl (fun g cs => g.addChain cs) g
  | .multiPolygon ps, g => ps.foldl (fun g p => g.addArea p) g
  | .rect a b, g => g.addArea (rectArea a b)
  | .triangle a b c, g => g.addArea (triangleArea a b c)
  | .collection parts, g => arrangeParts parts g

/-- Adds the geometries of a list to an arrangement, in order. -/
def arrangeParts : List Geometry → Arrangement → Arrangement
  | [], g => g
  | h :: hs, g => arrangeParts hs (h.arrange g)

end

/-- The edges of the geometry are rings or closed chains, which are not checked against
themselves. -/
def isRings : Geometry → Bool
  | .lineString cs => isClosed cs
  | .multiLineString chains => chains.all isClosed
  | .polygon _ | .multiPolygon _ => true
  | _ => false

/-- Crossings of boundaries are counted on the boundary by the odd rule, except between the
areas of a union of areas. -/
def countsBoundaries : Geometry → Bool
  | .multiPolygon _ => false
  | _ => true

end Geometry

namespace Arrangement

/-! ## Crossings within one geometry -/

/-- Two neighbouring segments of one edge meet in the point between them, and so do the first
and last of a closed one, which says nothing. -/
def isTrivial (e : Edge) (i j : Nat) : Meeting → Bool
  | .stretch _ => false
  | .point .. =>
    i + 1 = j || j + 1 = i ||
      (e.isClosed && ((i = 0 && j = e.coords.size - 1) || (j = 0 && i = e.coords.size - 1)))

/-- The edge with its crossings with all edges marked; `k` is its place among them. -/
def markWithin (checkSelf : Bool) (edges : List Edge) (k : Nat) (e : Edge) : Edge :=
  edges.zipIdx.foldl (fun e (f, l) =>
    if k = l && !checkSelf then e
    else (List.range e.segmentCount).foldl (fun e i =>
      (List.range f.segmentCount).foldl (fun e j =>
        if k = l && i = j then e
        else match (e.segment i).meet? (f.segment j) with
          | none => e
          | some m => if k = l && isTrivial e i j m then e else e.addMeeting i m) e) e) e

/-- Makes a node of a crossing of an edge at `position` with another, unless it is on the
boundary already. -/
def addCrossing (counts : Bool) (position : Position) (g : Arrangement) (c : Coord) :
    Arrangement :=
  if g.nodes.any fun n => n.coord.same c && n.get g.party = some .boundary then g
  else if position = .boundary && counts then g.addBoundaryPoint c
  else g.setNode c position

/-- The arrangement of a geometry, with the crossings of its own edges as nodes. -/
def ofGeometry (party : Party) (geometry : Geometry) : Arrangement :=
  let g := geometry.arrange ⟨party, [], []⟩
  let edges := g.edges.zipIdx.map fun (e, k) => markWithin (!geometry.isRings) g.edges k e
  edges.foldl (fun g e =>
    e.marks.foldl (fun g m =>
      addCrossing geometry.countsBoundaries (((e.label.get party).on).getD .inside) g m.coord) g)
    { g with edges := edges }

/-- The nodes on the boundary. -/
def boundaryCoords (g : Arrangement) : List Coord :=
  (g.nodes.filter fun n => n.get g.party = some .boundary).map Node.coord

end Arrangement

end Winnow
