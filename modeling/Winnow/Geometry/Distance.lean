/-
  The distance between two geometries: zero if they meet, else the least distance between an
  end of a segment of one and a segment of the other. Geometries of several parts are as far as
  their nearest parts; without parts they are as far as any double says.
-/
import Winnow.Geometry.Position

namespace Winnow

/-- The least of a list of distances, or the greatest number if there are none. -/
def nearest (ds : List Double) : Double := ds.foldl Binary.min Binary.greatest

/-! ## Chains -/

/-- The way along one axis from `start` over `finish` at which `v` lies, as a share of the
whole; a segment that stays on one value has none. -/
def share? (start finish v : Double) : Option Double :=
  let d := finish - start
  if d.eq .zero then none else some ((v - start) / d)

/-- A share stands for a place within the segment. -/
def isWithinSegment (share : Double) : Bool :=
  Binary.zero.le share && share.le (Binary.ofInt 1)

/-- The distance from one to the next greater double, below which two shares count as one. -/
def shareTolerance : Double := Binary.round false (pow2 1022) 1

/-- The point is on the segment as far as the shares of the way along both axes tell. -/
def Segment.seemsToContain (s : Segment) (c : Coord) : Bool :=
  match share? s.start.x s.finish.x c.x, share? s.start.y s.finish.y c.y with
  | none, none => c.same s.start
  | some t, none => c.y.eq s.start.y && isWithinSegment t
  | none, some t => c.x.eq s.start.x && isWithinSegment t
  | some t, some u => (t - u).abs.le shareTolerance && isWithinSegment t

/-- The distance from a point to a chain. -/
def chainDistance (cs : List Coord) (c : Coord) : Double :=
  if cs.isEmpty || cs.any (·.same c) || (Segment.ofChain cs).any (·.seemsToContain c) then .zero
  else nearest ((Segment.ofChain cs).map (·.distance c))

/-- The least distance from a point of either chain to a segment of the other. -/
def chainGap (cs ds : List Coord) : Double :=
  nearest ((ds.flatMap fun c => (Segment.ofChain cs).map (·.distance c)) ++
    cs.flatMap fun c => (Segment.ofChain ds).map (·.distance c))

/-- Two chains have a point in common. -/
def chainsMeet (cs ds : List Coord) : Bool :=
  (Segment.ofChain cs).any fun s => (Segment.ofChain ds).any s.meets

/-- The distance between two segments. -/
def Segment.gap (p q : Segment) : Double :=
  if p.meets q then .zero
  else nearest [q.distance p.start, q.distance p.finish, p.distance q.start, p.distance q.finish]

/-! ## Areas -/

namespace Polygon

/-- The boxes of two lists of points, if both have one, have no point in common. -/
def boxesApart (cs ds : List Coord) : Bool :=
  match Box.ofCoords cs, Box.ofCoords ds with
  | some a, some b => !a.meets b
  | _, _ => false

/-- A segment has a point in common with an area: with one of its rings, or an end inside. -/
def meetsSegment (p : Polygon) (s : Segment) : Bool :=
  p.rings.any (fun ring => (Segment.ofChain ring).any s.meets) ||
    Geometry.areaMeetsPoint p s.start || Geometry.areaMeetsPoint p s.finish

/-- A chain has a point in common with an area. -/
def meetsChain (p : Polygon) (cs : List Coord) : Bool :=
  !boxesApart p.exterior cs && (Segment.ofChain cs).any p.meetsSegment

/-- Two areas have a point in common. -/
def meets (p q : Polygon) : Bool :=
  !boxesApart p.exterior q.exterior && (q.rings.any p.meetsChain || q.meetsChain p.exterior)

/-- The area has holes, and its outer ring winds around the first of the points. -/
def surrounds (p : Polygon) (cs : List Coord) : Bool :=
  !p.interiors.isEmpty &&
    cs.head?.any fun c => Geometry.positionInRing p.exterior c = .inside

/-- The distance from an area to a point. -/
def distance (p : Polygon) (c : Coord) : Double :=
  if p.exterior.isEmpty || Geometry.areaMeetsPoint p c then .zero
  else (nearest (p.interiors.map (chainDistance · c))).min
    (nearest ((Segment.ofChain p.exterior).map (·.distance c)))

/-- The distance from an area to a segment. -/
def segmentGap (p : Polygon) (s : Segment) : Double :=
  if p.meetsSegment s then .zero
  else nearest (p.rings.flatMap fun ring => (Segment.ofChain ring).map s.gap)

/-- The distance from an area to a chain: a chain in a hole is as far as the nearest hole's
ring. -/
def chainGap (p : Polygon) (cs : List Coord) : Double :=
  if p.meetsChain cs then .zero
  else if p.surrounds cs then nearest (p.interiors.map (Winnow.chainGap cs))
  else Winnow.chainGap cs p.exterior

/-- The distance between two areas. -/
def gap (p q : Polygon) : Double :=
  if p.meets q then .zero
  else if p.surrounds q.exterior then nearest (p.interiors.map (Winnow.chainGap q.exterior))
  else if q.surrounds p.exterior then nearest (q.interiors.map (Winnow.chainGap p.exterior))
  else Winnow.chainGap p.exterior q.exterior

end Polygon

/-! ## Geometries -/

/-- A geometry of one part. -/
inductive Part where
  | point (c : Coord)
  | segment (s : Segment)
  | chain (cs : List Coord)
  | area (p : Polygon)

namespace Part

/-- The distance between two parts. -/
def distance : Part → Part → Double
  | .point a, .point b => Binary.hypot (b.x - a.x) (b.y - a.y)
  | .point c, .segment s | .segment s, .point c => s.distance c
  | .point c, .chain cs | .chain cs, .point c => chainDistance cs c
  | .point c, .area p | .area p, .point c => p.distance c
  | .segment s, .segment t => s.gap t
  | .segment s, .chain cs | .chain cs, .segment s => nearest ((Segment.ofChain cs).map s.gap)
  | .segment s, .area p | .area p, .segment s => p.segmentGap s
  | .chain cs, .chain ds => if chainsMeet cs ds then .zero else chainGap cs ds
  | .chain cs, .area p | .area p, .chain cs => p.chainGap cs
  | .area p, .area q => p.gap q

end Part

namespace Geometry

mutual

/-- The parts of a geometry. -/
def parts : Geometry → List Part
  | .point c => [.point c]
  | .line a b => [.segment ⟨a, b⟩]
  | .lineString cs => [.chain cs]
  | .polygon p => [.area p]
  | .multiPoint cs => cs.map .point
  | .multiLineString chains => chains.map .chain
  | .multiPolygon ps => ps.map .area
  | .rect a b => [.area (rectArea a b)]
  | .triangle a b c => [.area (triangleArea a b c)]
  | .collection gs => partsOfAll gs

/-- The parts of a list of geometries. -/
def partsOfAll : List Geometry → List Part
  | [] => []
  | g :: gs => g.parts ++ partsOfAll gs

end

/-- The distance between two geometries. -/
def distance (a b : Geometry) : Double :=
  nearest (a.parts.flatMap fun p => b.parts.map p.distance)

/-- Two geometries are at most `max` apart. -/
def isWithinDistance (a b : Geometry) (max : Double) : Bool := (a.distance b).le max

end Geometry

end Winnow
