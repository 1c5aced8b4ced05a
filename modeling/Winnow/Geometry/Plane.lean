/-
  Turns, boxes and segments of the plane. Turns are decided on exact coordinates; the point in
  which two segments cross is a rounded one.
-/
import Winnow.Geometry.Shape
import Winnow.Binary.Arithmetic

namespace Winnow

/-- Where a third point lies, seen along the way from a first to a second. -/
inductive Turn where
  | left
  | right
  | straight
  deriving DecidableEq, Repr

/-- The turn at `q` on the way from `p` over `q` to `r`, from the sign of an exact area. A point
without a place turns nowhere. -/
def turn (p q r : Coord) : Turn :=
  match p.x.position?, p.y.position?, q.x.position?, q.y.position?, r.x.position?,
    r.y.position? with
  | some px, some py, some qx, some qy, some rx, some ry =>
    let area := (qx - px) * (ry - py) - (qy - py) * (rx - px)
    if 0 < area then .left else if area < 0 then .right else .straight
  | _, _, _, _, _, _ => .straight

/-- `v` lies between two numbers, the numbers included. -/
def isBetween (v a b : Double) : Bool :=
  if a.lt b then a.le v && v.le b else b.le v && v.le a

/-- A rectangle with sides along the axes. -/
structure Box where
  low : Coord
  high : Coord

namespace Box

/-- The box of two points. -/
def of (a b : Coord) : Box :=
  ⟨⟨a.x.min b.x, a.y.min b.y⟩, ⟨a.x.max b.x, a.y.max b.y⟩⟩

/-- The least box that contains two boxes. -/
def join (a b : Box) : Box :=
  ⟨⟨a.low.x.min b.low.x, a.low.y.min b.low.y⟩, ⟨a.high.x.max b.high.x, a.high.y.max b.high.y⟩⟩

/-- The least box that contains two possibly missing boxes. -/
def join? : Option Box → Option Box → Option Box
  | some a, some b => some (a.join b)
  | some a, none => some a
  | none, b => b

/-- The box of a list of points; no points have none. -/
def ofCoords (cs : List Coord) : Option Box :=
  cs.foldl (fun acc c => join? acc (some (of c c))) none

def contains (b : Box) (c : Coord) : Bool :=
  b.low.x.le c.x && c.x.le b.high.x && b.low.y.le c.y && c.y.le b.high.y

/-- Two boxes have a point in common. -/
def meets (a b : Box) : Bool :=
  a.low.x.le b.high.x && b.low.x.le a.high.x && a.low.y.le b.high.y && b.low.y.le a.high.y

end Box

/-- A directed segment. -/
structure Segment where
  start : Coord
  finish : Coord

/-- What two segments have in common: one point, which is proper when it is an end of neither,
or a stretch. -/
inductive Meeting where
  | point (c : Coord) (proper : Bool)
  | stretch (s : Segment)

namespace Segment

def box (s : Segment) : Box := Box.of s.start s.finish

/-- The segment contains the point. -/
def contains (s : Segment) (c : Coord) : Bool :=
  turn s.start s.finish c = .straight && isBetween c.x s.start.x s.finish.x &&
    isBetween c.y s.start.y s.finish.y

/-- The segments of a chain. -/
def ofChain (cs : List Coord) : List Segment := (cs.zip cs.tail).map fun (a, b) => ⟨a, b⟩

/-- The distance from a point to a segment: to an end if the foot of the perpendicular falls
beyond it. -/
def distance (s : Segment) (c : Coord) : Double :=
  if s.start.same s.finish then Binary.hypot (s.start.x - c.x) (s.start.y - c.y)
  else
    let dx := s.finish.x - s.start.x
    let dy := s.finish.y - s.start.y
    let square := dx * dx + dy * dy
    let r := ((c.x - s.start.x) * dx + (c.y - s.start.y) * dy) / square
    if r.le .zero then Binary.hypot (s.start.x - c.x) (s.start.y - c.y)
    else if (Binary.ofInt 1 : Double).le r then
      Binary.hypot (s.finish.x - c.x) (s.finish.y - c.y)
    else
      let t := ((s.start.y - c.y) * dx - (s.start.x - c.x) * dy) / square
      t.abs * Binary.hypot dx dy

/-- The stretch or the end that two segments on one line have in common. -/
def meetAlong? (p q : Segment) : Option Meeting :=
  match p.box.contains q.start, p.box.contains q.finish, q.box.contains p.start,
    q.box.contains p.finish with
  | true, true, _, _ => some (.stretch q)
  | _, _, true, true => some (.stretch p)
  | true, second, true, fourth =>
    if !second && !fourth && q.start.same p.start then some (.point q.start false)
    else some (.stretch ⟨q.start, p.start⟩)
  | true, second, third, true =>
    if !second && !third && q.start.same p.finish then some (.point q.start false)
    else some (.stretch ⟨q.start, p.finish⟩)
  | first, true, true, fourth =>
    if !first && !fourth && q.finish.same p.start then some (.point q.finish false)
    else some (.stretch ⟨q.finish, p.start⟩)
  | first, true, third, true =>
    if !first && !third && q.finish.same p.finish then some (.point q.finish false)
    else some (.stretch ⟨q.finish, p.finish⟩)
  | _, _, _, _ => none

/-- The crossing of the lines through two segments, computed about the middle of the box that
the segments share; nothing if the lines are parallel as far as rounding shows. -/
def crossing? (p q : Segment) : Option Coord :=
  let half (a b : Double) := (a + b) / Binary.ofInt 2
  let midX := half (p.box.low.x.max q.box.low.x) (p.box.high.x.min q.box.high.x)
  let midY := half (p.box.low.y.max q.box.low.y) (p.box.high.y.min q.box.high.y)
  let coefficients (s : Segment) : Double × Double × Double :=
    let x1 := s.start.x - midX
    let y1 := s.start.y - midY
    let x2 := s.finish.x - midX
    let y2 := s.finish.y - midY
    (y1 - y2, x2 - x1, x1 * y2 - x2 * y1)
  let (px, py, pw) := coefficients p
  let (qx, qy, qw) := coefficients q
  let w := px * qy - qx * py
  match (py * qw - qy * pw) / w, (qx * pw - px * qw) / w with
  | .finite s u h, .finite s' u' h' =>
    some ⟨.finite s u h + midX, .finite s' u' h' + midY⟩
  | _, _ => none

/-- The end of either segment that is nearest to the other segment. -/
def nearestEnd (p q : Segment) : Coord :=
  let candidates : List (Coord × Double) :=
    [(p.finish, q.distance p.finish), (q.start, p.distance q.start),
      (q.finish, p.distance q.finish)]
  (candidates.foldl (fun best next => if next.2.lt best.2 then next else best)
    (p.start, q.distance p.start)).1

/-- The crossing of two segments that cross within both, kept within both boxes. -/
def properCrossing (p q : Segment) : Coord :=
  let c := (crossing? p q).getD (nearestEnd p q)
  if p.box.contains c && q.box.contains c then c else nearestEnd p q

/-- What two segments have in common. -/
def meet? (p q : Segment) : Option Meeting :=
  if !p.box.meets q.box then none
  else
    let q1 := turn p.start p.finish q.start
    let q2 := turn p.start p.finish q.finish
    let p1 := turn q.start q.finish p.start
    let p2 := turn q.start q.finish p.finish
    if q1 = q2 ∧ q1 ≠ .straight ∨ p1 = p2 ∧ p1 ≠ .straight then none
    else if q1 = .straight ∧ q2 = .straight ∧ p1 = .straight ∧ p2 = .straight then meetAlong? p q
    else if q1 = .straight ∨ q2 = .straight ∨ p1 = .straight ∨ p2 = .straight then
      -- an end of one lies on the other, and is the common point exactly
      let c :=
        if p.start.same q.start || p.start.same q.finish then p.start
        else if p.finish.same q.start || p.finish.same q.finish then p.finish
        else if q1 = .straight then q.start
        else if q2 = .straight then q.finish
        else if p1 = .straight then p.start
        else p.finish
      some (.point c false)
    else some (.point (properCrossing p q) true)

/-- Two segments have a point in common. -/
def meets (p q : Segment) : Bool := (meet? p q).isSome

end Segment

end Winnow
