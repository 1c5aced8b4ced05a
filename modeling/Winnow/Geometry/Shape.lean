/-
  Geometries of the plane: points, lines, rings and areas, and collections of them; when two
  are the same, and their text.
-/
import Winnow.Binary.Text

namespace Winnow

/-- A point of the plane. -/
structure Coord where
  x : Double
  y : Double
  deriving DecidableEq

namespace Coord

/-- Two points have the same coordinates as numbers. -/
def same (a b : Coord) : Bool := a.x.eq b.x && a.y.eq b.y

/-- The two coordinates with a blank between them. -/
def text (c : Coord) : String := c.x.text .precise ++ " " ++ c.y.text .precise

end Coord

/-- Two lists of points are the same, point by point. -/
def sameCoords : List Coord → List Coord → Bool
  | [], [] => true
  | a :: as, b :: bs => a.same b && sameCoords as bs
  | _, _ => false

/-- The last point of a chain is its first; an empty chain is closed. -/
def isClosed (cs : List Coord) : Bool :=
  match cs.head?, cs.getLast? with
  | some a, some b => a.same b
  | _, _ => true

/-- The chain with its first point added at its end, unless it is closed. -/
def closeChain (cs : List Coord) : List Coord :=
  if isClosed cs then cs else cs ++ cs.take 1

/-- An area: an outer ring and the rings of its holes. -/
structure Polygon where
  exterior : List Coord
  interiors : List (List Coord)
  deriving DecidableEq

namespace Polygon

/-- The area inside an outer chain and outside the holes, with every chain closed. -/
def ofChains (exterior : List Coord) (interiors : List (List Coord)) : Polygon :=
  ⟨closeChain exterior, interiors.map closeChain⟩

/-- The outer ring and the rings of the holes. -/
def rings (p : Polygon) : List (List Coord) := p.exterior :: p.interiors

def same (p q : Polygon) : Bool :=
  p.rings.length = q.rings.length && (p.rings.zip q.rings).all fun (a, b) => sameCoords a b

end Polygon

/-- A geometry. -/
inductive Geometry where
  | point (c : Coord)
  | line (a b : Coord)
  | lineString (cs : List Coord)
  | polygon (p : Polygon)
  | multiPoint (cs : List Coord)
  | multiLineString (chains : List (List Coord))
  | multiPolygon (ps : List Polygon)
  | rect (low high : Coord)
  | triangle (a b c : Coord)
  | collection (parts : List Geometry)

namespace Geometry

instance : Inhabited Geometry := ⟨.collection []⟩

/-- The rectangle with two opposite corners. -/
def ofCorners (a b : Coord) : Geometry :=
  let (x, x') := if a.x.lt b.x then (a.x, b.x) else (b.x, a.x)
  let (y, y') := if a.y.lt b.y then (a.y, b.y) else (b.y, a.y)
  .rect ⟨x, y⟩ ⟨x', y'⟩

/-- The area of a rectangle. -/
def rectArea (a b : Coord) : Polygon :=
  .ofChains [⟨b.x, a.y⟩, ⟨b.x, b.y⟩, ⟨a.x, b.y⟩, ⟨a.x, a.y⟩, ⟨b.x, a.y⟩] []

/-- The area of a triangle. -/
def triangleArea (a b c : Coord) : Polygon := .ofChains [a, b, c, a] []

mutual

/-- Two geometries are of one form and have the same points in the same order. -/
def same : Geometry → Geometry → Bool
  | .point a, .point b => a.same b
  | .line a b, .line c d => a.same c && b.same d
  | .lineString cs, .lineString ds => sameCoords cs ds
  | .polygon p, .polygon q => p.same q
  | .multiPoint cs, .multiPoint ds => sameCoords cs ds
  | .multiLineString cs, .multiLineString ds =>
    cs.length = ds.length && (cs.zip ds).all fun (a, b) => sameCoords a b
  | .multiPolygon ps, .multiPolygon qs =>
    ps.length = qs.length && (ps.zip qs).all fun (p, q) => p.same q
  | .rect a b, .rect c d => a.same c && b.same d
  | .triangle a b c, .triangle d e f => a.same d && b.same e && c.same f
  | .collection gs, .collection hs => sameParts gs hs
  | _, _ => false

/-- Two lists of geometries are the same, part by part. -/
def sameParts : List Geometry → List Geometry → Bool
  | [], [] => true
  | g :: gs, h :: hs => g.same h && sameParts gs hs
  | _, _ => false

end

end Geometry

/-! ## Sameness is symmetric -/

theorem Coord.same_comm (a b : Coord) : a.same b = b.same a := by
  rw [Coord.same, Coord.same, Binary.eq_swap b.x, Binary.eq_swap b.y]

theorem sameCoords_comm (as bs : List Coord) : sameCoords as bs = sameCoords bs as := by
  induction as generalizing bs with
  | nil => cases bs <;> rfl
  | cons a as ih =>
    cases bs with
    | nil => rfl
    | cons b bs => rw [sameCoords, sameCoords, Coord.same_comm, ih]

/-- Two lists of one length whose members are the same in pairs may change places. -/
theorem all_zip_comm {α : Type} {same : α → α → Bool} (h : ∀ a b, same a b = same b a)
    (as bs : List α) :
    (decide (as.length = bs.length) && (as.zip bs).all fun (a, b) => same a b) =
      (decide (bs.length = as.length) && (bs.zip as).all fun (a, b) => same a b) := by
  have hzip : ((as.zip bs).all fun (a, b) => same a b) =
      (bs.zip as).all fun (a, b) => same a b := by
    induction as generalizing bs with
    | nil => simp
    | cons a as ih =>
      cases bs with
      | nil => rfl
      | cons b bs => simp only [List.zip_cons_cons, List.all_cons, h a b, ih]
  rw [hzip]
  simp only [eq_comm]

theorem Polygon.same_comm (p q : Polygon) : p.same q = q.same p :=
  all_zip_comm sameCoords_comm p.rings q.rings

namespace Geometry

mutual

theorem same_comm : (g h : Geometry) → g.same h = h.same g
  | .point _, h => by cases h <;> first | rfl | exact Coord.same_comm _ _
  | .line a b, h => by
    cases h with
    | line c d => rw [same, same, Coord.same_comm a, Coord.same_comm b]
    | _ => rfl
  | .lineString _, h => by cases h <;> first | rfl | exact sameCoords_comm _ _
  | .polygon _, h => by cases h <;> first | rfl | exact Polygon.same_comm _ _
  | .multiPoint _, h => by cases h <;> first | rfl | exact sameCoords_comm _ _
  | .multiLineString _, h => by
    cases h <;> first | rfl | exact all_zip_comm sameCoords_comm _ _
  | .multiPolygon _, h => by
    cases h <;> first | rfl | exact all_zip_comm Polygon.same_comm _ _
  | .rect a b, h => by
    cases h with
    | rect c d => rw [same, same, Coord.same_comm a, Coord.same_comm b]
    | _ => rfl
  | .triangle a b c, h => by
    cases h with
    | triangle d e f =>
      rw [same, same, Coord.same_comm a, Coord.same_comm b, Coord.same_comm c]
    | _ => rfl
  | .collection gs, h => by
    cases h with
    | collection hs => exact sameParts_comm gs hs
    | _ => rfl

theorem sameParts_comm : (gs hs : List Geometry) → sameParts gs hs = sameParts hs gs
  | [], hs => by cases hs <;> rfl
  | _ :: _, [] => rfl
  | g :: gs, h :: hs => by rw [sameParts, sameParts, same_comm g h, sameParts_comm gs hs]

end

/-! ## Text -/

/-- The parts of a geometry between brackets, or the word for a geometry without parts. -/
def bracketed (whenEmpty : String) (parts : List String) : String :=
  if parts.isEmpty then whenEmpty else "(" ++ ",".intercalate parts ++ ")"

/-- The points of a chain that stands inside brackets. -/
def chainText (cs : List Coord) : String := bracketed "EMPTY" (cs.map Coord.text)

/-- The rings of an area. -/
def areaText (whenEmpty : String) (p : Polygon) : String :=
  if p.exterior.isEmpty && p.interiors.isEmpty then whenEmpty
  else bracketed whenEmpty (p.rings.map chainText)

mutual

/-- The text of a geometry: the name of its form, and its points in brackets. -/
def text : Geometry → String
  | .point c => "POINT" ++ bracketed "" [c.text]
  | .line a b => "LINE" ++ bracketed "" [a.text, b.text]
  | .lineString cs => "LINESTRING" ++ bracketed " EMPTY" (cs.map Coord.text)
  | .polygon p => "POLYGON" ++ areaText " EMPTY" p
  | .multiPoint cs => "MULTIPOINT" ++ bracketed " EMPTY" (cs.map Coord.text)
  | .multiLineString chains => "MULTILINESTRING" ++ bracketed " EMPTY" (chains.map chainText)
  | .multiPolygon ps => "MULTIPOLYGON" ++ bracketed " EMPTY" (ps.map (areaText "EMPTY"))
  | .rect a b => "RECT" ++ bracketed "" [a.text, b.text]
  | .triangle a b c => "TRIANGLE" ++ bracketed "" [a.text, b.text, c.text]
  | .collection parts => "GEOMETRYCOLLECTION" ++ bracketed " EMPTY" (partTexts parts)

/-- The texts of a list of geometries. -/
def partTexts : List Geometry → List String
  | [] => []
  | g :: gs => g.text :: partTexts gs

end

end Geometry

end Winnow
