/-
  The types whose values stand for single values: what values each has, its kind, the names it
  goes by, and the value that one of its values stands for.
-/
import Winnow.Types.Integer
import Winnow.Value.Scalar

namespace Winnow

/-- A type of text: one that owns its text, one that borrows characters, or one that refers to
an owned text. All have the same values. -/
inductive TextForm where
  | owned
  | borrowed
  | shared
  deriving DecidableEq, Repr

/-- A type of geometry: one form, or any. -/
inductive GeometryForm where
  | point
  | line
  | lineString
  | polygon
  | multiPoint
  | multiLineString
  | multiPolygon
  | rect
  | triangle
  | collection
  | any
  deriving DecidableEq, Repr

namespace GeometryForm

/-- The geometry is of the form. -/
def admits : GeometryForm → Geometry → Bool
  | point, .point _ => true
  | line, .line _ _ => true
  | lineString, .lineString _ => true
  | polygon, .polygon _ => true
  | multiPoint, .multiPoint _ => true
  | multiLineString, .multiLineString _ => true
  | multiPolygon, .multiPolygon _ => true
  | rect, .rect _ _ => true
  | triangle, .triangle _ _ _ => true
  | collection, .collection _ => true
  | any, _ => true
  | _, _ => false

def name : GeometryForm → String
  | point => "geo_types::geometry::point::Point"
  | line => "geo_types::geometry::line::Line"
  | lineString => "geo_types::geometry::line_string::LineString"
  | polygon => "geo_types::geometry::polygon::Polygon"
  | multiPoint => "geo_types::geometry::multi_point::MultiPoint"
  | multiLineString => "geo_types::geometry::multi_line_string::MultiLineString"
  | multiPolygon => "geo_types::geometry::multi_polygon::MultiPolygon"
  | rect => "geo_types::geometry::rect::Rect"
  | triangle => "geo_types::geometry::triangle::Triangle"
  | collection => "geo_types::geometry::geometry_collection::GeometryCollection"
  | any => "geo_types::geometry::Geometry"

end GeometryForm

/-- Variants with their discriminants, which are all different and of one representation, signed or
unsigned. The widest has 128 bits. -/
structure Variants where
  named : List (String × Int)
  inRange : (∀ v ∈ named, IntegerForm.int128.Admits v.2) ∨
    ∀ v ∈ named, IntegerForm.nat128.Admits v.2
  distinct : (named.map Prod.snd).Nodup

/-- The values of an enum type: variants, or the sets of flags that the integers of a form hold. -/
inductive EnumForm where
  | variants (vs : Variants)
  | flags (f : IntegerForm)

namespace EnumForm

/-- The values of a form. -/
def Carrier : EnumForm → Type
  | .variants vs => { v : String × Int // v ∈ vs.named }
  | .flags f => f.Carrier

/-- The integer that stands for a value: the discriminant of a variant, or the flags. -/
def discriminant : (f : EnumForm) → f.Carrier → Int
  | .variants _, v => v.val.2
  | .flags _, n => n.val

/-- The word of the integer that stands for a value: its lowest 64 bits, in two's complement. -/
def bits (f : EnumForm) (v : f.Carrier) : UInt64 := UInt64.ofInt (f.discriminant v)

/-- The variant with a name; among flags there is none. -/
def ofName? : (f : EnumForm) → String → Option f.Carrier
  | .variants vs, name => vs.named.attach.find? (·.val.1 == name)
  | .flags _, _ => none

/-- The flags that an integer holds; among variants there are none. -/
def ofInt? : (f : EnumForm) → Int → Option f.Carrier
  | .variants _, _ => none
  | .flags f, n => f.ofInt? n

end EnumForm

/-- An enum type: its name and its values. -/
structure EnumType where
  name : String
  form : EnumForm

/-- A type whose values stand for single values. -/
inductive ScalarType where
  | integer (t : IntegerType)
  | single
  | double
  | bool
  | char
  | text (form : TextForm)
  | date
  | dateTime
  | offsetDateTime
  | universalDateTime
  | time
  | duration
  | guid
  | enum (e : EnumType)
  | geometry (form : GeometryForm)

namespace ScalarType

/-- The values of a type. -/
def Carrier : ScalarType → Type
  | .integer t => t.Carrier
  | .single => Single
  | .double => Double
  | .bool => Bool
  | .char => Char
  | .text _ => String
  | .date => Date
  | .dateTime => DateTime
  | .offsetDateTime => OffsetDateTime
  | .universalDateTime => DateTime
  | .time => Clock
  | .duration => Span
  | .guid => Guid
  | .enum e => e.form.Carrier
  | .geometry form => { g : Geometry // form.admits g = true }

/-- The kind of the values that those of a type stand for. -/
def kind : ScalarType → Kind
  | .integer _ | .single | .double => .number
  | .bool => .boolean
  | .char => .char
  | .text _ => .text
  | .date => .date
  | .dateTime => .dateTime
  | .offsetDateTime | .universalDateTime => .dateTimeOffset
  | .time => .time
  | .duration => .duration
  | .guid => .guid
  | .enum _ => .enum
  | .geometry _ => .spatial

/-- The single value that a value of a type stands for. -/
def toScalar : (t : ScalarType) → t.Carrier → Scalar
  | .integer t, n => .number (t.toNumber n)
  | .single, x => .number (.float (Binary.widen x))
  | .double, x => .number (.float x)
  | .bool, b => .bool b
  | .char, c => .char c
  | .text _, s => .text s
  | .date, d => .date d
  | .dateTime, d => .dateTime d
  | .offsetDateTime, d => .offsetDateTime d
  | .universalDateTime, d => .offsetDateTime (.universal d)
  | .time, t => .time t
  | .duration, s => .duration s
  | .guid, g => .guid g
  | .enum e, v => .enum (e.form.bits v)
  | .geometry _, g => .geometry g.val

theorem kind_toScalar (t : ScalarType) (v : t.Carrier) : (t.toScalar v).kind = t.kind := by
  cases t <;> rfl

/-- The name that an operand of a type is reported with. -/
def name : ScalarType → String
  | .integer t => t.name
  | .single => "f32"
  | .double => "f64"
  | .bool => "bool"
  | .char => "char"
  | .text .borrowed => "str"
  | .text _ => "alloc::string::String"
  | .date => "chrono::naive::date::NaiveDate"
  | .dateTime => "chrono::naive::datetime::NaiveDateTime"
  | .offsetDateTime => "chrono::datetime::DateTime<chrono::offset::fixed::FixedOffset>"
  | .universalDateTime => "chrono::datetime::DateTime<chrono::offset::utc::Utc>"
  | .time => "chrono::naive::time::NaiveTime"
  | .duration => "chrono::time_delta::TimeDelta"
  | .guid => "uuid::Uuid"
  | .enum e => e.name
  | .geometry form => form.name

/-- The name of a type inside another: a text that is not owned has a mark before it. -/
def innerName (t : ScalarType) : String :=
  match t with
  | .text .owned => t.name
  | .text _ => "&" ++ t.name
  | _ => t.name

end ScalarType

end Winnow
