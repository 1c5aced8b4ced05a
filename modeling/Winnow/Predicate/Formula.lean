/-
  Formulas: tests of terms, and formulas made from them. A formula holds of a record or not, and
  has a text.
-/
import Winnow.Predicate.Term
import Winnow.Geometry.SpatialTest

namespace Winnow

namespace Comparison

/-- The constructor's name, as listings show it. -/
def label : Comparison → String
  | eq => "Eq"
  | ne => "Ne"
  | gt => "Gt"
  | ge => "Ge"
  | lt => "Lt"
  | le => "Le"

end Comparison

namespace TextTest

/-- The constructor's name, as listings show it. -/
def label : TextTest → String
  | startsWith => "StartsWith"
  | endsWith => "EndsWith"
  | contains => "Contains"

end TextTest

/-- A formula over the members of a record. -/
inductive Formula where
  | constant (b : Bool)
  | and (f g : Formula)
  | or (f g : Formula)
  | not (f : Formula)
  | compare (c : Comparison) (a b : Term)
  | textTest (t : TextTest) (target argument : Term)
  | oneOf (items : List Value) (item : Term)
  | spatial (t : SpatialTest) (target : Term) (geometry : Geometry) (distance : Option Double)
  | any (collection : MemberPath) (f : Formula)

namespace Formula

/-- The elements of a reading that is a list of records. -/
def elements {ρ : Type} : Reading ρ → List ρ
  | .records rs => rs
  | _ => []

/-- A reading is a geometry that passes a spatial test. -/
def passes {ρ : Type} (t : SpatialTest) (geometry : Geometry) (distance : Option Double) :
    Reading ρ → Bool
  | .scalar (.geometry subject) => t.holds subject geometry distance
  | _ => false

/-- The formula holds of a record. -/
def holds {ρ : Type} [Record ρ] : Formula → ρ → Bool
  | .constant b, _ => b
  | .and f g, r => f.holds r && g.holds r
  | .or f g, r => f.holds r || g.holds r
  | .not f, r => !f.holds r
  | .compare c a b, r => c.holds (a.read r) (b.read r)
  | .textTest t target argument, r => t.holds (target.read r) (argument.read r)
  | .oneOf items item, r => items.any fun v => (Reading.ofValue v : Reading ρ).equals (item.read r)
  | .spatial t target geometry distance, r => passes t geometry distance (target.read r)
  | .any collection f, r => (elements (collection.read r)).any f.holds

/-- The text of a formula. -/
def text : Formula → String
  | .constant b => toString b
  | .and f g => "(" ++ f.text ++ " && " ++ g.text ++ ")"
  | .or f g => "(" ++ f.text ++ " || " ++ g.text ++ ")"
  | .not f => "!" ++ f.text
  | .compare c a b => "(" ++ a.text ++ " " ++ c.sign ++ " " ++ b.text ++ ")"
  | .textTest t target argument => target.text ++ "." ++ t.name ++ "(" ++ argument.text ++ ")"
  | .oneOf items item => (Value.list items).shown ++ ".contains(" ++ item.text ++ ")"
  | .spatial t target geometry distance =>
    target.text ++ "." ++ t.name ++ "(" ++ geometry.text ++
      (match distance with
        | some d => ", " ++ d.text .plain
        | none => "") ++ ")"
  | .any collection f => collection.text ++ ".any(|" ++ elementParameter ++ "| " ++ f.text ++ ")"

/-- The form of a formula and its parts. -/
def inspect : Formula → String
  | .constant b => "Constant(" ++ toString b ++ ")"
  | .and f g => "And(" ++ f.inspect ++ ", " ++ g.inspect ++ ")"
  | .or f g => "Or(" ++ f.inspect ++ ", " ++ g.inspect ++ ")"
  | .not f => "Not(" ++ f.inspect ++ ")"
  | .compare c a b =>
    fieldsText "Compare" [("op", c.label), ("left", a.inspect), ("right", b.inspect)]
  | .textTest t target argument =>
    fieldsText "Call"
      [("method", t.label), ("target", target.inspect), ("argument", argument.inspect)]
  | .oneOf items item =>
    fieldsText "ListContains"
      [("items", Value.listText (Value.inspectItems items)), ("item", item.inspect)]
  | .spatial t target geometry distance =>
    fieldsText "Spatial"
      [("op", t.operator.name), ("target", target.inspect), ("geometry", geometry.text),
        ("distance", match distance with
          | some d => "Some(" ++ d.text .precise ++ ")"
          | none => "None")]
  | .any collection f =>
    fieldsText "Any" [("collection", collection.inspect), ("predicate", f.inspect)]

/-- Two possibly missing numbers are both missing or equal. -/
def sameDistance : Option Double → Option Double → Bool
  | none, none => true
  | some a, some b => a.eq b
  | _, _ => false

/-- Two formulas are the same, constants included. A formula with a NaN in it is not the same as
itself. -/
def same : Formula → Formula → Bool
  | .constant a, .constant b => a = b
  | .and f g, .and f' g' => f.same f' && g.same g'
  | .or f g, .or f' g' => f.same f' && g.same g'
  | .not f, .not g => f.same g
  | .compare c a b, .compare c' a' b' => c = c' && a.same a' && b.same b'
  | .textTest t a b, .textTest t' a' b' => t = t' && a.same a' && b.same b'
  | .oneOf vs a, .oneOf ws b => Value.sameItems vs ws && a.same b
  | .spatial t a g d, .spatial t' a' g' d' =>
    t = t' && a.same a' && g.same g' && sameDistance d d'
  | .any p f, .any q g => p = q && f.same g
  | _, _ => false

end Formula

/-- A formula that rows are filtered by. -/
structure Predicate where
  formula : Formula

namespace Predicate

/-- The predicate accepts a record. -/
def accepts {ρ : Type} [Record ρ] (p : Predicate) (r : ρ) : Bool := p.formula.holds r

/-- The records that the predicate accepts, in order. -/
def filter {ρ : Type} [Record ρ] (p : Predicate) (rs : List ρ) : List ρ := rs.filter p.accepts

def text (p : Predicate) : String := p.formula.text

/-- The formula of a predicate and its parts. -/
def inspect (p : Predicate) : String := fieldsText "Predicate" [("expr", p.formula.inspect)]

end Predicate

end Winnow
