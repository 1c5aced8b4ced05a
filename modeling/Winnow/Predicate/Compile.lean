/-
  Compilation: a criterion becomes a formula over the members of a record type, and the formulas of
  a set are joined from left to right. A criterion that does not suit its member is refused.
-/
import Winnow.Predicate.Formula
import Winnow.Criteria.CriteriaSet

namespace Winnow

/-- How criteria are compiled. -/
structure Options where
  /-- Texts are compared in lower case and without the white space around them. -/
  normalizeText : Bool
  deriving DecidableEq, Repr

instance : Inhabited Options := ⟨⟨false⟩⟩

/-- The value as a constant for a member of a kind: for texts, characters become texts, also in
lists. -/
def Value.widenTo (kind : Kind) : Value → Value
  | .scalar (.char c) =>
    if kind = .text then .scalar (.text (String.singleton c)) else .scalar (.char c)
  | .list items => .list (widenItems items)
  | v => v
where
  /-- The items of a list as constants. -/
  widenItems : List Value → List Value
    | [] => []
    | v :: vs => widenTo kind v :: widenItems vs

namespace Formula

def isNull (t : Term) : Formula := .compare .eq t .null

def isNotNull (t : Term) : Formula := .compare .ne t .null

/-- The formula for records in which the term is not null, if it may be null. -/
def guardedIf (nullable : Bool) (t : Term) (f : Formula) : Formula :=
  if nullable then .and (isNotNull t) f else f

/-- The formula, negated if asked. -/
def negatedIf (negated : Bool) (f : Formula) : Formula := if negated then .not f else f

/-- The empty text. -/
def emptyText : Term := .constant (.scalar (.text ""))

end Formula

/-- The comparison that an operator by order stands for. -/
def Operator.comparison? : Operator → Option Comparison
  | .greaterThan => some .gt
  | .greaterThanOrEqual => some .ge
  | .lessThan => some .lt
  | .lessThanOrEqual => some .le
  | _ => none

namespace Criterion

open Formula

/-- The criterion asks for something that its operand's type or its member does not have. -/
def unsupported (c : Criterion) : Error := .unsupportedOperation c.operator c.type.name

/-! ## Single values -/

/-- The member and the constant that it is compared to, both normalized if the constant is a text
and texts are normalized. -/
def sides (normalize : Bool) (m : Term) (value : Value) : Term × Term :=
  match normalize, value with
  | true, .scalar (.text s) => (.normalize m, .constant (.scalar (.text (normalizeText s))))
  | _, _ => (m, .constant value)

/-- Equality with a value: a null is equal to nothing but a null. -/
def equalFormula (normalize nullable : Bool) (m : Term) (value : Value) : Formula :=
  if value.isNull then isNull m
  else
    let (target, operand) := sides normalize m value
    guardedIf nullable m (.compare .eq target operand)

/-- Inequality with a value: a null member differs from every value. -/
def notEqualFormula (normalize nullable : Bool) (m : Term) (value : Value) : Formula :=
  if value.isNull then isNotNull m
  else
    let (target, operand) := sides normalize m value
    let differs := .compare .ne target operand
    if nullable then .or (isNull m) differs else differs

/-- A test of a text at one end, which fails for a null. -/
def affixFormula? (t : TextTest) (normalize : Bool) (m : Term) (kind : Kind) (value : Value) :
    Option Formula :=
  if kind = .text ∧ value.text?.isSome then
    let (target, operand) := sides normalize m value
    some (.and (isNotNull m) (.textTest t target operand))
  else none

/-- A range: at least `low` and at most `high`. -/
def rangeFormula (m : Term) (low high : Value) : Formula :=
  .and (.compare .ge m (.constant low)) (.compare .le m (.constant high))

/-- Membership: of the member in a list, or of a text in the member. A null contains no text, and
the negated test of a text fails for it too. -/
def membershipFormula? (negated normalize nullable : Bool) (m : Term) (kind : Kind) :
    Value → Option Formula
  | .list items => some (negatedIf negated (.oneOf items m))
  | .scalar (.text s) =>
    if kind = .text then
      let (target, operand) := sides normalize m (.scalar (.text s))
      let contains := .textTest .contains target operand
      some (if negated then guardedIf nullable m (.not contains) else contains)
    else none
  | _ => none

/-- The formula for a member of a kind that is neither enum nor spatial, if there is one. -/
def scalarFormula? (o : Options) (m : Term) (kind : Kind) (nullable : Bool) (c : Criterion) :
    Option Formula :=
  if !kind.accepts c.operandKind then none
  else
    let value := c.value.widenTo kind
    let normalize := o.normalizeText && kind = .text
    let onText (f : Formula) : Option Formula := if kind = .text then some f else none
    match c.operator with
    | .equal => some (equalFormula normalize nullable m value)
    | .notEqual => some (notEqualFormula normalize nullable m value)
    | .startsWith => affixFormula? .startsWith normalize m kind value
    | .endsWith => affixFormula? .endsWith normalize m kind value
    | .between =>
      let high := c.value2.widenTo kind
      if kind.isOrdered && high.kind?.any kind.accepts then
        some (guardedIf nullable m (rangeFormula m value high))
      else none
    | .isEmpty => onText (.compare .eq m emptyText)
    | .isNotEmpty => onText (.compare .ne m emptyText)
    | .isNullOrWhiteSpace => onText (.or (isNull m) (.compare .eq (.trim m) emptyText))
    | .isNotNullOrWhiteSpace => onText (.and (isNotNull m) (.compare .ne (.trim m) emptyText))
    | op =>
      if op.isMembership then
        membershipFormula? op.isNegatedMembership normalize nullable m kind value
      else if kind.isOrdered then
        op.comparison?.map fun comparison =>
          guardedIf nullable m (.compare comparison m (.constant value))
      else none

/-! ## Enums and geometries -/

/-- The flags of a member are all among those of a value. -/
def flagsFormula (m : Term) (value : Value) : Formula :=
  let flags := .bits (.constant value)
  .compare .eq (.bitOr (.bits m) flags) flags

/-- The formula for a member that is an enum, if there is one. -/
def enumFormula? (m : Term) (c : Criterion) : Option Formula :=
  if c.operandKind ≠ .enum then none
  else
    match c.operator with
    | .equal => some (.compare .eq (.bits m) (.bits (.constant c.value)))
    | .notEqual => some (.compare .ne (.bits m) (.bits (.constant c.value)))
    | op =>
      if op.isMembership then
        some <| negatedIf op.isNegatedMembership <|
          match c.value with
          | .list items => .oneOf items m
          | value => flagsFormula m value
      else none

/-- The distance that a spatial test reads. -/
def distance? (t : SpatialTest) (value2 : Value) : Option Double :=
  match t with
  | .isWithinDistance => value2.number?.map Number.toDouble
  | .relation _ => none

/-- The formula for a member that is a geometry, if there is one. -/
def spatialFormula? (m : Term) (c : Criterion) : Option Formula :=
  match SpatialTest.ofOperator? c.operator, c.value with
  | some t, .scalar (.geometry g) =>
    some (.and (isNotNull m) (.spatial t m g (distance? t c.value2)))
  | _, _ => none

/-! ## Members and paths -/

variable {ι : Type}

/-- The formula for a resolved member. Null tests suit every member, other operators only single
values. -/
def memberFormula (family : Family ι) (o : Options) (r : ResolvedMember ι) (c : Criterion) :
    Except Error Formula :=
  let m := Term.member r.path
  let orUnsupported (f : Option Formula) : Except Error Formula :=
    match f with
    | some f => .ok f
    | none => .error c.unsupported
  match c.operator, r.type with
  | .isNull, _ => .ok (isNull m)
  | .isNotNull, _ => .ok (isNotNull m)
  | _, .scalar .enum => orUnsupported (enumFormula? m c)
  | _, .scalar .spatial => orUnsupported (spatialFormula? m c)
  | _, .scalar kind => orUnsupported (scalarFormula? o m kind r.nullable c)
  | op, type => .error (.unsupportedOperation op (type.describe family))

/-- Compiles a criterion for the member that segments name. -/
def compileAt (family : Family ι) (o : Options) (i : ι) (segments : List String)
    (parameter : String) (c : Criterion) : Except Error Formula := do
  let r ← family.resolve i segments parameter
  memberFormula family o r c

/-- Compiles a criterion for rows of a record type. A path with brackets asks for some element of
a collection. -/
def compile (family : Family ι) (o : Options) (i : ι) (c : Criterion) : Except Error Formula := do
  match ← PropertyPath.parse c.property with
  | .plain segments => c.compileAt family o i segments rowParameter
  | .bracketed base inner =>
    let r ← family.resolve i base rowParameter
    match r.type with
    | .collection element =>
      let f ← c.compileAt family o element inner elementParameter
      return .any r.path f
    | _ => .error (.notACollection (trim c.property) (r.path.segments.getLast?.getD "") r.owner)

end Criterion

/-! ## Sets -/

/-- Two formulas joined by a connector. -/
def Connector.join : Connector → Formula → Formula → Formula
  | .and => .and
  | .or => .or

namespace CriteriaSet

variable {ι : Type}

/-- Joins the formulas of criteria to `f`, each by the connector of the criterion before it. -/
def compileFrom (family : Family ι) (o : Options) (i : ι) (f : Formula) (connector : Connector) :
    List Criterion → Except Error Formula
  | [] => .ok f
  | c :: rest => do
    let g ← c.compile family o i
    compileFrom family o i (connector.join f g) c.connector rest

/-- Compiles a set for rows of a record type; an empty set has no formula. -/
def compile (family : Family ι) (o : Options) (i : ι) (s : CriteriaSet) :
    Except Error (Option Formula) :=
  match s.criteria with
  | [] => .ok none
  | c :: rest => do
    let f ← c.compile family o i
    let g ← compileFrom family o i f c.connector rest
    return some g

end CriteriaSet

namespace Predicate

variable {ι : Type}

/-- The conjunction of formulas; without formulas everything is accepted. -/
def conjunction : List Formula → Formula
  | [] => .constant true
  | f :: fs => fs.foldl .and f

/-- The predicate that accepts the rows that all sets accept. -/
def compileAll (family : Family ι) (o : Options) (i : ι) (sets : List CriteriaSet) :
    Except Error Predicate := do
  let formulas ← sets.mapM (·.compile family o i)
  return ⟨conjunction (formulas.filterMap id)⟩

/-- The predicate that accepts the rows that a set accepts. -/
def compile (family : Family ι) (o : Options) (i : ι) (s : CriteriaSet) :
    Except Error Predicate := compileAll family o i [s]

end Predicate

end Winnow
