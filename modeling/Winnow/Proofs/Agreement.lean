/-
  Members and operands of one type agree.

  A member of a type is read as a reading and an operand is converted to a value, and the predicate
  compares the two. `accepts_test_iff`, the main statement, says what is lost on the two ways: for a
  type of single values that are no geometries, a step that compares a member with an operand comes
  to a predicate, and the predicate accepts a row exactly if the value that the member holds and the
  operand compare so in the type (`ScalarType.Satisfies`), where values of an enum count as equal if
  their words are. So nothing is lost but the integers of enums beyond a word; where they fit in
  one, values are compared as values of the type. `equal_accepts_unequal` is a type of 128 bits for
  which a test for zero accepts another value.

  Member and operand may each be a value of the type with a null added, and no value at all equals
  only no value. The member may be anywhere in the row, and the row need not keep to the schema
  elsewhere.

  The proof goes through the comparison of readings: with the default options the formula of a test
  computes it (`exists_formula`), also where a test for equality is recorded as a null test, and the
  comparison of the readings of two values is that of the values (`holds_stored_iff`).
-/
import Winnow.Proofs.BracketedPath
import Winnow.Proofs.OwnOrder
import Winnow.Proofs.SingleStep

namespace Winnow

variable {ι ρ : Type}

/-! ## Comparisons -/

namespace Comparison

/-- The operator that asks for the comparison. -/
def operator : Comparison → Operator
  | eq => .equal
  | ne => .notEqual
  | gt => .greaterThan
  | ge => .greaterThanOrEqual
  | lt => .lessThan
  | le => .lessThanOrEqual

/-- Values of the kind compare so: by equality they always do, otherwise the kind needs an order. -/
def Suits (k : Comparison) (kind : Kind) : Prop := k = eq ∨ k = ne ∨ kind.isOrdered = true

/-- A comparison that suits a kind is by equality, or is the one that its operator by order stands
for. -/
theorem Suits.cases {k : Comparison} {kind : Kind} (h : k.Suits kind) :
    k = eq ∨ k = ne ∨ kind.isOrdered = true ∧ k.operator.comparison? = some k := by
  rcases h with h | h | h
  · exact Or.inl h
  · exact Or.inr (Or.inl h)
  · cases k with
    | eq => exact Or.inl rfl
    | ne => exact Or.inr (Or.inl rfl)
    | _ => exact Or.inr (Or.inr ⟨h, rfl⟩)

/-- The operator of a comparison that suits the kind of an operand is supported. -/
theorem Suits.mem_operators {k : Comparison} {kind : Kind} (h : k.Suits kind)
    (hs : kind ≠ .spatial) (ha : kind ≠ .array) : k.operator ∈ kind.operators := by
  rcases h with rfl | rfl | h
  · cases kind <;> first | exact absurd rfl hs | exact absurd rfl ha | decide
  · cases kind <;> first | exact absurd rfl hs | exact absurd rfl ha | decide
  · cases kind <;> first | exact absurd h (by decide) | (cases k <;> decide)

end Comparison

/-! ## Values of a type, or none -/

namespace ScalarType

variable (t : ScalarType)

theorem kind_ne_array : t.kind ≠ .array := by
  cases t <;> simp [kind]

/-- What a value of the type, or of the type with a null added, holds: a value of the type, or
none. -/
inductive Holds : (holder : ValueType) → holder.Carrier → Option t.Carrier → Prop where
  | value (w : t.Carrier) : Holds (.scalar t) w (some w)
  | optional (w : Option t.Carrier) : Holds (.optional (.scalar t)) w w

/-- The value that a value of the type stands for; no value is a null. -/
def stored : Option t.Carrier → Value
  | none => .null
  | some w => .scalar (t.toScalar w)

/-- What it is for two values of the type, or none, to compare so when `Equal` says which values
are equal. -/
def Satisfies (Equal : t.Carrier → t.Carrier → Prop) (k : Comparison) (w v : Option t.Carrier) :
    Prop :=
  match k with
  | .eq => Option.Rel Equal w v
  | .ne => ¬ Option.Rel Equal w v
  | .gt => ∃ x ∈ w, ∃ y ∈ v, t.Before y x
  | .ge => ∃ x ∈ w, ∃ y ∈ v, t.Before y x ∨ Equal x y
  | .lt => ∃ x ∈ w, ∃ y ∈ v, t.Before x y
  | .le => ∃ x ∈ w, ∃ y ∈ v, t.Before x y ∨ Equal x y

variable {t} {holder : ValueType} {x : holder.Carrier} {w v : Option t.Carrier}

theorem Holds.toValue_eq (h : t.Holds holder x w) : holder.toValue x = t.stored w := by
  cases h with
  | value w => rfl
  | optional w => cases w <;> rfl

theorem Holds.operandKind (h : t.Holds holder x w) :
    holder.operandType.operandKind = t.kind := by
  cases h <;> exact OperandType.operandKind_of_ne_array t.kind_ne_array

/-- An operand of the type supports the operators of its kind, -/
theorem Holds.supports (h : t.Holds holder x w) {op : Operator} (hop : op ∈ t.kind.operators) :
    holder.operandType.supports op = true := by
  have hkind : holder.operandType.kind = t.kind := by
    cases h <;> rfl
  rw [OperandType.supports, hkind, List.contains_iff_mem.mpr hop, Bool.true_or]

/-- and one that may be none supports null tests. -/
theorem Holds.supports_nullTest (h : t.Holds holder x none) {op : Operator}
    (hop : op ∈ OperandType.nullOperators) : holder.operandType.supports op = true := by
  cases h
  show (t.kind.operators.contains op || (true && OperandType.nullOperators.contains op)) = true
  rw [List.contains_iff_mem.mpr hop, Bool.and_true, Bool.or_true]

theorem ofKind_stored (w : Option t.Carrier) :
    (Reading.ofValue (t.stored w) : Reading ρ).OfKind t.kind := by
  cases w with
  | none => exact Or.inl rfl
  | some w => exact Or.inr (congrArg some (t.kind_toScalar w))

/-- For a member of its own kind a value is its own constant. -/
theorem widenTo_stored (v : Option t.Carrier) : (t.stored v).widenTo t.kind = t.stored v := by
  cases v with
  | none => rfl
  | some v =>
    cases t <;> rfl

/-! ## The comparison of readings -/

/-- Equal readings are those of values that are alike. -/
theorem equals_stored_iff (hs : t.kind ≠ .spatial) :
    (Reading.ofValue (t.stored w) : Reading ρ).equals (Reading.ofValue (t.stored v) : Reading ρ) =
      true ↔ Option.Rel t.Alike w v := by
  cases w with
  | none =>
    cases v with
    | none => exact iff_of_true rfl .none
    | some v =>
      exact iff_of_false (by simp [stored, Reading.ofValue, Reading.equals]) (by rintro ⟨⟩)
  | some w =>
    cases v with
    | none =>
      exact iff_of_false (by simp [stored, Reading.ofValue, Reading.equals]) (by rintro ⟨⟩)
    | some v =>
      show (t.toScalar w).equals (t.toScalar v) = true ↔ _
      rw [Scalar.equals_eq_compare? (by rwa [kind_toScalar]), beq_iff_eq,
        t.compare?_toScalar_eq_iff hs]
      exact ⟨.some, fun h => by cases h; assumption⟩

/-- Readings are in an order that their values are in. -/
theorem compare?_stored_iff {order : Ordering} {R : t.Carrier → t.Carrier → Prop}
    (hR : ∀ x y, (t.toScalar x).compare? (t.toScalar y) = some order ↔ R x y) :
    (Reading.ofValue (t.stored w) : Reading ρ).compare? (Reading.ofValue (t.stored v) : Reading ρ) =
      some order ↔ ∃ x ∈ w, ∃ y ∈ v, R x y := by
  cases w with
  | none => simp [stored, Reading.ofValue, Reading.compare?]
  | some w =>
    cases v with
    | none => simp [stored, Reading.ofValue, Reading.compare?]
    | some v => simpa [stored, Reading.ofValue, Reading.compare?] using hR w v

/-- The comparison of the readings of two values is that of the values. -/
theorem holds_stored_iff {k : Comparison} (hs : t.kind ≠ .spatial) (hk : k.Suits t.kind) :
    k.holds (Reading.ofValue (t.stored w) : Reading ρ) (Reading.ofValue (t.stored v) : Reading ρ) =
      true ↔ t.Satisfies t.Alike k w v := by
  have hequals := equals_stored_iff (ρ := ρ) (w := w) (v := v) hs
  rcases hk.cases with rfl | rfl | ⟨ht, hop⟩
  · exact hequals
  · rw [Comparison.holds, Bool.not_eq_true', ← Bool.not_eq_true]
    exact not_congr hequals
  · have heq := compare?_stored_iff (ρ := ρ) (w := w) (v := v) (t.compare?_toScalar_eq_iff hs)
    have hlt := compare?_stored_iff (ρ := ρ) (w := w) (v := v) (t.compare?_toScalar_lt_iff ht)
    have hgt := compare?_stored_iff (ρ := ρ) (w := w) (v := v) (t.compare?_toScalar_gt_iff ht)
    have hor : ∀ {R S : t.Carrier → t.Carrier → Prop},
        ((∃ x ∈ w, ∃ y ∈ v, R x y) ∨ ∃ x ∈ w, ∃ y ∈ v, S x y) ↔
          ∃ x ∈ w, ∃ y ∈ v, R x y ∨ S x y := by
      intro R S
      simp only [and_or_left, exists_or]
    cases k with
    | eq | ne => exact absurd hop (by simp [Comparison.operator, Operator.comparison?])
    | gt => exact (Comparison.holds_gt_iff _ _).trans hgt
    | ge => exact (Comparison.holds_ge_iff _ _).trans ((or_congr hgt heq).trans hor)
    | lt => exact (Comparison.holds_lt_iff _ _).trans hlt
    | le => exact (Comparison.holds_le_iff _ _).trans ((or_congr hlt heq).trans hor)

end ScalarType

/-! ## The formula of a test -/

/-- The formula computes the comparison of what a member of the kind holds with an operand. -/
def Formula.Computes (k : Comparison) (kind : Kind) (m : Term) (v : Value) (f : Formula) : Prop :=
  ∀ (ρ : Type) [Record ρ] (row : ρ), (m.read row).OfKind kind →
    (f.holds row = true ↔ k.holds (m.read row) (.ofValue v : Reading ρ) = true)

theorem Comparison.holds_ne_iff (f g : Reading ρ) :
    Comparison.ne.holds f g = true ↔ ¬ Comparison.eq.holds f g = true := by
  simp [holds]

/-- Equality with an operand of the member's own kind, when texts are compared as they are. -/
theorem Reading.equalsWith_default_iff {kind : Kind} {f : Reading ρ} (hf : f.OfKind kind)
    {v : Value} (hv : v.widenTo kind = v) :
    f.EqualsWith (default : Options).tidy v ↔ f.equals (.ofValue v : Reading ρ) = true := by
  have htidy : (default : Options).tidy = id := rfl
  rw [htidy, ← equals_widenTo hf v, hv]

namespace Criterion

open Formula

variable {c : Criterion} {kind : Kind} {k : Comparison}

/-- Members that are neither enums nor geometries. -/
theorem exists_scalarFormula (hk : k.Suits kind) (hop : c.operator = k.operator)
    (ha : c.operandKind = kind) (hv : c.value.widenTo kind = c.value) (m : Term)
    (nullable : Bool) :
    ∃ f, scalarFormula? default m kind nullable c = some f ∧ Computes k kind m c.value f := by
  have haccepts : kind.accepts c.operandKind = true := by rw [ha, kind.accepts_self]
  rcases hk.cases with rfl | rfl | ⟨hordered, hcomparison⟩
  · refine ⟨equalFormula _ nullable m (c.value.widenTo kind),
      by simp only [scalarFormula?, haccepts, hop, Comparison.operator]; rfl, ?_⟩
    intro ρ _ row hf
    exact (holds_equalFormula default hf nullable c.value).trans
      (Reading.equalsWith_default_iff hf hv)
  · refine ⟨notEqualFormula _ nullable m (c.value.widenTo kind),
      by simp only [scalarFormula?, haccepts, hop, Comparison.operator]; rfl, ?_⟩
    intro ρ _ row hf
    rw [Comparison.holds_ne_iff]
    exact (holds_notEqualFormula default hf nullable c.value).trans
      (not_congr (Reading.equalsWith_default_iff hf hv))
  · rw [← hop] at hcomparison
    refine ⟨_, by rw [scalarFormula?_of_comparison? hcomparison, if_pos ⟨haccepts, hordered⟩], ?_⟩
    intro ρ _ row hf
    exact holds_guardedIf_of_imp nullable m (Comparison.ne_null_of_holds hcomparison)

/-- Members that are enums, which are compared by their words. -/
theorem exists_enumFormula (hk : k.Suits .enum) (hop : c.operator = k.operator)
    (ha : c.operandKind = .enum) (hv : c.value = .null ∨ ∃ b, c.value = .scalar (.enum b))
    (m : Term) : ∃ f, enumFormula? m c = some f ∧ Computes k .enum m c.value f := by
  have hbits : Computes .eq .enum m c.value
      (.compare .eq (.bits m) (.bits (.constant c.value))) := by
    intro ρ _ row hf
    rw [holds_bits_equal m c.value row ((Reading.ofKind_enum_iff _).mp hf) hv id,
      Reading.equalsWith_of_ne_text id c.value (hf.kind?_ne (by decide))]
    exact Iff.rfl
  rcases hk with rfl | rfl | hordered
  · exact ⟨.compare .eq (.bits m) (.bits (.constant c.value)),
      by simp [enumFormula?, ha, hop, Comparison.operator], hbits⟩
  · refine ⟨.compare .ne (.bits m) (.bits (.constant c.value)),
      by simp [enumFormula?, ha, hop, Comparison.operator], ?_⟩
    intro ρ _ row hf
    rw [holds_compare_ne, Comparison.holds_ne_iff]
    exact not_congr (hbits ρ row hf)
  · exact absurd hordered (by decide)

/-- With the default options there is a formula for a comparison of a member with an operand of its
type, and it computes the comparison. -/
theorem exists_formula {t : ScalarType} (hs : t.kind ≠ .spatial) (hk : k.Suits t.kind)
    (hop : c.operator = k.operator) (ha : c.operandKind = t.kind) {v : Option t.Carrier}
    (hv : c.value = t.stored v) {r : ResolvedMember ι} (ht : r.type = .scalar t.kind)
    (family : Family ι) :
    ∃ f, memberFormula family default r c = .ok f ∧
      Computes k t.kind (.member r.path) c.value f := by
  have hnull : c.operator ≠ .isNull ∧ c.operator ≠ .isNotNull := by
    rw [hop]
    cases k <;> exact ⟨nofun, nofun⟩
  by_cases henum : t.kind = .enum
  · rw [memberFormula_of_ne hnull.1 hnull.2, ht]
    rw [henum] at hk ha ⊢
    have hvalue : c.value = .null ∨ ∃ b, c.value = .scalar (.enum b) := by
      rw [hv]
      cases v with
      | none => exact Or.inl rfl
      | some v =>
        cases t with
        | enum e => exact Or.inr ⟨_, rfl⟩
        | _ => exact absurd henum (by simp [ScalarType.kind])
    obtain ⟨f, hf, hcomputes⟩ := exists_enumFormula hk hop ha hvalue (.member r.path)
    exact ⟨f, by rw [hf]; rfl, hcomputes⟩
  · obtain ⟨f, hf, hcomputes⟩ := exists_scalarFormula hk hop ha
      (by rw [hv, ScalarType.widenTo_stored]) (.member r.path) r.nullable
    refine ⟨f, ?_, hcomputes⟩
    rw [memberFormula_of_scalar hnull.1 hnull.2 ht henum hs, hf]
    rfl

end Criterion

/-! ## Steps -/

namespace CriteriaSet

open Formula

variable {family : Family ι} {i : ι}

/-- A test for equality with no value is recorded as a null test, -/
theorem described?_nullTest {k : Comparison} {op : Operator} (hop : nullTest? k.operator = some op)
    {t : ValueType} {operand : t.Carrier} (hv : t.toValue operand = .null) (property : String) :
    (Step.test k.operator t property operand).described? =
      some ⟨property, op, .and, .null, .null, t.operandType⟩ := by
  simp only [Step.described?, hop, hv]

/-- and any other test with its operand. -/
theorem described?_test {k : Comparison} {t : ValueType} {operand : t.Carrier}
    (h : nullTest? k.operator = none ∨ t.toValue operand ≠ .null) (property : String) :
    (Step.test k.operator t property operand).described? =
      some ⟨property, k.operator, .and, t.toValue operand, .null, t.operandType⟩ := by
  simp only [Step.described?]
  split
  · next hop hv => exact absurd h (by simp [hop, hv])
  · rfl

/-- Whatever a test is recorded as passes its checks at a path that is not blank, and its formula
computes the comparison that the test asks for. -/
theorem exists_testFormula {t : ScalarType} {k : Comparison} (hs : t.kind ≠ .spatial)
    (hk : k.Suits t.kind) {operandType : ValueType} {operand : operandType.Carrier}
    {v : Option t.Carrier} (hv : t.Holds operandType operand v) {property : String}
    (hpath : ∃ ch ∈ property.toList, isBlank ch = false) {r : ResolvedMember ι}
    (ht : r.type = .scalar t.kind) (family : Family ι) :
    ∃ c f, (Step.test k.operator operandType property operand).described? = some c ∧
      c.property = property ∧ (∀ check, c.Passes check) ∧
      Criterion.memberFormula family default r c = .ok f ∧
      Computes k t.kind (.member r.path) (t.stored v) f := by
  have hpasses : ∀ {op : Operator} {value : Value}, op ≠ .between → op ≠ .isWithinDistance →
      operandType.operandType.supports op = true →
      ∀ check, (⟨property, op, .and, value, .null, operandType.operandType⟩ :
        Criterion).Passes check := by
    intro op value hbetween hdistance hsupports
    exact Criterion.forall_passes_of_ne hpath hsupports hbetween hdistance
  -- Only equality with no value is recorded as something else, which needs a type with a null.
  by_cases hnull : nullTest? k.operator = none ∨ operandType.toValue operand ≠ .null
  · obtain ⟨f, hf, hcomputes⟩ := Criterion.exists_formula (c := ⟨property, k.operator, .and,
      operandType.toValue operand, .null, operandType.operandType⟩) hs hk rfl hv.operandKind
      hv.toValue_eq ht family
    rw [← hv.toValue_eq]
    refine ⟨_, f, described?_test hnull property, rfl, hpasses ?_ ?_ ?_, hf, hcomputes⟩
    · cases k <;> exact nofun
    · cases k <;> exact nofun
    · exact hv.supports (hk.mem_operators hs t.kind_ne_array)
  · simp only [not_or, ne_eq, Classical.not_not] at hnull
    obtain rfl : v = none := by
      have hstored := hv.toValue_eq.symm.trans hnull.2
      cases v with
      | none => rfl
      | some v => exact absurd hstored (by simp [ScalarType.stored])
    cases k with
    | eq =>
      refine ⟨_, _, described?_nullTest rfl hnull.2 property, rfl,
        hpasses nofun nofun (hv.supports_nullTest (by decide)), rfl, ?_⟩
      intro ρ _ row _
      exact Iff.rfl
    | ne =>
      refine ⟨_, _, described?_nullTest rfl hnull.2 property, rfl,
        hpasses nofun nofun (hv.supports_nullTest (by decide)), rfl, ?_⟩
      intro ρ _ row _
      exact Iff.rfl
    | _ => exact absurd rfl hnull.1

/-- **Members and operands of a type are compared in the type, enums by their words.**

    For a type of single values that are no geometries, a comparison that suits its kind, an operand
    of the type, or of the type with a null added, and a path without brackets to a member of the
    kind: under the default options the test comes to a predicate, and the predicate accepts a row
    whose member holds a value of the type, or of the type with a null added, exactly if that value
    and the operand compare so when alike values are equal. For every type but an enum with integers
    that do not fit in a word this is to compare so as values of the type. A NaN is equal to nothing
    and in no order. -/
theorem accepts_test_iff {t : ScalarType} {k : Comparison} (hs : t.kind ≠ .spatial)
    (hk : k.Suits t.kind) {operandType : ValueType} {operand : operandType.Carrier}
    {v : Option t.Carrier} (hv : t.Holds operandType operand v) {property : String}
    {segments : List String} (hpath : PropertyPath.parse property = .ok (.plain segments))
    {r : ResolvedMember ι} (hr : family.resolve i segments rowParameter = .ok r)
    (ht : r.type = .scalar t.kind) :
    ∃ p, (Step.test k.operator operandType property operand).predicate family default i = .ok p ∧
      ∀ (ρ : Type) [Record ρ] (row : ρ) (memberType : ValueType) (held : memberType.Carrier)
        (w : Option t.Carrier), t.Holds memberType held w →
        family.valueAt i segments row = memberType.toReading held →
        (p.accepts row = true ↔ t.Satisfies t.Alike k w v) ∧
          (t.FitsWord → (p.accepts row = true ↔ t.Satisfies t.Same k w v)) := by
  obtain ⟨c, f, hst, hproperty, hpasses, hf, hcomputes⟩ := exists_testFormula hs hk hv
    (PropertyPath.exists_not_blank_of_plain hpath) ht family
  refine ⟨⟨f⟩, predicate_of_memberFormula hst hpasses (hproperty.symm ▸ hpath) hr hf, ?_⟩
  intro ρ _ row memberType held w hw hheld
  have hread : r.path.read row = .ofValue (t.stored w) := by
    rw [(Family.resolve_eq_ok_iff.mp hr).read_eq_valueAt row, hheld, ValueType.toReading_eq,
      hw.toValue_eq]
  have hcomparison := hcomputes ρ row (by
    show (r.path.read row).OfKind t.kind
    rw [hread]
    exact ScalarType.ofKind_stored w)
  rw [Term.read, hread] at hcomparison
  have halike : Predicate.accepts ⟨f⟩ row = true ↔ t.Satisfies t.Alike k w v :=
    hcomparison.trans (ScalarType.holds_stored_iff hs hk)
  refine ⟨halike, fun hfits => ?_⟩
  rwa [ScalarType.alike_eq_same hfits] at halike

end CriteriaSet

namespace Sample

/-- Numbers of 64 bits with a sign. -/
def int64Type : ScalarType := .integer .int64

def negative : int64Type.Carrier := (⟨-5, by decide⟩ : IntegerForm.int64.Carrier)

def positive : int64Type.Carrier := (⟨3, by decide⟩ : IntegerForm.int64.Carrier)

/-- An order with a negative number is among those with numbers below a positive one. -/
theorem accepts_test_iff_order :
    ∃ p, (CriteriaSet.Step.lessThan (.scalar int64Type) "id" positive).predicate shop default
        .order = .ok p ∧ p.accepts (order (.signed (-5)) .null) = true := by
  obtain ⟨p, hp, haccepts⟩ := @CriteriaSet.accepts_test_iff TypeName shop .order int64Type .lt
    (by decide) (Or.inr (Or.inr rfl)) _ _ _ (.value positive) "id" _ rfl _ rfl rfl
  have hbefore : int64Type.Before negative positive := by
    show (-5 : Int) < 3
    decide
  obtain ⟨-, hown⟩ := haccepts Row (order (.signed (-5)) .null) (.scalar int64Type) negative _
    (.value negative) rfl
  exact ⟨p, hp, (hown trivial).mpr ⟨_, rfl, _, rfl, hbefore⟩⟩

/-- Flags of 128 bits. -/
def big : EnumType := ⟨"Big", .flags .nat128⟩

def bigZero : big.form.Carrier := (⟨0, by decide⟩ : IntegerForm.nat128.Carrier)

/-- The flag that is the first beyond a word. -/
def bigBeyond : big.form.Carrier := (⟨2 ^ 64, by decide⟩ : IntegerForm.nat128.Carrier)

def vault : Family Unit := fun _ => ⟨"Vault", [⟨"Total", .scalar .enum, false⟩]⟩

def vaultOf (v : big.form.Carrier) : Row :=
  .mk [("Total", (ValueType.scalar (.enum big)).toReading v)]

/-- A test for no flags accepts a vault that holds a flag. -/
theorem equal_accepts_unequal :
    ∃ p, (CriteriaSet.Step.equal (.scalar (.enum big)) "Total" bigZero).predicate vault default
        () = .ok p ∧
      p.accepts (vaultOf bigBeyond) = true ∧ ¬ (ScalarType.enum big).Same bigBeyond bigZero := by
  refine ⟨_, rfl, rfl, ?_⟩
  intro hsame
  have hval : (2 ^ 64 : Int) = 0 := congrArg Subtype.val hsame
  exact absurd hval (by decide)

end Sample

end Winnow
