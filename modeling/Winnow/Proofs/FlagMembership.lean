/-
  Membership among flags.

  A member that is an enum or a set of flags is in a single operand if the operand has every bit
  that the member has, which the predicate finds out by joining the two words and comparing the
  result with the operand's. `Flags.Within` says it bit by bit, and `Flags.within_iff` is the word
  that is computed.

  `membership_of_flags`, the main statement, is about operands of the enum's type and of the type
  with a null added. The joined word of a null is a null, and two nulls are equal: a null operand is
  a value that every row is in, with or without flags of its own, where other members refuse it.
  `null_operand_accepts_flags` is a row that it lets through.
-/
import Winnow.Proofs.Agreement

namespace Winnow

variable {ι ρ : Type}

/-! ## Flags as bits -/

/-- Every bit of the first word is one of the second. -/
def Flags.Within (a b : UInt64) : Prop :=
  ∀ k, a.toNat.testBit k = true → b.toNat.testBit k = true

/-- The flags that are joined to others add nothing exactly if the others have them. -/
theorem Flags.within_iff (a b : UInt64) : Flags.Within a b ↔ a ||| b = b := by
  rw [← UInt64.toNat_inj, UInt64.toNat_or]
  constructor
  · intro h
    refine Nat.eq_of_testBit_eq fun k => ?_
    rw [Nat.testBit_or]
    cases ha : a.toNat.testBit k with
    | true => rw [h k ha, Bool.true_or]
    | false => rw [Bool.false_or]
  · intro h k ha
    rw [← h, Nat.testBit_or, ha, Bool.true_or]

/-! ## The formula -/

/-- What an operator of membership asks where `P` is the membership: that, or the opposite. -/
def Operator.Asks (op : Operator) (P : Prop) : Prop :=
  if op.isNegatedMembership = true then ¬ P else P

/-- Of what always holds only the operators that are not negated hold. -/
theorem Operator.asks_iff_of (op : Operator) {P : Prop} (h : P) :
    op.Asks P ↔ op.isNegatedMembership = false := by
  rw [Asks, iff_true_intro h]
  cases op.isNegatedMembership <;> simp

/-- Flags that are among those of a value are flags without others. -/
theorem Reading.flagsWithin_enum_iff (f : Reading ρ) (b : UInt64) :
    f.FlagsWithin (.scalar (.enum b)) ↔ ∃ a, f = .scalar (.enum a) ∧ Flags.Within a b := by
  simp [FlagsWithin, Flags.within_iff]

/-- Every reading is among the flags of a null. -/
theorem Reading.flagsWithin_null (f : Reading ρ) : f.FlagsWithin .null := Or.inl rfl

/-! ## The criterion -/

namespace Criterion

open Formula

variable {c : Criterion} {family : Family ι} {i : ι} {r : ResolvedMember ι}

theorem ne_of_isMembership (hop : c.operator.isMembership = true) {op : Operator}
    (h : op.isMembership = false) : c.operator ≠ op := by
  rintro rfl
  exact absurd hop (by rw [h]; decide)

/-- An operator of membership asks nothing of the second value. -/
theorem forall_passes_of_isMembership (hop : c.operator.isMembership = true)
    (hpath : ∃ ch ∈ c.property.toList, isBlank ch = false)
    (hs : c.type.supports c.operator = true) (check : Check) : c.Passes check :=
  forall_passes_of_ne hpath hs (ne_of_isMembership hop rfl) (ne_of_isMembership hop rfl) check

/-- An operator of membership with an operand that is no list comes to the test of flags. -/
theorem enumFormula?_of_isMembership (hk : c.operandKind = .enum)
    (hop : c.operator.isMembership = true) (hv : c.value.items? = none) (m : Term) :
    enumFormula? m c =
      some (negatedIf c.operator.isNegatedMembership (flagsFormula m c.value)) := by
  obtain ⟨property, op, connector, value, value2, type⟩ := c
  change op.isMembership = true at hop
  rw [enumFormula?, if_neg (not_not.mpr hk)]
  cases value with
  | list items => exact absurd hv (by simp [Value.items?])
  | null | scalar => cases op <;> first | rfl | exact absurd hop (by decide)

theorem memberFormula_of_flags (hk : c.operandKind = .enum)
    (hop : c.operator.isMembership = true) (hv : c.value.items? = none)
    (ht : r.type = .scalar .enum) (o : Options) :
    memberFormula family o r c =
      .ok (negatedIf c.operator.isNegatedMembership (flagsFormula (.member r.path) c.value)) := by
  rw [memberFormula_of_ne (ne_of_isMembership hop rfl) (ne_of_isMembership hop rfl), ht]
  show c.orUnsupported (enumFormula? (.member r.path) c) = _
  rw [enumFormula?_of_isMembership hk hop hv]
  rfl

theorem stored_enum_cases {e : EnumType} (v : Option e.form.Carrier) :
    (ScalarType.enum e).stored v = .null ∨
      ∃ b, (ScalarType.enum e).stored v = .scalar (.enum b) := by
  cases v with
  | none => exact Or.inl rfl
  | some w => exact Or.inr ⟨e.form.bits w, rfl⟩

theorem holds_membership_iff [Record ρ] (op : Operator) (m : Term) {v : Value}
    (hv : v = .null ∨ ∃ b, v = .scalar (.enum b)) (row : ρ) :
    (negatedIf op.isNegatedMembership (flagsFormula m v)).holds row = true ↔
      op.Asks ((m.read row).FlagsWithin v) := by
  rw [holds_negatedIf, holds_flagsFormula_iff m hv, Operator.Asks]

/-- An operand of an enum's type, or of the type with a null added, is taken by every operator of
membership and compiles at every path to an enum. -/
theorem exists_membership_of_flags {e : EnumType} {operandType : ValueType}
    {operand : operandType.Carrier} {v : Option e.form.Carrier}
    (hv : (ScalarType.enum e).Holds operandType operand v) {op : Operator}
    (hop : op.isMembership = true) {property : String} {segments : List String}
    (hpath : PropertyPath.parse property = .ok (.plain segments))
    (hr : family.resolve i segments rowParameter = .ok r) (ht : r.type = .scalar .enum)
    (value2 : Option Value) (connector : Connector) (o : Options) :
    ∃ c, Criterion.new operandType property op operand value2 connector = .ok c ∧
      Predicate.compile family o i ⟨[c]⟩ = .ok ⟨negatedIf op.isNegatedMembership
        (flagsFormula (.member r.path) ((ScalarType.enum e).stored v))⟩ := by
  have hmem : op ∈ Kind.enum.operators := by
    cases op <;> first | exact absurd hop (by decide) | decide
  have hitems : (operandType.toValue operand).items? = none := by
    rw [hv.toValue_eq]
    cases v <;> rfl
  let c : Criterion := ⟨property, op, connector, operandType.toValue operand, value2.getD .null,
    operandType.operandType⟩
  refine ⟨c, ?_, ?_⟩
  · have hpasses := forall_passes_of_isMembership (c := c) hop
      (PropertyPath.exists_not_blank_of_plain hpath) (hv.supports hmem)
    exact (c.decides_typed.1 c).mpr ⟨hpasses, rfl⟩
  · rw [Predicate.compile_singleton_eq_ok_iff, compile_of_plain (c := c) hpath, compileAt_eq_ok_iff]
    refine ⟨r, hr, ?_⟩
    rw [memberFormula_of_flags (c := c) hv.operandKind hop hitems ht o, ← hv.toValue_eq]

/-- **An enum is in an operand that has all its flags, and in a null operand always.**

    For a path without brackets to a member that is an enum or a set of flags, an operator of
    membership, and an operand of such a type or of the type with a null added: the criterion is
    built and compiles. With a value as its operand it accepts a row exactly if the row holds flags
    there that are all among the operand's, or if it does not for a negated operator; flags count as
    far as they are in a word. With a null as its operand it accepts every row, or none for a
    negated operator, whatever the row holds. The row need not conform, and the path may be
    nullable. -/
theorem membership_of_flags {e : EnumType} {operandType : ValueType}
    {operand : operandType.Carrier} {v : Option e.form.Carrier}
    (hv : (ScalarType.enum e).Holds operandType operand v) {op : Operator}
    (hop : op.isMembership = true) {property : String} {segments : List String}
    (hpath : PropertyPath.parse property = .ok (.plain segments))
    (hr : family.resolve i segments rowParameter = .ok r) (ht : r.type = .scalar .enum)
    (value2 : Option Value) (connector : Connector) (o : Options) :
    ∃ c p, Criterion.new operandType property op operand value2 connector = .ok c ∧
      Predicate.compile family o i ⟨[c]⟩ = .ok p ∧
      ∀ (ρ : Type) [Record ρ] (row : ρ),
        (∀ w, v = some w → (p.accepts row = true ↔ op.Asks (∃ a,
          family.valueAt i segments row = .scalar (.enum a) ∧ Flags.Within a (e.form.bits w)))) ∧
        (v = none → p.accepts row = !op.isNegatedMembership) := by
  obtain ⟨c, hc, hp⟩ := exists_membership_of_flags hv hop hpath hr ht value2 connector o
  refine ⟨c, _, hc, hp, fun ρ _ row => ?_⟩
  have hread : (Term.member r.path).read row = family.valueAt i segments row :=
    (Family.resolve_eq_ok_iff.mp hr).read_eq_valueAt row
  have haccepts := holds_membership_iff op (.member r.path) (stored_enum_cases v) row
  rw [hread] at haccepts
  refine ⟨?_, ?_⟩
  · rintro w rfl
    rw [← Reading.flagsWithin_enum_iff]
    exact haccepts
  · rintro rfl
    rw [Bool.eq_iff_iff, Bool.not_eq_true']
    exact haccepts.trans (op.asks_iff_of (Reading.flagsWithin_null _))

end Criterion

/-! ## Customers with tags -/

namespace Sample

/-- Tags of a customer, as flags in an unsigned integer. -/
def tags : EnumType := ⟨"Tags", .flags .nat32⟩

/-- The first and the third tag. -/
def firstAndThird : tags.form.Carrier := (⟨5, by decide⟩ : IntegerForm.nat32.Carrier)

def tagged : Family Unit := fun _ => ⟨"Customer", [⟨"Tags", .scalar .enum, false⟩]⟩

def customerWith (bits : UInt64) : Row := .mk [("Tags", .scalar (.enum bits))]

theorem conforms_customerWith (bits : UInt64) : tagged.Conforms () (customerWith bits) := by
  rw [Family.conforms_iff]
  intro m hm
  simp only [tagged, List.mem_cons, List.not_mem_nil, or_false] at hm
  subst hm
  exact Or.inr rfl

/-- A customer with the first tag is among those with no others than the first and the third, and a
customer with all three is not. -/
theorem membership_of_flags_customer :
    ∃ c p, Criterion.new (.scalar (.enum tags)) "tags" .isIn firstAndThird none .and = .ok c ∧
      Predicate.compile tagged default () ⟨[c]⟩ = .ok p ∧
      p.accepts (customerWith 1) = true ∧ ¬ p.accepts (customerWith 7) = true := by
  have hpath : PropertyPath.parse "tags" = .ok (.plain ["tags"]) := rfl
  have hr : tagged.resolve () ["tags"] rowParameter =
      .ok ⟨⟨rowParameter, ["Tags"]⟩, "Customer", .scalar .enum, false⟩ := rfl
  have hop : Operator.isIn.isMembership = true := rfl
  obtain ⟨c, p, hc, hp, haccepts⟩ := Criterion.membership_of_flags
    (ScalarType.Holds.value (t := .enum tags) firstAndThird) hop hpath hr rfl none .and default
  refine ⟨c, p, hc, hp, ?_, ?_⟩
  · refine ((haccepts Row (customerWith 1)).1 firstAndThird rfl).mpr ⟨1, rfl, ?_⟩
    exact (Flags.within_iff _ _).mpr rfl
  · rw [(haccepts Row (customerWith 7)).1 firstAndThird rfl]
    rintro ⟨a, ha, hwithin⟩
    obtain rfl : a = 7 := by
      cases ha
      rfl
    exact absurd ((Flags.within_iff _ _).mp hwithin) (by decide)

/-- With no operand at all the same criterion accepts a customer who has a tag. -/
theorem null_operand_accepts_flags :
    ∃ c p, Criterion.new (.optional (.scalar (.enum tags))) "tags" .isIn
        (none : Option tags.form.Carrier) none .and = .ok c ∧
      Predicate.compile tagged default () ⟨[c]⟩ = .ok p ∧
      tagged.Conforms () (customerWith 5) ∧ p.accepts (customerWith 5) = true :=
  ⟨_, _, rfl, rfl, conforms_customerWith 5, rfl⟩

end Sample

end Winnow
