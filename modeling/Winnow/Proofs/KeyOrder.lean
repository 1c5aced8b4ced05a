/-
  The order of sort keys.

  The values of one scalar member are nulls and values of one kind. If its numbers are also of one
  representation and none of them is a NaN (`Scalar.IsKey`), the comparison of keys orders them up
  to ties, with the nulls at the end (`preordersOn_compareKeys`). Each kind is compared by a rank
  with an order of its own; geometries and lists have no order and all tie.

  Without the two conditions on numbers this fails: a NaN ties with every number, and a comparison
  of an integer with a double is one of doubles.
-/
import Winnow.Proofs.StableSort
import Winnow.Proofs.Conformance

namespace Winnow

/-! ## Numbers -/

/-- The representations of numbers. -/
inductive NumberForm where
  | signed
  | unsigned
  | float
  deriving DecidableEq, Repr

namespace Number

def form : Number → NumberForm
  | .signed _ => .signed
  | .unsigned _ => .unsigned
  | .float _ => .float

def isNaN : Number → Bool
  | .float x => x.isNaN
  | _ => false

/-- The place of a number among those of its representation; that of a NaN means nothing. -/
def place : Number → Int
  | .signed n => n.toInt
  | .unsigned n => n.toNat
  | .float x => x.position?.getD 0

/-- Numbers of one representation that are not NaNs are compared by their places. -/
theorem compare?_of_form {a b : Number} (h : a.form = b.form) (ha : a.isNaN = false)
    (hb : b.isNaN = false) : a.compare? b = some (compare a.place b.place) := by
  cases a with
  | signed m => cases b <;> first | exact NumberForm.noConfusion h | rfl
  | unsigned m => cases b <;> first | exact NumberForm.noConfusion h | rfl
  | float x =>
    cases b with
    | float y =>
      cases x <;> cases y <;>
        first | rfl | exact absurd ha (by decide) | exact absurd hb (by decide)
    | _ => exact NumberForm.noConfusion h

end Number

/-! ## Single values -/

/-- A single value of a kind, where a number is of one representation and not a NaN. -/
def Scalar.IsKey (kind : Kind) (form : NumberForm) (s : Scalar) : Prop :=
  s.kind = kind ∧ ∀ n, s = .number n → n.form = form ∧ n.isNaN = false

namespace Scalar

/-- How two single values stand as keys: those that do not compare tie. -/
def compareTied (a b : Scalar) : Ordering := (a.compare? b).getD .eq

theorem compareTied_swap (a b : Scalar) : b.compareTied a = (a.compareTied b).swap := by
  rw [compareTied, compareTied, compare?_swap a b]
  cases a.compare? b <;> rfl

theorem compareTied_number {m n : Number} {kind : Kind} {form : NumberForm}
    (hm : (number m).IsKey kind form) (hn : (number n).IsKey kind form) :
    (number m).compareTied (number n) = compare m.place n.place := by
  obtain ⟨hfm, hnm⟩ := hm.2 m rfl
  obtain ⟨hfn, hnn⟩ := hn.2 n rfl
  show (m.compare? n).getD .eq = _
  rw [Number.compare?_of_form (hfm.trans hfn.symm) hnm hnn]
  rfl

/-- The values of one kind are ordered up to ties, each kind by an order of its own. -/
theorem preordersOn_compareTied (kind : Kind) (form : NumberForm) :
    PreordersOn (IsKey kind form) compareTied where
  swap _ _ := compareTied_swap _ _
  trans {a b c} ha hb hc hab hbc := by
    have hkb : a.kind = b.kind := ha.1.trans hb.1.symm
    have hkc : a.kind = c.kind := ha.1.trans hc.1.symm
    cases a with
    | number =>
      cases b <;> first | exact Kind.noConfusion hkb | skip
      cases c <;> first | exact Kind.noConfusion hkc | skip
      rw [compareTied_number ha hb] at hab
      rw [compareTied_number hb hc] at hbc
      rw [compareTied_number ha hc]
      exact Std.TransOrd.isLE_trans hab hbc
    | geometry =>
      cases c <;> first | exact Kind.noConfusion hkc | rfl
    | _ =>
      cases b <;> first | exact Kind.noConfusion hkb | skip
      cases c <;> first | exact Kind.noConfusion hkc | skip
      -- The equations are rewritten one by one: ranks are too large to be compared by evaluation.
      rw [compareTied, compare?, Option.getD_some] at hab hbc ⊢
      exact Std.TransOrd.isLE_trans hab hbc

end Scalar

/-! ## Readings -/

namespace Reading

variable {ρ : Type}

/-- A reading that a member of a kind may have as a sort key: a null, a list, or a single value
whose numbers are of one representation and not NaNs. -/
def IsKey (kind : Kind) (form : NumberForm) (f : Reading ρ) : Prop :=
  f = .null ∨ (kind = .array ∧ ∃ items, f = .list items) ∨
    ∃ s, f = .scalar s ∧ s.IsKey kind form

/-- The number that is read is not a NaN and of the representation. -/
def HasForm (form : NumberForm) (f : Reading ρ) : Prop :=
  ∀ n, f = .scalar (.number n) → n.form = form ∧ n.isNaN = false

theorem isKey_of_kind? {kind : Kind} {form : NumberForm} {f : Reading ρ}
    (h : f = .null ∨ f.kind? = some kind) (hform : f.HasForm form) : f.IsKey kind form := by
  rcases h with rfl | hkind
  · exact Or.inl rfl
  · cases f with
    | scalar s =>
      refine Or.inr (Or.inr ⟨s, rfl, Option.some.inj hkind, ?_⟩)
      rintro n rfl
      exact hform n rfl
    | list items => exact Or.inr (Or.inl ⟨(Option.some.inj hkind).symm, items, rfl⟩)
    | _ => exact absurd hkind (by simp [kind?])

theorem compareKeys_swap (a b : Reading ρ) : b.compareKeys a = (a.compareKeys b).swap := by
  cases a <;> cases b <;> first | rfl | exact Scalar.compareTied_swap _ _

/-- Keys are ordered up to ties, with the nulls at the end. -/
theorem preordersOn_compareKeys (kind : Kind) (form : NumberForm) :
    PreordersOn (IsKey kind form : Reading ρ → Prop) compareKeys where
  swap _ _ := compareKeys_swap _ _
  trans {a b c} ha hb hc hab hbc := by
    rcases hc with rfl | ⟨-, _, rfl⟩ | ⟨z, rfl, hz⟩
    case inl => rcases ha with rfl | ⟨-, _, rfl⟩ | ⟨x, rfl, -⟩ <;> rfl
    all_goals
      rcases hb with rfl | ⟨hk, _, rfl⟩ | ⟨y, rfl, hy⟩
      case inl => exact absurd hbc Bool.false_ne_true
      -- Two values are left, and nothing but a null is after all values; a list ties with all.
      all_goals
        rcases ha with rfl | ⟨-, _, rfl⟩ | ⟨x, rfl, hx⟩
        case inl => exact absurd hab Bool.false_ne_true
        all_goals first
          | exact (Scalar.preordersOn_compareTied kind form).trans hx hy hz hab hbc
          | exact absurd (hx.1.trans hk) x.kind_ne_array
          | rfl

end Reading

end Winnow
