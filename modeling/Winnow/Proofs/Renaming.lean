/-
  The name of the parameter means nothing.

  A formula with the parameter renamed holds of the same records (`Formula.holds_rename`), and
  compiling a criterion for a member that is reached from another parameter is compiling it and
  renaming (`Criterion.memberFormula_withParameter`). So what is compiled for the elements of a
  collection, and what is compiled for rows of the element type, is one formula in two spellings.

  Every part of a formula that a criterion compiles to is built from the member and constants;
  there is one lemma for each function that builds a part.
-/
import Winnow.Proofs.Compilation
import Winnow.Proofs.Resolution

namespace Winnow

variable {ι : Type}

/-! ## Renaming -/

/-- The path, from a parameter of another name. -/
def MemberPath.rename (parameter : String) (p : MemberPath) : MemberPath :=
  { p with parameter := parameter }

/-- The term with every member read from a parameter of another name. -/
def Term.rename (parameter : String) : Term → Term
  | .member path => .member (path.rename parameter)
  | .constant v => .constant v
  | .trim t => .trim (t.rename parameter)
  | .normalize t => .normalize (t.rename parameter)
  | .bits t => .bits (t.rename parameter)
  | .bitOr a b => .bitOr (a.rename parameter) (b.rename parameter)

/-- The formula with the parameter renamed. What is said of the elements of a collection has a
parameter of its own. -/
def Formula.rename (parameter : String) : Formula → Formula
  | .constant b => .constant b
  | .and f g => .and (f.rename parameter) (g.rename parameter)
  | .or f g => .or (f.rename parameter) (g.rename parameter)
  | .not f => .not (f.rename parameter)
  | .compare c a b => .compare c (a.rename parameter) (b.rename parameter)
  | .textTest t target argument => .textTest t (target.rename parameter) (argument.rename parameter)
  | .oneOf items item => .oneOf items (item.rename parameter)
  | .spatial t target geometry distance => .spatial t (target.rename parameter) geometry distance
  | .any collection f => .any (collection.rename parameter) f

theorem Term.read_rename {ρ : Type} [Record ρ] (parameter : String) (t : Term) (row : ρ) :
    (t.rename parameter).read row = t.read row := by
  induction t with
  | member | constant => rfl
  | trim t ih | normalize t ih | bits t ih => simp only [Term.rename, Term.read, ih]
  | bitOr a b iha ihb => simp only [Term.rename, Term.read, iha, ihb]

theorem Formula.holds_rename {ρ : Type} [Record ρ] (parameter : String) (f : Formula) (row : ρ) :
    (f.rename parameter).holds row = f.holds row := by
  induction f with
  | constant => rfl
  | and f g ihf ihg | or f g ihf ihg => simp only [Formula.rename, Formula.holds, ihf, ihg]
  | not f ih => simp only [Formula.rename, Formula.holds, ih]
  | compare | textTest | oneOf | spatial =>
    simp only [Formula.rename, Formula.holds, Term.read_rename]
  | any => rfl

/-! ## Compiled formulas -/

namespace Criterion

open Formula

theorem sides_rename (parameter : String) (normalize : Bool) (m : Term) (value : Value) :
    sides normalize (m.rename parameter) value =
      ((sides normalize m value).1.rename parameter,
        (sides normalize m value).2.rename parameter) := by
  unfold sides
  split <;> rfl

theorem guardedIf_rename (parameter : String) (nullable : Bool) (m : Term) (f : Formula) :
    guardedIf nullable (m.rename parameter) (f.rename parameter) =
      (guardedIf nullable m f).rename parameter := by
  cases nullable <;> rfl

theorem negatedIf_rename (parameter : String) (negated : Bool) (f : Formula) :
    negatedIf negated (f.rename parameter) = (negatedIf negated f).rename parameter := by
  cases negated <;> rfl

theorem equalFormula_rename (parameter : String) (normalize nullable : Bool) (m : Term)
    (value : Value) :
    equalFormula normalize nullable (m.rename parameter) value =
      (equalFormula normalize nullable m value).rename parameter := by
  unfold equalFormula
  split
  · rfl
  · rw [sides_rename]
    exact guardedIf_rename parameter nullable m (.compare .eq _ _)

theorem notEqualFormula_rename (parameter : String) (normalize nullable : Bool) (m : Term)
    (value : Value) :
    notEqualFormula normalize nullable (m.rename parameter) value =
      (notEqualFormula normalize nullable m value).rename parameter := by
  unfold notEqualFormula
  split
  · rfl
  · rw [sides_rename]
    cases nullable <;> rfl

theorem affixFormula?_rename (parameter : String) (t : TextTest) (normalize : Bool) (m : Term)
    (kind : Kind) (value : Value) :
    affixFormula? t normalize (m.rename parameter) kind value =
      (affixFormula? t normalize m kind value).map (Formula.rename parameter) := by
  unfold affixFormula?
  split
  · rw [sides_rename]
    rfl
  · rfl

theorem membershipFormula?_rename (parameter : String) (negated normalize nullable : Bool)
    (m : Term) (kind : Kind) (value : Value) :
    membershipFormula? negated normalize nullable (m.rename parameter) kind value =
      (membershipFormula? negated normalize nullable m kind value).map
        (Formula.rename parameter) := by
  unfold membershipFormula?
  split
  · cases negated <;> rfl
  · split
    · rw [sides_rename]
      cases negated <;> cases nullable <;> rfl
    · rfl
  · rfl

theorem scalarFormula?_rename (parameter : String) (o : Options) (m : Term) (kind : Kind)
    (nullable : Bool) (c : Criterion) :
    scalarFormula? o (m.rename parameter) kind nullable c =
      (scalarFormula? o m kind nullable c).map (Formula.rename parameter) := by
  unfold scalarFormula?
  split
  · rfl
  · dsimp only
    split
    · rw [equalFormula_rename]
      rfl
    · rw [notEqualFormula_rename]
      rfl
    · exact affixFormula?_rename ..
    · exact affixFormula?_rename ..
    · split
      · exact congrArg some (guardedIf_rename parameter nullable m (rangeFormula m _ _))
      · rfl
    · split <;> rfl
    · split <;> rfl
    · split <;> rfl
    · split <;> rfl
    · split
      · exact membershipFormula?_rename ..
      · split
        · rw [Option.map_map]
          refine congrArg (fun g => Option.map g _) (funext fun comparison => ?_)
          exact guardedIf_rename parameter nullable m
            (.compare comparison m (.constant (c.value.widenTo kind)))
        · rfl

theorem enumFormula?_rename (parameter : String) (m : Term) (c : Criterion) :
    enumFormula? (m.rename parameter) c =
      (enumFormula? m c).map (Formula.rename parameter) := by
  unfold enumFormula?
  split
  · rfl
  · split
    · rfl
    · rfl
    · split
      · split <;> simp only [Option.map_some, ← negatedIf_rename] <;> rfl
      · rfl

theorem spatialFormula?_rename (parameter : String) (m : Term) (c : Criterion) :
    spatialFormula? (m.rename parameter) c =
      (spatialFormula? m c).map (Formula.rename parameter) := by
  unfold spatialFormula?
  split <;> rfl

/-- The formula for a member that is reached from another parameter is the renamed formula. -/
theorem memberFormula_withParameter (family : Family ι) (o : Options) (r : ResolvedMember ι)
    (parameter : String) (c : Criterion) :
    memberFormula family o (r.withParameter parameter) c =
      (memberFormula family o r c).map (Formula.rename parameter) := by
  have hm : Term.member (r.withParameter parameter).path = (Term.member r.path).rename parameter :=
    rfl
  unfold memberFormula
  dsimp only
  rw [hm]
  simp only [ResolvedMember.withParameter]
  split
  · rfl
  · rfl
  · rw [enumFormula?_rename]
    cases enumFormula? (.member r.path) c <;> rfl
  · rw [spatialFormula?_rename]
    cases spatialFormula? (.member r.path) c <;> rfl
  · rw [scalarFormula?_rename]
    cases scalarFormula? o (.member r.path) _ r.nullable c <;> rfl
  · rfl

end Criterion

end Winnow
