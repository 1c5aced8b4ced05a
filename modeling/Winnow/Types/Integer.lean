/-
  Integer types: the integers of a width, signed or not. Those of at most 64 bits are the types
  that numbers have; flags may have any.
-/
import Winnow.Value.Number

namespace Winnow

/-- The integers of a width, signed or not. -/
structure IntegerForm where
  isSigned : Bool
  bits : Nat
  deriving DecidableEq

namespace IntegerForm

def int8 : IntegerForm := { isSigned := true, bits := 8 }
def int16 : IntegerForm := { isSigned := true, bits := 16 }
def int32 : IntegerForm := { isSigned := true, bits := 32 }
def int64 : IntegerForm := { isSigned := true, bits := 64 }
def int128 : IntegerForm := { isSigned := true, bits := 128 }
def nat8 : IntegerForm := { isSigned := false, bits := 8 }
def nat16 : IntegerForm := { isSigned := false, bits := 16 }
def nat32 : IntegerForm := { isSigned := false, bits := 32 }
def nat64 : IntegerForm := { isSigned := false, bits := 64 }
def nat128 : IntegerForm := { isSigned := false, bits := 128 }

/-- The integer is one of the form. -/
def Admits (f : IntegerForm) (n : Int) : Prop :=
  if f.isSigned then -(pow2 f.bits : Int) ≤ 2 * n ∧ 2 * n < pow2 f.bits
  else 0 ≤ n ∧ n < pow2 f.bits

instance (f : IntegerForm) (n : Int) : Decidable (f.Admits n) := by
  unfold Admits
  infer_instance

/-- The integers of a form. -/
abbrev Carrier (f : IntegerForm) : Type := { n : Int // f.Admits n }

/-- The integer as one of the form, if it is. -/
def ofInt? (f : IntegerForm) (n : Int) : Option f.Carrier :=
  if h : f.Admits n then some ⟨n, h⟩ else none

end IntegerForm

/-- An integer type of numbers, which have at most 64 bits. -/
structure IntegerType extends IntegerForm where
  name : String
  bits_le : bits ≤ 64 := by decide
  deriving DecidableEq

namespace IntegerType

def int8 : IntegerType := { IntegerForm.int8 with name := "i8" }
def int16 : IntegerType := { IntegerForm.int16 with name := "i16" }
def int32 : IntegerType := { IntegerForm.int32 with name := "i32" }
def int64 : IntegerType := { IntegerForm.int64 with name := "i64" }
def intSize : IntegerType := { IntegerForm.int64 with name := "isize" }
def nat8 : IntegerType := { IntegerForm.nat8 with name := "u8" }
def nat16 : IntegerType := { IntegerForm.nat16 with name := "u16" }
def nat32 : IntegerType := { IntegerForm.nat32 with name := "u32" }
def nat64 : IntegerType := { IntegerForm.nat64 with name := "u64" }
def natSize : IntegerType := { IntegerForm.nat64 with name := "usize" }

/-- Every integer type that members and operands may have. -/
def all : List IntegerType :=
  [int8, int16, int32, int64, intSize, nat8, nat16, nat32, nat64, natSize]

/-- The number that stands for an integer of a type. -/
def toNumber (t : IntegerType) (n : t.Carrier) : Number :=
  if t.isSigned then .signed (Int64.ofInt n.val) else .unsigned (UInt64.ofInt n.val)

end IntegerType

end Winnow
