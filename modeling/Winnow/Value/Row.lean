/-
  Rows: records given by what each of their members holds.
-/
import Winnow.Value.Reading

namespace Winnow

/-- A record with named cells. -/
inductive Row where
  | mk (cells : List (String × Reading Row))

namespace Row

def cells : Row → List (String × Reading Row)
  | .mk cells => cells

instance : Inhabited Row := ⟨.mk []⟩

/-- A row answers the first of its cells that has exactly the name asked for. -/
instance : Record Row where
  read? r name := (r.cells.find? (·.1 == name)).map Prod.snd

end Row

end Winnow
