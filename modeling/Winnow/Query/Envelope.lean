/-
  Queries: the rows that criteria accept, sorted, and of these one page. The envelope of a query
  holds its order and its page; it is read from JSON and written as JSON.
-/
import Winnow.Predicate.Compile
import Winnow.Query.SortOrder
import Winnow.Query.PageRequest

namespace Winnow

/-- The order and the page of a query. -/
structure Envelope where
  order : SortOrder
  paging : PageRequest
  deriving DecidableEq, Repr

namespace Envelope

def default : Envelope := ⟨.default, .default⟩

instance : Inhabited Envelope := ⟨default⟩

variable {ι ρ : Type} [Record ρ]

/-- Runs a query: filters by the criteria, sorts, and takes the page. -/
def apply (e : Envelope) (family : Family ι) (i : ι) (o : Options) (criteria : CriteriaSet)
    (rows : List ρ) : Except Error (List ρ) := do
  let p ← Predicate.compile family o i criteria
  let sorted ← e.order.sort family i (p.filter rows)
  return e.paging.select sorted

/-- The fields of an envelope, in order; in place of criteria there may be a null. -/
def fields : List (Json.Field Envelope) :=
  [.of "Order" SortOrder.ofJson fun o e => { e with order := o },
    .of "Paging" PageRequest.ofJson fun p e => { e with paging := p },
    .of "Criteria" Json.bindNull fun _ e => e]

/-- Reads an envelope; parts that are left out are the default ones. -/
def ofJson : Json → Json.Bound Envelope := Json.bindRecord fields default

def toJson (e : Envelope) : Json :=
  .ofEntries [("Order", e.order.toJson), ("Paging", e.paging.toJson), ("Criteria", .null)]

end Envelope

namespace Options

/-- The fields of the options. -/
def fields : List (Json.Field Options) :=
  [.of "normalize_text" Json.bindBool fun b o => { o with normalizeText := b }]

/-- Reads options; without its field they are the default ones. -/
def ofJson : Json → Json.Bound Options := Json.bindRecord fields Inhabited.default

def toJson (o : Options) : Json := .ofEntries [("normalize_text", .bool o.normalizeText)]

end Options

end Winnow
