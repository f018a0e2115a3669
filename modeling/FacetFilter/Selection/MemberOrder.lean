import FacetFilter.Facet.AsNumber
import FacetFilter.Facet.Category
import FacetFilter.Selection.MemberSet

/-! The order of the members within one query parameter: as they arrived, or sorted, so that
one selection always has one query. -/

namespace FacetFilter

inductive MemberOrder where
  | sorted
  | insertion
deriving DecidableEq, Repr

namespace MemberOrder

/-- AS values by number first, then all other values by code points. -/
def asnLe (a b : String) : Bool :=
  match AsNumber.ofText? a, AsNumber.ofText? b with
  | some m, some n => m ≤ n
  | some _, none => true
  | none, some _ => false
  | none, none => a ≤ b

/-- The sorted order of a category. -/
def le (c : Category) (a b : String) : Bool :=
  match c with
  | .asn => asnLe a b
  | .country | .service => a ≤ b

end MemberOrder

/-- The members of a set in the order asked for. -/
def MemberSet.ordered (s : MemberSet) (c : Category) : MemberOrder → List String
  | .insertion => s.inArrivalOrder
  | .sorted => s.members.mergeSort (MemberOrder.le c)

namespace MemberSet

/-- Ordering neither loses nor adds members. -/
theorem ordered_perm (s : MemberSet) (c : Category) (o : MemberOrder) :
    (s.ordered c o).Perm s.members := by
  cases o with
  | sorted => exact List.mergeSort_perm _ _
  | insertion => exact (List.mergeSort_perm _ _).map _

end MemberSet

end FacetFilter
