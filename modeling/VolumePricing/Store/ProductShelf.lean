import VolumePricing.FirstMatch
import VolumePricing.Product
import VolumePricing.Store.Error

/-!
# The shelf of products

Products are kept by increasing id, one for each id.
-/

namespace VolumePricing

structure ProductShelf where
  products : List Product
  deriving DecidableEq, Repr

namespace ProductShelf

/-- Puts a product in its place, where it replaces the one of the same id. -/
def put (p : Product) : List Product → List Product
  | [] => [p]
  | q :: qs =>
    if p.id < q.id then p :: q :: qs
    else if p.id = q.id then p :: qs
    else q :: put p qs

/-- Of several products with one id the last is kept. -/
def ofProducts (products : List Product) : ProductShelf :=
  ⟨products.foldl (fun shelf p => put p shelf) []⟩

def get? (s : ProductShelf) (id : UInt32) : Option Product := s.products.find? (·.id == id)

def updatePrices (s : ProductShelf) (id : UInt32) (prices : ProductPrices) :
    Except StoreError ProductShelf :=
  match s.get? id with
  | none => .error (.productMissing id)
  | some _ => .ok ⟨modifyFirst (·.id == id) (·.setPrices prices) s.products⟩

end ProductShelf

end VolumePricing
