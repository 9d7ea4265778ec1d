import VolumePricing.Service.Respond
import VolumePricing.Store.Memory

/-!
# Requests that may overflow

An overflow ends one request and nothing else: the request is not answered, and
the next one finds what was done by then. Only two calls can overflow after
they have changed a table. Adding units opens the cart before it counts them,
and a new tier takes its id before its place. A change of the cart is made
before the summary that answers it is priced.
-/

namespace VolumePricing

open Http (Request Response)

/-- What a shopper can have done to the stored cart. -/
inductive CartChange
  | add (item : ItemRequest)
  | set (productId : UInt32) (quantity : Int64)
  | remove (productId : UInt32)
  deriving DecidableEq, Repr

/-- The change that a request asks for, at an endpoint that changes the cart. -/
def Extract.cartChange? (r : Request) : Endpoint → Option (Extracted CartChange)
  | .addItem => some ((body ItemRequest r).map .add)
  | .updateItem place => some ((id "product_id" place).bind fun productId =>
    (body QuantityRequest r).map (.set productId ·.quantity))
  | .removeItem place => some ((id "product_id" place).map .remove)
  | _ => none

namespace Service

variable {σ : Type}

section Asked

variable (s : Service σ)

/-- The endpoint that a request comes to, and the shopper it comes for. -/
def admitted? (r : Request) (moment : Moment) : Option (Endpoint × String) :=
  if r.method = "OPTIONS" then none
  else do
    let route ← Route.ofPath? r.path
    let endpoint ← route.endpoint? r.method
    let claims ← (s.screen endpoint.access r moment).toOption
    return (endpoint, (claims.map (·.subject)).getD "")

/-- Makes the change in the store, and no summary. -/
def write (user : String) : CartChange → ServiceAction σ Unit
  | .add item => do
    if item.quantity ≤ 0 then throw .quantityNotPositive
    let product ← s.product item.productId
    let _ ← call (s.store.addItem user product item.quantity)
  | .set productId quantity => do
    let _ ← call (s.store.setQuantity user productId quantity)
  | .remove productId => do
    let _ ← call (s.store.removeItem user productId)

/-- The shopper and the change that a request is admitted for. -/
def cartChange? (r : Request) (moment : Moment) : Option (String × CartChange) := do
  let (endpoint, user) ← s.admitted? r moment
  let asked ← Extract.cartChange? r endpoint
  let c ← asked.toOption
  return (user, c)

end Asked

variable (s : Service Memory)

/-- What a request leaves that overflows. A change of the cart that was made stays made; one that
overflowed itself leaves the cart opened. A tier that found no place leaves its id given away. All
other requests that overflow have only read. -/
def leaves (r : Request) (moment : Moment) (shop : Shop Memory) : Shop Memory :=
  match s.cartChange? r moment with
  | some (user, c) =>
    match s.write user c shop with
    | .ok (_, written) => written
    | .error _ => { shop with store := { shop.store with carts := shop.store.carts.opened user } }
  | none =>
    match s.admitted? r moment with
    | some (.createTier, _) =>
      { shop with store := { shop.store with tiers := shop.store.tiers.numbered } }
    | _ => shop

/-- What becomes of a request: its response or an overflow, and the shop after either. -/
def handle (r : Request) (moment : Moment) (shop : Shop Memory) : Checked Response × Shop Memory :=
  match s.respond r moment shop with
  | .ok (response, answered) => (.ok response, answered)
  | .error o => (.error o, s.leaves r moment shop)

end Service

end VolumePricing
