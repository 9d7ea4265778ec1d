import VolumePricing.Hub.Refresh
import VolumePricing.Service.Refusal
import VolumePricing.Token.Signed

/-!
# The service

A service answers requests over a store. What it was set up with never changes;
the shop is the state that its requests work on. An action may be refused after
it has changed the shop.
-/

namespace VolumePricing

structure Service (σ : Type) where
  store : Store σ
  settings : HubSettings
  authority : Authority

abbrev ServiceAction (σ α : Type) := ExceptT Refusal (StateT (Shop σ) (Except Overflow)) α

namespace Service

variable {σ : Type}

/-- An action of the shop, whose errors become refusals. -/
def shop {α : Type} (action : ShopAction σ α) : ServiceAction σ α := action.adapt .store

/-- A call of the store. -/
def call {α : Type} (action : StoreAction σ α) : ServiceAction σ α := shop (Shop.call action)

/-- The value of an optional answer, or a refusal where there is none. -/
def require {α : Type} (refusal : Refusal) : Option α → ServiceAction σ α
  | some a => pure a
  | none => throw refusal

variable (s : Service σ)

def refresh (user : String) (moment : Moment) : ServiceAction σ CartSummary :=
  shop (Shop.refresh s.store s.settings user moment)

def product (id : UInt32) : ServiceAction σ Product := do
  require (.store (.productMissing id)) (← call (s.store.product? id))

end Service

end VolumePricing
