import VolumePricing.Hub.Basic
import VolumePricing.StableSort
import VolumePricing.Store.Basic

/-!
# Renewing summaries

A refresh reads the cart and the tiers, prices the cart and hands the summary
to the hub. When the cart cannot be read nothing is changed; when the tiers
cannot be listed the cart is priced without any.
-/

namespace VolumePricing

/-- A store and the hub that follows it. -/
structure Shop (σ : Type) where
  store : σ
  hub : Hub

abbrev ShopAction (σ α : Type) := ExceptT StoreError (StateT (Shop σ) (Except Overflow)) α

namespace Shop

variable {σ : Type}

/-- A call of the store, which leaves the hub alone. -/
def call {α : Type} (action : StoreAction σ α) : ShopAction σ α :=
  fun shop => do
    let (result, store) ← action shop.store
    return (result, { shop with store })

/-- The summary of the shopper's cart as it is now. -/
def summarize (store : Store σ) (settings : HubSettings) (user : String) :
    StoreAction σ CartSummary := do
  let cart ← store.cart? user
  let tiers ← store.activeTiers
  (summarizeCart settings.fallback cart tiers : Checked CartSummary)

def refresh (store : Store σ) (settings : HubSettings) (user : String) (moment : Moment) :
    ShopAction σ CartSummary := do
  let summary ← call (summarize store settings user)
  modify fun shop => { shop with hub := shop.hub.observe settings user summary moment }
  return summary

/-- The turns of refreshes that are asked for together, each with its place among them.
The refreshes of one shopper wait for one another, so everyone has a first turn before
anyone has a second. -/
def turns (users : List String) : List (Nat × String) :=
  let counted := users.zipIdx.map fun (user, place) => ((users.take place).count user, place, user)
  (StableSort.sort (·.1) counted).map (·.2)

/-- Takes the turns one after the other. A refresh that fails does not keep the next one from its turn. -/
def takeTurns (store : Store σ) (settings : HubSettings) (moments : Nat → Moment) :
    List (Nat × String) → StateT (Shop σ) (Except Overflow) (List (Nat × Except StoreError CartSummary))
  | [] => return []
  | (place, user) :: rest => do
    let result ← (refresh store settings user (moments 0)).run
    let results ← takeTurns store settings (fun n => moments (n + 1)) rest
    return (place, result) :: results

/-- Refreshes that are asked for together. The results come in the order of the users. -/
def refreshAll (store : Store σ) (settings : HubSettings) (users : List String)
    (moments : Nat → Moment) :
    StateT (Shop σ) (Except Overflow) (List (Except StoreError CartSummary)) := do
  let results ← takeTurns store settings moments (turns users)
  return (StableSort.sort (·.1) results).map (·.2)

/-- The last summary of a tracked shopper, or a new one. -/
def current (store : Store σ) (settings : HubSettings) (user : String) (moment : Moment) :
    ShopAction σ CartSummary := do
  match (← get).hub.find? user with
  | some t => return t.summary
  | none => refresh store settings user moment

/-- Prices loose lines under the active tiers. -/
def price (store : Store σ) (settings : HubSettings) (lines : List CartLine) :
    StoreAction σ CartSummary := do
  let tiers ← store.activeTiers
  (priceLines settings.fallback lines tiers : Checked CartSummary)

end Shop

end VolumePricing
