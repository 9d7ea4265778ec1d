import VolumePricing.Proofs.Service.Endpoints

/-!
# What requests leave alone

A call that staff cause changes one of the tables of the store. What the store
keeps in these calls is kept by the requests of staff.
-/

namespace VolumePricing

open VolumePricing.Action
open Http (Request Response)

variable {σ : Type}

/-- The calls on the tiers leave what they find of a property. -/
structure Store.KeptByTierCalls (s : Store σ) (P : σ → Prop) : Prop where
  createTier : ∀ t, Keeps P (s.createTier t)
  updateTier : ∀ id u, Keeps P (s.updateTier id u)
  deleteTier : ∀ id, Keeps P (s.deleteTier id)
  reorderTiers : ∀ order, Keeps P (s.reorderTiers order)

/-- In memory the tiers are a table of their own. -/
theorem Memory.keptByTierCalls (P : ProductShelf → CartTable → Prop) :
    store.KeptByTierCalls fun m => P m.products m.carts where
  createTier t := keeps_change fun m a m' hm h => by
    rcases hc : m.tiers.create t with o | ⟨created, tiers⟩ <;> rw [hc] at h <;> cases h
    exact hm
  updateTier id u := keeps_change fun m a m' hm h => by
    rcases hc : m.tiers.update id u with e | ⟨updated, tiers⟩ <;> rw [hc] at h <;> cases h
    exact hm
  deleteTier id := keeps_change fun m a m' hm h => by
    rcases hc : m.tiers.delete id with e | tiers <;> rw [hc] at h <;> cases h
    exact hm
  reorderTiers order := keeps_change fun m a m' hm h => by
    cases h
    exact hm

/-- In memory the products are a table of their own. -/
theorem Memory.keeps_updatePrices (P : TierTable → CartTable → Prop) (id : UInt32)
    (prices : ProductPrices) :
    Keeps (fun m => P m.tiers m.carts) (store.updatePrices id prices) :=
  keeps_change fun m a m' hm h => by
    rcases hp : m.products.updatePrices id prices with e | products <;> rw [hp] at h <;> cases h
    exact hm

/-- An outage keeps what the store would keep. -/
theorem Store.KeptByTierCalls.during {s : Store σ} {P : σ → Prop} (h : s.KeptByTierCalls P)
    (o : Outage) : (s.during o).KeptByTierCalls P where
  createTier t := o.keeps_guard _ (h.createTier t)
  updateTier id u := o.keeps_guard _ (h.updateTier id u)
  deleteTier id := o.keeps_guard _ (h.deleteTier id)
  reorderTiers order := o.keeps_guard _ (h.reorderTiers order)

namespace Service

variable {s : Service σ} {endpoint : Endpoint} {user : String} {r : Request} {moment : Moment}

/-- A change keeps what the write and the refresh after it keep. -/
theorem keeps_change {P : Shop σ → Prop} {c : CartChange} (hwrite : Keeps P (s.write user c))
    (hrefresh : Keeps P (s.refresh user moment)) : Keeps P (s.change user moment c) :=
  hwrite.bind fun _ => hrefresh.bind fun _ => (reads_pure _).keeps

/-- Renewing prices keeps what the renewal of every product keeps. -/
theorem keeps_reprice {P : σ → Prop} (h : ∀ id prices, Keeps P (s.store.updatePrices id prices))
    (tiers : List PriceTier) (products : List Product) :
    Keeps P (products.mapM (s.repriceProduct tiers)) := by
  refine Keeps.mapM (fun p => Keeps.tryCatch ?_ fun _ => (reads_pure false).keeps) products
  exact (h _ _).bind fun _ => (reads_pure true).keeps

/-- What the store keeps when staff cause a call, the call keeps. -/
theorem StaffCalls.of_kept {P : Hub → σ → Prop} (htiers : ∀ hub, s.store.KeptByTierCalls (P hub))
    (hprices : endpoint = .recalculate →
      ∀ hub id prices, Keeps (P hub) (s.store.updatePrices id prices)) :
    s.StaffCalls (fun _ => Keeps fun shop : Shop σ => P shop.hub shop.store) r endpoint where
  createTier _ _ := keeps_call fun hub => (htiers hub).createTier _
  updateTier _ _ _ _ := keeps_call fun hub => (htiers hub).updateTier _ _
  deleteTier _ := keeps_call fun hub => (htiers hub).deleteTier _
  reorderTiers _ := keeps_call fun hub => (htiers hub).reorderTiers _
  renew hrenew tiers products := keeps_call fun hub =>
    keeps_reprice (hprices hrenew hub) tiers products

end Service

end VolumePricing
