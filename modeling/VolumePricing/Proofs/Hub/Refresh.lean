import VolumePricing.Hub.Refresh
import VolumePricing.Proofs.Store.Careful

/-!
# What a refresh comes to

A refresh is refused when the cart cannot be read, and for no other reason; it
then leaves the hub alone. Otherwise the hub takes in the new summary.
-/

namespace VolumePricing

open VolumePricing.Action

variable {σ : Type} {store : Store σ} {settings : HubSettings} {user : String}

/-- A store that cannot list its tiers is one that has none. -/
theorem Store.activeTiers_eq_ok {s s' : σ} {r : Except StoreError (List PriceTier)}
    (h : store.activeTiers s = .ok (r, s')) :
    ∃ tiers, r = .ok tiers ∧
      (store.listTiers false s = .ok (.ok tiers, s') ∨
        tiers = [] ∧ ∃ e, store.listTiers false s = .ok (.error e, s')) := by
  rw [activeTiers, run_tryCatch] at h
  rcases hl : store.listTiers false s with o | ⟨e | tiers, s₁⟩ <;> rw [hl] at h <;> cases h
  · exact ⟨[], rfl, Or.inr ⟨rfl, e, rfl⟩⟩
  · exact ⟨tiers, rfl, Or.inl rfl⟩

namespace Shop

theorem run_call {α : Type} (action : StoreAction σ α) (shop : Shop σ) :
    call action shop = (action shop.store).map fun p => (p.1, { shop with store := p.2 }) := by
  simp only [call, bind, Except.bind]
  cases action shop.store <;> rfl

theorem summarize_eq_ok {s s' : σ} {r : Except StoreError CartSummary}
    (h : summarize store settings user s = .ok (r, s')) :
    (∃ e, store.cart? user s = .ok (.error e, s') ∧ r = .error e) ∨
      ∃ cart s₁ tiers summary, store.cart? user s = .ok (.ok cart, s₁) ∧
        store.activeTiers s₁ = .ok (.ok tiers, s') ∧
        summarizeCart settings.fallback cart tiers = .ok summary ∧ r = .ok summary := by
  rcases bind_eq_ok.mp h with hcart | ⟨cart, s₁, hcart, h⟩
  · exact Or.inl hcart
  · right
    rcases bind_eq_ok.mp h with ⟨e, htiers, -⟩ | ⟨tiers, s₂, htiers, h⟩
    · obtain ⟨tiers, hok, -⟩ := Store.activeTiers_eq_ok htiers
      cases hok
    · rw [run_checked] at h
      cases hsum : summarizeCart settings.fallback cart tiers with
      | error o =>
        rw [hsum] at h
        cases h
      | ok summary =>
        rw [hsum] at h
        cases h
        exact ⟨cart, s₁, tiers, summary, hcart, htiers, hsum, rfl⟩

theorem run_refresh (moment : Moment) (shop : Shop σ) :
    refresh store settings user moment shop =
      (summarize store settings user shop.store).map fun p =>
        (p.1, ⟨p.2, match p.1 with
          | .ok summary => shop.hub.observe settings user summary moment
          | .error _ => shop.hub⟩) := by
  rw [refresh, run_bind, run_call]
  rcases summarize store settings user shop.store with o | ⟨e | summary, s⟩ <;> rfl

theorem run_current (moment : Moment) (shop : Shop σ) :
    current store settings user moment shop =
      match shop.hub.find? user with
      | some t => .ok (.ok t.summary, shop)
      | none => refresh store settings user moment shop := by
  rw [current, run_bind, run_get]
  cases h : shop.hub.find? user <;> simp [h]

end Shop

end VolumePricing
