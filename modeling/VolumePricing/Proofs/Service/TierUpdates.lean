import VolumePricing.Proofs.Service.Admission
import VolumePricing.Store.Memory

/-!
# Updates of a tier

Staff may update a tier by its id. The update is made when it validates, and the
answer is the tier as it is after it.
-/

namespace VolumePricing

open VolumePricing.Action
open Http (Request Response)

/-- The update that a request asks for, at the endpoint that updates a tier. -/
def Extract.tierUpdate? (r : Request) : Endpoint → Option (Extracted (UInt32 × TierUpdate))
  | .updateTier place => some ((id "id" place).bind fun id =>
    (body TierUpdate r).map fun u => (id, u))
  | _ => none

theorem mapError_eq_ok {ε ε' α : Type} {f : ε → ε'} {x : Except ε α} {a : α} :
    x.mapError f = .ok a ↔ x = .ok a := by
  cases x <;> simp [Except.mapError]

namespace Service

variable {σ : Type} (s : Service σ) {r : Request} {moment : Moment} {shop shop' : Shop σ}
  {id : UInt32} {u : TierUpdate}

/-- The update that a request is admitted for, and the id of the tier. -/
def tierUpdate? (r : Request) (moment : Moment) : Option (UInt32 × TierUpdate) := do
  let (endpoint, _) ← s.admitted? r moment
  let asked ← Extract.tierUpdate? r endpoint
  asked.toOption

variable {s}

theorem tierUpdate?_eq_some :
    s.tierUpdate? r moment = some (id, u) ↔
      ∃ endpoint user, s.admitted? r moment = some (endpoint, user) ∧
        Extract.tierUpdate? r endpoint = some (.ok (id, u)) := by
  constructor
  · intro h
    obtain ⟨⟨endpoint, user⟩, hadmitted, h⟩ := Option.bind_eq_some_iff.mp h
    obtain ⟨asked, hasked, h⟩ := Option.bind_eq_some_iff.mp h
    cases asked with
    | error e => cases h
    | ok a =>
      cases h
      exact ⟨endpoint, user, hadmitted, hasked⟩
  · rintro ⟨endpoint, user, hadmitted, hasked⟩
    simp [tierUpdate?, hadmitted, hasked, Except.toOption]

/-- A request for an update is answered with what the update comes to. -/
theorem respond_tierUpdate
    (h : s.tierUpdate? r moment = some (id, u)) (shop : Shop σ) :
    s.respond r moment shop =
      (s.updateTier id u shop).map fun p => (finished r (p.1.map (reply ·)), p.2) := by
  obtain ⟨endpoint, user, hadmitted, hasked⟩ := tierUpdate?_eq_some.mp h
  have hrun : s.run endpoint user r moment = (do return reply (← s.updateTier id u)) := by
    cases endpoint with
    | updateTier place =>
      cases hid : Extract.id "id" place with
      | error e => simp [Extract.tierUpdate?, hid, Except.bind] at hasked
      | ok id' =>
        cases hbody : Extract.body TierUpdate r with
        | error e => simp [Extract.tierUpdate?, hid, hbody, Except.bind, Except.map] at hasked
        | ok u' =>
          simp only [Extract.tierUpdate?, hid, hbody, Except.bind, Except.map, Option.some.injEq,
            Except.ok.injEq, Prod.mk.injEq] at hasked
          obtain ⟨rfl, rfl⟩ := hasked
          simp [run, hid, hbody]
    | _ => cases hasked
  rw [respond_admitted hadmitted, hrun, run_bind]
  rcases s.updateTier id u shop with o | ⟨e | t, shop'⟩ <;> rfl

/-- What an update comes to is the answer of the store, once it validates. -/
theorem updateTier_eq_ok {new : PriceTier} :
    s.updateTier id u shop = .ok (.ok new, shop') ↔ u.validate = .ok () ∧
      ∃ store, s.store.updateTier id u shop.store = .ok (.ok new, store) ∧
        shop' = { shop with store } := by
  unfold updateTier
  rcases hvalid : u.validate with fault | ⟨⟩
  · constructor
    · intro h
      cases h
    · rintro ⟨h, -⟩
      cases h
  · change call (s.store.updateTier id u) shop = _ ↔ _
    rw [run_call]
    rcases s.store.updateTier id u shop.store with o | ⟨e | t, store⟩ <;>
      simp [Except.map, Except.mapError, eq_comm]

end Service

/-- An authority for trials, where a token names its subject and is the role as well. -/
def Authority.byRole : Authority where
  issue subject _ _ := .ok subject
  verify token _ := some ⟨token, token, 0⟩

namespace Seed

/-- Staff update the first tier. -/
def updating (body : String) : Request where
  method := "PUT"
  target := "/settings/price-tiers/1"
  headers := [("authorization", "Bearer ADMIN"), ("content-type", "application/json")]
  body := body

/-- An update comes to its endpoint whatever is in its body. -/
theorem tierUpdate?_updating {σ : Type} (store : Store σ) {body : String} {u : TierUpdate}
    (h : Extract.body TierUpdate (updating body) = .ok u) :
    (Service.mk store {} .byRole).tierUpdate? (updating body) ⟨0, 0⟩ = some (1, u) := by
  have hsame : (Service.mk store {} .byRole).admitted? (updating body) ⟨0, 0⟩ =
      (Service.mk Memory.store {} .byRole).admitted? (updating body) ⟨0, 0⟩ :=
    Service.admitted?_congr rfl
  have hadmitted : (Service.mk store {} .byRole).admitted? (updating body) ⟨0, 0⟩ =
      some (.updateTier ['1'], "ADMIN") := by
    rw [hsame]
    change (Service.mk Memory.store {} .byRole).admitted? (updating "") ⟨0, 0⟩ = _
    decide +kernel
  have hid : Extract.id "id" ['1'] = .ok 1 := by decide +kernel
  refine Service.tierUpdate?_eq_some.mpr ⟨_, _, hadmitted, ?_⟩
  simp [Extract.tierUpdate?, hid, h, Except.bind, Except.map]

/-- Staff give the first tier a name of one blank. -/
def blanking : Request where
  method := "PUT"
  target := "/settings/price-tiers/1"
  headers := [("authorization", "Bearer ADMIN"), ("content-type", "application/json")]
  body := "\x7b\"name\":\" \"\x7d"

theorem body_blanking : Extract.body TierUpdate blanking = .ok { name := some " " } := by cbv

theorem tierUpdate?_blanking :
    (Service.mk Memory.store {} .byRole).tierUpdate? blanking ⟨0, 0⟩ =
      some (1, { name := some " " }) :=
  tierUpdate?_updating Memory.store body_blanking

/-- Staff give the first tier that order index. -/
def moving (index : String) : Request := updating ("\x7b\"order_index\":" ++ index ++ "\x7d")

end Seed

end VolumePricing
