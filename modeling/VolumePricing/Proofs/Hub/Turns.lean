import VolumePricing.Proofs.Hub.Refresh

/-!
# The hub turn by turn

Everyone who works with a hub either has a summary renewed or asks for the
current one. Between two turns the carts and tiers may come to any state, and
the store may fail in any way. What is remembered of a turn is the hub before
it, the answer, and the hub after it.
-/

namespace VolumePricing

variable {σ : Type}

inductive HubCall
  | refresh (user : String)
  | current (user : String)
  deriving DecidableEq, Repr

def HubCall.user : HubCall → String
  | .refresh user => user
  | .current user => user

/-- A call of the hub, the time it is made at and the state the store has come to. -/
structure HubTurn (σ : Type) where
  call : HubCall
  moment : Moment
  store : σ

/-- A turn that was taken. -/
structure HubEntry (σ : Type) extends HubTurn σ where
  before : Hub
  answer : Checked (Except StoreError CartSummary)
  after : Hub

def HubCall.on (store : Store σ) (settings : HubSettings) (moment : Moment) :
    HubCall → ShopAction σ CartSummary
  | .refresh user => Shop.refresh store settings user moment
  | .current user => Shop.current store settings user moment

namespace Hub

variable (store : Store σ) (settings : HubSettings)

/-- The hub after a call. One that overflows is over before it comes to the hub. -/
def afterCall {α : Type} (h : Hub) : Checked (α × Shop σ) → Hub
  | .ok (_, shop) => shop.hub
  | .error _ => h

def take (h : Hub) (t : HubTurn σ) : HubEntry σ :=
  let result := t.call.on store settings t.moment ⟨t.store, h⟩
  { t with before := h, answer := result.map (·.1), after := h.afterCall result }

/-- Takes all turns one after another. -/
def play : Hub → List (HubTurn σ) → List (HubEntry σ)
  | _, [] => []
  | h, t :: ts => h.take store settings t :: play (h.take store settings t).after ts

end Hub

namespace HubEntry

variable (store : Store σ) (settings : HubSettings) (user : String)

/-- A turn in which the hub took in a new summary of the shopper. -/
structure Renews (e : HubEntry σ) (summary : CartSummary) : Prop where
  answer : e.answer = .ok (.ok summary)
  priced : ∃ cart s tiers s', store.cart? user e.store = .ok (.ok cart, s) ∧
    store.activeTiers s = .ok (.ok tiers, s') ∧
    summarizeCart settings.fallback cart tiers = .ok summary
  after : e.after = e.before.observe settings user summary e.moment

/-- A turn without a new summary, which leaves the hub as it was. -/
structure Fails (e : HubEntry σ) : Prop where
  answer : ∀ summary, e.answer ≠ .ok (.ok summary)
  after : e.after = e.before

variable {store settings user} {e : HubEntry σ}

/-- What a shop comes to in a refresh is all that becomes of the turn. -/
theorem renews_or_fails
    (hanswer : e.answer =
      (Shop.refresh store settings user e.moment ⟨e.store, e.before⟩).map (·.1))
    (hafter : e.after =
      e.before.afterCall (Shop.refresh store settings user e.moment ⟨e.store, e.before⟩)) :
    (∃ summary, e.Renews store settings user summary) ∨ e.Fails := by
  rw [Shop.run_refresh] at hanswer hafter
  rcases hs : Shop.summarize store settings user e.store with o | ⟨r, s⟩
  · rw [hs] at hanswer hafter
    exact Or.inr ⟨by simp [hanswer, Except.map], hafter⟩
  · rw [hs] at hanswer hafter
    rcases Shop.summarize_eq_ok hs with ⟨err, -, rfl⟩ |
      ⟨cart, s₁, tiers, summary, hcart, htiers, hsum, rfl⟩
    · exact Or.inr ⟨by simp [hanswer, Except.map], hafter⟩
    · exact Or.inl ⟨summary, hanswer, ⟨cart, s₁, tiers, s, hcart, htiers, hsum⟩, hafter⟩

end HubEntry

namespace Hub

variable {store : Store σ} {settings : HubSettings} {user : String} {h : Hub}
  {turns : List (HubTurn σ)} {e : HubEntry σ}

/-- Every entry of a run is a turn taken from the hub as it was then. -/
theorem mem_play (he : e ∈ play store settings h turns) :
    e = e.before.take store settings e.toHubTurn := by
  induction turns generalizing h with
  | nil => cases he
  | cons t ts ih =>
    rcases List.mem_cons.mp he with rfl | he
    · rfl
    · exact ih he

theorem play_answer (he : e ∈ play store settings h turns) :
    e.answer = (e.call.on store settings e.moment ⟨e.store, e.before⟩).map (·.1) :=
  congrArg HubEntry.answer (mem_play he)

theorem play_after (he : e ∈ play store settings h turns) :
    e.after = e.before.afterCall (e.call.on store settings e.moment ⟨e.store, e.before⟩) :=
  congrArg HubEntry.after (mem_play he)

theorem play_refresh (he : e ∈ play store settings h turns) (hcall : e.call = .refresh user) :
    (∃ summary, e.Renews store settings user summary) ∨ e.Fails := by
  refine HubEntry.renews_or_fails ?_ ?_
  · rw [play_answer he, hcall]
    rfl
  · rw [play_after he, hcall]
    rfl

/-- A current summary is the one the hub holds, or a refresh makes one. -/
theorem play_current (he : e ∈ play store settings h turns) (hcall : e.call = .current user) :
    (∃ t, e.before.find? user = some t ∧ e.answer = .ok (.ok t.summary) ∧ e.after = e.before) ∨
      (e.before.find? user = none ∧
        ((∃ summary, e.Renews store settings user summary) ∨ e.Fails)) := by
  have hanswer := play_answer he
  have hafter := play_after he
  rw [hcall, HubCall.on, Shop.run_current] at hanswer hafter
  cases hfind : e.before.find? user with
  | some t =>
    rw [hfind] at hanswer hafter
    exact Or.inl ⟨t, rfl, hanswer, hafter⟩
  | none =>
    rw [hfind] at hanswer hafter
    exact Or.inr ⟨rfl, HubEntry.renews_or_fails hanswer hafter⟩

end Hub

end VolumePricing
