import VolumePricing.Proofs.Service.Lockstep

/-!
# Shoppers keep to themselves

What one shopper is answered does not depend on what others do with their carts.
Without all of their requests about carts a run goes on to the same answers, but
for the numbers of carts and lines. A stream of notices hands on the same too,
as long as the hub does not drop the summary of its shopper to make room.
-/

namespace VolumePricing

open VolumePricing.Action
open Http (Request Response)

/-- A request of a run, the answer to it, and the shop before and after. -/
structure Exchange (σ : Type) where
  request : Request
  moment : Moment
  before : Shop σ
  response : Response
  after : Shop σ

namespace Exchange

variable {σ : Type}

/-- What the shopper's stream of notices hands on, if it is read after every request. -/
def frames (e : Exchange σ) (user : String) : List Frame := e.before.hub.handsOn e.after.hub user

/-- The hub goes on tracking the shopper, if it did. -/
def KeepsTrackOf (e : Exchange σ) (user : String) : Prop :=
  (e.before.hub.find? user).isSome = true → (e.after.hub.find? user).isSome = true

/-- The same request is answered alike. -/
structure Alike (e e₀ : Exchange σ) : Prop where
  request : e₀.request = e.request
  moment : e₀.moment = e.moment
  response : e.response.Alike e₀.response

end Exchange

/-- What a stream hands on that is read after every request. -/
def NoticeStream.follow {σ : Type} (stream : NoticeStream) : List (Exchange σ) → List Frame
  | [] => []
  | e :: rest =>
    let (frames, stream) := stream.read e.after.hub
    frames ++ stream.follow rest

namespace Service

variable {σ : Type} (s : Service σ)

/-- Answers a request and takes it down. -/
def exchange (q : Request × Moment) : StateT (Shop σ) (Except Overflow) (Exchange σ) := do
  let before ← get
  let response ← s.respond q.1 q.2
  return { request := q.1, moment := q.2, before, response, after := ← get }

/-- Answers requests one after another and takes them down. -/
def transcript (requests : List (Request × Moment)) :
    StateT (Shop σ) (Except Overflow) (List (Exchange σ)) :=
  requests.mapM s.exchange

/-- The request is not about the cart of somebody else. -/
def isOwn (user : String) (q : Request × Moment) : Bool := !s.isForeign user q.1 q.2

variable {s} {q : Request × Moment} {shop shop' : Shop σ} {e : Exchange σ}

theorem exchange_eq_ok :
    s.exchange q shop = .ok (e, shop') ↔
      ∃ response, s.respond q.1 q.2 shop = .ok (response, shop') ∧
        e = ⟨q.1, q.2, shop, response, shop'⟩ := by
  have hrun : s.exchange q shop =
      (s.respond q.1 q.2 shop).map fun p => (⟨q.1, q.2, shop, p.1, p.2⟩, p.2) := by
    unfold exchange
    simp only [bind, StateT.bind, Except.bind, get, getThe, MonadStateOf.get, StateT.get, pure,
      Except.pure]
    cases s.respond q.1 q.2 shop <;> rfl
  rw [hrun]
  rcases s.respond q.1 q.2 shop with o | ⟨response, shop₁⟩
  · simp [Except.map]
  · simp only [Except.map, Except.ok.injEq, Prod.mk.injEq]
    constructor
    · rintro ⟨rfl, rfl⟩
      exact ⟨response, ⟨rfl, rfl⟩, rfl⟩
    · rintro ⟨_, ⟨rfl, rfl⟩, rfl⟩
      exact ⟨rfl, rfl⟩

/-- Read after every request, a stream opened before a run hands on what each request gives it. -/
theorem follow_opened {requests : List (Request × Moment)} {entries : List (Exchange σ)}
    (user : String) (hrun : s.transcript requests shop = .ok (entries, shop')) :
    (NoticeStream.opened shop.hub user).follow entries = entries.flatMap (·.frames user) := by
  induction requests generalizing shop entries with
  | nil =>
    cases hrun
    rfl
  | cons q requests ih =>
    obtain ⟨e, rest, shop₁, hfirst, hrest, rfl⟩ := mapM_cons_eq_ok.mp hrun
    obtain ⟨response, -, rfl⟩ := exchange_eq_ok.mp hfirst
    rw [List.flatMap_cons, ← ih hrest, ← NoticeStream.read_opened shop.hub shop₁.hub user]
    rfl

/-- A run that begins with one request is the answer to it and the rest of the run. -/
theorem transcript_cons {requests : List (Request × Moment)} {shop₁ : Shop σ} {response : Response}
    {rest : List (Exchange σ)} (hfirst : s.respond q.1 q.2 shop = .ok (response, shop₁))
    (hrest : s.transcript requests shop₁ = .ok (rest, shop')) :
    s.transcript (q :: requests) shop = .ok (⟨q.1, q.2, shop, response, shop₁⟩ :: rest, shop') :=
  mapM_cons_eq_ok.mpr ⟨_, rest, shop₁, exchange_eq_ok.mpr ⟨response, hfirst, rfl⟩, hrest, rfl⟩

end Service

namespace Service

variable {settings : HubSettings} {authority : Authority} {user : String} {q : Request × Moment}
  {shop shop' shop₀ : Shop Memory} {e : Exchange Memory}

theorem exchange_own (hown : (inMemory settings authority).isOwn user q = true)
    (halike : shop.store.Alike user shop₀.store)
    (h : (inMemory settings authority).exchange q shop = .ok (e, shop')) :
    ∃ e₀ shop₀', (inMemory settings authority).exchange q shop₀ = .ok (e₀, shop₀') ∧ e.Alike e₀ ∧
      shop'.store.Alike user shop₀'.store ∧ (Hub.AgreeOn user shop.hub shop₀.hub →
        e₀.frames user = e.frames user ∧ Hub.AgreeOn user shop'.hub shop₀'.hub) := by
  obtain ⟨response, hrespond, rfl⟩ := exchange_eq_ok.mp h
  obtain ⟨response₀, shop₀', hrespond₀, hresponse, hstore, htogether⟩ :=
    respond_alike (by simpa [isOwn] using hown) halike hrespond
  refine ⟨_, shop₀', exchange_eq_ok.mpr ⟨response₀, hrespond₀, rfl⟩, ⟨rfl, rfl, hresponse⟩,
    hstore, fun hagree => ?_⟩
  exact ⟨htogether.handsOn_eq hagree, htogether.agreeOn hagree⟩

theorem exchange_foreign (hforeign : (inMemory settings authority).isOwn user q = false)
    (halike : shop.store.Alike user shop₀.store)
    (h : (inMemory settings authority).exchange q shop = .ok (e, shop')) :
    shop'.store.Alike user shop₀.store ∧ e.frames user = [] ∧ (Hub.AgreeOn user shop.hub shop₀.hub →
      e.KeepsTrackOf user → Hub.AgreeOn user shop'.hub shop₀.hub) := by
  obtain ⟨response, hrespond, rfl⟩ := exchange_eq_ok.mp h
  obtain ⟨hstore, hhub⟩ := respond_foreign (by simpa [isOwn] using hforeign) halike hrespond
  obtain hsame | ⟨other, summary, hne, hobserved⟩ := hhub
  · refine ⟨hstore, ?_, fun hagree _ => hsame ▸ hagree⟩
    rw [Exchange.frames, hsame, Hub.handsOn_self]
  · refine ⟨hstore, ?_, fun hagree hkept => ?_⟩
    · rw [Exchange.frames, hobserved]
      exact Hub.handsOn_observe_of_ne hne
    · rw [hobserved]
      exact hagree.observe_of_ne hne (hobserved ▸ hkept)

/-- Without what is about the carts of others a run from a shop that is alike goes on alike. -/
theorem transcript_alike {requests : List (Request × Moment)} {full : List (Exchange Memory)}
    (halike : shop.store.Alike user shop₀.store)
    (hrun : (inMemory settings authority).transcript requests shop = .ok (full, shop')) :
    ∃ short shop₀', (inMemory settings authority).transcript
        (requests.filter ((inMemory settings authority).isOwn user)) shop₀ = .ok (short, shop₀') ∧
      List.Forall₂ (fun e e₀ => e.Alike e₀ ∧ (Hub.AgreeOn user shop.hub shop₀.hub →
          (∀ d ∈ full, d.KeepsTrackOf user) → e₀.frames user = e.frames user))
        (full.filter fun e => (inMemory settings authority).isOwn user (e.request, e.moment)) short ∧
      ∀ e ∈ full, (inMemory settings authority).isOwn user (e.request, e.moment) = false →
        e.frames user = [] := by
  induction requests generalizing shop shop₀ full with
  | nil =>
    cases hrun
    exact ⟨[], shop₀, rfl, .nil, by simp⟩
  | cons q requests ih =>
    obtain ⟨e, rest, shop₁, hfirst, hrest, rfl⟩ := mapM_cons_eq_ok.mp hrun
    have hrequest : (e.request, e.moment) = q := by
      obtain ⟨response, -, rfl⟩ := exchange_eq_ok.mp hfirst
      rfl
    cases hown : (inMemory settings authority).isOwn user q with
    | true =>
      obtain ⟨e₀, shop₁₀, hfirst₀, hlike, halike₁, hframes⟩ := exchange_own hown halike hfirst
      obtain ⟨short, shop₀', hshort, hpairs, hnothing⟩ := ih halike₁ hrest
      refine ⟨e₀ :: short, shop₀', ?_, ?_, ?_⟩
      · rw [List.filter_cons_of_pos hown]
        exact mapM_cons_eq_ok.mpr ⟨e₀, short, shop₁₀, hfirst₀, hshort, rfl⟩
      · rw [List.filter_cons_of_pos (by rw [hrequest, hown])]
        refine .cons ⟨hlike, fun hagree _ => (hframes hagree).1⟩ (hpairs.imp ?_)
        rintro d d₀ ⟨hd, hsame⟩
        exact ⟨hd, fun hagree hkept =>
          hsame (hframes hagree).2 fun x hx => hkept x (List.mem_cons_of_mem _ hx)⟩
      · intro d hd hforeign
        rcases List.mem_cons.mp hd with rfl | hd
        · rw [hrequest, hown] at hforeign
          cases hforeign
        · exact hnothing d hd hforeign
    | false =>
      obtain ⟨halike₁, hframes, hagrees⟩ := exchange_foreign hown halike hfirst
      obtain ⟨short, shop₀', hshort, hpairs, hnothing⟩ := ih halike₁ hrest
      refine ⟨short, shop₀', ?_, ?_, ?_⟩
      · rw [List.filter_cons_of_neg (by simp [hown])]
        exact hshort
      · rw [List.filter_cons_of_neg (by simp [hrequest, hown])]
        refine hpairs.imp ?_
        rintro d d₀ ⟨hd, hsame⟩
        exact ⟨hd, fun hagree hkept => hsame (hagrees hagree (hkept e List.mem_cons_self))
          fun x hx => hkept x (List.mem_cons_of_mem _ hx)⟩
      · intro d hd hforeign
        rcases List.mem_cons.mp hd with rfl | hd
        · exact hframes
        · exact hnothing d hd hforeign

/-- Without all that others ask about their carts every request is answered as before, but for the
numbers of carts and lines. A stream of the shopper hands on nothing at what others ask about their
carts, and the same at everything else, as long as the hub does not drop the shopper. -/
theorem transcript_without_others {requests : List (Request × Moment)} {m₀ : Memory}
    {full : List (Exchange Memory)} {shop : Shop Memory} (user : String)
    (hrun : (inMemory settings authority).transcript requests ⟨m₀, .new settings⟩ =
      .ok (full, shop)) :
    ∃ short shop₀, (inMemory settings authority).transcript
        (requests.filter ((inMemory settings authority).isOwn user)) ⟨m₀, .new settings⟩ =
          .ok (short, shop₀) ∧
      List.Forall₂ (fun e e₀ => e.Alike e₀ ∧
          ((∀ d ∈ full, d.KeepsTrackOf user) → e₀.frames user = e.frames user))
        (full.filter fun e => (inMemory settings authority).isOwn user (e.request, e.moment)) short ∧
      ∀ e ∈ full, (inMemory settings authority).isOwn user (e.request, e.moment) = false →
        e.frames user = [] := by
  let opened : Shop Memory := ⟨m₀, .new settings⟩
  have halike : opened.store.Alike user opened.store := ⟨rfl, rfl, rfl, le_rfl, le_rfl⟩
  obtain ⟨short, shop₀, hshort, hpairs, hnothing⟩ := transcript_alike halike hrun
  exact ⟨short, shop₀, hshort, hpairs.imp fun _ _ h => ⟨h.1, h.2 rfl⟩, hnothing⟩

end Service

namespace Seed

/-- The shopper listens to notices. -/
def listen : Request where
  method := "GET"
  target := "/cart/notifications"
  headers := [("authorization", "Bearer ana")]

/-- Somebody else looks at a cart. -/
def otherLook : Request where
  method := "GET"
  target := "/cart/summary"
  headers := [("authorization", "Bearer bea")]

theorem body_order_five : Extract.body ItemRequest (order "5") = .ok ⟨1, 5⟩ := by cbv

theorem admitted?_listen (store : Store Memory) (settings : HubSettings) (moment : Moment) :
    (Service.mk store settings .byName).admitted? listen moment = some (.notifications, "ana") := by
  cbv

theorem admitted?_otherLook (store : Store Memory) (settings : HubSettings) (moment : Moment) :
    (Service.mk store settings .byName).admitted? otherLook moment = some (.summary, "bea") := by
  cbv

/-- Somebody looks at a cart before the shopper puts something in another. -/
def passing : List (Request × Moment) := [(otherLook, ⟨0, 0⟩), (order "2", ⟨1, 1⟩)]

/-- Somebody looks at a cart before the shopper, who listens, unlocks a tier. -/
def unlocking : List (Request × Moment) :=
  [(listen, ⟨0, 0⟩), (order "5", ⟨1, 1⟩), (otherLook, ⟨2, 2⟩), (order "1", ⟨3, 3⟩)]

end Seed

theorem Service.transcript_without_others_passing :
    ∃ full shop short shop₀,
      (inMemory {} .byName).transcript Seed.passing ⟨Seed.opened, .new {}⟩ = .ok (full, shop) ∧
      (inMemory {} .byName).transcript [(Seed.order "2", ⟨1, 1⟩)] ⟨Seed.opened, .new {}⟩ =
        .ok (short, shop₀) ∧
      List.Forall₂ (fun e e₀ => e.Alike e₀ ∧ e₀.frames "ana" = e.frames "ana")
        (full.drop 1) short := by
  have hfilter : Seed.passing.filter ((inMemory {} .byName).isOwn "ana") =
      [(Seed.order "2", ⟨1, 1⟩)] := by decide +kernel
  obtain ⟨full, shop, hrun, hown, hkept⟩ : ∃ full shop,
      (inMemory {} .byName).transcript Seed.passing ⟨Seed.opened, .new {}⟩ = .ok (full, shop) ∧
      (full.filter fun e => (inMemory {} .byName).isOwn "ana" (e.request, e.moment)) =
        full.drop 1 ∧ ∀ d ∈ full, d.KeepsTrackOf "ana" := by
    refine ⟨_, _, transcript_cons ((respond_admitted (Seed.admitted?_otherLook _ _ _) _).trans rfl)
      (transcript_cons ((respond_cartChange
        (Seed.cartChange?_order Seed.body_order_two) _).trans rfl) rfl), ?_, ?_⟩
    · have hlook : (inMemory {} .byName).isOwn "ana" (Seed.otherLook, ⟨0, 0⟩) = false := by
        decide +kernel
      have horder : (inMemory {} .byName).isOwn "ana" (Seed.order "2", ⟨1, 1⟩) = true := by
        decide +kernel
      rw [List.filter_cons_of_neg (by simp [hlook])]
      exact List.filter_cons_of_pos horder
    · refine List.forall_mem_cons.mpr ⟨fun h => ?_, List.forall_mem_singleton.mpr fun _ => rfl⟩
      cases h
  obtain ⟨short, shop₀, hshort, hpairs, -⟩ := transcript_without_others "ana" hrun
  rw [hfilter] at hshort
  rw [hown] at hpairs
  exact ⟨full, shop, short, shop₀, hrun, hshort, hpairs.imp fun _ _ h => ⟨h.1, h.2 hkept⟩⟩

/-- Where only one shopper may be tracked, a look of somebody else keeps a notice from being sent
to a shopper who listens. -/
theorem Service.notice_lost_to_others :
    ∃ listening full shop short shop₀,
      (inMemory { maxTracked := 1 } .byName).transcript Seed.unlocking
        ⟨Seed.opened, .new { maxTracked := 1 }⟩ = .ok (listening :: full, shop) ∧
      (inMemory { maxTracked := 1 } .byName).transcript
        (Seed.unlocking.filter ((inMemory { maxTracked := 1 } .byName).isOwn "ana"))
        ⟨Seed.opened, .new { maxTracked := 1 }⟩ = .ok (listening :: short, shop₀) ∧
      listening.response.body = .notices "ana" ∧
      ((NoticeStream.opened listening.after.hub "ana").read shop.hub).1 = [] ∧
      ((NoticeStream.opened listening.after.hub "ana").read shop₀.hub).1 ≠ [] := by
  have hfilter : Seed.unlocking.filter ((inMemory { maxTracked := 1 } .byName).isOwn "ana") =
      [(Seed.listen, ⟨0, 0⟩), (Seed.order "5", ⟨1, 1⟩), (Seed.order "1", ⟨3, 3⟩)] := by
    decide +kernel
  rw [hfilter]
  have listened := respond_admitted (Seed.admitted?_listen Memory.store { maxTracked := 1 } ⟨0, 0⟩)
  have looked := respond_admitted (Seed.admitted?_otherLook Memory.store { maxTracked := 1 } ⟨2, 2⟩)
  have hfive : (inMemory { maxTracked := 1 } .byName).cartChange? (Seed.order "5") ⟨1, 1⟩ = _ :=
    Seed.cartChange?_order Seed.body_order_five
  have hone : (inMemory { maxTracked := 1 } .byName).cartChange? (Seed.order "1") ⟨3, 3⟩ = _ :=
    Seed.cartChange?_order Seed.body_order_one
  have ordered := respond_cartChange hfive
  have added := respond_cartChange hone
  exact ⟨_, _, _, _, _,
    transcript_cons ((listened _).trans rfl) (transcript_cons ((ordered _).trans rfl)
      (transcript_cons ((looked _).trans rfl) (transcript_cons ((added _).trans rfl) rfl))),
    transcript_cons ((listened _).trans rfl) (transcript_cons ((ordered _).trans rfl)
      (transcript_cons ((added _).trans rfl) rfl)),
    rfl, rfl, List.cons_ne_nil _ _⟩

end VolumePricing
