import VolumePricing.Database.Store
import VolumePricing.Proofs.Cart.Ledger
import VolumePricing.Proofs.Database.Exchanges

/-!
# Carts are changed statement by statement

A change of a cart is no transaction. Each of its statements goes over any line
of the pool and counts as soon as it is acknowledged, so a change that is
refused later on has been applied in part: exactly when the first of its
statements that change data was acknowledged.
-/

namespace VolumePricing

open Database

/-- The call adds to a cart, which is opened for it; the others look for a cart that is there. -/
def CartCall.addsUnits : CartCall → Bool
  | .add _ _ _ => true
  | _ => false

/-- The call as a talk. -/
def CartCall.talk : CartCall → Talk Cart
  | .add user product quantity => addItem user product quantity
  | .set user productId quantity => setQuantity user productId quantity
  | .remove user productId => removeItem user productId

theorem CartCall.on_store (call : CartCall) : call.on Database.store = call.talk.run := by
  cases call <;> rfl

namespace Database

variable {c c' : Conversation} {user : String} {said rest : List Exchange} {first e : Exchange}
  {productId : UInt32} {quantity : Int64} {product : Product} {call : CartCall}

/-! ### What counts -/

/-- The text of a statement that changes the rows of a table. -/
def changesRows (sql : String) : Bool :=
  ["INSERT", "UPDATE", "DELETE"].any fun verb => verb.toList.isPrefixOf sql.toList

def Statement.changesData : Statement → Bool
  | .prepared sql _ => changesRows sql
  | .script _ => false

/-- The database has done the statement, and no transaction that is not committed holds it back. -/
def Counts (said : List Exchange) (e : Exchange) : Prop :=
  e.Acknowledged ∧ (e.line = .held → ∃ r : Reply, r.isDone = true ∧
    ⟨.held, .script "COMMIT", r⟩ ∈ said)

/-- Some change of data counts. -/
def Applied (said : List Exchange) : Prop :=
  ∃ e ∈ said, e.statement.changesData = true ∧ Counts said e

/-- The call is refused by the storage, and yet some of what it changes counts. -/
def HalfApplied (call : CartCall) (c : Conversation) : Prop :=
  (∃ failure c', call.talk.run c = .ok (.error (.storage failure), c')) ∧
    Applied (call.talk.exchanges c)

/-- The answer to the first statement of the call that changes data, where the call comes so far. -/
inductive FirstChange (call : CartCall) (c : Conversation) : Reply → Prop
  | opening (adds : call.addsUnits = true) : FirstChange call c c.nextReply
  | edit {id : Int32} (edits : call.addsUnits = false) (found : c.nextReply.Shows Row.firstWord? id) :
    FirstChange call c (c.after (.prepared selectCart [.text call.user])).nextReply

theorem firstChange_opening (h : call.addsUnits = true) :
    (∃ reply, FirstChange call c reply ∧ reply.isDone = true) ↔ c.nextReply.isDone = true := by
  constructor
  · rintro ⟨reply, hfirst, hdone⟩
    cases hfirst with
    | opening => exact hdone
    | edit edits => simp [h] at edits
  · intro hdone
    exact ⟨_, .opening h, hdone⟩

theorem firstChange_edit (h : call.addsUnits = false) :
    (∃ reply, FirstChange call c reply ∧ reply.isDone = true) ↔
      (∃ id, c.nextReply.Shows Row.firstWord? id) ∧
        (c.after (.prepared selectCart [.text call.user])).nextReply.isDone = true := by
  constructor
  · rintro ⟨reply, hfirst, hdone⟩
    cases hfirst with
    | opening adds => simp [h] at adds
    | edit _ found => exact ⟨⟨_, found⟩, hdone⟩
  · rintro ⟨⟨id, found⟩, hdone⟩
    exact ⟨_, .edit h found, hdone⟩

/-! ### The calls as talks -/

/-- A statement of a cart goes over any line of the pool. -/
def Loose (line : Line) (_ : Statement) : Prop := line = .pooled

theorem orderly_loadCart (id : Int32) (user : String) :
    (loadCart id user).Orderly Loose fun _ => False :=
  (orderly_fetchAll rfl _).bind fun _ => Talk.orderly_pure _

theorem orderly_addItem (user : String) (product : Product) (quantity : Int64) :
    (addItem user product quantity).Orderly Loose fun _ => False := by
  apply (orderly_fetch rfl _).bind
  intro id
  apply (orderly_execute rfl).bind
  intro _
  apply (orderly_execute rfl).bind
  intro _
  exact orderly_loadCart id user

/-- What is done to a line of the cart of that number. -/
def changeLine (id : Int32) (productId : UInt32) (quantity : Int64) : String × List Datum :=
  if quantity ≤ 0 then (dropLine, [.ofInt32 id, .ofId productId])
  else (setUnits, [.ofInt32 id, .ofId productId, .ofInt64 quantity])

theorem setQuantity_eq (user : String) (productId : UInt32) (quantity : Int64) :
    setQuantity user productId quantity = (do
      match ← cartId? user with
      | none => throw (.cartMissing user)
      | some id =>
        let p := changeLine id productId quantity
        let changed ← execute .pooled p.1 p.2
        if changed = 0 then throw (.lineMissing productId)
        loadCart id user) := by
  unfold setQuantity changeLine
  split <;> rfl

theorem orderly_setQuantity (user : String) (productId : UInt32) (quantity : Int64) :
    (setQuantity user productId quantity).Orderly Loose fun _ => False := by
  rw [setQuantity_eq]
  apply (orderly_fetch? rfl _).bind
  intro found
  cases found with
  | none => exact Talk.orderly_throw _
  | some id =>
    apply (orderly_execute rfl).bind
    intro changed
    split
    · exact (Talk.orderly_throw _).bind fun _ => orderly_loadCart id user
    · exact orderly_loadCart id user

theorem orderly_talk (call : CartCall) : call.talk.Orderly Loose fun _ => False := by
  cases call with
  | add user product quantity => exact orderly_addItem user product quantity
  | set user productId quantity => exact orderly_setQuantity user productId quantity
  | remove user productId => exact orderly_setQuantity user productId 0

theorem exchanges_addItem (user : String) (product : Product) (quantity : Int64)
    (c : Conversation) :
    ∃ rest, (addItem user product quantity).exchanges c =
      ⟨.pooled, .prepared openCart [.text user], c.nextReply⟩ :: rest := by
  rw [addItem, Talk.exchanges_bind, exchanges_fetch]
  exact ⟨_, rfl⟩

/-- Before a line is changed the cart is looked up, and if it is not found that is all. -/
theorem exchanges_setQuantity (user : String) (productId : UInt32) (quantity : Int64)
    (c : Conversation) :
    (¬ (∃ id, c.nextReply.Shows Row.firstWord? id) ∧
      (setQuantity user productId quantity).exchanges c =
        [⟨.pooled, .prepared selectCart [.text user], c.nextReply⟩]) ∨
    ∃ id rest, c.nextReply.Shows Row.firstWord? id ∧
      (setQuantity user productId quantity).exchanges c =
        ⟨.pooled, .prepared selectCart [.text user], c.nextReply⟩ ::
        ⟨.pooled, .prepared (changeLine id productId quantity).1 (changeLine id productId quantity).2,
          (c.after (.prepared selectCart [.text user])).nextReply⟩ :: rest := by
  rw [setQuantity_eq, Talk.exchanges_bind, cartId?, exchanges_fetch?]
  by_cases hfound : ∃ id, c.nextReply.Shows Row.firstWord? id
  · obtain ⟨id, hid⟩ := hfound
    rw [fetch?_eq_some.mpr ⟨hid, rfl⟩]
    simp only [Talk.exchanges_bind, exchanges_execute]
    exact Or.inr ⟨id, _, hid, rfl⟩
  · refine Or.inl ⟨hfound, ?_⟩
    rcases hrun : (fetch? .pooled selectCart [.text user] Row.firstWord?).run c with
      o | ⟨e | _ | id, c'⟩
    · rfl
    · rfl
    · rfl
    · exact absurd ⟨id, (fetch?_eq_some.mp hrun).1⟩ hfound

theorem changesRows_openCart : changesRows openCart = true := by decide +kernel

theorem changesRows_changeLine (id : Int32) (productId : UInt32) (quantity : Int64) :
    changesRows (changeLine id productId quantity).1 = true := by
  have hdrop : changesRows dropLine = true := by decide +kernel
  have hset : changesRows setUnits = true := by decide +kernel
  unfold changeLine
  split
  · exact hdrop
  · exact hset

theorem not_changesRows_selectCart : changesRows selectCart = false := by decide +kernel

/-! ### What a call has applied -/

/-- Where only what is said last can have been refused, something counts as soon as the first
statement that changes data is acknowledged, and not before. -/
theorem applied_iff_first (front : List Exchange)
    (hsaid : (front ++ first :: rest).Pairwise fun e _ => e.Acknowledged)
    (hfront : ∀ e ∈ front, e.statement.changesData = false)
    (hchanges : first.statement.changesData = true) (hline : first.line = .pooled) :
    Applied (front ++ first :: rest) ↔ first.Acknowledged := by
  have hfirst := (List.pairwise_append.mp hsaid).2.1
  constructor
  · rintro ⟨e, he, hchange, hack, -⟩
    rcases List.mem_append.mp he with he | he
    · simp [hfront e he] at hchange
    · rcases List.mem_cons.mp he with rfl | he
      · exact hack
      · exact List.rel_of_pairwise_cons hfirst he
  · intro hack
    refine ⟨first, List.mem_append_right front List.mem_cons_self, hchanges, hack, ?_⟩
    intro hheld
    rw [hline] at hheld
    cases hheld

theorem applied_addItem :
    Applied ((addItem user product quantity).exchanges c) ↔ c.nextReply.isDone = true := by
  have horderly := (orderly_addItem user product quantity).pairwise c
  obtain ⟨rest, hsaid⟩ := exchanges_addItem user product quantity c
  rw [hsaid] at horderly ⊢
  exact applied_iff_first [] horderly (by simp) changesRows_openCart rfl

theorem applied_setQuantity :
    Applied ((setQuantity user productId quantity).exchanges c) ↔
      (∃ id, c.nextReply.Shows Row.firstWord? id) ∧
        (c.after (.prepared selectCart [.text user])).nextReply.isDone = true := by
  have hlookup : ∀ e ∈ [(⟨.pooled, .prepared selectCart [.text user], c.nextReply⟩ : Exchange)],
      e.statement.changesData = false := by
    intro e he
    rw [List.mem_singleton] at he
    subst he
    exact not_changesRows_selectCart
  have horderly := (orderly_setQuantity user productId quantity).pairwise c
  rcases exchanges_setQuantity user productId quantity c with
    ⟨hlost, hsaid⟩ | ⟨id, rest, hfound, hsaid⟩
  · rw [hsaid]
    constructor
    · rintro ⟨e, he, hchange, -⟩
      simp [hlookup e he] at hchange
    · rintro ⟨hfound, -⟩
      exact absurd hfound hlost
  · rw [hsaid] at horderly ⊢
    rw [show ∀ a b : Exchange, a :: b :: rest = [a] ++ b :: rest from fun _ _ => rfl] at horderly ⊢
    rw [applied_iff_first _ horderly hlookup (changesRows_changeLine id productId quantity) rfl]
    exact ⟨fun hack => ⟨⟨id, hfound⟩, hack⟩, fun h => h.2⟩

/-- Something of a call counts exactly where its first change of data was acknowledged. -/
theorem applied_iff (call : CartCall) (c : Conversation) :
    Applied (call.talk.exchanges c) ↔ ∃ reply, FirstChange call c reply ∧ reply.isDone = true := by
  cases call with
  | add user product quantity => exact applied_addItem.trans (firstChange_opening rfl).symm
  | set user productId quantity => exact applied_setQuantity.trans (firstChange_edit rfl).symm
  | remove user productId => exact applied_setQuantity.trans (firstChange_edit rfl).symm

/-- A change of a cart that the storage refuses is half applied exactly where the first of its
statements that change data was acknowledged: none of them goes over the line of a transaction,
and only the last thing said was refused. -/
theorem cartCall_halfApplied (call : CartCall) (c c' : Conversation) (failure : StorageFailure)
    (h : call.on store c = .ok (.error (.storage failure), c')) :
    c'.sent = c.sent ++ (call.talk.exchanges c).map (·.statement) ∧
      (∀ e ∈ call.talk.exchanges c, e.line = .pooled) ∧
      (call.talk.exchanges c).Pairwise (fun e _ => e.Acknowledged) ∧
      (HalfApplied call c ↔ ∃ reply, FirstChange call c reply ∧ reply.isDone = true) := by
  rw [CartCall.on_store] at h
  refine ⟨Talk.sent_run h, ?_, (orderly_talk call).pairwise c, ?_⟩
  · intro e he
    exact (orderly_talk call).of_mem_exchanges he
  · rw [← applied_iff]
    exact ⟨fun half => half.2, fun applied => ⟨⟨failure, c', h⟩, applied⟩⟩

/-- The new quantity is stored, but the cart cannot be read again. -/
theorem cartCall_halfApplied_unread :
    ∃ failure c', (CartCall.set "ana" 1 5).on store
        { replies := [.done [[("id", .int 7)]] 1, .done [] 1, .refused "connection lost"] } =
      .ok (.error (.storage failure), c') ∧
      HalfApplied (.set "ana" 1 5)
        { replies := [.done [[("id", .int 7)]] 1, .done [] 1, .refused "connection lost"] } := by
  have hfound : (Reply.done [[("id", .int 7)]] 1).Shows Row.firstWord? 7 := ⟨_, _, _, rfl, rfl⟩
  refine ⟨_, _, rfl, ?_⟩
  apply (cartCall_halfApplied (.set "ana" 1 5) _ _ _ rfl).2.2.2.mpr
  exact ⟨_, .edit rfl hfound, rfl⟩

/-- The units of a refused addition are already stored: only the lines without units were not
dropped. -/
theorem addItem_half_applied :
    HalfApplied (.add "ana" { id := 1, name := "Linen shirt", cost := 4000.0 } 2)
      { replies := [.done [[("id", .int 7)]] 1, .done [] 1, .refused "connection lost"] } := by
  refine ⟨⟨_, _, rfl⟩, ?_⟩
  apply applied_addItem.mpr
  rfl

end Database
end VolumePricing
