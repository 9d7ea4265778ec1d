import VolumePricing.Database.Column
import VolumePricing.Database.Conversation
import VolumePricing.Proofs.Action

/-!
# What is said and answered

A talk that is held in a conversation leaves a list of exchanges: each statement
with the line it went over and the answer it got. The list is there whatever the
talk comes to, so that it also shows what was said before an overflow. A talk is
orderly when it ends with the first statement that the database refuses, and of
what it may say and how it may overflow it is enough to know the parts.
-/

namespace VolumePricing.Database

open VolumePricing.Action

variable {α β : Type} {c c' : Conversation}

namespace Reply

def isDone : Reply → Bool
  | .done _ _ => true
  | .refused _ => false

/-- The rows of an answer, or the refusal. -/
def rows : Reply → Except StoreError (List Row)
  | .done rows _ => .ok rows
  | .refused message => .error (refusal message)

def affected : Reply → Except StoreError ℕ
  | .done _ affected => .ok affected
  | .refused message => .error (refusal message)

/-- The answer begins with a row that is read as `a`. -/
def Shows (read : Row → Option α) (a : α) (reply : Reply) : Prop :=
  ∃ r rest n, reply = .done (r :: rest) n ∧ read r = some a

end Reply

structure Exchange where
  line : Line
  statement : Statement
  reply : Reply
  deriving DecidableEq, Repr

/-- The database has done what the statement asks for. -/
def Exchange.Acknowledged (e : Exchange) : Prop := e.reply.isDone = true

instance (e : Exchange) : Decidable e.Acknowledged := inferInstanceAs (Decidable (_ = true))

namespace Talk

theorem bind_answer (x : Talk α) : x.bind .answer = x := by
  induction x with
  | say line s next ih => exact congrArg (Talk.say line s) (funext ih)
  | _ => rfl

theorem bind_bind {γ : Type} (x : Talk α) (f : α → Talk β) (g : β → Talk γ) :
    (x.bind f).bind g = x.bind fun a => (f a).bind g := by
  induction x with
  | say line s next ih => exact congrArg (Talk.say line s) (funext ih)
  | _ => rfl

instance : LawfulMonad Talk := .mk' _ bind_answer (fun _ _ => rfl) bind_bind

/-- The exchanges of a talk in a conversation. -/
def exchanges : Talk α → Conversation → List Exchange
  | .answer _, _ => []
  | .refuse _, _ => []
  | .overflow _, _ => []
  | .say line s next, c => ⟨line, s, c.reply s⟩ :: (next (c.reply s)).exchanges (c.after s)

@[simp] theorem run_pure (a : α) (c : Conversation) : (pure a : Talk α).run c = .ok (.ok a, c) := rfl

@[simp] theorem run_throw (e : StoreError) (c : Conversation) :
    (throw e : Talk α).run c = .ok (.error e, c) := rfl

@[simp] theorem run_checked (x : Checked α) (c : Conversation) :
    (liftM x : Talk α).run c = x.map fun a => (.ok a, c) := by
  cases x <;> rfl

theorem run_say (line : Line) (s : Statement) (next : Reply → Talk α) (c : Conversation) :
    (Talk.say line s next).run c = (next (c.reply s)).run (c.after s) := rfl

@[simp] theorem exchanges_pure (a : α) (c : Conversation) :
    (pure a : Talk α).exchanges c = [] := rfl

@[simp] theorem exchanges_throw (e : StoreError) (c : Conversation) :
    (throw e : Talk α).exchanges c = [] := rfl

@[simp] theorem exchanges_checked (x : Checked α) (c : Conversation) :
    (liftM x : Talk α).exchanges c = [] := by
  cases x <;> rfl

theorem run_bind (x : Talk α) (f : α → Talk β) (c : Conversation) :
    (x >>= f).run c =
      match x.run c with
      | .error o => .error o
      | .ok (.error e, c') => .ok (.error e, c')
      | .ok (.ok a, c') => (f a).run c' := by
  induction x generalizing c with
  | answer a => rfl
  | refuse e => rfl
  | overflow o => rfl
  | say line s next ih => exact ih (c.reply s) (c.after s)

theorem run_map (f : α → β) (x : Talk α) (c : Conversation) :
    (f <$> x).run c = (x.run c).map fun p => (p.1.map f, p.2) := by
  rw [map_eq_pure_bind, run_bind]
  rcases x.run c with o | ⟨e | a, c'⟩ <;> rfl

theorem exchanges_bind (x : Talk α) (f : α → Talk β) (c : Conversation) :
    (x >>= f).exchanges c =
      x.exchanges c ++
        match x.run c with
        | .ok (.ok a, c') => (f a).exchanges c'
        | _ => [] := by
  induction x generalizing c with
  | answer a => rfl
  | refuse e => rfl
  | overflow o => rfl
  | say line s next ih => exact congrArg (_ :: ·) (ih (c.reply s) (c.after s))

/-- A sequence of two talks that ends was refused in the first, or went on to the second. -/
theorem bind_eq_ok {x : Talk α} {f : α → Talk β} {r : Except StoreError β} :
    (x >>= f).run c = .ok (r, c') ↔
      (∃ e, x.run c = .ok (.error e, c') ∧ r = .error e) ∨
        ∃ a c₁, x.run c = .ok (.ok a, c₁) ∧ (f a).run c₁ = .ok (r, c') := by
  rw [run_bind, ← Action.bind_eq_ok (x := x.run) (f := fun a => (f a).run), Action.run_bind]
  rcases x.run c with o | ⟨e | a, c₁⟩ <;> rfl

theorem bind_eq_error {x : Talk α} {f : α → Talk β} {o : Overflow} :
    (x >>= f).run c = .error o ↔
      x.run c = .error o ∨ ∃ a c₁, x.run c = .ok (.ok a, c₁) ∧ (f a).run c₁ = .error o := by
  rw [run_bind]
  rcases x.run c with o' | ⟨e | a, c₁⟩ <;> simp

theorem mem_exchanges_bind {x : Talk α} {f : α → Talk β} {e : Exchange} :
    e ∈ (x >>= f).exchanges c ↔
      e ∈ x.exchanges c ∨ ∃ a c₁, x.run c = .ok (.ok a, c₁) ∧ e ∈ (f a).exchanges c₁ := by
  rw [exchanges_bind, List.mem_append]
  rcases x.run c with o' | ⟨e | a, c₁⟩ <;> simp

theorem run_orElse (x : Talk α) (f : StoreError → Talk α) (c : Conversation) :
    (x.orElse f).run c =
      match x.run c with
      | .error o => .error o
      | .ok (.error e, c') => (f e).run c'
      | .ok (.ok a, c') => .ok (.ok a, c') := by
  induction x generalizing c with
  | answer a => rfl
  | refuse e => rfl
  | overflow o => rfl
  | say line s next ih => exact ih (c.reply s) (c.after s)

theorem exchanges_orElse (x : Talk α) (f : StoreError → Talk α) (c : Conversation) :
    (x.orElse f).exchanges c =
      x.exchanges c ++
        match x.run c with
        | .ok (.error e, c') => (f e).exchanges c'
        | _ => [] := by
  induction x generalizing c with
  | answer a => exact (List.append_nil _).symm
  | refuse e => rfl
  | overflow o => rfl
  | say line s next ih => exact congrArg (_ :: ·) (ih (c.reply s) (c.after s))

/-- A conversation keeps the statements of the exchanges. -/
theorem sent_run {x : Talk α} {r : Except StoreError α} (h : x.run c = .ok (r, c')) :
    c'.sent = c.sent ++ (x.exchanges c).map (·.statement) := by
  induction x generalizing c with
  | answer a =>
    cases h
    exact (List.append_nil _).symm
  | refuse e =>
    cases h
    exact (List.append_nil _).symm
  | overflow o => cases h
  | say line s next ih =>
    rw [ih (c.reply s) h, exchanges, List.map_cons]
    simp [Conversation.after]

end Talk

/-! ### Single statements -/

@[simp] theorem expect_some (a : α) : expect (some a) = pure a := rfl

@[simp] theorem expect_none : (expect none : Talk α) = throw unexpected := rfl

section Single

variable (line : Line) (sql : String) (params : List Datum) (c : Conversation)

theorem run_rows :
    (rows line sql params).run c = .ok (c.nextReply.rows, c.after (.prepared sql params)) := by
  rw [rows, Talk.run_bind, prepared, Talk.run_say, Conversation.reply]
  cases c.nextReply <;> rfl

theorem run_execute :
    (execute line sql params).run c =
      .ok (c.nextReply.affected, c.after (.prepared sql params)) := by
  rw [execute, Talk.run_bind, prepared, Talk.run_say, Conversation.reply]
  cases c.nextReply <;> rfl

theorem exchanges_rows :
    (rows line sql params).exchanges c = [⟨line, .prepared sql params, c.nextReply⟩] := by
  rw [rows, Talk.exchanges_bind, prepared, Talk.exchanges, Talk.run_say, Conversation.reply]
  cases c.nextReply <;> rfl

theorem exchanges_execute :
    (execute line sql params).exchanges c = [⟨line, .prepared sql params, c.nextReply⟩] := by
  rw [execute, Talk.exchanges_bind, prepared, Talk.exchanges, Talk.run_say, Conversation.reply]
  cases c.nextReply <;> rfl

theorem exchanges_expect (a : Option α) : (expect a).exchanges c = [] := by
  cases a <;> rfl

theorem exchanges_fetch? (read : Row → Option α) :
    (fetch? line sql params read).exchanges c = [⟨line, .prepared sql params, c.nextReply⟩] := by
  rw [fetch?, Talk.exchanges_bind, exchanges_rows, run_rows]
  rcases c.nextReply with ⟨_ | ⟨r, rest⟩, n⟩ | m
  · rfl
  · simp only [Reply.rows, List.head?_cons]
    cases read r <;> rfl
  · rfl

theorem exchanges_fetch (read : Row → Option α) :
    (fetch line sql params read).exchanges c = [⟨line, .prepared sql params, c.nextReply⟩] := by
  rw [fetch, Talk.exchanges_bind, exchanges_rows, run_rows]
  cases c.nextReply <;> simp [Reply.rows, exchanges_expect]

variable {line sql params c} {read : Row → Option α} {a : α}

theorem fetch?_eq_some :
    (fetch? line sql params read).run c = .ok (.ok (some a), c') ↔
      c.nextReply.Shows read a ∧ c' = c.after (.prepared sql params) := by
  rw [fetch?, Talk.run_bind, run_rows]
  rcases c.nextReply with ⟨_ | ⟨r, rest⟩, n⟩ | m
  · simp [Reply.Shows, Reply.rows]
  · cases hread : read r <;> simp [Reply.Shows, Reply.rows, Talk.run_map, Except.map, hread, eq_comm]
  · simp [Reply.Shows, Reply.rows]

theorem fetch_eq_ok :
    (fetch line sql params read).run c = .ok (.ok a, c') ↔
      c.nextReply.Shows read a ∧ c' = c.after (.prepared sql params) := by
  rw [fetch, Talk.run_bind, run_rows]
  rcases c.nextReply with ⟨_ | ⟨r, rest⟩, n⟩ | m
  · simp [Reply.Shows, Reply.rows]
  · cases hread : read r <;> simp [Reply.Shows, Reply.rows, hread, eq_comm]
  · simp [Reply.Shows, Reply.rows]

end Single

/-! ### Orderly talks -/

namespace Talk

variable {P : Line → Statement → Prop} {Q : Overflow → Prop} {x : Talk α}

/-- The talk says statements of the one kind only, overflows in the one kind of ways only, and
ends with the first statement that the database refuses. -/
def Orderly (P : Line → Statement → Prop) (Q : Overflow → Prop) : Talk α → Prop
  | .answer _ => True
  | .refuse _ => True
  | .overflow o => Q o
  | .say line s next =>
    P line s ∧ (∀ message, next (.refused message) = .refuse (refusal message)) ∧
      ∀ rows affected, (next (.done rows affected)).Orderly P Q

theorem orderly_pure (a : α) : (pure a : Talk α).Orderly P Q := trivial

theorem orderly_throw (e : StoreError) : (throw e : Talk α).Orderly P Q := trivial

theorem orderly_checked {x : Checked α} (h : ∀ o, x = .error o → Q o) :
    (liftM x : Talk α).Orderly P Q := by
  cases x with
  | ok a => trivial
  | error o => exact h o rfl

theorem Orderly.bind {f : α → Talk β} (hx : x.Orderly P Q) (hf : ∀ a, (f a).Orderly P Q) :
    (x >>= f).Orderly P Q := by
  induction x with
  | answer a => exact hf a
  | refuse e => trivial
  | overflow o => exact hx
  | say line s next ih =>
    obtain ⟨hs, hrefused, hdone⟩ := hx
    refine ⟨hs, ?_, ?_⟩
    · intro message
      change (next (.refused message)).bind f = _
      rw [hrefused]
      rfl
    · intro rows affected
      exact ih _ (hdone rows affected)

theorem orderly_forIn {ω : Type} {f : ω → β → Talk (ForInStep β)}
    (hf : ∀ a b, (f a b).Orderly P Q) (xs : List ω) (b : β) : (forIn xs b f).Orderly P Q := by
  induction xs generalizing b with
  | nil => exact orderly_pure b
  | cons a xs ih =>
    rw [List.forIn_cons]
    apply (hf a b).bind
    intro step
    cases step with
    | done b' => exact orderly_pure b'
    | yield b' => exact ih b'

theorem Orderly.of_mem_exchanges (hx : x.Orderly P Q) {e : Exchange} (he : e ∈ x.exchanges c) :
    P e.line e.statement := by
  induction x generalizing c with
  | answer a => cases he
  | refuse e => cases he
  | overflow o => cases he
  | say line s next ih =>
    obtain ⟨hs, hrefused, hdone⟩ := hx
    rcases List.mem_cons.mp he with rfl | he
    · exact hs
    · cases hr : c.reply s with
      | done rows affected =>
        rw [hr] at he
        exact ih _ (hdone rows affected) he
      | refused message =>
        rw [hr, hrefused] at he
        cases he

theorem Orderly.of_overflow (hx : x.Orderly P Q) {o : Overflow} (h : x.run c = .error o) : Q o := by
  induction x generalizing c with
  | answer a => cases h
  | refuse e => cases h
  | overflow o' =>
    cases h
    exact hx
  | say line s next ih =>
    obtain ⟨-, hrefused, hdone⟩ := hx
    rw [run_say] at h
    cases hr : c.reply s with
    | done rows affected =>
      rw [hr] at h
      exact ih _ (hdone rows affected) h
    | refused message =>
      rw [hr, hrefused] at h
      cases h

/-- In an orderly talk only what is said last can have been refused. -/
theorem Orderly.pairwise (hx : x.Orderly P Q) (c : Conversation) :
    (x.exchanges c).Pairwise fun e _ => e.Acknowledged := by
  induction x generalizing c with
  | answer a => exact List.Pairwise.nil
  | refuse e => exact List.Pairwise.nil
  | overflow o => exact List.Pairwise.nil
  | say line s next ih =>
    obtain ⟨-, hrefused, hdone⟩ := hx
    rw [exchanges]
    cases hr : c.reply s with
    | done rows affected =>
      apply List.pairwise_cons.mpr
      exact ⟨fun _ _ => rfl, ih _ (hdone rows affected) _⟩
    | refused message =>
      rw [hrefused]
      exact List.pairwise_singleton _ _

/-- An orderly talk that comes to an answer was not refused anything. -/
theorem Orderly.acknowledged (hx : x.Orderly P Q) {a : α} (h : x.run c = .ok (.ok a, c')) :
    ∀ e ∈ x.exchanges c, e.Acknowledged := by
  induction x generalizing c with
  | answer a => simp [exchanges]
  | refuse e => cases h
  | overflow o => cases h
  | say line s next ih =>
    obtain ⟨-, hrefused, hdone⟩ := hx
    rw [run_say] at h
    intro e he
    cases hr : c.reply s with
    | done rows affected =>
      rw [hr] at h
      rw [exchanges, hr] at he
      rcases List.mem_cons.mp he with rfl | he
      · rfl
      · exact ih _ (hdone rows affected) h e he
    | refused message =>
      rw [hr, hrefused] at h
      cases h

end Talk

section Statements

variable {P : Line → Statement → Prop} {Q : Overflow → Prop} {line : Line} {sql : String}
  {params : List Datum} (h : P line (.prepared sql params))
include h

theorem orderly_prepared : (prepared line sql params).Orderly P Q :=
  ⟨h, fun _ => rfl, fun _ _ => trivial⟩

theorem orderly_rows : (rows line sql params).Orderly P Q :=
  (orderly_prepared h).bind fun _ => Talk.orderly_pure _

theorem orderly_execute : (execute line sql params).Orderly P Q :=
  (orderly_prepared h).bind fun _ => Talk.orderly_pure _

omit h in
theorem orderly_expect (a : Option α) : (expect a).Orderly P Q := by
  cases a <;> trivial

theorem orderly_fetchAll (read : Row → Option α) : (fetchAll line sql params read).Orderly P Q :=
  (orderly_rows h).bind fun _ => orderly_expect _

theorem orderly_fetch? (read : Row → Option α) : (fetch? line sql params read).Orderly P Q := by
  apply (orderly_rows h).bind
  intro found
  cases found with
  | nil => exact Talk.orderly_pure none
  | cons r rest => exact (orderly_expect _).bind fun a => Talk.orderly_pure (some a)

theorem orderly_fetch (read : Row → Option α) : (fetch line sql params read).Orderly P Q :=
  (orderly_rows h).bind fun _ => orderly_expect _

end Statements

/-- A row that is asked for is found or not; nothing overflows. -/
theorem fetch_ne_overflow {line : Line} {sql : String} {params : List Datum}
    {read : Row → Option α} {o : Overflow} : (fetch line sql params read).run c ≠ .error o := by
  intro h
  have horderly : (fetch line sql params read).Orderly (fun _ _ => True) fun _ => False :=
    orderly_fetch trivial read
  exact horderly.of_overflow h

end VolumePricing.Database
