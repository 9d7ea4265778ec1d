import VolumePricing.Database.Store
import VolumePricing.Proofs.Database.Exchanges

/-!
# Transactions

A transaction takes one of five courses: it is not opened, it overflows, its
body is refused and it is taken back, the database refuses to commit it, or it
is committed. Where the body is orderly and keeps to the line of the
transaction, nothing counts before COMMIT is acknowledged, and COMMIT is said
only after everything else was. The changes of tiers that take more than one
statement are such transactions.
-/

namespace VolumePricing.Database

variable {α : Type} {body : Talk α} {c : Conversation} {said : List Exchange}
  {outcome : Checked (Except StoreError α)}

/-- A script over the line of a transaction. -/
def Exchange.held (sql : String) (reply : Reply) : Exchange := ⟨.held, .script sql, reply⟩

/-- How a transaction ends whose body was begun in `c`: with what is said after the body, and with
what it comes to. -/
inductive Ending (body : Talk α) (c : Conversation) :
    List Exchange → Checked (Except StoreError α) → Prop
  | overflowed {o : Overflow} (overflows : body.run c = .error o) : Ending body c [] (.error o)
  | takenBack {r : Reply} {e : StoreError} {c' : Conversation}
    (refused : body.run c = .ok (.error e, c')) :
    Ending body c [.held "ROLLBACK" r] (.ok (.error e))
  | uncommitted {r : Reply} {m : String} {a : α} {c' : Conversation}
    (answered : body.run c = .ok (.ok a, c')) :
    Ending body c [.held "COMMIT" (.refused m), .held "ROLLBACK" r] (.ok (.error (refusal m)))
  | committed {r : Reply} {a : α} {c' : Conversation} (answered : body.run c = .ok (.ok a, c'))
    (acknowledged : r.isDone = true) :
    Ending body c [.held "COMMIT" r] (.ok (.ok a))

/-- The course of a transaction: it is not opened, or it is and ends in one of these ways. -/
inductive Course (body : Talk α) (c : Conversation) :
    List Exchange → Checked (Except StoreError α) → Prop
  | unopened {m : String} : Course body c [.held "BEGIN" (.refused m)] (.ok (.error (refusal m)))
  | opened {r : Reply} {ending : List Exchange} {outcome : Checked (Except StoreError α)}
    (acknowledged : r.isDone = true)
    (ends : Ending body (c.after (.script "BEGIN")) ending outcome) :
    Course body c
      (.held "BEGIN" r :: (body.exchanges (c.after (.script "BEGIN")) ++ ending)) outcome

theorem run_script (sql : String) (c : Conversation) :
    (script sql).run c =
      .ok ((c.reply (.script sql)).affected.map fun _ => (), c.after (.script sql)) := by
  rw [script, Talk.run_say]
  cases c.reply (.script sql) <;> rfl

theorem exchanges_script (sql : String) (c : Conversation) :
    (script sql).exchanges c = [.held sql (c.reply (.script sql))] := by
  rw [script, Talk.exchanges]
  cases c.reply (.script sql) <;> rfl

/-- The body of a transaction, and COMMIT. -/
def committing (body : Talk α) : Talk α := do
  let a ← body
  script "COMMIT"
  return a

theorem ending_committing (body : Talk α) (c : Conversation) :
    ∃ ending, ((committing body).orElse takeBack).exchanges c = body.exchanges c ++ ending ∧
      Ending body c ending ((((committing body).orElse takeBack).run c).map (·.1)) := by
  unfold committing
  simp only [Talk.run_orElse, Talk.exchanges_orElse, Talk.run_bind, Talk.exchanges_bind]
  rcases hbody : body.run c with o | ⟨e | a, c'⟩
  · exact ⟨[], List.append_nil _, .overflowed hbody⟩
  · exact ⟨_, congrArg (· ++ _) (List.append_nil _), .takenBack hbody⟩
  · simp only [run_script, exchanges_script]
    cases hcommit : c'.reply (.script "COMMIT") with
    | refused m => exact ⟨_, List.append_assoc _ _ _, .uncommitted hbody⟩
    | done rows n => exact ⟨_, List.append_nil _, .committed hbody rfl⟩

theorem course_transaction (body : Talk α) (c : Conversation) :
    Course body c ((transaction body).exchanges c) (((transaction body).run c).map (·.1)) := by
  change Course body c ((script "BEGIN" >>= fun _ => (committing body).orElse takeBack).exchanges c)
    (((script "BEGIN" >>= fun _ => (committing body).orElse takeBack).run c).map (·.1))
  rw [Talk.run_bind, Talk.exchanges_bind, run_script, exchanges_script]
  cases hopen : c.reply (.script "BEGIN") with
  | refused m => exact .unopened
  | done rows n =>
    obtain ⟨ending, hsaid, hends⟩ := ending_committing body (c.after (.script "BEGIN"))
    simp only [Reply.affected, Except.map, hsaid]
    exact .opened rfl hends

/-! ### What a transaction guarantees -/

/-- A statement of the body of a transaction is prepared and goes over the line held for it. -/
def Within (line : Line) (s : Statement) : Prop :=
  line = .held ∧ ∃ sql params, s = .prepared sql params

/-- What is said counts together or not at all. -/
structure Transacts (said : List Exchange) (outcome : Checked (Except StoreError α)) : Prop where
  /-- BEGIN comes first. What follows comes after it was acknowledged, and goes over its line. -/
  opened : ∃ r rest, said = .held "BEGIN" r :: rest ∧ (rest ≠ [] → r.isDone = true) ∧
    ∀ e ∈ rest, e.line = .held
  /-- What stands before COMMIT is acknowledged. -/
  commits : said.Pairwise fun e later => later.statement = .script "COMMIT" → e.Acknowledged
  /-- An answer is given only once COMMIT is acknowledged. -/
  answered : ∀ a, outcome = .ok (.ok a) → ∃ r, r.isDone = true ∧ .held "COMMIT" r ∈ said
  /-- Else COMMIT was not said, or it was refused and that is the error. -/
  unanswered : (∀ a, outcome ≠ .ok (.ok a)) → ∀ e ∈ said, e.statement = .script "COMMIT" →
    ∃ m, e.reply = .refused m ∧ outcome = .ok (.error (refusal m))

section Ending

variable {Q : Overflow → Prop} {ending : List Exchange} {e : Exchange}

/-- The end of a transaction is scripts over its line. -/
theorem Ending.eq_held (h : Ending body c ending outcome) (he : e ∈ ending) :
    ∃ sql r, e = .held sql r := by
  cases h with
  | overflowed => cases he
  | takenBack => exact ⟨_, _, List.mem_singleton.mp he⟩
  | uncommitted =>
    rcases List.mem_pair.mp he with rfl | rfl
    · exact ⟨_, _, rfl⟩
    · exact ⟨_, _, rfl⟩
  | committed => exact ⟨_, _, List.mem_singleton.mp he⟩

/-- COMMIT is said only after the body has come to an answer. -/
theorem Ending.answer_of_commit (h : Ending body c ending outcome) (he : e ∈ ending)
    (hcommit : e.statement = .script "COMMIT") : ∃ a c', body.run c = .ok (.ok a, c') := by
  cases h with
  | overflowed => cases he
  | takenBack =>
    rw [List.mem_singleton] at he
    subst he
    simp [Exchange.held] at hcommit
  | uncommitted answered => exact ⟨_, _, answered⟩
  | committed answered => exact ⟨_, _, answered⟩

theorem Ending.pairwise (h : Ending body c ending outcome) :
    ending.Pairwise fun e later => later.statement = .script "COMMIT" → e.Acknowledged := by
  cases h <;> simp [Exchange.held]

theorem Ending.unanswered (h : Ending body c ending outcome) (hno : ∀ a, outcome ≠ .ok (.ok a))
    (he : e ∈ ending) (hcommit : e.statement = .script "COMMIT") :
    ∃ m, e.reply = .refused m ∧ outcome = .ok (.error (refusal m)) := by
  cases h with
  | overflowed => cases he
  | takenBack =>
    rw [List.mem_singleton] at he
    subst he
    simp [Exchange.held] at hcommit
  | uncommitted =>
    rw [List.mem_pair] at he
    rcases he with rfl | rfl
    · exact ⟨_, rfl, rfl⟩
    · simp [Exchange.held] at hcommit
  | committed => exact absurd rfl (hno _)

theorem not_commit_of_orderly (hbody : body.Orderly Within Q) (he : e ∈ body.exchanges c) :
    e.statement ≠ .script "COMMIT" := by
  obtain ⟨-, sql, params, hs⟩ := hbody.of_mem_exchanges he
  simp [hs]

theorem Ending.transacts (hbody : body.Orderly Within Q) (h : Ending body c ending outcome)
    {r : Reply} (opened : r.isDone = true) :
    Transacts (.held "BEGIN" r :: (body.exchanges c ++ ending)) outcome where
  opened := by
    refine ⟨r, _, rfl, fun _ => opened, ?_⟩
    intro e he
    rcases List.mem_append.mp he with he | he
    · exact (hbody.of_mem_exchanges he).1
    · obtain ⟨sql, r', rfl⟩ := h.eq_held he
      rfl
  commits := by
    rw [List.pairwise_cons, List.pairwise_append]
    refine ⟨fun _ _ _ => opened, ?_, h.pairwise, ?_⟩
    · apply List.pairwise_of_forall_mem_list
      intro e _ later hlater hcommit
      exact absurd hcommit (not_commit_of_orderly hbody hlater)
    · intro e he later hlater hcommit
      obtain ⟨a, c', answered⟩ := h.answer_of_commit hlater hcommit
      exact hbody.acknowledged answered e he
  answered := by
    intro a ha
    cases h with
    | committed answered acknowledged => exact ⟨_, acknowledged, by simp⟩
    | _ => cases ha
  unanswered := by
    intro hno e he hcommit
    rcases List.mem_cons.mp he with rfl | he
    · simp [Exchange.held] at hcommit
    · rcases List.mem_append.mp he with he | he
      · exact absurd hcommit (not_commit_of_orderly hbody he)
      · exact h.unanswered hno he hcommit

end Ending

theorem Course.transacts {Q : Overflow → Prop} (hbody : body.Orderly Within Q)
    (h : Course body c said outcome) : Transacts said outcome := by
  cases h with
  | unopened =>
    exact {
      opened := ⟨_, [], rfl, by simp, by simp⟩
      commits := List.pairwise_singleton _ _
      answered := by simp
      unanswered := by simp [Exchange.held] }
  | opened acknowledged ends => exact ends.transacts hbody acknowledged

/-- What an opened transaction says holds what its body says. -/
theorem subset_opened (inner ending : List Exchange) (r : Reply) :
    inner ⊆ .held "BEGIN" r :: (inner ++ ending) :=
  List.subset_cons_of_subset _ (List.subset_append_left inner ending)

/-- What is prepared in a transaction is said by its body. -/
theorem Course.body_of_prepared (h : Course body c said outcome) {e : Exchange} (he : e ∈ said)
    {sql : String} {params : List Datum} (hs : e.statement = .prepared sql params) :
    ∃ c₁, e ∈ body.exchanges c₁ ∧ body.exchanges c₁ ⊆ said := by
  cases h with
  | unopened =>
    rw [List.mem_singleton] at he
    subst he
    simp [Exchange.held] at hs
  | opened acknowledged ends =>
    rcases List.mem_cons.mp he with rfl | he
    · simp [Exchange.held] at hs
    · rcases List.mem_append.mp he with he | he
      · exact ⟨_, he, subset_opened _ _ _⟩
      · obtain ⟨sql', r', rfl⟩ := ends.eq_held he
        simp [Exchange.held] at hs

/-- COMMIT is said only after the body has come to an answer, and what it said is among what was
said. -/
theorem Course.answer_of_commit {Q : Overflow → Prop} (hbody : body.Orderly Within Q)
    (h : Course body c said outcome) {e : Exchange} (he : e ∈ said)
    (hcommit : e.statement = .script "COMMIT") :
    ∃ c₁ a c', body.run c₁ = .ok (.ok a, c') ∧ body.exchanges c₁ ⊆ said := by
  cases h with
  | unopened =>
    rw [List.mem_singleton] at he
    subst he
    simp [Exchange.held] at hcommit
  | opened acknowledged ends =>
    rcases List.mem_cons.mp he with rfl | he
    · simp [Exchange.held] at hcommit
    · rcases List.mem_append.mp he with he | he
      · exact absurd hcommit (not_commit_of_orderly hbody he)
      · obtain ⟨a, c', answered⟩ := ends.answer_of_commit he hcommit
        exact ⟨_, a, c', answered, subset_opened _ _ _⟩

/-- The answer of a transaction is the one of its body. -/
theorem Course.body_of_answer {a : α} (h : Course body c said (.ok (.ok a))) :
    ∃ c₁ c', body.run c₁ = .ok (.ok a, c') ∧ body.exchanges c₁ ⊆ said := by
  cases h with
  | opened acknowledged ends =>
    cases ends with
    | committed answered => exact ⟨_, _, answered, subset_opened _ _ _⟩

/-- A transaction overflows in its body. -/
theorem overflows_transaction {o : Overflow} (h : (transaction body).run c = .error o) :
    ∃ c₁, body.run c₁ = .error o ∧ body.exchanges c₁ ⊆ (transaction body).exchanges c := by
  have hcourse := course_transaction body c
  rw [h] at hcourse
  generalize (transaction body).exchanges c = said at hcourse ⊢
  cases hcourse with
  | opened acknowledged ends =>
    cases ends with
    | overflowed overflows => exact ⟨_, overflows, subset_opened _ _ _⟩

/-- A transaction whose body has no way to overflow comes to an answer or a refusal. -/
theorem exists_run_transaction {P : Line → Statement → Prop}
    (hbody : body.Orderly P fun _ => False) (c : Conversation) :
    ∃ r, (transaction body).run c = .ok r := by
  cases hrun : (transaction body).run c with
  | ok r => exact ⟨r, rfl⟩
  | error o =>
    obtain ⟨c₁, hoverflow, -⟩ := overflows_transaction hrun
    exact (hbody.of_overflow hoverflow).elim

end VolumePricing.Database
