import VolumePricing.Proofs.Database.Bindings
import VolumePricing.Proofs.Database.TierTalks
import VolumePricing.Proofs.Tier.Validity

/-!
# Tiers in memory and in a database change alike

A database that does what it is told and holds a tier answers an update as a
store in memory does that holds it: with the same tier, which is also what is
written to its row. The flag is taken from the other tiers in the one exactly
where it is taken from them in the other. A new tier is written as it was
submitted, with the index it was given.
-/

namespace VolumePricing.TierTable

/-- The tiers with other ids. -/
def others (s : TierTable) (id : UInt32) : List PriceTier := s.tiers.filter (·.id ≠ id)

theorem filter_clearDefaults (keep : UInt32) (tiers : List PriceTier) :
    (clearDefaults keep tiers).filter (·.id ≠ keep) =
      (tiers.filter (·.id ≠ keep)).map fun t => { t with isDefault := false } := by
  induction tiers with
  | nil => rfl
  | cons t ts ih =>
    by_cases ht : t.id = keep
    · simpa [clearDefaults, ht] using ih
    · simpa [clearDefaults, ht] using ih

/-- An update takes the flag from the other tiers, or leaves them as they are. -/
theorem others_update {s s' : TierTable} {id : UInt32} {u : TierUpdate} {t updated : PriceTier}
    (ht : s.get? id = some t) (h : s.update id u = .ok (updated, s')) :
    s'.others id = if movesDefault u t then
      (s.others id).map fun t => { t with isDefault := false } else s.others id := by
  obtain ⟨t', ht', -, -, htiers⟩ := update_eq_ok h
  rw [ht] at ht'
  cases ht'
  have hsame : s'.others id =
      (if movesDefault u t then clearDefaults id s.tiers else s.tiers).filter (·.id ≠ id) := by
    rw [others, htiers]
    apply filter_modifyFirst
    intro x hx
    have hid : x.id = id := by simpa using hx
    simp [hid]
  rw [hsame]
  split
  · exact filter_clearDefaults id s.tiers
  · rfl

end VolumePricing.TierTable

namespace VolumePricing.Database

variable {c c' : Conversation} {id : UInt32} {t : PriceTier} {u : TierUpdate}

/-! ### A database that does what it is told -/

namespace Conversation

/-- The database refuses nothing. -/
structure Willing (c : Conversation) : Prop where
  scripts : ∀ sql, c.refuses sql = false
  replies : ∀ reply ∈ c.replies, reply.isDone = true

theorem Willing.after (h : c.Willing) (s : Statement) : (c.after s).Willing where
  scripts := h.scripts
  replies := by
    intro reply hreply
    cases s with
    | prepared sql params => exact h.replies reply (List.mem_of_mem_drop hreply)
    | script sql => exact h.replies reply hreply

theorem Willing.nextReply (h : c.Willing) : ∃ rows n, c.nextReply = .done rows n := by
  have hdone : c.nextReply.isDone = true := by
    unfold Conversation.nextReply
    rcases hr : c.replies with _ | ⟨reply, rest⟩
    · rfl
    · exact h.replies reply (by simp [hr])
  cases hr : c.nextReply with
  | done rows n => exact ⟨rows, n, rfl⟩
  | refused m => simp [hr, Reply.isDone] at hdone

/-- The conversation after all these statements. -/
def afterAll (c : Conversation) (ss : List Statement) : Conversation := ss.foldl after c

theorem sent_afterAll (c : Conversation) (ss : List Statement) :
    (c.afterAll ss).sent = c.sent ++ ss := by
  induction ss generalizing c with
  | nil => exact (List.append_nil _).symm
  | cons s ss ih =>
    have hstep : (c.afterAll (s :: ss)).sent = (c.sent ++ [s]) ++ ss := ih (c.after s)
    rw [hstep, List.append_assoc, List.singleton_append]

theorem Willing.afterAll (h : c.Willing) (ss : List Statement) : (c.afterAll ss).Willing := by
  induction ss generalizing c with
  | nil => exact h
  | cons s ss ih => exact ih (h.after s)

end Conversation

section Willing

variable {α : Type} (hc : c.Willing)
include hc

theorem run_script_of_willing (sql : String) :
    (script sql).run c = .ok (.ok (), c.after (.script sql)) := by
  rw [run_script, Conversation.reply, hc.scripts sql]
  rfl

theorem run_execute_of_willing (line : Line) (sql : String) (params : List Datum) :
    ∃ n, (execute line sql params).run c = .ok (.ok n, c.after (.prepared sql params)) := by
  obtain ⟨rows, n, hreply⟩ := hc.nextReply
  exact ⟨n, by rw [run_execute, hreply]; rfl⟩

/-- A transaction comes to the answer of its body. -/
theorem run_transaction_of_willing {body : Talk α} {ss : List Statement} {a : α}
    (hbody : body.run (c.after (.script "BEGIN")) =
      .ok (.ok a, (c.after (.script "BEGIN")).afterAll ss)) :
    (transaction body).run c =
      .ok (.ok a, c.afterAll ([.script "BEGIN"] ++ ss ++ [.script "COMMIT"])) := by
  have hend := ((hc.after (.script "BEGIN")).afterAll ss)
  change (script "BEGIN" >>= fun _ => (committing body).orElse takeBack).run c = _
  rw [Talk.run_bind, run_script_of_willing hc]
  simp only [Talk.run_orElse, committing, Talk.run_bind, hbody, run_script_of_willing hend]
  simp [Conversation.afterAll]

end Willing

/-! ### Updates -/

/-- What is said to update a tier that is found. -/
def revising (id : UInt32) (u : TierUpdate) (t : PriceTier) : List Statement :=
  [.prepared lockTier [.ofId id]] ++
    (if TierTable.movesDefault u t then [.prepared clearOtherDefaults [.ofId id]] else []) ++
    [.prepared replaceTier (tierValues (u.applyTo t) ++ [.ofId id])]

theorem run_revision_of_willing (hc : c.Willing) (ht : c.nextReply.Shows tierOfRow? t) :
    (revision id u).run c = .ok (.ok (u.applyTo t), c.afterAll (revising id u t)) := by
  have hlock : (requireTier .held lockTier id).run c =
      .ok (.ok t, c.after (.prepared lockTier [.ofId id])) :=
    requireTier_eq_ok.mpr ⟨ht, rfl⟩
  have hlocked := hc.after (.prepared lockTier [.ofId id])
  have hreplace : ∀ {c₁ : Conversation}, c₁.Willing →
      (execute .held replaceTier (tierValues (u.applyTo t) ++ [.ofId id]) >>=
        fun _ => pure (u.applyTo t)).run c₁ =
      .ok (.ok (u.applyTo t),
        c₁.after (.prepared replaceTier (tierValues (u.applyTo t) ++ [.ofId id]))) := by
    intro c₁ hc₁
    obtain ⟨n, hn⟩ := run_execute_of_willing hc₁ .held replaceTier
      (tierValues (u.applyTo t) ++ [.ofId id])
    rw [Talk.run_bind, hn]
    rfl
  unfold revision revising
  rw [Talk.run_bind, hlock]
  dsimp only
  by_cases hmoves : TierTable.movesDefault u t = true
  · obtain ⟨n, hn⟩ := run_execute_of_willing hlocked .held clearOtherDefaults [.ofId id]
    rw [if_pos hmoves, if_pos hmoves, Talk.run_bind, hn]
    exact hreplace (hlocked.after _)
  · rw [if_neg hmoves, if_neg hmoves]
    exact hreplace hlocked

/-- The two stores have updated a tier alike. -/
structure UpdatedAlike (m m' : Memory) (c c' : Conversation) (t : PriceTier) (u : TierUpdate) :
    Prop where
  memory : Memory.store.updateTier t.id u m = .ok (.ok (u.applyTo t), m')
  database : store.updateTier t.id u c = .ok (.ok (u.applyTo t), c')
  stored : m'.tiers.get? t.id = some (u.applyTo t)
  /-- The database is told to take the flag from the other tiers if the table takes it from them. -/
  sent : c'.sent = c.sent ++ ([.script "BEGIN"] ++ revising t.id u t ++ [.script "COMMIT"])
  others : m'.tiers.others t.id = if TierTable.movesDefault u t then
    (m.tiers.others t.id).map fun t => { t with isDefault := false } else m.tiers.others t.id
  /-- The row that is written is the row of the tier. -/
  written : tierOfRow? (written replaceTier (tierValues (u.applyTo t) ++ [.ofId t.id])) =
    some (u.applyTo t)

theorem updatedAlike {m : Memory} (hstored : m.tiers.get? t.id = some t) (hc : c.Willing)
    (hrow : c.nextReply.Shows tierOfRow? t) (u : TierUpdate) :
    ∃ m' c', UpdatedAlike m m' c c' t u := by
  obtain ⟨s', hupdate, hget⟩ := TierTable.get?_update (u := u) hstored
  have hcanonical : t.formula.Canonical := by
    obtain ⟨r, rest, n, -, hr⟩ := hrow
    exact canonical_of_tierOfRow? hr
  refine ⟨{ m with tiers := s' }, _, ?_, ?_, hget, Conversation.sent_afterAll _ _,
    TierTable.others_update hstored hupdate, ?_⟩
  · rw [Memory.run_updateTier, hupdate]
  · apply run_transaction_of_willing hc
    exact run_revision_of_willing (hc.after _) hrow
  · rw [tierOfRow?_replaceTier, TierUpdate.canonical_applyTo hcanonical u]
    rfl

/-! ### Creations -/

theorem mem_exchanges_indexFor {e : Exchange} (he : e ∈ (indexFor t).exchanges c) :
    e.statement = .prepared selectLastIndex [] := by
  by_cases hzero : t.orderIndex = 0
  · rw [exchanges_indexFor hzero, List.mem_singleton] at he
    rw [he]
  · rw [indexFor, if_neg hzero] at he
    cases he

/-- What is sent with an insertion is the tier with its index. -/
theorem index_of_insertion {e : Exchange} {values : List Datum}
    (he : e ∈ (insertion t).exchanges c) (hs : e.statement = .prepared insertTier values) :
    ∃ i, IndexHeard ((insertion t).exchanges c) t i ∧
      values = tierValues { t with orderIndex := i } := by
  unfold insertion at he ⊢
  rcases Talk.mem_exchanges_bind.mp he with hindex | ⟨i, c₁, hindex, hinsert⟩
  · rw [mem_exchanges_indexFor hindex] at hs
    have hne : selectLastIndex ≠ insertTier := by decide +kernel
    exact absurd (Statement.prepared.inj hs).1 hne
  · refine ⟨i, ?_, ?_⟩
    · apply (indexHeard hindex).mono
      rw [Talk.exchanges_bind]
      exact List.subset_append_left _ _
    · rw [exchanges_fetch, List.mem_singleton] at hinsert
      subst hinsert
      exact (Statement.prepared.inj hs).2.symm

theorem index_of_creation {e : Exchange} {values : List Datum}
    (he : e ∈ (creation t).exchanges c) (hs : e.statement = .prepared insertTier values) :
    ∃ i, IndexHeard ((creation t).exchanges c) t i ∧
      values = tierValues { t with orderIndex := i } := by
  obtain ⟨front, hfront, hsaid⟩ := creation_inserts t c
  have hclear : e ∉ front := by
    intro hmem
    rw [hfront e hmem] at hs
    have hne : clearDefault ≠ insertTier := by decide +kernel
    exact hne (Statement.prepared.inj hs).1
  rcases hsaid with ⟨hsaid, -⟩ | ⟨c₁, hsaid, -⟩
  · rw [hsaid] at he
    exact absurd he hclear
  · rw [hsaid] at he ⊢
    obtain ⟨i, hindex, hvalues⟩ := index_of_insertion ((List.mem_append.mp he).resolve_left hclear) hs
    exact ⟨i, hindex.mono (List.subset_append_right _ _), hvalues⟩

/-- Every value that is sent to insert a tier is the one that was submitted, and the index is the
one that was settled: under whatever id the row is read, it is this tier. -/
def InsertedAsSubmitted (t : PriceTier) (c : Conversation) : Prop :=
  ∀ e ∈ (createTier t).exchanges c, ∀ values, e.statement = .prepared insertTier values →
    ∃ i, IndexHeard ((createTier t).exchanges c) t i ∧
      ∀ id, tierOfRow? (("id", .ofId id) :: written insertTier values) =
        some { t with id, orderIndex := i }

theorem insertedAsSubmitted (ht : t.formula.Canonical) (c : Conversation) :
    InsertedAsSubmitted t c := by
  intro e he values hs
  obtain ⟨c₁, hbody, hsub⟩ := (course_transaction (creation t) c).body_of_prepared he hs
  obtain ⟨i, hindex, rfl⟩ := index_of_creation hbody hs
  refine ⟨i, hindex.mono hsub, ?_⟩
  intro id
  rw [tierOfRow?_insertTier, ht]

/-- The stores in memory and in a database update alike, and what is written of a tier is the
tier. -/
theorem tierStores_agree :
    (∀ (m : Memory) (c : Conversation) (t : PriceTier) (u : TierUpdate),
      m.tiers.get? t.id = some t → c.Willing → c.nextReply.Shows tierOfRow? t →
        ∃ m' c', UpdatedAlike m m' c c' t u) ∧
      ∀ (t : PriceTier) (c : Conversation), t.formula.Canonical → InsertedAsSubmitted t c :=
  ⟨fun _ _ _ u hstored hc hrow => updatedAlike hstored hc hrow u,
    fun _ c ht => insertedAsSubmitted ht c⟩

/-- The flag moves to another tier of a new shop, and a tier is added that becomes the default and
has no place yet. -/
theorem tierStores_agree_seed :
    (∀ t ∈ Seed.tiers, ∃ m' c', UpdatedAlike ⟨⟨Seed.tiers, 4⟩, .ofProducts Seed.products, .empty⟩ m'
      { replies := [.done [rowOf t] 1] } c' t { isDefault := some true }) ∧
      ∃ e ∈ (createTier { name := "vip", isDefault := true }).exchanges
          { replies := [.done [] 3, .done [[("coalesce", .int 3)]] 1] },
        ∃ values i, e.statement = .prepared insertTier values ∧
          ∀ id, tierOfRow? (("id", .ofId id) :: written insertTier values) =
            some { id, name := "vip", isDefault := true, orderIndex := i } := by
  constructor
  · intro t ht
    have hstored : (⟨Seed.tiers, 4⟩ : TierTable).get? t.id = some t := by
      simp only [Seed.tiers, List.mem_cons, List.not_mem_nil, or_false] at ht
      rcases ht with rfl | rfl | rfl <;> rfl
    have hcanonical : t.formula.Canonical := by
      simp only [Seed.tiers, List.mem_cons, List.not_mem_nil, or_false] at ht
      rcases ht with rfl | rfl | rfl <;> rfl
    have hshows : (Reply.done [rowOf t] 1).Shows tierOfRow? t :=
      ⟨_, _, _, rfl, tierOfRow?_rowOf hcanonical⟩
    refine tierStores_agree.1 _ _ t _ hstored ⟨fun _ => rfl, ?_⟩ hshows
    simp [Reply.isDone]
  · -- BEGIN, the flag and the last index come before the insertion.
    have hsaid := tierStores_agree.2 { name := "vip", isDefault := true }
      { replies := [.done [] 3, .done [[("coalesce", .int 3)]] 1] } rfl _
      (.tail _ (.tail _ (.tail _ (.head _)))) _ rfl
    obtain ⟨i, -, hread⟩ := hsaid
    exact ⟨_, .tail _ (.tail _ (.tail _ (.head _))), _, i, rfl, hread⟩

end VolumePricing.Database
