import VolumePricing.Proofs.Database.Transactions

/-!
# Tiers are changed in transactions

The three changes of tiers that take more than one statement keep to the line
of their transaction. Nothing they write counts before everything they asked
for was done, and what they looked for was found.
-/

namespace VolumePricing.Database

variable {c c' : Conversation} {line : Line} {sql : String} {id : UInt32} {t : PriceTier}
  {i : Int32} {o : Overflow}

/-! ### Looking for rows -/

theorem exchanges_requireTier (line : Line) (sql : String) (id : UInt32) (c : Conversation) :
    (requireTier line sql id).exchanges c = [⟨line, .prepared sql [.ofId id], c.nextReply⟩] := by
  rw [requireTier, Talk.exchanges_bind, lookupTier, exchanges_fetch?]
  rcases Talk.run _ c with o | ⟨e | _ | t, c'⟩ <;> rfl

theorem requireTier_eq_ok :
    (requireTier line sql id).run c = .ok (.ok t, c') ↔
      c.nextReply.Shows tierOfRow? t ∧ c' = c.after (.prepared sql [.ofId id]) := by
  rw [requireTier, Talk.bind_eq_ok]
  constructor
  · rintro (⟨e, -, he⟩ | ⟨_ | t', c₁, hfound, hrest⟩)
    · cases he
    · cases hrest
    · cases hrest
      exact fetch?_eq_some.mp hfound
  · intro hshows
    exact Or.inr ⟨some t, c', fetch?_eq_some.mpr hshows, rfl⟩

theorem exchanges_indexFor (h : t.orderIndex = 0) (c : Conversation) :
    (indexFor t).exchanges c = [⟨.held, .prepared selectLastIndex [], c.nextReply⟩] := by
  unfold indexFor
  rw [if_pos h, Talk.exchanges_bind, exchanges_fetch]
  rcases Talk.run _ c with o | ⟨e | last, c'⟩ <;> simp

/-- Where no index is asked for, the last one in use was heard and has a successor. -/
theorem indexFor_eq_ok (h : t.orderIndex = 0) (hrun : (indexFor t).run c = .ok (.ok i, c')) :
    ∃ last, c.nextReply.Shows Row.firstWord? last ∧ Checked.addInt32 last 1 = .ok i ∧
      c' = c.after (.prepared selectLastIndex []) := by
  unfold indexFor at hrun
  rw [if_pos h] at hrun
  rcases Talk.bind_eq_ok.mp hrun with ⟨e, -, he⟩ | ⟨last, c₁, hlast, hnext⟩
  · cases he
  · obtain ⟨hshows, rfl⟩ := fetch_eq_ok.mp hlast
    refine ⟨last, hshows, ?_⟩
    rw [Talk.run_checked] at hnext
    cases hsum : Checked.addInt32 last 1 <;> simp_all [Except.map]

theorem indexFor_eq_error (hrun : (indexFor t).run c = .error o) :
    t.orderIndex = 0 ∧ c.nextReply.Shows Row.firstWord? Int32.maxValue ∧ o = .addition := by
  unfold indexFor at hrun
  split at hrun
  · rename_i h
    rcases Talk.bind_eq_error.mp hrun with hasked | ⟨last, c₁, hlast, hnext⟩
    · exact absurd hasked fetch_ne_overflow
    · obtain ⟨hshows, rfl⟩ := fetch_eq_ok.mp hlast
      have hsum : Checked.addInt32 last 1 = .error o := by
        rw [Talk.run_checked] at hnext
        cases hsum : Checked.addInt32 last 1 <;> simp_all [Except.map]
      obtain ⟨rfl, rfl⟩ := Checked.addInt32_one_eq_error.mp hsum
      exact ⟨h, hshows, rfl⟩
  · cases hrun

/-! ### The bodies of the transactions -/

theorem within_prepared (sql : String) (params : List Datum) :
    Within .held (.prepared sql params) := ⟨rfl, sql, params, rfl⟩

theorem orderly_indexFor (t : PriceTier) :
    (indexFor t).Orderly Within fun o => t.orderIndex = 0 ∧ o = .addition := by
  unfold indexFor
  split
  · rename_i h
    apply (orderly_fetch (within_prepared _ _) _).bind
    intro last
    apply Talk.orderly_checked
    intro o ho
    exact ⟨h, (Checked.addInt32_one_eq_error.mp ho).2⟩
  · exact Talk.orderly_pure _

theorem creation_eq (t : PriceTier) :
    creation t =
      if t.isDefault then execute .held clearDefault [] >>= fun _ => insertion t else insertion t :=
  rfl

theorem orderly_creation (t : PriceTier) :
    (creation t).Orderly Within fun o => t.orderIndex = 0 ∧ o = .addition := by
  have hinsertion : (insertion t).Orderly Within fun o => t.orderIndex = 0 ∧ o = .addition := by
    apply (orderly_indexFor t).bind
    intro i
    exact orderly_fetch (within_prepared _ _) _
  rw [creation_eq]
  split
  · exact (orderly_execute (within_prepared _ _)).bind fun _ => hinsertion
  · exact hinsertion

theorem orderly_requireTier (sql : String) (id : UInt32) :
    (requireTier .held sql id).Orderly Within fun _ => False := by
  apply (orderly_fetch? (within_prepared _ _) _).bind
  intro found
  cases found with
  | none => exact Talk.orderly_throw _
  | some t => exact Talk.orderly_pure t

theorem orderly_revision (id : UInt32) (u : TierUpdate) :
    (revision id u).Orderly Within fun _ => False := by
  unfold revision
  apply (orderly_requireTier _ _).bind
  intro t
  have hreplace : (execute .held replaceTier (tierValues (u.applyTo t) ++ [.ofId id]) >>=
      fun _ => pure (u.applyTo t)).Orderly Within fun _ => False :=
    (orderly_execute (within_prepared _ _)).bind fun _ => Talk.orderly_pure _
  split
  · exact (orderly_execute (within_prepared _ _)).bind fun _ => hreplace
  · exact hreplace

theorem orderly_placement (order : List TierOrder) :
    (placement order).Orderly Within fun _ => False := by
  unfold placement
  refine (Talk.orderly_forIn ?_ order _).bind fun _ => Talk.orderly_pure _
  intro o _
  exact (orderly_execute (within_prepared _ _)).bind fun _ => Talk.orderly_pure _

/-! ### What a body has heard -/

/-- The statement was answered, first of all with a row that is read as `a`. -/
def Heard {α : Type} (said : List Exchange) (s : Statement) (read : Row → Option α) (a : α) : Prop :=
  ∃ e ∈ said, e.statement = s ∧ e.reply.Shows read a

section Heard

variable {α β γ : Type} {said said' : List Exchange} {s : Statement} {read : Row → Option α}
  {a : α} {x : Talk β} {f : β → Talk γ}

theorem heard_single {reply : Reply} (h : reply.Shows read a) : Heard [⟨line, s, reply⟩] s read a :=
  ⟨_, List.mem_singleton_self _, rfl, h⟩

theorem Heard.mono (h : Heard said s read a) (hsub : said ⊆ said') : Heard said' s read a := by
  obtain ⟨e, he, hs, hshows⟩ := h
  exact ⟨e, hsub he, hs, hshows⟩

theorem Heard.bind_left (h : Heard (x.exchanges c) s read a) :
    Heard ((x >>= f).exchanges c) s read a := by
  rw [Talk.exchanges_bind]
  exact h.mono (List.subset_append_left _ _)

theorem Heard.bind_right {b : β} (hx : x.run c = .ok (.ok b, c'))
    (h : Heard ((f b).exchanges c') s read a) : Heard ((x >>= f).exchanges c) s read a := by
  rw [Talk.exchanges_bind, hx]
  exact h.mono (List.subset_append_right _ _)

end Heard

/-- Nothing but the clearing of the flag comes before the insertion of a tier, which is refused
only with it. -/
theorem creation_inserts (t : PriceTier) (c : Conversation) :
    ∃ front, (∀ e ∈ front, e.statement = .prepared clearDefault []) ∧
      ((creation t).exchanges c = front ∧ (∃ e c', (creation t).run c = .ok (.error e, c')) ∨
        ∃ c₁, (creation t).exchanges c = front ++ (insertion t).exchanges c₁ ∧
          (creation t).run c = (insertion t).run c₁) := by
  rw [creation_eq]
  split
  · refine ⟨[⟨.held, .prepared clearDefault [], c.nextReply⟩], by simp, ?_⟩
    rw [Talk.run_bind, Talk.exchanges_bind, run_execute, exchanges_execute]
    cases c.nextReply.affected with
    | error e => exact Or.inl ⟨rfl, e, _, rfl⟩
    | ok n => exact Or.inr ⟨_, rfl, rfl⟩
  · exact ⟨[], by simp, Or.inr ⟨c, rfl, rfl⟩⟩

/-- The index of a tier is the one it asks for, or the one after the last that was heard. -/
inductive IndexHeard (said : List Exchange) (t : PriceTier) : Int32 → Prop
  | asked (nonzero : t.orderIndex ≠ 0) : IndexHeard said t t.orderIndex
  | next {last i : Int32} (zero : t.orderIndex = 0) (sum : Checked.addInt32 last 1 = .ok i)
    (heard : Heard said (.prepared selectLastIndex []) Row.firstWord? last) : IndexHeard said t i

theorem indexHeard (h : (indexFor t).run c = .ok (.ok i, c')) :
    IndexHeard ((indexFor t).exchanges c) t i := by
  by_cases hzero : t.orderIndex = 0
  · obtain ⟨last, hshows, hsum, -⟩ := indexFor_eq_ok hzero h
    apply IndexHeard.next hzero hsum
    rw [exchanges_indexFor hzero]
    exact heard_single hshows
  · rw [indexFor, if_neg hzero] at h
    cases h
    exact .asked hzero

theorem IndexHeard.mono {said said' : List Exchange} (h : IndexHeard said t i)
    (hsub : said ⊆ said') : IndexHeard said' t i := by
  cases h with
  | asked nonzero => exact .asked nonzero
  | next zero sum heard => exact .next zero sum (heard.mono hsub)

/-- What the insertion of a tier has to hear before it comes to an answer: its index and its row. -/
def HeardInsertion (said : List Exchange) (t created : PriceTier) : Prop :=
  ∃ i, IndexHeard said t i ∧
    Heard said (.prepared insertTier (tierValues { t with orderIndex := i })) tierOfRow? created

theorem HeardInsertion.mono {said said' : List Exchange} {created : PriceTier}
    (h : HeardInsertion said t created) (hsub : said ⊆ said') : HeardInsertion said' t created := by
  obtain ⟨i, hindex, hrow⟩ := h
  exact ⟨i, hindex.mono hsub, hrow.mono hsub⟩

theorem heard_insertion {created : PriceTier}
    (h : (insertion t).run c = .ok (.ok created, c')) :
    HeardInsertion ((insertion t).exchanges c) t created := by
  unfold insertion at h ⊢
  rcases Talk.bind_eq_ok.mp h with ⟨e, -, he⟩ | ⟨i, c₁, hindex, hinsert⟩
  · cases he
  · refine ⟨i, ?_, ?_⟩
    · apply (indexHeard hindex).mono
      rw [Talk.exchanges_bind]
      exact List.subset_append_left _ _
    · apply Heard.bind_right hindex
      rw [exchanges_fetch]
      exact heard_single (fetch_eq_ok.mp hinsert).1

theorem mem_exchanges_execute {α : Type} {params : List Datum} (f : ℕ → Talk α) :
    ⟨line, .prepared sql params, c.nextReply⟩ ∈ (execute line sql params >>= f).exchanges c := by
  apply Talk.mem_exchanges_bind.mpr
  rw [exchanges_execute]
  exact Or.inl (List.mem_singleton_self _)

/-- What a revision says last is the updated tier, which is its answer. -/
theorem replacement_eq_ok {updated answer : PriceTier}
    (h : (execute .held replaceTier (tierValues updated ++ [.ofId id]) >>=
      fun _ => pure updated).run c = .ok (.ok answer, c')) :
    answer = updated ∧ ∃ e ∈ (execute .held replaceTier (tierValues updated ++ [.ofId id]) >>=
        fun _ => pure updated).exchanges c,
      e.statement = .prepared replaceTier (tierValues answer ++ [.ofId id]) := by
  rcases Talk.bind_eq_ok.mp h with ⟨e, -, he⟩ | ⟨n, c₂, -, hpure⟩
  · cases he
  · cases hpure
    exact ⟨rfl, _, mem_exchanges_execute _, rfl⟩

/-- The answer to a revision is what the update makes of the tier that was found, and the database is
told so. -/
theorem revision_eq_ok {u : TierUpdate} {updated : PriceTier}
    (h : (revision id u).run c = .ok (.ok updated, c')) :
    ∃ t, Heard ((revision id u).exchanges c) (.prepared lockTier [.ofId id]) tierOfRow? t ∧
      updated = u.applyTo t ∧ ∃ e ∈ (revision id u).exchanges c,
        e.statement = .prepared replaceTier (tierValues updated ++ [.ofId id]) := by
  unfold revision at h ⊢
  rcases Talk.bind_eq_ok.mp h with ⟨e, -, he⟩ | ⟨t, c₁, hlock, hrest⟩
  · cases he
  · refine ⟨t, Heard.bind_left ?_, ?_⟩
    · rw [exchanges_requireTier]
      exact heard_single (requireTier_eq_ok.mp hlock).1
    · by_cases hmoves : TierTable.movesDefault u t = true
      · rw [if_pos hmoves] at hrest
        rcases Talk.bind_eq_ok.mp hrest with ⟨e, -, he⟩ | ⟨n, c₂, hclear, hlast⟩
        · cases he
        · obtain ⟨hupdated, e, he, hs⟩ := replacement_eq_ok hlast
          refine ⟨hupdated, e, Talk.mem_exchanges_bind.mpr (Or.inr ⟨t, c₁, hlock, ?_⟩), hs⟩
          rw [if_pos hmoves]
          exact Talk.mem_exchanges_bind.mpr (Or.inr ⟨n, c₂, hclear, he⟩)
      · rw [if_neg hmoves] at hrest
        obtain ⟨hupdated, e, he, hs⟩ := replacement_eq_ok hrest
        refine ⟨hupdated, e, Talk.mem_exchanges_bind.mpr (Or.inr ⟨t, c₁, hlock, ?_⟩), hs⟩
        rw [if_neg hmoves]
        exact he

theorem heard_of_creation_overflows (h : (creation t).run c = .error o) :
    t.orderIndex = 0 ∧ o = .addition ∧
      Heard ((creation t).exchanges c) (.prepared selectLastIndex []) Row.firstWord?
        Int32.maxValue := by
  obtain ⟨front, -, ⟨-, e, c', hrefused⟩ | ⟨c₁, hsaid, hrun⟩⟩ := creation_inserts t c
  · rw [hrefused] at h
    cases h
  · rw [hrun] at h
    unfold insertion at h hsaid
    rcases Talk.bind_eq_error.mp h with hindex | ⟨i, c₂, -, hinsert⟩
    · obtain ⟨hzero, hshows, rfl⟩ := indexFor_eq_error hindex
      rw [hsaid]
      refine ⟨hzero, rfl, Heard.mono (Heard.bind_left ?_) (List.subset_append_right _ _)⟩
      rw [exchanges_indexFor hzero]
      exact heard_single hshows
    · exact absurd hinsert fetch_ne_overflow

/-! ### The three changes -/

/-- A tier is created by a transaction. -/
structure CreationTransacts (t : PriceTier) (c : Conversation) : Prop where
  sent : ∀ r c', store.createTier t c = .ok (r, c') →
    c'.sent = c.sent ++ ((createTier t).exchanges c).map (·.statement)
  transacts : Transacts ((createTier t).exchanges c) ((store.createTier t c).map (·.1))
  /-- COMMIT is said only once the tier had its index and its row was heard. -/
  inserted : ∀ e ∈ (createTier t).exchanges c, e.statement = .script "COMMIT" →
    ∃ created, HeardInsertion ((createTier t).exchanges c) t created
  /-- It overflows only where the tier asks for an index above the highest there is. -/
  overflows : ∀ o, store.createTier t c = .error o → t.orderIndex = 0 ∧ o = .addition ∧
    Heard ((createTier t).exchanges c) (.prepared selectLastIndex []) Row.firstWord? Int32.maxValue

/-- A tier is updated by a transaction. -/
structure RevisionTransacts (id : UInt32) (u : TierUpdate) (c : Conversation) : Prop where
  sent : ∀ r c', store.updateTier id u c = .ok (r, c') →
    c'.sent = c.sent ++ ((updateTier id u).exchanges c).map (·.statement)
  transacts : Transacts ((updateTier id u).exchanges c) ((store.updateTier id u c).map (·.1))
  /-- COMMIT is said only once the tier was found. -/
  found : ∀ e ∈ (updateTier id u).exchanges c, e.statement = .script "COMMIT" →
    ∃ t, Heard ((updateTier id u).exchanges c) (.prepared lockTier [.ofId id]) tierOfRow? t
  returns : ∃ r, store.updateTier id u c = .ok r

/-- The order of the tiers is changed by a transaction. -/
structure PlacementTransacts (order : List TierOrder) (c : Conversation) : Prop where
  sent : ∀ r c', store.reorderTiers order c = .ok (r, c') →
    c'.sent = c.sent ++ ((reorderTiers order).exchanges c).map (·.statement)
  transacts : Transacts ((reorderTiers order).exchanges c) ((store.reorderTiers order c).map (·.1))
  returns : ∃ r, store.reorderTiers order c = .ok r

theorem creationTransacts (t : PriceTier) (c : Conversation) : CreationTransacts t c := by
  have hcourse := course_transaction (creation t) c
  have hbody := orderly_creation t
  refine ⟨fun _ _ => Talk.sent_run, hcourse.transacts hbody, ?_, ?_⟩
  · intro e he hcommit
    obtain ⟨c₁, created, c', hrun, hsub⟩ := hcourse.answer_of_commit hbody he hcommit
    obtain ⟨front, -, ⟨-, e', c₂, hrefused⟩ | ⟨c₂, hsaid, hinserts⟩⟩ := creation_inserts t c₁
    · rw [hrefused] at hrun
      cases hrun
    · rw [hinserts] at hrun
      rw [hsaid] at hsub
      have hinner := List.subset_append_right front ((insertion t).exchanges c₂)
      exact ⟨created, ((heard_insertion hrun).mono hinner).mono hsub⟩
  · intro o ho
    obtain ⟨c₁, hrun, hsub⟩ := overflows_transaction ho
    obtain ⟨hzero, rfl, hheard⟩ := heard_of_creation_overflows hrun
    exact ⟨hzero, rfl, hheard.mono hsub⟩

theorem revisionTransacts (id : UInt32) (u : TierUpdate) (c : Conversation) :
    RevisionTransacts id u c := by
  have hcourse := course_transaction (revision id u) c
  have hbody := orderly_revision id u
  refine ⟨fun _ _ => Talk.sent_run, hcourse.transacts hbody, ?_, exists_run_transaction hbody c⟩
  intro e he hcommit
  obtain ⟨c₁, updated, c', hrun, hsub⟩ := hcourse.answer_of_commit hbody he hcommit
  obtain ⟨t, hheard, -⟩ := revision_eq_ok hrun
  exact ⟨t, hheard.mono hsub⟩

theorem placementTransacts (order : List TierOrder) (c : Conversation) :
    PlacementTransacts order c where
  sent := fun _ _ => Talk.sent_run
  transacts := (course_transaction (placement order) c).transacts (orderly_placement order)
  returns := exists_run_transaction (orderly_placement order) c

/-- Whatever the database answers, the changes of tiers that take more than one statement are
transactions, and each commits only what it has heard of. -/
theorem tierChanges_transact (c : Conversation) :
    (∀ t, CreationTransacts t c) ∧ (∀ id u, RevisionTransacts id u c) ∧
      ∀ order, PlacementTransacts order c :=
  ⟨fun t => creationTransacts t c, fun id u => revisionTransacts id u c,
    fun order => placementTransacts order c⟩

end VolumePricing.Database
