import VolumePricing.Database.Store
import VolumePricing.Proofs.Database.Bindings
import VolumePricing.Proofs.Database.Exchanges
import VolumePricing.Proofs.Tier.Listing

/-!
# Tiers are listed alike in memory and in a database

A database is asked to list tiers by their order index and then by their id. If
it does so, it answers as a store in memory does that holds the same tiers,
whatever changes these have gone through.
-/

namespace VolumePricing.Database

variable {c : Conversation} {r r' : Row} {t u : PriceTier} {rows : List Row}
  {found stored : List PriceTier}

/-! ### Rows in order -/

/-- The columns that a statement orders its rows by. -/
def orderColumns (sql : String) : List (List Char) :=
  (((words sql).dropWhile (· ≠ "ORDER".toList)).drop 2).filter (· ≠ "ASC".toList)

/-- The first row comes before the second in ascending order of the columns. -/
def Ascending : List (List Char) → Row → Row → Prop
  | [], _, _ => True
  | column :: columns, r, r' =>
    ∃ n n', r.lookup (.ofList column) = some (.int n) ∧ r'.lookup (.ofList column) = some (.int n') ∧
      (n < n' ∨ n = n' ∧ Ascending columns r r')

/-- The database answers with rows of exactly these tiers, in the order that the statement asks
for. -/
def Serves (c : Conversation) (sql : String) (stored : List PriceTier) : Prop :=
  ∃ rows n found, c.nextReply = .done rows n ∧ rows.mapM tierOfRow? = some found ∧
    found.Perm stored ∧ rows.Pairwise (Ascending (orderColumns sql))

theorem orderColumns_selectTiers :
    orderColumns selectTiers = ["order_index".toList, "id".toList] := by
  unfold orderColumns words selectTiers tierColumns
  repeat rw [String.toList_append]
  repeat rw [String.toList_ofList]
  decide +kernel

theorem lookup_of_tierOfRow? (h : tierOfRow? r = some t) :
    r.lookup "id" = some (.ofId t.id) ∧ r.lookup "order_index" = some (.ofInt32 t.orderIndex) := by
  unfold tierOfRow? at h
  obtain ⟨id, hid, h⟩ := Option.bind_eq_some_iff.mp h
  iterate 7 obtain ⟨_, -, h⟩ := Option.bind_eq_some_iff.mp h
  obtain ⟨i, hi, h⟩ := Option.bind_eq_some_iff.mp h
  iterate 5 obtain ⟨_, -, h⟩ := Option.bind_eq_some_iff.mp h
  cases h
  obtain ⟨d, hd, hdid⟩ := Option.bind_eq_some_iff.mp hid
  obtain ⟨d', hd', hdi⟩ := Option.bind_eq_some_iff.mp hi
  exact ⟨hd.trans (congrArg some (Datum.eq_ofId hdid)), hd'.trans (congrArg some (Datum.eq_ofInt32 hdi))⟩

/-- An id that a column of words without a sign has room for as one with a sign. -/
theorem toInt_toInt32 {id : UInt32} (h : id.toNat < 2 ^ 31) : id.toInt32.toInt = id.toNat := by
  change id.toBitVec.toInt = _
  rw [BitVec.toInt_eq_toNat_cond, if_pos]
  · rfl
  · rw [UInt32.toNat_toBitVec]
    omega

theorem ascending_cons {column : String} {columns : List (List Char)} {n n' : ℤ}
    (hr : r.lookup column = some (.int n)) (hr' : r'.lookup column = some (.int n')) :
    Ascending (column.toList :: columns) r r' ↔ n < n' ∨ n = n' ∧ Ascending columns r r' := by
  simp [Ascending, hr, hr']

/-- Rows of tiers stand in the order that a listing asks for as the tiers do in a listing. -/
theorem ascending_iff_precedes (ht : tierOfRow? r = some t) (hu : tierOfRow? r' = some u)
    (htid : t.id.toNat < 2 ^ 31) (huid : u.id.toNat < 2 ^ 31) :
    Ascending ["order_index".toList, "id".toList] r r' ↔ t.Precedes u := by
  rw [ascending_cons (lookup_of_tierOfRow? ht).2 (lookup_of_tierOfRow? hu).2,
    ascending_cons (lookup_of_tierOfRow? ht).1 (lookup_of_tierOfRow? hu).1,
    toInt_toInt32 htid, toInt_toInt32 huid, PriceTier.Precedes, Int32.lt_iff_toInt_lt,
    ← Int32.toInt_inj, UInt32.le_iff_toNat_le]
  simp only [Ascending, and_true]
  omega

theorem map_of_mapM {α β : Type} {f : α → Option β} {xs : List α} {ys : List β}
    (h : xs.mapM f = some ys) : xs.map f = ys.map some := by
  induction xs generalizing ys with
  | nil =>
    cases h
    rfl
  | cons x xs ih =>
    rw [List.mapM_cons] at h
    obtain ⟨y, hy, h⟩ := Option.bind_eq_some_iff.mp h
    obtain ⟨rest, hrest, h⟩ := Option.bind_eq_some_iff.mp h
    cases h
    rw [List.map_cons, List.map_cons, hy, ih hrest]

theorem mapM_rowOf {tiers : List PriceTier} (h : ∀ t ∈ tiers, t.formula.Canonical) :
    (tiers.map rowOf).mapM tierOfRow? = some tiers := by
  induction tiers with
  | nil => rfl
  | cons t ts ih =>
    rw [List.map_cons, List.mapM_cons, tierOfRow?_rowOf (h t List.mem_cons_self),
      ih fun u hu => h u (List.mem_cons_of_mem t hu)]
    rfl

theorem pairwise_precedes (hfound : rows.mapM tierOfRow? = some found)
    (hids : ∀ t ∈ found, t.id.toNat < 2 ^ 31)
    (hrows : rows.Pairwise (Ascending (orderColumns selectTiers))) :
    found.Pairwise PriceTier.Precedes := by
  rw [orderColumns_selectTiers] at hrows
  have hread : (rows.map tierOfRow?).Pairwise fun a b => ∀ t u, a = some t → b = some u →
      t.id.toNat < 2 ^ 31 → u.id.toNat < 2 ^ 31 → t.Precedes u := by
    rw [List.pairwise_map]
    apply hrows.imp
    intro r r' h t u ht hu htid huid
    exact (ascending_iff_precedes ht hu htid huid).mp h
  rw [map_of_mapM hfound, List.pairwise_map] at hread
  apply hread.imp_of_mem
  intro t u ht hu h
  exact h t u rfl rfl (hids t ht) (hids u hu)

/-- There is a database that serves the tiers of a table. -/
theorem serves_rowOf {tiers : List PriceTier} (hsorted : tiers.Pairwise PriceTier.Precedes)
    (hformulas : ∀ t ∈ tiers, t.formula.Canonical) (hids : ∀ t ∈ tiers, t.id.toNat < 2 ^ 31) (n : ℕ) :
    Serves { replies := [.done (tiers.map rowOf) n] } selectTiers tiers := by
  refine ⟨_, n, tiers, rfl, mapM_rowOf hformulas, List.Perm.refl _, ?_⟩
  rw [orderColumns_selectTiers, List.pairwise_map]
  apply hsorted.imp_of_mem
  intro t u ht hu h
  exact (ascending_iff_precedes (tierOfRow?_rowOf (hformulas t ht))
    (tierOfRow?_rowOf (hformulas u hu)) (hids t ht) (hids u hu)).mpr h

theorem run_listTiers {all : Bool} {n : ℕ} (hreply : c.nextReply = .done rows n)
    (hfound : rows.mapM tierOfRow? = some found) :
    store.listTiers all c = .ok (.ok found, c.after (.prepared selectTiers [.bool all])) := by
  change (fetchAll .pooled selectTiers [.bool all] tierOfRow?).run c = _
  rw [fetchAll, Talk.run_bind, run_rows, hreply]
  simp only [Reply.rows, hfound, expect_some, Talk.run_pure]

/-- A database that serves the tiers of a table lists them as the table does. -/
theorem listTiers_of_serves {s : TierTable} (hs : s.Rising) {all : Bool}
    (hserves : Serves c selectTiers (s.tiers.filter fun t => all || t.active))
    (hids : ∀ t ∈ s.tiers, t.id.toNat < 2 ^ 31) :
    store.listTiers all c = .ok (.ok (s.list all), c.after (.prepared selectTiers [.bool all])) := by
  obtain ⟨rows, n, found, hreply, hfound, hperm, hrows⟩ := hserves
  have hfits : ∀ t ∈ found, t.id.toNat < 2 ^ 31 :=
    fun t ht => hids t (List.mem_of_mem_filter (hperm.mem_iff.mp ht))
  rw [run_listTiers hreply hfound, hs.eq_list hperm (pairwise_precedes hfound hfits hrows)]

end VolumePricing.Database

namespace VolumePricing

variable {tiers : List PriceTier} {products : List Product} {calls : List TierCall}
  {answers : List (Except StoreError Unit)} {m m' : Memory}

/-- A store opens with its tiers as they are given, and with ids free above theirs. -/
theorem Memory.rising_holding (hids : tiers.Pairwise fun t u => t.id < u.id)
    (h : Memory.holding tiers products = .ok m) : m.tiers.Rising := by
  unfold Memory.holding at h
  rcases hopen : TierTable.ofTiers tiers with o | s
  · simp [hopen, bind, Except.bind] at h
  · rw [hopen] at h
    cases h
    have hsame : s.tiers = tiers := TierTable.ofTiers_tiers hopen
    refine ⟨?_, ?_⟩
    · rw [hsame]
      exact List.pairwise_map.mpr hids
    · rw [hsame]
      exact TierTable.lt_nextId_of_ofTiers hopen

theorem TierCall.runAll_rising (hm : m.tiers.Rising)
    (h : TierCall.runAll Memory.store calls m = .ok (answers, m')) :
    m'.tiers.Rising ∧ m.tiers.nextId ≤ m'.tiers.nextId := by
  apply mapM_keeps (P := fun m' => m'.tiers.Rising ∧ m.tiers.nextId ≤ m'.tiers.nextId) ?_ _ h
  · intro call _ m₁ answer m₂ hm₁ hcall
    refine TierCall.on_memory_keeps
      (P := fun s => s.Rising ∧ m.tiers.nextId ≤ s.nextId) ?_ hm₁ hcall
    rintro s s' ⟨hs, hle⟩ hstep
    exact ⟨hs.call hstep, UInt32.le_trans hle (TierTable.nextId_call hstep)⟩
  · exact ⟨hm, UInt32.le_refl _⟩

/-- A tier that is created is stored under the next id. -/
theorem Memory.id_createTier {t created : PriceTier}
    (h : Memory.store.createTier t m = .ok (.ok created, m')) :
    created.id = m.tiers.nextId ∧ created ∈ m'.tiers.tiers := by
  change Memory.change _ m = _ at h
  rw [Memory.run_change] at h
  rcases hc : m.tiers.create t with o | ⟨made, s⟩
  · simp [hc, bind, Except.bind] at h
  · simp only [hc, bind, Except.bind] at h
    cases h
    obtain ⟨nextId, orderIndex, -, -, rfl, rfl⟩ := TierTable.create_eq_ok hc
    exact ⟨rfl, List.mem_append_right _ (List.mem_singleton_self _)⟩

/-- Whatever calls are made on a store that opens with its tiers in the order of their ids: no id is
ever given out twice, and the tiers are listed by order index and then by id, as a database lists
them that serves the same tiers. -/
theorem TierCall.runAll_listing (hids : tiers.Pairwise fun t u => t.id < u.id)
    (hopen : Memory.holding tiers products = .ok m)
    (hrun : TierCall.runAll Memory.store calls m = .ok (answers, m')) :
    m'.tiers.Numbered ∧
      (∀ later answers' m₁ t created m₂, TierCall.runAll Memory.store later m' = .ok (answers', m₁) →
        Memory.store.createTier t m₁ = .ok (.ok created, m₂) →
          created ∈ m₂.tiers.tiers ∧ ∀ u ∈ m'.tiers.tiers, u.id < created.id) ∧
      ∀ all, ∃ listed, Memory.store.listTiers all m' = .ok (.ok listed, m') ∧
        listed.Perm (m'.tiers.tiers.filter fun t => all || t.active) ∧
        listed.Pairwise PriceTier.Precedes ∧
        ∀ c, Database.Serves c Database.selectTiers listed →
          (∀ t ∈ m'.tiers.tiers, t.id.toNat < 2 ^ 31) →
            Database.store.listTiers all c =
              .ok (.ok listed, c.after (.prepared Database.selectTiers [.bool all])) := by
  obtain ⟨hrising, -⟩ := TierCall.runAll_rising (Memory.rising_holding hids hopen) hrun
  refine ⟨hrising.numbered, ?_, ?_⟩
  · intro later answers' m₁ t created m₂ hlater hcreate
    obtain ⟨-, hnext⟩ := TierCall.runAll_rising hrising hlater
    obtain ⟨hid, hstored⟩ := Memory.id_createTier hcreate
    refine ⟨hstored, ?_⟩
    intro u hu
    rw [hid]
    have hbelow := hrising.lt_nextId u.id (List.mem_map_of_mem hu)
    rw [UInt32.lt_iff_toNat_lt] at hbelow ⊢
    rw [UInt32.le_iff_toNat_le] at hnext
    omega
  · intro all
    refine ⟨m'.tiers.list all, rfl, m'.tiers.list_perm all, hrising.pairwise_list all, ?_⟩
    rintro c ⟨rows, n, found, hreply, hfound, hperm, hrows⟩ hfits
    apply Database.listTiers_of_serves hrising _ hfits
    exact ⟨rows, n, found, hreply, hfound, hperm.trans (m'.tiers.list_perm all), hrows⟩

/-- A tier of a new shop is deleted, two are added, and two share a place. -/
def Seed.relistings : List TierCall :=
  [.create { name := "vip" }, .delete 2, .reorder [⟨3, 3⟩], .create { name := "club", orderIndex := 3 }]

theorem TierCall.runAll_listing_seed :
    ∃ m₀ answers m listed, Memory.holding Seed.tiers Seed.products = .ok m₀ ∧
      TierCall.runAll Memory.store Seed.relistings m₀ = .ok (answers, m) ∧
      listed.map (·.id) = [1, 3, 5, 4] ∧ Memory.store.listTiers false m = .ok (.ok listed, m) ∧
      Database.store.listTiers false { replies := [.done (listed.map Database.rowOf) 4] } =
        .ok (.ok listed, { sent := [.prepared Database.selectTiers [.bool false]] }) := by
  obtain ⟨m₀, hopen⟩ : ∃ m, Memory.holding Seed.tiers Seed.products = .ok m := ⟨_, rfl⟩
  obtain ⟨⟨answers, m⟩, hrun⟩ : ∃ p, TierCall.runAll Memory.store Seed.relistings m₀ = .ok p := by
    cases hopen
    exact ⟨_, rfl⟩
  obtain ⟨-, -, hlists⟩ := TierCall.runAll_listing (by decide) hopen hrun
  obtain ⟨listed, hlist, -, hsorted, hdatabase⟩ := hlists false
  have htiers : listed.map (·.id) = [1, 3, 5, 4] ∧ (∀ t ∈ listed, t.formula = .multiplier) ∧
      ∀ t ∈ m.tiers.tiers, t.id.toNat < 2 ^ 31 := by
    cases hopen
    cases hrun
    cases hlist
    refine ⟨rfl, ?_, ?_⟩
    · decide +kernel
    · decide +kernel
  obtain ⟨hordered, hformulas, hfits⟩ := htiers
  refine ⟨m₀, answers, m, listed, hopen, hrun, hordered, hlist, ?_⟩
  apply hdatabase _ _ hfits
  apply Database.serves_rowOf hsorted
  · intro t ht
    rw [hformulas t ht]
    rfl
  · intro t ht
    cases hlist
    exact hfits t (List.mem_of_mem_filter ((m.tiers.list_perm false).mem_iff.mp ht))

end VolumePricing
