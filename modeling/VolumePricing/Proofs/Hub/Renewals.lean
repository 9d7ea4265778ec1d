import VolumePricing.Proofs.FirstMatch
import VolumePricing.Proofs.Hub.Tracking

/-!
# What is left of the renewals

Every summary that the hub takes in renews that of one shopper. Of all renewals
the hub keeps the last ones of some of the shoppers, of as many as it has room
for. This is so whatever the times are; they only say who is dropped.
-/

namespace VolumePricing

variable {settings : HubSettings} {user : String}

/-- A summary that was renewed, and when. -/
structure Renewal where
  user : String
  summary : CartSummary
  time : Instant
  deriving DecidableEq, Repr

namespace Renewal

/-- The last renewal of a shopper. -/
def last? (rs : List Renewal) (user : String) : Option Renewal := rs.reverse.find? (·.user == user)

/-- The shoppers who had a summary renewed. -/
def shoppers (rs : List Renewal) : Finset String := (rs.map (·.user)).toFinset

variable {rs : List Renewal} {r : Renewal}

theorem last?_append_singleton (rs : List Renewal) (r : Renewal) (user : String) :
    last? (rs ++ [r]) user = if r.user = user then some r else last? rs user := by
  unfold last?
  rw [List.reverse_append, List.reverse_singleton, List.singleton_append, List.find?_cons]
  by_cases hu : r.user = user
  · simp [hu]
  · have hbeq : (r.user == user) = false := by simpa using hu
    simp [hu, hbeq]

theorem last?_eq_some (h : last? rs user = some r) : r ∈ rs ∧ r.user = user := by
  constructor
  · exact List.mem_reverse.mp (List.mem_of_find?_eq_some h)
  · simpa using List.find?_some h

theorem mem_shoppers_of_last? (h : last? rs user = some r) : user ∈ shoppers rs := by
  obtain ⟨hmem, rfl⟩ := last?_eq_some h
  exact List.mem_toFinset.mpr (List.mem_map_of_mem hmem)

theorem shoppers_append_singleton (rs : List Renewal) (r : Renewal) :
    shoppers (rs ++ [r]) = insert r.user (shoppers rs) := by
  unfold shoppers
  rw [List.map_append, List.toFinset_append, List.map_singleton, List.toFinset_cons,
    List.toFinset_nil, insert_empty_eq, Finset.union_comm, Finset.insert_eq]

end Renewal

open Renewal

theorem HubSettings.room_pos (settings : HubSettings) : 0 < settings.room :=
  Nat.le_max_left 1 settings.maxTracked

namespace Hub

variable {ts kept : List Tracked} {t t' s : Tracked} {room : ℕ} {rs : List Renewal}
  {summary : CartSummary} {now : Instant}

/-! ### The one renewed longest ago -/

theorem stalest_eq_none_iff : stalest ts = none ↔ ts = [] := by
  cases ts with
  | nil => simp [stalest]
  | cons t ts =>
    unfold stalest
    cases stalest ts with
    | none => simp
    | some s =>
      dsimp only
      split <;> simp

theorem stalest_eq_some (h : stalest ts = some s) :
    s ∈ ts ∧ ∀ t ∈ ts, s.refreshedAt ≤ t.refreshedAt := by
  induction ts generalizing s with
  | nil => cases h
  | cons t ts ih =>
    unfold stalest at h
    cases hrest : stalest ts with
    | none =>
      rw [hrest] at h
      cases h
      rw [stalest_eq_none_iff.mp hrest]
      simp
    | some s' =>
      obtain ⟨hmem, hle⟩ := ih hrest
      rw [hrest] at h
      dsimp only at h
      split at h
      · rename_i hts
        cases h
        refine ⟨List.mem_cons_self, List.forall_mem_cons.mpr ⟨le_rfl, ?_⟩⟩
        intro u hu
        exact hts.trans (hle u hu)
      · rename_i hts
        cases h
        refine ⟨List.mem_cons_of_mem _ hmem, List.forall_mem_cons.mpr ⟨?_, hle⟩⟩
        exact (not_le.mp hts).le

theorem length_filter_user_ne (hnodup : (ts.map (·.user)).Nodup) (hs : s ∈ ts) :
    (ts.filter (·.user ≠ s.user)).length + 1 = ts.length := by
  have herase : (ts.filter (·.user ≠ s.user)).map (·.user) = (ts.map (·.user)).erase s.user := by
    rw [hnodup.erase_eq_filter, List.filter_map]
    congr 1
    apply List.filter_congr
    intro t _
    by_cases ht : t.user = s.user <;> simp [ht]
  have hmem : s.user ∈ ts.map (·.user) := List.mem_map_of_mem hs
  have hpos := List.length_pos_of_mem hs
  have hlength := congrArg List.length herase
  rw [List.length_map, List.length_erase_of_mem hmem, List.length_map] at hlength
  omega

/-- The shopper who has to make room is the only one dropped. -/
theorem exists_dropStalest_eq (hne : ts ≠ []) :
    ∃ s, stalest ts = some s ∧ dropStalest ts = ts.filter (·.user ≠ s.user) := by
  obtain ⟨s, hs⟩ : ∃ s, stalest ts = some s := by
    rw [← Option.ne_none_iff_exists']
    exact fun hnone => hne (stalest_eq_none_iff.mp hnone)
  exact ⟨s, hs, by rw [dropStalest, hs]⟩

/-! ### The invariant -/

/-- The shoppers tracked are some of those renewed, with their last summaries: as many as there
is room for. -/
structure Keeps (room : ℕ) (rs : List Renewal) (ts : List Tracked) : Prop where
  nodup : (ts.map (·.user)).Nodup
  length : ts.length = min room (shoppers rs).card
  last : ∀ t ∈ ts, last? rs t.user = some ⟨t.user, t.summary, t.refreshedAt⟩

theorem keeps_nil (room : ℕ) : Keeps room [] [] where
  nodup := List.nodup_nil
  length := by simp [shoppers]
  last := by simp

theorem Keeps.users_subset (h : Keeps room rs ts) :
    (ts.map (·.user)).toFinset ⊆ shoppers rs := by
  intro user huser
  obtain ⟨t, ht, rfl⟩ := List.mem_map.mp (List.mem_toFinset.mp huser)
  exact mem_shoppers_of_last? (h.last t ht)

/-- Nobody is dropped before there are more shoppers than there is room for. -/
theorem Keeps.crowded (h : Keeps room rs ts) (hout : ∀ t ∈ ts, t.user ≠ user)
    (huser : user ∈ shoppers rs) : room < (shoppers rs).card := by
  have hsub : (ts.map (·.user)).toFinset ⊆ (shoppers rs).erase user := by
    intro other hother
    refine Finset.mem_erase.mpr ⟨?_, h.users_subset hother⟩
    obtain ⟨t, ht, rfl⟩ := List.mem_map.mp (List.mem_toFinset.mp hother)
    exact hout t ht
  have hcard := Finset.card_le_card hsub
  rw [List.toFinset_card_of_nodup h.nodup, List.length_map, Finset.card_erase_of_mem huser] at hcard
  have hpos := Finset.card_pos.mpr ⟨user, huser⟩
  have hlength := h.length
  omega

/-- Whoever is tracked is so with the last summary. -/
theorem Keeps.last_of_find? {h : Hub} (hkeeps : Keeps room rs h.tracked)
    (hfind : h.find? user = some t) :
    last? rs user = some ⟨user, t.summary, t.refreshedAt⟩ := by
  have huser : t.user = user := by simpa using List.find?_some hfind
  rw [← huser]
  exact hkeeps.last t (List.mem_of_find?_eq_some hfind)

/-- Whoever is not tracked was never renewed, or was dropped from the crowd. -/
theorem Keeps.crowded_of_find? {h : Hub} (hkeeps : Keeps room rs h.tracked)
    (hfind : h.find? user = none) : last? rs user = none ∨ room < (shoppers rs).card := by
  cases hlast : last? rs user with
  | none => exact Or.inl rfl
  | some r =>
    have hout : ∀ t ∈ h.tracked, t.user ≠ user := by
      simpa [find?, List.find?_eq_none] using hfind
    exact Or.inr (hkeeps.crowded hout (mem_shoppers_of_last? hlast))

theorem users_renewed (policy : NoticePolicy) (summary : CartSummary) (now : Instant)
    (ts : List Tracked) :
    (modifyFirst (·.user == user) (·.renew policy summary now) ts).map (·.user) =
      ts.map (·.user) := by
  refine map_modifyFirst (fun t => ?_) ts
  rfl

/-- Of the rows of distinct shoppers one is renewed, and the others are as they were. -/
theorem mem_renewed {policy : NoticePolicy} (hnodup : (ts.map (·.user)).Nodup)
    (ht : t ∈ modifyFirst (·.user == user) (·.renew policy summary now) ts) :
    (t.user = user ∧ t.summary = summary ∧ t.refreshedAt = now) ∨ (t ∈ ts ∧ t.user ≠ user) := by
  rw [modifyFirst_eq_map user _ hnodup] at ht
  obtain ⟨old, hold, rfl⟩ := List.mem_map.mp ht
  by_cases hou : old.user = user
  · exact Or.inl (by simp [hou, Tracked.renew])
  · exact Or.inr (by simp [hou, hold])

/-- A tracked shopper is renewed in place. -/
theorem Keeps.renew (h : Keeps room rs ts) (policy : NoticePolicy) (summary : CartSummary)
    (now : Instant) (ht : t ∈ ts) (hu : t.user = user) :
    Keeps room (rs ++ [⟨user, summary, now⟩])
      (modifyFirst (·.user == user) (·.renew policy summary now) ts) where
  nodup := by
    rw [users_renewed]
    exact h.nodup
  length := by
    have hold : user ∈ shoppers rs := by
      rw [← hu]
      exact mem_shoppers_of_last? (h.last t ht)
    rw [length_modifyFirst, shoppers_append_singleton, Finset.insert_eq_of_mem hold]
    exact h.length
  last := by
    intro t' ht'
    rw [last?_append_singleton]
    rcases mem_renewed h.nodup ht' with ⟨hu', hs', hn'⟩ | ⟨hmem, hne⟩
    · rw [if_pos hu'.symm, hu', hs', hn']
    · rw [if_neg (Ne.symm hne)]
      exact h.last t' hmem

/-- A shopper who was not tracked is taken in behind those who are kept, provided that the number
is right. -/
theorem Keeps.append_first (h : Keeps room rs ts) (hnew : ∀ t ∈ ts, t.user ≠ user)
    (summary : CartSummary) (now : Instant) (hsub : kept.Sublist ts)
    (hlength : kept.length + 1 = min room (insert user (shoppers rs)).card) :
    Keeps room (rs ++ [⟨user, summary, now⟩]) (kept ++ [.first user summary now]) where
  nodup := by
    rw [List.map_append]
    refine (h.nodup.sublist (hsub.map _)).append (List.nodup_singleton _) ?_
    intro u hu hu'
    obtain ⟨t, ht, rfl⟩ := List.mem_map.mp hu
    exact hnew t (hsub.subset ht) (List.mem_singleton.mp hu')
  length := by
    rw [List.length_append, shoppers_append_singleton]
    exact hlength
  last := by
    intro t ht
    rw [last?_append_singleton]
    rcases List.mem_append.mp ht with ht | ht
    · rw [if_neg (Ne.symm (hnew t (hsub.subset ht)))]
      exact h.last t (hsub.subset ht)
    · rw [List.mem_singleton.mp ht]
      exact if_pos rfl

/-- Where there is no room left one shopper is dropped for a new one. -/
theorem Keeps.makeRoom (h : Keeps room rs ts) (hnew : ∀ t ∈ ts, t.user ≠ user)
    (summary : CartSummary) (now : Instant) (hpos : 0 < room) :
    Keeps room (rs ++ [⟨user, summary, now⟩]) (makeRoom room ts ++ [.first user summary now]) := by
  have hlength := h.length
  unfold Hub.makeRoom
  split
  · rename_i hfull
    have hne : ts ≠ [] := List.ne_nil_of_length_pos (by omega)
    obtain ⟨s, hs, hdrop⟩ := exists_dropStalest_eq hne
    rw [hdrop]
    refine h.append_first hnew summary now List.filter_sublist ?_
    have hkept := length_filter_user_ne h.nodup (stalest_eq_some hs).1
    have hmore := Finset.card_le_card (Finset.subset_insert user (shoppers rs))
    omega
  · rename_i hroom
    have hunseen : user ∉ shoppers rs := by
      intro hmem
      have hcrowded := h.crowded hnew hmem
      omega
    refine h.append_first hnew summary now (List.Sublist.refl ts) ?_
    rw [Finset.card_insert_of_notMem hunseen]
    omega

theorem Keeps.observe {h : Hub} (hkeeps : Keeps settings.room rs h.tracked) (user : String)
    (summary : CartSummary) (moment : Moment) :
    Keeps settings.room (rs ++ [⟨user, summary, moment.now⟩])
      (h.observe settings user summary moment).tracked := by
  unfold Hub.observe
  cases hfind : h.find? user with
  | some t =>
    have hmem : t ∈ h.tracked := List.mem_of_find?_eq_some hfind
    have hu : t.user = user := by simpa using List.find?_some hfind
    exact hkeeps.renew settings.policy summary moment.now hmem hu
  | none =>
    have hnew : ∀ t ∈ h.tracked, t.user ≠ user := by
      simpa [find?, List.find?_eq_none] using hfind
    exact hkeeps.makeRoom hnew summary moment.now settings.room_pos

end Hub

end VolumePricing
