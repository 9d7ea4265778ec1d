import VolumePricing.Hub.Gates
import VolumePricing.Proofs.FirstMatch

/-!
# One refresh of a shopper at a time

Whoever has not let go of a gate finds it in the map under its shopper. A gate
may be taken out of the map only when one refresh alone refers to it, and so no
refresh is left behind with a gate that is not the one a newcomer would find.
All refreshes of a shopper that can be inside a gate are therefore at the same
gate, and one of them at most is inside.
-/

namespace VolumePricing

namespace Gatehouse

variable {settings : HubSettings} {g g' : Gatehouse} {step : GateStep} {steps : List GateStep}
  {v w : Visit} {user : String} {progress : Progress}

/-! ### What a step does -/

/-- A step with what made it possible and what it leads to. -/
inductive Makes (settings : HubSettings) (g : Gatehouse) : GateStep → Gatehouse → Prop
  | arrive (user : String) : Makes settings g (.arrive user) (g.arrive user)
  | enter {v : Visit} (hv : v ∈ g.visits) (hp : v.progress = .waiting)
      (hfree : g.isFree v.gate = true) :
      Makes settings g (.enter v.number) (g.moveTo v.number .entered)
  | load {v : Visit} {cart : Option Cart} (hv : v ∈ g.visits) (hp : v.progress = .entered) :
      Makes settings g (.load v.number (.ok cart)) (g.moveTo v.number (.loaded cart))
  | miss {v : Visit} {e : StoreError} (hv : v ∈ g.visits) (hp : v.progress = .entered) :
      Makes settings g (.load v.number (.error e)) (g.moveTo v.number .done)
  | price {v : Visit} {cart : Option Cart} {tiers : List PriceTier} {summary : CartSummary}
      (hv : v ∈ g.visits) (hp : v.progress = .loaded cart)
      (hsummary : summarizeCart settings.fallback cart tiers = .ok summary) :
      Makes settings g (.price v.number tiers) (g.moveTo v.number (.priced summary))
  | overflow {v : Visit} {cart : Option Cart} {tiers : List PriceTier} {o : Overflow}
      (hv : v ∈ g.visits) (hp : v.progress = .loaded cart)
      (hsummary : summarizeCart settings.fallback cart tiers = .error o) :
      Makes settings g (.price v.number tiers) (g.moveTo v.number .left)
  | store {v : Visit} {summary : CartSummary} {moment : Moment} (hv : v ∈ g.visits)
      (hp : v.progress = .priced summary) :
      Makes settings g (.store v.number moment)
        { g.moveTo v.number .done with hub := g.hub.observe settings v.user summary moment }
  | leave {v : Visit} (hv : v ∈ g.visits) (hp : v.progress = .done) :
      Makes settings g (.leave v.number) (g.moveTo v.number .leaving)
  | keep {v : Visit} (hv : v ∈ g.visits) (hp : v.progress = .leaving)
      (hrefs : g.references v.gate ≠ 2) :
      Makes settings g (.tidy v.number) (g.moveTo v.number .left)
  | tidy {v : Visit} (hv : v ∈ g.visits) (hp : v.progress = .leaving)
      (hrefs : g.references v.gate = 2) :
      Makes settings g (.tidy v.number)
        { g.moveTo v.number .left with gates := g.gates.filter (·.1 != v.user) }
  | depart {v : Visit} (hv : v ∈ g.visits) (hp : v.progress = .left) :
      Makes settings g (.depart v.number) (g.remove v.number)
  | giveUp {v : Visit} (hv : v ∈ g.visits) (hp : v.progress.isWaiting = true) :
      Makes settings g (.giveUp v.number) (g.moveTo v.number .left)

theorem visit?_eq_some {n : ℕ} (h : g.visit? n = some v) : v ∈ g.visits ∧ v.number = n :=
  ⟨List.mem_of_find?_eq_some h, by simpa using List.find?_some h⟩

/-- A step of a visit is one of a visit that is under way. -/
theorem bind_visit? {n : ℕ} {f : Visit → Option Gatehouse} (h : (g.visit? n).bind f = some g') :
    ∃ v ∈ g.visits, v.number = n ∧ f v = some g' := by
  obtain ⟨v, hv, hf⟩ := Option.bind_eq_some_iff.mp h
  obtain ⟨hmem, hn⟩ := visit?_eq_some hv
  exact ⟨v, hmem, hn, hf⟩

theorem makes_of_step? (h : g.step? settings step = some g') : Makes settings g step g' := by
  cases step with
  | arrive user =>
    cases h
    exact .arrive user
  | enter n =>
    obtain ⟨v, hv, rfl, hmove⟩ := bind_visit? h
    unfold Gatehouse.enter at hmove
    split at hmove
    · rename_i hp
      split at hmove
      · rename_i hfree
        cases hmove
        exact .enter hv hp hfree
      · cases hmove
    · cases hmove
  | load n cart =>
    obtain ⟨v, hv, rfl, hmove⟩ := bind_visit? h
    unfold Gatehouse.load at hmove
    split at hmove
    · rename_i hp
      cases hmove
      exact .load hv hp
    · rename_i hp
      cases hmove
      exact .miss hv hp
    · cases hmove
  | price n tiers =>
    obtain ⟨v, hv, rfl, hmove⟩ := bind_visit? h
    unfold Gatehouse.price at hmove
    split at hmove
    · rename_i cart hp
      cases hsummary : summarizeCart settings.fallback cart tiers with
      | ok summary =>
        rw [hsummary] at hmove
        cases hmove
        exact .price hv hp hsummary
      | error o =>
        rw [hsummary] at hmove
        cases hmove
        exact .overflow hv hp hsummary
    · cases hmove
  | store n moment =>
    obtain ⟨v, hv, rfl, hmove⟩ := bind_visit? h
    unfold Gatehouse.store at hmove
    split at hmove
    · rename_i summary hp
      cases hmove
      exact .store hv hp
    · cases hmove
  | leave n =>
    obtain ⟨v, hv, rfl, hmove⟩ := bind_visit? h
    unfold Gatehouse.leave at hmove
    split at hmove
    · rename_i hp
      cases hmove
      exact .leave hv hp
    · cases hmove
  | tidy n =>
    obtain ⟨v, hv, rfl, hmove⟩ := bind_visit? h
    unfold Gatehouse.tidy at hmove
    split at hmove
    · rename_i hp
      by_cases hrefs : g.references v.gate = 2
      · simp only [hrefs, if_true] at hmove
        cases hmove
        exact .tidy hv hp hrefs
      · simp only [hrefs, if_false] at hmove
        cases hmove
        exact .keep hv hp hrefs
    · cases hmove
  | depart n =>
    obtain ⟨v, hv, rfl, hmove⟩ := bind_visit? h
    unfold Gatehouse.depart at hmove
    split at hmove
    · rename_i hp
      cases hmove
      exact .depart hv hp
    · cases hmove
  | giveUp n =>
    obtain ⟨v, hv, rfl, hmove⟩ := bind_visit? h
    unfold Gatehouse.giveUp at hmove
    split at hmove
    · rename_i hp
      cases hmove
      exact .giveUp hv hp
    · cases hmove

/-! ### The invariant -/

/-- Visits have numbers of their own. Whoever has not let go finds its gate in the map, and
whoever is inside a gate is alone there. -/
structure Sound (g : Gatehouse) : Prop where
  numbers : (g.visits.map (·.number)).Nodup
  numbers_lt : ∀ v ∈ g.visits, v.number < g.visitsMade
  registered : ∀ v ∈ g.visits, v.progress ≠ .left → g.gate? v.user = some v.gate
  alone : ∀ v ∈ g.visits, ∀ w ∈ g.visits, v.gate = w.gate → v.progress.isInside = true →
    w.progress.isInside = true → v.number = w.number

theorem sound_of_hub (hub : Hub) : Sound { hub } where
  numbers := List.nodup_nil
  numbers_lt := by simp
  registered := by simp
  alone := by simp

theorem Sound.withHub (hs : g.Sound) (hub : Hub) : Sound { g with hub } :=
  ⟨hs.numbers, hs.numbers_lt, hs.registered, hs.alone⟩

theorem Sound.eq_of_number (hs : g.Sound) (hv : v ∈ g.visits) (hw : w ∈ g.visits)
    (h : v.number = w.number) : v = w :=
  List.inj_on_of_nodup_map hs.numbers hv hw h

theorem Sound.visit?_number (hs : g.Sound) (hv : v ∈ g.visits) : g.visit? v.number = some v := by
  obtain ⟨w, hw⟩ : ∃ w, g.visit? v.number = some w := by
    refine Option.isSome_iff_exists.mp (List.find?_isSome.mpr ⟨v, hv, ?_⟩)
    exact beq_self_eq_true v.number
  obtain ⟨hmem, hnumber⟩ := visit?_eq_some hw
  rw [hw, hs.eq_of_number hmem hv hnumber]

/-- Two visits of one shopper are never both inside. -/
theorem Sound.alone_of_user (hs : g.Sound) (hv : v ∈ g.visits) (hw : w ∈ g.visits)
    (huser : v.user = w.user) (hvin : v.progress.isInside = true)
    (hwin : w.progress.isInside = true) : v.number = w.number := by
  have hvgate := hs.registered v hv (by intro h; simp [h, Progress.isInside] at hvin)
  have hwgate := hs.registered w hw (by intro h; simp [h, Progress.isInside] at hwin)
  rw [huser, hwgate] at hvgate
  exact hs.alone v hv w hw (Option.some.inj hvgate).symm hvin hwin

/-- At most one refresh of a shopper is inside. -/
theorem Sound.inside_le_one (hs : g.Sound) (user : String) :
    g.visits.countP (fun v => v.user == user && v.progress.isInside) ≤ 1 := by
  rw [List.countP_eq_length_filter]
  by_contra hmany
  have hinside : ∀ v ∈ g.visits.filter (fun v => v.user == user && v.progress.isInside),
      v ∈ g.visits ∧ v.user = user ∧ v.progress.isInside = true := by
    intro v hv
    simpa using List.mem_filter.mp hv
  have hnumbers : ((g.visits.filter fun v => v.user == user && v.progress.isInside).map
      (·.number)).Nodup := hs.numbers.sublist (List.filter_sublist.map _)
  match hlist : g.visits.filter (fun v => v.user == user && v.progress.isInside) with
  | [] => simp [hlist] at hmany
  | [v] => simp [hlist] at hmany
  | v :: w :: rest =>
    rw [hlist] at hinside hnumbers
    obtain ⟨hv, hvu, hvin⟩ := hinside v (by simp)
    obtain ⟨hw, hwu, hwin⟩ := hinside w (by simp)
    have hsame := hs.alone_of_user hv hw (hvu.trans hwu.symm) hvin hwin
    simp [hsame] at hnumbers

/-! ### Moves -/

theorem mem_moveTo (hs : g.Sound) (hv : v ∈ g.visits)
    (hw : w ∈ (g.moveTo v.number progress).visits) :
    w = { v with progress } ∨ (w ∈ g.visits ∧ w.number ≠ v.number) := by
  unfold moveTo at hw
  rw [modifyFirst_eq_map v.number _ hs.numbers] at hw
  obtain ⟨old, hold, rfl⟩ := List.mem_map.mp hw
  by_cases hn : old.number = v.number
  · left
    rw [if_pos hn, hs.eq_of_number hold hv hn]
  · right
    rw [if_neg hn]
    exact ⟨hold, hn⟩

theorem mem_moveTo_iff (hs : g.Sound) (hv : v ∈ g.visits) :
    w ∈ (g.moveTo v.number progress).visits ↔
      w = { v with progress } ∨ (w ∈ g.visits ∧ w.number ≠ v.number) := by
  refine ⟨mem_moveTo hs hv, ?_⟩
  unfold moveTo
  rw [modifyFirst_eq_map v.number _ hs.numbers]
  rintro (rfl | ⟨hw, hne⟩)
  · exact List.mem_map.mpr ⟨v, hv, if_pos rfl⟩
  · exact List.mem_map.mpr ⟨w, hw, if_neg hne⟩

/-- A visit may move on, inside the gate only if it was inside before or nobody is. -/
theorem Sound.moveTo (hs : g.Sound) (hv : v ∈ g.visits) (hheld : v.progress ≠ .left)
    (hfree : progress.isInside = true → v.progress.isInside = true ∨ g.isFree v.gate = true) :
    (g.moveTo v.number progress).Sound := by
  have hothers : ∀ w ∈ g.visits, w.number ≠ v.number → w.gate = v.gate →
      w.progress.isInside = true → progress.isInside = false := by
    intro w hw hne hgate hwin
    rw [Bool.eq_false_iff]
    intro hin
    rcases hfree hin with hvin | hnobody
    · exact hne (hs.alone w hw v hv hgate hwin hvin)
    · have hout := List.all_eq_true.mp hnobody w hw
      simp [hgate, hwin] at hout
  refine ⟨?_, ?_, ?_, ?_⟩
  · have hsame : (g.moveTo v.number progress).visits.map (·.number) = g.visits.map (·.number) := by
      refine map_modifyFirst (fun w => ?_) g.visits
      rfl
    rw [hsame]
    exact hs.numbers
  · intro w hw
    rcases mem_moveTo hs hv hw with rfl | ⟨hw, -⟩
    · exact hs.numbers_lt v hv
    · exact hs.numbers_lt w hw
  · intro w hw hleft
    rcases mem_moveTo hs hv hw with rfl | ⟨hw, -⟩
    · exact hs.registered v hv hheld
    · exact hs.registered w hw hleft
  · intro w hw w' hw' hgate hin hin'
    rcases mem_moveTo hs hv hw with rfl | ⟨hw, hne⟩ <;>
      rcases mem_moveTo hs hv hw' with rfl | ⟨hw', hne'⟩
    · rfl
    · have hout := hothers w' hw' hne' hgate.symm hin'
      rw [hout] at hin
      cases hin
    · have hout := hothers w hw hne hgate hin
      rw [hout] at hin'
      cases hin'
    · exact hs.alone w hw w' hw' hgate hin hin'

theorem Sound.remove (hs : g.Sound) (n : ℕ) : (g.remove n).Sound := by
  have hsub : ∀ w ∈ (g.remove n).visits, w ∈ g.visits := fun w hw => (List.mem_filter.mp hw).1
  refine ⟨hs.numbers.sublist (List.filter_sublist.map _), ?_, ?_, ?_⟩
  · exact fun w hw => hs.numbers_lt w (hsub w hw)
  · exact fun w hw => hs.registered w (hsub w hw)
  · exact fun w hw w' hw' => hs.alone w (hsub w hw) w' (hsub w' hw')

/-- A newcomer comes last, with a gate that is in the map, as all gates are that were there. -/
theorem arrive_spec (g : Gatehouse) (user : String) :
    ∃ gate, (g.arrive user).gate? user = some gate ∧
      (∀ other gate', g.gate? other = some gate' → (g.arrive user).gate? other = some gate') ∧
      (g.arrive user).visits = g.visits ++ [⟨g.visitsMade, user, gate, .waiting⟩] ∧
      (g.arrive user).visitsMade = g.visitsMade + 1 ∧ (g.arrive user).hub = g.hub := by
  unfold arrive findGate
  cases hgate : g.gate? user with
  | some gate => exact ⟨gate, hgate, fun _ _ h => h, rfl, rfl, rfl⟩
  | none =>
    refine ⟨g.gatesMade, by simp [gate?], ?_, rfl, rfl, rfl⟩
    intro other gate hother
    have hne : other ≠ user := by
      rintro rfl
      rw [hgate] at hother
      cases hother
    have hbeq : (other == user) = false := by simpa using hne
    rw [← hother]
    simp [gate?, List.lookup_cons, hbeq]

theorem Sound.arrive (hs : g.Sound) (user : String) : (g.arrive user).Sound := by
  obtain ⟨gate, hgate, hkept, hvisits, hmade, -⟩ := arrive_spec g user
  have hmem : ∀ w ∈ (g.arrive user).visits,
      w ∈ g.visits ∨ w = ⟨g.visitsMade, user, gate, .waiting⟩ := by
    intro w hw
    rw [hvisits] at hw
    simpa using hw
  refine ⟨?_, ?_, ?_, ?_⟩
  · rw [hvisits, List.map_append]
    refine hs.numbers.append (List.nodup_singleton _) ?_
    intro n hn hn'
    obtain ⟨v, hv, rfl⟩ := List.mem_map.mp hn
    have hlt := hs.numbers_lt v hv
    rw [List.mem_singleton.mp hn'] at hlt
    exact Nat.lt_irrefl _ hlt
  · intro w hw
    rw [hmade]
    rcases hmem w hw with hw | rfl
    · exact (hs.numbers_lt w hw).trans (Nat.lt_succ_self _)
    · exact Nat.lt_succ_self _
  · intro w hw hleft
    rcases hmem w hw with hw | rfl
    · exact hkept w.user w.gate (hs.registered w hw hleft)
    · exact hgate
  · intro w hw w' hw' hsame hin hin'
    rcases hmem w hw with hw | rfl
    · rcases hmem w' hw' with hw' | rfl
      · exact hs.alone w hw w' hw' hsame hin hin'
      · cases hin'
    · cases hin

/-- Where the map and one visit alone refer to a gate, nobody else has come for it. -/
theorem Sound.eq_of_references (hs : g.Sound) (hv : v ∈ g.visits) (hheld : v.progress ≠ .left)
    (hrefs : g.references v.gate = 2) (hw : w ∈ g.visits) (hgate : w.gate = v.gate) : w = v := by
  have hmap : 0 < g.gates.countP (·.2 == v.gate) := by
    have hmem := mem_of_lookup_eq_some (hs.registered v hv hheld)
    exact List.countP_pos_iff.mpr ⟨(v.user, v.gate), hmem, by simp⟩
  have hone : (g.visits.filter (·.gate == v.gate)).length ≤ 1 := by
    rw [← List.countP_eq_length_filter]
    unfold references at hrefs
    omega
  have hvmem : v ∈ g.visits.filter (·.gate == v.gate) := by simp [hv]
  have hwmem : w ∈ g.visits.filter (·.gate == v.gate) := by simp [hw, hgate]
  obtain ⟨u, hu⟩ := List.length_eq_one_iff.mp
    (Nat.le_antisymm hone (List.length_pos_of_mem hvmem))
  rw [hu, List.mem_singleton] at hvmem hwmem
  rw [hvmem, hwmem]

/-- The gate of the only visit that refers to it is taken out, and no other visit misses it. -/
theorem Sound.tidy (hs : g.Sound) (hv : v ∈ g.visits) (hp : v.progress = .leaving)
    (hrefs : g.references v.gate = 2) :
    Sound { g.moveTo v.number .left with gates := g.gates.filter (·.1 != v.user) } := by
  have hheld : v.progress ≠ .left := by simp [hp]
  have hmoved : (g.moveTo v.number .left).Sound :=
    hs.moveTo hv hheld (by simp [Progress.isInside])
  refine ⟨hmoved.numbers, hmoved.numbers_lt, ?_, hmoved.alone⟩
  intro w hw hleft
  rcases mem_moveTo hs hv hw with rfl | ⟨hw, hne⟩
  · exact absurd rfl hleft
  have hfound := hs.registered w hw hleft
  -- Another visit of the shopper would have found the same gate and refer to it as well.
  have huser : w.user ≠ v.user := by
    intro huser
    have hvgate := hs.registered v hv hheld
    rw [← huser, hfound] at hvgate
    have hsame := hs.eq_of_references hv hheld hrefs hw (Option.some.inj hvgate)
    exact hne (congrArg Visit.number hsame)
  exact (lookup_filter (p := (· != v.user)) (by simpa using huser) g.gates).trans hfound

/-! ### Steps and runs -/

theorem Sound.makes (hs : g.Sound) (h : Makes settings g step g') : g'.Sound := by
  cases h with
  | arrive user => exact hs.arrive user
  | enter hv hp hfree => exact hs.moveTo hv (by simp [hp]) fun _ => Or.inr hfree
  | load hv hp => exact hs.moveTo hv (by simp [hp]) fun _ => Or.inl (by rw [hp]; rfl)
  | miss hv hp => exact hs.moveTo hv (by simp [hp]) fun _ => Or.inl (by rw [hp]; rfl)
  | price hv hp => exact hs.moveTo hv (by simp [hp]) fun _ => Or.inl (by rw [hp]; rfl)
  | overflow hv hp => exact hs.moveTo hv (by simp [hp]) nofun
  | @store v _ _ hv hp =>
    have hmoved : (g.moveTo v.number .done).Sound :=
      hs.moveTo hv (by simp [hp]) fun _ => Or.inl (by rw [hp]; rfl)
    exact hmoved.withHub _
  | leave hv hp => exact hs.moveTo hv (by simp [hp]) nofun
  | keep hv hp => exact hs.moveTo hv (by simp [hp]) nofun
  | tidy hv hp hrefs => exact hs.tidy hv hp hrefs
  | depart hv => exact hs.remove _
  | giveUp hv hp =>
    refine hs.moveTo hv ?_ nofun
    intro hleft
    rw [hleft] at hp
    cases hp

end Gatehouse

end VolumePricing
