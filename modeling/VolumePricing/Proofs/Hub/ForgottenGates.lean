import VolumePricing.Proofs.Hub.OneAtATime

/-!
# Gates that stay in the map

A gate is in the map as long as some refresh of its shopper has still to look
there, and is meant to be out of it when the last one is gone. But the last one
may go without a look at the map, if it is given up or cannot price the cart, or
it may look while another one that is through with the map still refers to the
gate. Then the gate stays there for nobody until the shopper comes again. There
is no other way: in every run the map has the gates of those shoppers alone, and
of those with a refresh that has still to look there.
-/

namespace VolumePricing

namespace Gatehouse

variable {settings : HubSettings} {g g' : Gatehouse} {step : GateStep} {steps : List GateStep}
  {v w : Visit} {user : String} {progress : Progress}

/-! ### The map -/

theorem gate?_eq_none_iff : g.gate? user = none ↔ user ∉ g.gates.map (·.1) := by
  rw [gate?, List.lookup_eq_none_iff]
  simp only [List.mem_map, not_exists, not_and, bne_iff_ne, ne_eq]
  exact forall₂_congr fun p _ => not_congr eq_comm

/-- A gate is made for a newcomer who finds none. -/
theorem arrive_gates (g : Gatehouse) (user : String) :
    ((g.arrive user).gates = g.gates ∧ (g.arrive user).gatesMade = g.gatesMade) ∨
      (g.gate? user = none ∧ (g.arrive user).gates = (user, g.gatesMade) :: g.gates ∧
        (g.arrive user).gatesMade = g.gatesMade + 1) := by
  rw [arrive, findGate]
  cases hgate : g.gate? user with
  | some gate => exact Or.inl ⟨rfl, rfl⟩
  | none => exact Or.inr ⟨rfl, rfl, rfl⟩

/-- No shopper and no gate stands in the map twice. -/
structure Keyed (g : Gatehouse) : Prop where
  shoppers : (g.gates.map (·.1)).Nodup
  gates : (g.gates.map (·.2)).Nodup
  gates_lt : ∀ p ∈ g.gates, p.2 < g.gatesMade

theorem Keyed.arrive (hk : g.Keyed) (user : String) : (g.arrive user).Keyed := by
  rcases arrive_gates g user with ⟨hgates, hmade⟩ | ⟨hnone, hgates, hmade⟩
  · refine ⟨?_, ?_, ?_⟩ <;> rw [hgates]
    · exact hk.shoppers
    · exact hk.gates
    · exact hmade ▸ hk.gates_lt
  · refine ⟨?_, ?_, ?_⟩ <;> rw [hgates]
    · exact List.nodup_cons.mpr ⟨gate?_eq_none_iff.mp hnone, hk.shoppers⟩
    · refine List.nodup_cons.mpr ⟨fun hold => ?_, hk.gates⟩
      obtain ⟨p, hp, hsame⟩ := List.mem_map.mp hold
      exact (hk.gates_lt p hp).ne hsame
    · intro p hp
      rw [hmade]
      rcases List.mem_cons.mp hp with rfl | hp
      · exact Nat.lt_succ_self _
      · exact (hk.gates_lt p hp).trans (Nat.lt_succ_self _)

/-- A gate belongs to one shopper, and all who came for it are refreshes of that shopper. -/
structure Distinct (g : Gatehouse) : Prop where
  sound : g.Sound
  keyed : g.Keyed
  visits_lt : ∀ v ∈ g.visits, v.gate < g.gatesMade
  owner : ∀ v ∈ g.visits, ∀ p ∈ g.gates, p.2 = v.gate → p.1 = v.user

theorem distinct_of_hub (hub : Hub) : Distinct { hub } where
  sound := sound_of_hub hub
  keyed := ⟨List.nodup_nil, List.nodup_nil, by simp⟩
  visits_lt := by simp
  owner := by simp

theorem Distinct.arrive (hd : g.Distinct) (user : String) : (g.arrive user).Distinct := by
  have hkeyed := hd.keyed.arrive user
  obtain ⟨gate, hgate, -, hvisits, -, -⟩ := arrive_spec g user
  have hmem := mem_of_lookup_eq_some hgate
  refine ⟨hd.sound.arrive user, hkeyed, ?_, ?_⟩ <;> intro v hv <;> rw [hvisits] at hv <;>
    rcases List.mem_append.mp hv with hv | hv
  · have hlt := hd.visits_lt v hv
    rcases arrive_gates g user with ⟨-, hmade⟩ | ⟨-, -, hmade⟩ <;> omega
  · rw [List.mem_singleton.mp hv]
    exact hkeyed.gates_lt _ hmem
  · intro p hp hsame
    rcases arrive_gates g user with ⟨hgates, -⟩ | ⟨-, hgates, -⟩ <;> rw [hgates] at hp
    · exact hd.owner v hv p hp hsame
    · rcases List.mem_cons.mp hp with rfl | hp
      · exact absurd hsame.symm (hd.visits_lt v hv).ne
      · exact hd.owner v hv p hp hsame
  · intro p hp hsame
    rw [List.mem_singleton.mp hv] at hsame ⊢
    rw [List.inj_on_of_nodup_map hkeyed.gates hp hmem hsame]

/-- A step that makes no gate and lets nobody in. -/
theorem Distinct.of_sublist (hd : g.Distinct) (hsound : g'.Sound)
    (hgates : g'.gates.Sublist g.gates) (hmade : g'.gatesMade = g.gatesMade)
    (hvisits : ∀ w ∈ g'.visits, ∃ v ∈ g.visits, v.gate = w.gate ∧ v.user = w.user) :
    g'.Distinct where
  sound := hsound
  keyed :=
    { shoppers := hd.keyed.shoppers.sublist (hgates.map _)
      gates := hd.keyed.gates.sublist (hgates.map _)
      gates_lt := fun p hp => hmade ▸ hd.keyed.gates_lt p (hgates.subset hp) }
  visits_lt := by
    intro w hw
    obtain ⟨v, hv, hgate, -⟩ := hvisits w hw
    rw [← hgate, hmade]
    exact hd.visits_lt v hv
  owner := by
    intro w hw p hp hsame
    obtain ⟨v, hv, hgate, huser⟩ := hvisits w hw
    rw [← huser]
    exact hd.owner v hv p (hgates.subset hp) (hsame.trans hgate.symm)

theorem exists_of_mem_moveTo {n : ℕ} (hw : w ∈ (g.moveTo n progress).visits) :
    ∃ v ∈ g.visits, v.gate = w.gate ∧ v.user = w.user := by
  rcases mem_modifyFirst hw with hw | ⟨v, hv, -, rfl⟩
  · exact ⟨w, hw, rfl, rfl⟩
  · exact ⟨v, hv, rfl, rfl⟩

theorem Distinct.makes (hd : g.Distinct) (h : Makes settings g step g') : g'.Distinct := by
  have hsound := hd.sound.makes h
  cases h with
  | arrive user => exact hd.arrive user
  | tidy =>
    exact hd.of_sublist hsound List.filter_sublist rfl fun _ hw => exists_of_mem_moveTo hw
  | depart =>
    refine hd.of_sublist hsound (List.Sublist.refl _) rfl fun w hw => ?_
    exact ⟨w, (List.mem_filter.mp hw).1, rfl, rfl⟩
  | _ => exact hd.of_sublist hsound (List.Sublist.refl _) rfl fun _ hw => exists_of_mem_moveTo hw

/-- Whoever looks at the map takes the gate out if no other refresh of the shopper came for it. -/
theorem Distinct.references_eq_two_iff (hd : g.Distinct) (hv : v ∈ g.visits)
    (hp : v.progress = .leaving) :
    g.references v.gate = 2 ↔ ∀ w ∈ g.visitsOf v.user, w.gate = v.gate → w = v := by
  have hheld : v.progress ≠ .left := by simp [hp]
  constructor
  · intro hrefs w hw hgate
    exact hd.sound.eq_of_references hv hheld hrefs (List.mem_filter.mp hw).1 hgate
  · intro hlast
    have hmem := mem_of_lookup_eq_some (hd.sound.registered v hv hheld)
    have halone : ∀ w ∈ g.visits, w.gate = v.gate → w = v := by
      intro w hw hgate
      have huser : v.user = w.user := hd.owner w hw _ hmem hgate.symm
      exact hlast w (by simp [visitsOf, hw, huser]) hgate
    have hmap : g.gates.countP (·.2 == v.gate) = 1 := by
      have hone := List.count_eq_one_of_mem hd.keyed.gates (List.mem_map_of_mem hmem)
      rwa [List.count, List.countP_map] at hone
    have hvisits : g.visits.countP (·.gate == v.gate) = 1 := by
      rw [← List.count_eq_one_of_mem hd.sound.numbers.of_map hv]
      refine List.countP_congr fun w hw => ?_
      rw [beq_iff_eq, beq_iff_eq]
      exact ⟨halone w hw, congrArg Visit.gate⟩
    have hplaces : g.visits.countP (fun w => w.gate == v.gate && w.progress.hasPlace) = 0 := by
      refine List.countP_eq_zero.mpr fun w hw => ?_
      rw [Bool.and_eq_true, beq_iff_eq]
      rintro ⟨hgate, hplace⟩
      rw [halone w hw hgate, hp] at hplace
      cases hplace
    rw [references, hmap, hvisits, hplaces]

/-! ### What leaves a gate behind -/

/-- The only visit of the shopper that is not through with the map. -/
structure LastOf (g : Gatehouse) (user : String) (v : Visit) : Prop where
  mem : v ∈ g.visits
  user_eq : v.user = user
  held : v.progress ≠ .left
  others : ∀ w ∈ g.visits, w.user = user → w.number ≠ v.number → w.progress = .left

/-- The step that leaves the gate of the shopper in the map for nobody. The last visit is given up,
or cannot price its cart, or looks at the map while another one still refers to the gate. -/
def Strands (settings : HubSettings) (g : Gatehouse) (user : String) : GateStep → Prop
  | .giveUp n => ∃ v, g.LastOf user v ∧ v.number = n ∧ v.progress.isWaiting = true
  | .price n tiers => ∃ v, g.LastOf user v ∧ v.number = n ∧ ∃ cart o,
      v.progress = .loaded cart ∧ summarizeCart settings.fallback cart tiers = .error o
  | .tidy n => ∃ v, g.LastOf user v ∧ v.number = n ∧
      v.progress = .leaving ∧ ∃ w ∈ g.visitsOf user, w.gate = v.gate ∧ w ≠ v
  | _ => False

/-- The shopper has a gate in the map, and nobody will look at it. -/
structure Stray (g : Gatehouse) (user : String) : Prop where
  gate : g.gate? user ≠ none
  unattended : ∀ v ∈ g.visits, v.user = user → v.progress = .left

/-- In the course of a run the gate of the shopper was left behind, and the shopper has not come
since. -/
def LeftBehind (settings : HubSettings) (g : Gatehouse) (user : String) (steps : List GateStep) :
    Prop :=
  ∃ earlier step later g₁, steps = earlier ++ step :: later ∧
    run? settings g earlier = some g₁ ∧ g₁.Strands settings user step ∧ .arrive user ∉ later

/-- There is no last visit of a number but the visit itself. -/
theorem Sound.exists_last (hs : g.Sound) (hv : v ∈ g.visits) {p : Visit → Prop} :
    (∃ w, g.LastOf user w ∧ w.number = v.number ∧ p w) ↔ g.LastOf user v ∧ p v := by
  constructor
  · rintro ⟨w, hlast, hnumber, hw⟩
    rw [← hs.eq_of_number hlast.mem hv hnumber]
    exact ⟨hlast, hw⟩
  · exact fun ⟨hlast, hp⟩ => ⟨v, hlast, rfl, hp⟩

/-! ### Steps -/

theorem stray_congr (hgate : g'.gate? user = g.gate? user) (hvisits : g'.visits = g.visits) :
    g'.Stray user ↔ g.Stray user := by
  constructor <;> rintro ⟨hfound, hnobody⟩
  · exact ⟨hgate ▸ hfound, hvisits ▸ hnobody⟩
  · exact ⟨hgate.symm ▸ hfound, hvisits.symm ▸ hnobody⟩

theorem Sound.stray_moveTo (hs : g.Sound) (hv : v ∈ g.visits) (hheld : v.progress ≠ .left) :
    (g.moveTo v.number progress).Stray user ↔
      g.Stray user ∨ (progress = .left ∧ g.LastOf user v) := by
  constructor
  · rintro ⟨hgate, hnobody⟩
    have hothers : ∀ w ∈ g.visits, w.user = user → w.number ≠ v.number → w.progress = .left :=
      fun w hw huser hne => hnobody w ((mem_moveTo_iff hs hv).mpr (Or.inr ⟨hw, hne⟩)) huser
    by_cases huser : v.user = user
    · have hleft := hnobody _ ((mem_moveTo_iff hs hv).mpr (Or.inl rfl)) huser
      exact Or.inr ⟨hleft, hv, huser, hheld, hothers⟩
    · refine Or.inl ⟨hgate, fun w hw hwuser => hothers w hw hwuser ?_⟩
      intro hsame
      rw [hs.eq_of_number hw hv hsame] at hwuser
      exact huser hwuser
  · rintro (⟨hgate, hnobody⟩ | ⟨rfl, hlast⟩)
    · refine ⟨hgate, fun w hw hwuser => ?_⟩
      rcases mem_moveTo hs hv hw with rfl | ⟨hw, -⟩
      · exact absurd (hnobody v hv hwuser) hheld
      · exact hnobody w hw hwuser
    · have hgate : g.gate? user = some v.gate := hlast.user_eq ▸ hs.registered v hv hheld
      refine ⟨ne_of_eq_of_ne hgate (Option.some_ne_none _), fun w hw hwuser => ?_⟩
      rcases mem_moveTo hs hv hw with rfl | ⟨hw, hne⟩
      · rfl
      · exact hlast.others w hw hwuser hne

/-- Of a visit that moves on it is enough to know whether its step leaves the gate behind. -/
theorem Sound.stray_step (hs : g.Sound) (hv : v ∈ g.visits) (hheld : v.progress ≠ .left)
    (harrive : step ≠ .arrive user)
    (hstrands : g.Strands settings user step ↔ progress = .left ∧ g.LastOf user v) :
    (g.moveTo v.number progress).Stray user ↔
      (g.Stray user ∧ step ≠ .arrive user) ∨ g.Strands settings user step := by
  rw [hs.stray_moveTo hv hheld, hstrands, and_iff_left harrive]

theorem gate?_arrive_of_ne {other : String} (hne : other ≠ user) :
    (g.arrive other).gate? user = g.gate? user := by
  have hbeq : (user == other) = false := by simpa using hne.symm
  rcases arrive_gates g other with ⟨hgates, -⟩ | ⟨-, hgates, -⟩ <;> rw [gate?, hgates]
  · rfl
  · rw [List.lookup_cons, hbeq, gate?]

theorem stray_arrive {other : String} (g : Gatehouse) :
    (g.arrive other).Stray user ↔ g.Stray user ∧ other ≠ user := by
  obtain ⟨gate, hgate, hkept, hvisits, -, -⟩ := arrive_spec g other
  constructor
  · rintro ⟨hfound, hnobody⟩
    have hne : other ≠ user := by
      intro hsame
      have hleft := hnobody ⟨g.visitsMade, other, gate, .waiting⟩ (by simp [hvisits]) hsame
      cases hleft
    refine ⟨⟨?_, ?_⟩, hne⟩
    · rw [← gate?_arrive_of_ne hne]
      exact hfound
    · exact fun v hv => hnobody v (by simp [hvisits, hv])
  · rintro ⟨⟨hfound, hnobody⟩, hne⟩
    refine ⟨?_, ?_⟩
    · rw [gate?_arrive_of_ne hne]
      exact hfound
    · intro v hv huser
      rw [hvisits] at hv
      rcases List.mem_append.mp hv with hv | hv
      · exact hnobody v hv huser
      · rw [List.mem_singleton.mp hv] at huser
        exact absurd huser hne

theorem Sound.stray_remove (hs : g.Sound) (hv : v ∈ g.visits) (hp : v.progress = .left) :
    (g.remove v.number).Stray user ↔ g.Stray user := by
  constructor
  · rintro ⟨hgate, hnobody⟩
    refine ⟨hgate, fun w hw huser => ?_⟩
    by_cases hsame : w.number = v.number
    · rw [hs.eq_of_number hw hv hsame, hp]
    · exact hnobody w (by simp [Gatehouse.remove, hw, hsame]) huser
  · rintro ⟨hgate, hnobody⟩
    exact ⟨hgate, fun w hw => hnobody w (List.mem_filter.mp hw).1⟩

theorem Sound.stray_tidy (hs : g.Sound) (hv : v ∈ g.visits) (hheld : v.progress ≠ .left) :
    Stray { g.moveTo v.number .left with gates := g.gates.filter (·.1 != v.user) } user ↔
      g.Stray user := by
  by_cases huser : v.user = user
  · constructor
    · rintro ⟨hgate, -⟩
      refine absurd (gate?_eq_none_iff.mpr ?_) hgate
      simp [huser]
    · exact fun hstray => absurd (hstray.unattended v hv huser) hheld
  · have hmoved : (g.moveTo v.number .left).Stray user ↔ g.Stray user := by
      rw [hs.stray_moveTo hv hheld, or_iff_left fun hlast => huser hlast.2.user_eq]
    have hgate : (g.gates.filter (·.1 != v.user)).lookup user = g.gates.lookup user :=
      lookup_filter (p := (· != v.user)) (by simpa using Ne.symm huser) g.gates
    exact Iff.trans (stray_congr (g := g.moveTo v.number .left) hgate rfl) hmoved

/-- A gate is left behind exactly by such a step, and until the shopper comes again. -/
theorem Distinct.stray_makes (hd : g.Distinct) (h : Makes settings g step g') :
    g'.Stray user ↔ (g.Stray user ∧ step ≠ .arrive user) ∨ g.Strands settings user step := by
  have hs := hd.sound
  cases h with
  | arrive other => simp [stray_arrive, Strands]
  | enter hv hp => exact hs.stray_step hv (by simp [hp]) (by simp) (by simp [Strands])
  | load hv hp => exact hs.stray_step hv (by simp [hp]) (by simp) (by simp [Strands])
  | miss hv hp => exact hs.stray_step hv (by simp [hp]) (by simp) (by simp [Strands])
  | price hv hp hsummary =>
    refine hs.stray_step hv (by simp [hp]) (by simp) ?_
    simp [Strands, hs.exists_last hv, hp, hsummary]
  | overflow hv hp hsummary =>
    refine hs.stray_step hv (by simp [hp]) (by simp) ?_
    simp [Strands, hs.exists_last hv, hp, hsummary]
  | @store v _ moment hv hp =>
    refine Iff.trans (stray_congr (g := g.moveTo v.number .done) rfl rfl) ?_
    exact hs.stray_step hv (by simp [hp]) (by simp) (by simp [Strands])
  | leave hv hp => exact hs.stray_step hv (by simp [hp]) (by simp) (by simp [Strands])
  | @keep v hv hp hrefs =>
    have hothers : ∃ w ∈ g.visitsOf v.user, w.gate = v.gate ∧ w ≠ v := by
      simpa using mt (hd.references_eq_two_iff hv hp).mpr hrefs
    refine hs.stray_step hv (by simp [hp]) (by simp) ?_
    rw [Strands, hs.exists_last hv]
    constructor
    · exact fun ⟨hlast, _⟩ => ⟨rfl, hlast⟩
    · exact fun ⟨_, hlast⟩ => ⟨hlast, hp, hlast.user_eq ▸ hothers⟩
  | @tidy v hv hp hrefs =>
    have hnone : ¬ g.Strands settings user (.tidy v.number) := by
      rw [Strands, hs.exists_last hv]
      rintro ⟨hlast, -, w, hw, hgate, hne⟩
      rw [← hlast.user_eq] at hw
      exact hne ((hd.references_eq_two_iff hv hp).mp hrefs w hw hgate)
    rw [hs.stray_tidy hv (by simp [hp]), or_iff_left hnone, and_iff_left (by simp)]
  | depart hv hp => simp [hs.stray_remove hv hp, Strands]
  | giveUp hv hp =>
    refine hs.stray_step hv ?_ (by simp) ?_
    · intro hleft
      rw [hleft] at hp
      cases hp
    · simp [Strands, hs.exists_last hv, hp]

/-! ### Runs -/

theorem run?_append (settings : HubSettings) (g : Gatehouse) (steps more : List GateStep) :
    run? settings g (steps ++ more) = (run? settings g steps).bind (run? settings · more) :=
  List.foldlM_append

theorem run?_append_singleton (settings : HubSettings) (g : Gatehouse) (steps : List GateStep)
    (step : GateStep) :
    run? settings g (steps ++ [step]) = (run? settings g steps).bind (step? settings · step) := by
  simp [run?]

theorem Distinct.run (hd : g.Distinct) (hrun : run? settings g steps = some g') :
    g'.Distinct := by
  induction steps using List.reverseRecOn generalizing g' with
  | nil =>
    cases hrun
    exact hd
  | append_singleton steps step ih =>
    rw [run?_append_singleton] at hrun
    obtain ⟨g₁, hrun, hstep⟩ := Option.bind_eq_some_iff.mp hrun
    exact (ih hrun).makes (makes_of_step? hstep)

/-- The last step of a run leaves the gate behind, or it was left behind before. -/
theorem leftBehind_append (hrun : run? settings g steps = some g') :
    LeftBehind settings g user (steps ++ [step]) ↔
      (LeftBehind settings g user steps ∧ step ≠ .arrive user) ∨
        g'.Strands settings user step := by
  constructor
  · rintro ⟨earlier, step', later, g₁, hsplit, hearlier, hstrands, hlater⟩
    rcases List.eq_nil_or_concat' later with rfl | ⟨later, last, rfl⟩
    · obtain ⟨rfl, hlast⟩ := List.append_inj' hsplit rfl
      cases hlast
      rw [hrun] at hearlier
      cases hearlier
      exact Or.inr hstrands
    · rw [← List.cons_append, ← List.append_assoc] at hsplit
      obtain ⟨rfl, hlast⟩ := List.append_inj' hsplit rfl
      cases hlast
      simp only [List.mem_append, List.mem_singleton, not_or] at hlater
      exact Or.inl ⟨⟨earlier, step', later, g₁, rfl, hearlier, hstrands, hlater.1⟩,
        Ne.symm hlater.2⟩
  · rintro (⟨⟨earlier, step', later, g₁, rfl, hearlier, hstrands, hlater⟩, hne⟩ | hstrands)
    · refine ⟨earlier, step', later ++ [step], g₁, by simp, hearlier, hstrands, ?_⟩
      simp [hlater, Ne.symm hne]
    · exact ⟨steps, step, [], g', rfl, hrun, hstrands, by simp⟩

theorem Distinct.stray_run (hd : g.Distinct) (hnew : ¬ g.Stray user)
    (hrun : run? settings g steps = some g') :
    g'.Stray user ↔ LeftBehind settings g user steps := by
  induction steps using List.reverseRecOn generalizing g' with
  | nil =>
    cases hrun
    refine iff_of_false hnew ?_
    rintro ⟨earlier, step, later, g₁, hsplit, -⟩
    simp at hsplit
  | append_singleton steps step ih =>
    rw [run?_append_singleton] at hrun
    obtain ⟨g₁, hrun, hstep⟩ := Option.bind_eq_some_iff.mp hrun
    rw [(hd.run hrun).stray_makes (makes_of_step? hstep), leftBehind_append hrun, ih hrun]

/-- The shoppers with a gate in the map. -/
theorem Sound.mem_gates_iff (hs : g.Sound) :
    user ∈ g.gates.map (·.1) ↔
      (∃ v ∈ g.visitsOf user, v.progress ≠ .left) ∨ g.Stray user := by
  have hgate : user ∈ g.gates.map (·.1) ↔ g.gate? user ≠ none :=
    not_iff_not.mp (by rw [not_not, gate?_eq_none_iff])
  rw [hgate]
  constructor
  · intro hfound
    by_cases hheld : ∃ v ∈ g.visitsOf user, v.progress ≠ .left
    · exact Or.inl hheld
    · refine Or.inr ⟨hfound, fun v hv huser => ?_⟩
      by_contra hleft
      exact hheld ⟨v, by simp [visitsOf, hv, huser], hleft⟩
  · rintro (⟨v, hv, hheld⟩ | hstray)
    · obtain ⟨hmem, huser⟩ : v ∈ g.visits ∧ v.user = user := by simpa [visitsOf] using hv
      rw [← huser, hs.registered v hmem hheld]
      exact Option.some_ne_none _
    · exact hstray.gate

/-- The map has one gate of each shopper with a refresh that is not through with the map yet, and
one of each shopper whose gate was left behind. It has no others. -/
theorem run_gates (hrun : run? settings { hub := .new settings } steps = some g) :
    (g.gates.map (·.1)).Nodup ∧
      ∀ user, user ∈ g.gates.map (·.1) ↔
        (∃ v ∈ g.visitsOf user, v.progress ≠ .left) ∨
          LeftBehind settings { hub := .new settings } user steps := by
  have hnew := distinct_of_hub (.new settings)
  have hd := hnew.run hrun
  refine ⟨hd.keyed.shoppers, fun user => ?_⟩
  have hempty : ¬ Stray { hub := .new settings } user := fun hstray => hstray.gate rfl
  rw [hd.sound.mem_gates_iff, hnew.stray_run hempty hrun]

/-- Of two refreshes for Ana one is given up, and the other takes the gate out. One for Bea is given
up alone, and one for Cara is inside. -/
def mixedSteps : List GateStep :=
  [.arrive "ana", .arrive "ana", .enter 0, .load 0 (.ok none), .giveUp 0, .depart 0, .enter 1,
    .load 1 (.ok none), .price 1 [], .store 1 ⟨10, 1⟩, .leave 1, .tidy 1, .depart 1,
    .arrive "bea", .enter 2, .giveUp 2, .depart 2, .arrive "cara", .enter 3]

theorem run_gates_mixedSteps :
    ∃ g, run? {} { hub := .new {} } mixedSteps = some g ∧
      g.gates.map (·.1) = ["cara", "bea"] ∧ g.visitsOf "bea" = [] ∧
      LeftBehind {} { hub := .new {} } "bea" mixedSteps ∧
      ¬ LeftBehind {} { hub := .new {} } "ana" mixedSteps := by
  have hresult : (run? {} { hub := .new {} } mixedSteps).map
      (fun g => (g.gates.map (·.1), g.visitsOf "bea")) = some (["cara", "bea"], []) := by
    decide +kernel
  obtain ⟨g, hrun, hg⟩ := Option.map_eq_some_iff.mp hresult
  obtain ⟨hgates, hvisits⟩ := Prod.mk.inj hg
  have hkeys := (run_gates hrun).2
  rw [hgates] at hkeys
  refine ⟨g, hrun, hgates, hvisits, ?_, ?_⟩
  · rcases (hkeys "bea").mp (by simp) with ⟨v, hv, -⟩ | hleft
    · simp [hvisits] at hv
    · exact hleft
  · exact fun hleft => absurd ((hkeys "ana").mpr (Or.inr hleft)) (by simp)

/-- A refresh that is given up while it reads the cart. -/
def givenUpSteps : List GateStep := [.arrive "ana", .enter 0, .giveUp 0, .depart 0]

/-- Two refreshes that are both out of the gate before either has looked at the map. The second one
looks when the first has, but still refers to the gate. Neither is given up. -/
def sideBySideSteps : List GateStep :=
  [.arrive "ana", .arrive "ana", .enter 0, .load 0 (.ok none), .price 0 [], .store 0 ⟨10, 1⟩,
    .leave 0, .enter 1, .load 1 (.ok none), .price 1 [], .store 1 ⟨20, 2⟩, .leave 1,
    .tidy 0, .tidy 1, .depart 0, .depart 1]

/-- All refreshes are gone, and the gate is not. -/
theorem gate_kept_for_nobody :
    (run? {} { hub := .new {} } givenUpSteps).map (fun g => (g.visits, g.gates)) =
        some ([], [("ana", 0)]) ∧
      (run? {} { hub := .new {} } sideBySideSteps).map (fun g => (g.visits, g.gates)) =
        some ([], [("ana", 0)]) := by
  decide +kernel

theorem run?_givenUp (hvisits : g.visits = []) (hgate : g.gate? user = none) :
    run? settings g [.arrive user, .giveUp g.visitsMade, .depart g.visitsMade] =
      some { g with
        gates := (user, g.gatesMade) :: g.gates
        gatesMade := g.gatesMade + 1
        visitsMade := g.visitsMade + 1 } := by
  simp [run?, step?, arrive, findGate, hgate, hvisits, visit?, giveUp, Progress.isWaiting, moveTo,
    modifyFirst, depart, remove]

/-- The map grows with every shopper whose only refresh is given up. -/
theorem exists_run_gates (settings : HubSettings) {users : List String} (hnodup : users.Nodup) :
    ∃ steps g, run? settings { hub := .new settings } steps = some g ∧
      g.visits = [] ∧ g.gates.map (·.1) = users := by
  induction users with
  | nil => exact ⟨[], _, rfl, rfl, rfl⟩
  | cons user users ih =>
    obtain ⟨hnew, hnodup⟩ := List.nodup_cons.mp hnodup
    obtain ⟨steps, g, hrun, hvisits, hgates⟩ := ih hnodup
    have hgate : g.gate? user = none := gate?_eq_none_iff.mpr (hgates ▸ hnew)
    have hgrown := run?_append settings { hub := .new settings } steps
      [.arrive user, .giveUp g.visitsMade, .depart g.visitsMade]
    rw [hrun, Option.bind_some, run?_givenUp hvisits hgate] at hgrown
    exact ⟨_, _, hgrown, hvisits, congrArg (user :: ·) hgates⟩

end Gatehouse

end VolumePricing
