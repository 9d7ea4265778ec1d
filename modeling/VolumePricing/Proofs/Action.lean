import VolumePricing.Proofs.Words
import VolumePricing.Service.Basic

/-!
# What an action comes to

Every action of a store, a shop or a service takes a state and gives an answer
or a refusal together with the state it leaves, unless it overflows. The
equations here run the steps of an action one after another. To follow what
becomes of the state through a sequence of steps it is enough to know of each
step whether it only reads, whether it is refused only before it has changed
anything, and what it keeps.
-/

namespace VolumePricing

abbrev Action (ε σ α : Type) := ExceptT ε (StateT σ (Except Overflow)) α

namespace Action

variable {ε ε' σ α β : Type}

@[simp] theorem run_pure (a : α) (s : σ) : (pure a : Action ε σ α) s = .ok (.ok a, s) := rfl

@[simp] theorem run_throw (e : ε) (s : σ) :
    (throw e : Action ε σ α) s = .ok (.error e, s) := rfl

@[simp] theorem run_get (s : σ) : (get : Action ε σ σ) s = .ok (.ok s, s) := rfl

@[simp] theorem run_set (s s' : σ) : (set s' : Action ε σ PUnit) s = .ok (.ok ⟨⟩, s') := rfl

@[simp] theorem run_modify (f : σ → σ) (s : σ) :
    (modify f : Action ε σ PUnit) s = .ok (.ok ⟨⟩, f s) := rfl

/-- A checked computation has no part in the state. -/
@[simp] theorem run_checked (x : Checked α) (s : σ) :
    (liftM x : Action ε σ α) s = x.map fun a => (.ok a, s) := by
  cases x <;> rfl

@[simp] theorem run_except (x : Except ε α) (s : σ) :
    (liftM x : Action ε σ α) s = .ok (x, s) := rfl

@[simp] theorem lift_error (e : ε) :
    (liftM (.error e : Except ε α) : Action ε σ α) = throw e := rfl

@[simp] theorem lift_ok (a : α) : (liftM (.ok a : Except ε α) : Action ε σ α) = pure a := rfl

theorem run_bind (x : Action ε σ α) (f : α → Action ε σ β) (s : σ) :
    (x >>= f) s =
      match x s with
      | .error o => .error o
      | .ok (.error e, s') => .ok (.error e, s')
      | .ok (.ok a, s') => f a s' := by
  change StateT.bind x (ExceptT.bindCont f) s = _
  simp only [StateT.bind, bind, Except.bind]
  rcases x s with _ | ⟨_ | _, _⟩ <;> rfl

theorem run_tryCatch (x : Action ε σ α) (f : ε → Action ε σ α) (s : σ) :
    (tryCatch x f) s =
      match x s with
      | .error o => .error o
      | .ok (.error e, s') => f e s'
      | .ok (.ok a, s') => .ok (.ok a, s') := by
  simp only [tryCatch, tryCatchThe, MonadExceptOf.tryCatch, ExceptT.tryCatch, ExceptT.mk, bind,
    StateT.bind, Except.bind]
  rcases x s with _ | ⟨_ | _, _⟩ <;> rfl

theorem run_map (f : α → β) (x : Action ε σ α) (s : σ) :
    (f <$> x) s = (x s).map fun p => (p.1.map f, p.2) := by
  simp only [Functor.map, ExceptT.map, ExceptT.mk, bind, StateT.bind, Except.bind]
  rcases x s with _ | ⟨_ | _, _⟩ <;> rfl

theorem run_adapt (f : ε → ε') (x : Action ε σ α) (s : σ) :
    (ExceptT.adapt f x : Action ε' σ α) s = (x s).map fun p => (p.1.mapError f, p.2) := by
  simp only [ExceptT.adapt, ExceptT.mk, Functor.map, StateT.map, bind, Except.bind]
  rcases x s with _ | ⟨_ | _, _⟩ <;> rfl

/-- A sequence of two steps that ends was refused in the first, or went on to the second. -/
theorem bind_eq_ok {x : Action ε σ α} {f : α → Action ε σ β} {s s' : σ} {r : Except ε β} :
    (x >>= f) s = .ok (r, s') ↔
      (∃ e, x s = .ok (.error e, s') ∧ r = .error e) ∨
        ∃ a s₁, x s = .ok (.ok a, s₁) ∧ f a s₁ = .ok (r, s') := by
  rw [run_bind]
  rcases x s with o | ⟨e | a, s₁⟩
  · simp
  · constructor
    · intro h
      cases h
      exact Or.inl ⟨e, rfl, rfl⟩
    · rintro (⟨_, h, rfl⟩ | ⟨_, _, h, -⟩)
      · cases h
        rfl
      · cases h
  · simp

theorem overflows_bind {x : Action ε σ α} {f : α → Action ε σ β} {s : σ} :
    Checked.Overflows ((x >>= f) s) ↔
      Checked.Overflows (x s) ∨ ∃ a s', x s = .ok (.ok a, s') ∧ Checked.Overflows (f a s') := by
  rw [run_bind]
  rcases x s with o | ⟨e | a, s₁⟩ <;> simp

@[simp] theorem overflows_fmap (f : α → β) (x : Action ε σ α) (s : σ) :
    Checked.Overflows ((f <$> x) s) ↔ Checked.Overflows (x s) := by
  rw [run_map, Checked.overflows_map]

/-- The action leaves every state as it is. -/
def Reads (x : Action ε σ α) : Prop := ∀ s r s', x s = .ok (r, s') → s' = s

/-- When the action is refused, it has not changed the state. -/
def Atomic (x : Action ε σ α) : Prop := ∀ s e s', x s = .ok (.error e, s') → s' = s

/-- The action is never refused. -/
def Unrefused (x : Action ε σ α) : Prop := ∀ s e s', x s ≠ .ok (.error e, s')

/-- Whatever the action answers has the property. -/
def Answers (Q : α → Prop) (x : Action ε σ α) : Prop := ∀ s a s', x s = .ok (.ok a, s') → Q a

/-- Refused or not, the action leaves what it finds of a property. -/
def Keeps (P : σ → Prop) (x : Action ε σ α) : Prop := ∀ s r s', P s → x s = .ok (r, s') → P s'

/-- Refused or not, the action leads from the first property to the second. -/
def Leads (P Q : σ → Prop) (x : Action ε σ α) : Prop := ∀ s r s', P s → x s = .ok (r, s') → Q s'

theorem Reads.atomic {x : Action ε σ α} (hx : Reads x) : Atomic x :=
  fun s e s' h => hx s (.error e) s' h

theorem reads_pure (a : α) : Reads (pure a : Action ε σ α) := by
  intro s r s' h
  cases h
  rfl

theorem reads_throw (e : ε) : Reads (throw e : Action ε σ α) := by
  intro s r s' h
  cases h
  rfl

theorem reads_checked (x : Checked α) : Reads (liftM x : Action ε σ α) := by
  intro s r s' h
  cases x with
  | error o => cases h
  | ok a =>
    cases h
    rfl

theorem reads_except (x : Except ε α) : Reads (liftM x : Action ε σ α) := by
  intro s r s' h
  cases h
  rfl

theorem Reads.bind {x : Action ε σ α} {f : α → Action ε σ β} (hx : Reads x)
    (hf : ∀ a, Reads (f a)) : Reads (x >>= f) := by
  intro s r s' h
  rcases bind_eq_ok.mp h with ⟨e, hxe, -⟩ | ⟨a, s₁, hxa, hfa⟩
  · exact hx _ _ _ hxe
  · exact (hf a _ _ _ hfa).trans (hx _ _ _ hxa)

/-- What only reads may stand before a step that is refused in time. -/
theorem Reads.bind_atomic {x : Action ε σ α} {f : α → Action ε σ β} (hx : Reads x)
    (hf : ∀ a, Atomic (f a)) : Atomic (x >>= f) := by
  intro s e s' h
  rcases bind_eq_ok.mp h with ⟨e', hxe, -⟩ | ⟨a, s₁, hxa, hfa⟩
  · exact hx _ _ _ hxe
  · exact (hf a _ _ _ hfa).trans (hx _ _ _ hxa)

/-- What is never refused may follow one. -/
theorem Atomic.bind_unrefused {x : Action ε σ α} {f : α → Action ε σ β} (hx : Atomic x)
    (hf : ∀ a, Unrefused (f a)) : Atomic (x >>= f) := by
  intro s e s' h
  rcases bind_eq_ok.mp h with ⟨e', hxe, -⟩ | ⟨a, s₁, -, hfa⟩
  · exact hx _ _ _ hxe
  · exact absurd hfa (hf a _ _ _)

theorem Unrefused.atomic {x : Action ε σ α} (hx : Unrefused x) : Atomic x :=
  fun s e s' h => absurd h (hx s e s')

theorem unrefused_pure (a : α) : Unrefused (pure a : Action ε σ α) := by
  intro s e s' h
  cases h

theorem Unrefused.bind {x : Action ε σ α} {f : α → Action ε σ β} (hx : Unrefused x)
    (hf : ∀ a, Unrefused (f a)) : Unrefused (x >>= f) := by
  intro s e s' h
  rcases bind_eq_ok.mp h with ⟨e', hxe, -⟩ | ⟨a, s₁, -, hfa⟩
  · exact hx _ _ _ hxe
  · exact hf a _ _ _ hfa

theorem answers_pure {Q : α → Prop} {a : α} (ha : Q a) : Answers Q (pure a : Action ε σ α) := by
  intro s a' s' h
  cases h
  exact ha

theorem answers_bind {Q : β → Prop} {x : Action ε σ α} {f : α → Action ε σ β}
    (hf : ∀ a, Answers Q (f a)) : Answers Q (x >>= f) := by
  intro s b s' h
  rcases bind_eq_ok.mp h with ⟨e, -, hb⟩ | ⟨a, s₁, -, hfa⟩
  · cases hb
  · exact hf a _ _ _ hfa

theorem Reads.adapt {x : Action ε σ α} (hx : Reads x) (f : ε → ε') :
    Reads (ExceptT.adapt f x : Action ε' σ α) := by
  intro s r s' h
  rw [run_adapt] at h
  cases hr : x s with
  | error o => simp [hr, Except.map] at h
  | ok p =>
    simp only [hr, Except.map, Except.ok.injEq, Prod.mk.injEq] at h
    rw [← h.2]
    exact hx s p.1 p.2 hr

theorem Atomic.adapt {x : Action ε σ α} (hx : Atomic x) (f : ε → ε') :
    Atomic (ExceptT.adapt f x : Action ε' σ α) := by
  intro s e s' h
  rw [run_adapt] at h
  rcases hr : x s with o | ⟨e₀ | a, s₁⟩
  · simp [hr, Except.map] at h
  · simp only [hr, Except.map, Except.ok.injEq, Prod.mk.injEq] at h
    rw [← h.2]
    exact hx s e₀ s₁ hr
  · simp [hr, Except.map, Except.mapError] at h

theorem unrefused_tryCatch {x : Action ε σ α} {f : ε → Action ε σ α}
    (hf : ∀ e, Unrefused (f e)) : Unrefused (tryCatch x f) := by
  intro s e s' h
  rw [run_tryCatch] at h
  rcases hx : x s with o | ⟨e₁ | a, s₁⟩ <;> rw [hx] at h
  · cases h
  · exact hf e₁ s₁ e s' h
  · cases h

theorem Unrefused.mapM {f : α → Action ε σ β} (hf : ∀ a, Unrefused (f a)) (xs : List α) :
    Unrefused (xs.mapM f) := by
  induction xs with
  | nil => exact unrefused_pure []
  | cons x xs ih =>
    rw [List.mapM_cons]
    exact (hf x).bind fun b => ih.bind fun bs => unrefused_pure (b :: bs)

theorem Unrefused.adapt {x : Action ε σ α} (hx : Unrefused x) (f : ε → ε') :
    Unrefused (ExceptT.adapt f x : Action ε' σ α) := by
  intro s e s' h
  rw [run_adapt] at h
  rcases hr : x s with o | ⟨e₀ | a, s₁⟩ <;> rw [hr] at h <;> cases h
  exact hx s e₀ s₁ hr

section Keeps

variable {P : σ → Prop}

theorem Keeps.adapt {x : Action ε σ α} (hx : Keeps P x) (f : ε → ε') :
    Keeps P (ExceptT.adapt f x : Action ε' σ α) := by
  intro s r s' hs h
  rw [run_adapt] at h
  rcases hr : x s with o | ⟨a, s₁⟩ <;> rw [hr] at h <;> cases h
  exact hx s a s₁ hs hr

theorem Reads.keeps {x : Action ε σ α} (hx : Reads x) : Keeps P x :=
  fun s r s' hs h => hx s r s' h ▸ hs

theorem Keeps.bind {x : Action ε σ α} {f : α → Action ε σ β} (hx : Keeps P x)
    (hf : ∀ a, Keeps P (f a)) : Keeps P (x >>= f) := by
  intro s r s' hs h
  rcases bind_eq_ok.mp h with ⟨e, hxe, -⟩ | ⟨a, s₁, hxa, hfa⟩
  · exact hx _ _ _ hs hxe
  · exact hf a _ _ _ (hx _ _ _ hs hxa) hfa

theorem Keeps.tryCatch {x : Action ε σ α} {f : ε → Action ε σ α} (hx : Keeps P x)
    (hf : ∀ e, Keeps P (f e)) : Keeps P (tryCatch x f) := by
  intro s r s' hs h
  rw [run_tryCatch] at h
  rcases hr : x s with o | ⟨e | a, s₁⟩ <;> rw [hr] at h
  · cases h
  · exact hf e _ _ _ (hx _ _ _ hs hr) h
  · cases h
    exact hx _ _ _ hs hr

theorem Keeps.mapM {f : α → Action ε σ β} (hf : ∀ a, Keeps P (f a)) (xs : List α) :
    Keeps P (xs.mapM f) := by
  induction xs with
  | nil => exact (reads_pure []).keeps
  | cons x xs ih =>
    rw [List.mapM_cons]
    exact (hf x).bind fun b => ih.bind fun bs => (reads_pure (b :: bs)).keeps

end Keeps

section Leads

variable {P Q : σ → Prop} (hPQ : ∀ s, P s → Q s)
include hPQ

theorem Keeps.leads {x : Action ε σ α} (hx : Keeps P x) : Leads P Q x :=
  fun s r s' hs h => hPQ s' (hx s r s' hs h)

/-- What keeps the first property may stand before a step that leads on from it. -/
theorem Keeps.bind_leads {x : Action ε σ α} {f : α → Action ε σ β} (hx : Keeps P x)
    (hf : ∀ a, Leads P Q (f a)) : Leads P Q (x >>= f) := by
  intro s r s' hs h
  rcases bind_eq_ok.mp h with ⟨e, hxe, -⟩ | ⟨a, s₁, hxa, hfa⟩
  · exact hPQ _ (hx _ _ _ hs hxe)
  · exact hf a _ _ _ (hx _ _ _ hs hxa) hfa

end Leads

theorem Leads.bind_pure {P Q : σ → Prop} {x : Action ε σ α} (f : α → β) (hx : Leads P Q x) :
    Leads P Q (do return f (← x)) := by
  intro s r s' hs h
  rcases bind_eq_ok.mp h with ⟨e, hxe, -⟩ | ⟨a, s₁, hxa, hfa⟩
  · exact hx _ _ _ hs hxe
  · cases hfa
    exact hx _ _ _ hs hxa

/-- The action answers alike and changes alike whether its state is mapped before or after it. -/
def Commutes (φ : σ → σ) (x : Action ε σ α) : Prop :=
  ∀ s, x (φ s) = (x s).map fun p => (p.1, φ p.2)

section Commutes

variable {φ : σ → σ}

theorem commutes_pure (a : α) : Commutes φ (pure a : Action ε σ α) := fun _ => rfl

theorem commutes_throw (e : ε) : Commutes φ (throw e : Action ε σ α) := fun _ => rfl

theorem commutes_except (x : Except ε α) : Commutes φ (liftM x : Action ε σ α) := fun _ => rfl

theorem commutes_checked (x : Checked α) : Commutes φ (liftM x : Action ε σ α) := by
  intro s
  cases x <;> rfl

theorem Commutes.bind {x : Action ε σ α} {f : α → Action ε σ β} (hx : Commutes φ x)
    (hf : ∀ a, Commutes φ (f a)) : Commutes φ (x >>= f) := by
  intro s
  rw [run_bind, run_bind, hx s]
  rcases x s with o | ⟨e | a, s₁⟩
  · rfl
  · rfl
  · exact hf a s₁

theorem Commutes.adapt {x : Action ε σ α} (hx : Commutes φ x) (f : ε → ε') :
    Commutes φ (ExceptT.adapt f x : Action ε' σ α) := by
  intro s
  rw [run_adapt, run_adapt, hx s]
  cases x s <;> rfl

theorem Commutes.tryCatch {x : Action ε σ α} {f : ε → Action ε σ α} (hx : Commutes φ x)
    (hf : ∀ e, Commutes φ (f e)) : Commutes φ (tryCatch x f) := by
  intro s
  rw [run_tryCatch, run_tryCatch, hx s]
  rcases x s with o | ⟨e | a, s₁⟩
  · rfl
  · exact hf e s₁
  · rfl

theorem Commutes.mapM {f : α → Action ε σ β} (hf : ∀ a, Commutes φ (f a)) (xs : List α) :
    Commutes φ (xs.mapM f) := by
  induction xs with
  | nil => exact commutes_pure []
  | cons x xs ih =>
    rw [List.mapM_cons]
    exact (hf x).bind fun b => ih.bind fun bs => commutes_pure (b :: bs)

end Commutes

/-- A property of actions that reading beforehand and wording the answer afterwards do not harm. -/
structure Robust (G : (α : Type) → Action ε σ α → Prop) : Prop where
  reads : ∀ {α : Type} {x : Action ε σ α}, Reads x → G α x
  reads_bind : ∀ {α β : Type} {x : Action ε σ α} {f : α → Action ε σ β},
    Reads x → (∀ a, G β (f a)) → G β (x >>= f)
  answered : ∀ {α β : Type} {x : Action ε σ α} (f : α → β), G α x → G β (do return f (← x))

/-- What is refused at once has only read; what comes after may use the answer. -/
theorem Robust.except_bind {G : (α : Type) → Action ε σ α → Prop} (hG : Robust G)
    {x : Except ε α} {f : α → Action ε σ β} (hf : ∀ a, x = .ok a → G β (f a)) :
    G β ((liftM x : Action ε σ α) >>= f) := by
  cases x with
  | error e =>
    refine hG.reads fun s r s' h => ?_
    rw [lift_error, run_bind, run_throw] at h
    cases h
    rfl
  | ok a =>
    rw [lift_ok, pure_bind]
    exact hf a rfl

theorem robust_atomic : Robust fun α (x : Action ε σ α) => Atomic x where
  reads hx := hx.atomic
  reads_bind hx hf := hx.bind_atomic hf
  answered _ hx := hx.bind_unrefused fun _ => unrefused_pure _

theorem robust_keeps (P : σ → Prop) : Robust fun α (x : Action ε σ α) => Keeps P x where
  reads hx := hx.keeps
  reads_bind hx hf := hx.keeps.bind hf
  answered _ hx := hx.bind fun _ => (reads_pure _).keeps

theorem robust_leads {P Q : σ → Prop} (hPQ : ∀ s, P s → Q s) :
    Robust fun α (x : Action ε σ α) => Leads P Q x where
  reads hx := hx.keeps.leads hPQ
  reads_bind hx hf := hx.keeps.bind_leads hPQ hf
  answered f hx := hx.bind_pure f

end Action
end VolumePricing
