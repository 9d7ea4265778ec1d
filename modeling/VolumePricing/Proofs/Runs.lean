import Mathlib
import VolumePricing.Checked

/-!
# Runs

A run takes one step after another, each from the state that the one before it
left. It ends early only by an overflow. What every step keeps, a run keeps.
-/

namespace VolumePricing

variable {α β σ : Type} {f : α → StateT σ (Except Overflow) β} {x : α} {xs : List α}
  {s s' : σ} {bs : List β}

theorem mapM_cons_eq_ok :
    (x :: xs).mapM f s = .ok (bs, s') ↔
      ∃ b rest s₁, f x s = .ok (b, s₁) ∧ xs.mapM f s₁ = .ok (rest, s') ∧ bs = b :: rest := by
  rw [List.mapM_cons]
  simp only [bind, StateT.bind, Except.bind]
  rcases f x s with o | ⟨b, s₁⟩
  · simp
  · rcases hr : xs.mapM f s₁ with o | ⟨rest, s₂⟩
    · simp [hr]
    · simp only [hr, pure, StateT.pure, Except.pure, Except.ok.injEq, Prod.mk.injEq]
      constructor
      · rintro ⟨rfl, rfl⟩
        exact ⟨b, rest, s₁, ⟨rfl, rfl⟩, hr, rfl⟩
      · rintro ⟨_, _, _, ⟨rfl, rfl⟩, h, rfl⟩
        rw [hr] at h
        cases h
        exact ⟨rfl, rfl⟩

/-- A run keeps what every one of its steps keeps. -/
theorem mapM_keeps {P : σ → Prop}
    (step : ∀ x ∈ xs, ∀ s b s', P s → f x s = .ok (b, s') → P s') (hs : P s)
    (h : xs.mapM f s = .ok (bs, s')) : P s' := by
  induction xs generalizing s bs with
  | nil =>
    cases h
    exact hs
  | cons x xs ih =>
    obtain ⟨b, rest, s₁, hx, hxs, -⟩ := mapM_cons_eq_ok.mp h
    exact ih (fun y hy => step y (by simp [hy])) (step x (by simp) s b s₁ hs hx) hxs

end VolumePricing
