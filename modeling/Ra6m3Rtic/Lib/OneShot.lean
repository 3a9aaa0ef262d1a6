import Mathlib.Logic.Basic

namespace OneShot

-- A waiter that found its condition false and left a one-shot alarm behind.
-- `woken` records that the alarm has gone off since.
structure Watch (σ : Type u) where
  ready : σ → Prop
  armed : σ → Prop
  woken : σ → Prop

def Watch.Safe (w : Watch σ) (s : σ) : Prop := w.woken s ∨ (w.armed s ∧ ¬ w.ready s)

-- The obligation on one step of the surroundings: a wake is not undone, and a
-- step that could make the condition true has to set the alarm off.
structure Watch.Kept (w : Watch σ) (s next : σ) : Prop where
  woken : w.woken s → w.woken next
  fires : w.armed s → ¬ w.ready s → w.Safe next

theorem Watch.safe_step (w : Watch σ) (safe : w.Safe s) (kept : w.Kept s next) : w.Safe next := by
  rcases safe with woken | ⟨armed,blocked⟩
  · exact .inl (kept.woken woken)
  · exact kept.fires armed blocked

theorem Watch.woken_of_ready (w : Watch σ) (safe : w.Safe s) (ready : w.ready s) : w.woken s := by
  rcases safe with woken | ⟨_,blocked⟩
  · exact woken
  · exact absurd ready blocked

end OneShot
