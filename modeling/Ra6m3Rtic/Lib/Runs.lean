import Mathlib.Algebra.GroupWithZero.Nat
import Mathlib.Data.List.Induction

namespace LabelledRuns

-- Runs of a labelled step relation, oldest label first. The relation may be a
-- guarded one; then every step of the run has met the guard.
inductive Runs (step : σ → ε → σ → Prop) : σ → List ε → σ → Prop where
  | nil : Runs step s [] s
  | step : Runs step origin earlier middle → step middle event after →
      Runs step origin (earlier ++ [event]) after

variable {step : σ → ε → σ → Prop}

theorem Runs.one (taken : step s event next) : Runs step s [event] next := .step .nil taken

theorem Runs.append (left : Runs step origin xs middle) (right : Runs step middle ys after) :
    Runs step origin (xs ++ ys) after := by
  induction right with
  | nil => simpa using left
  | step prior taken ih => rw [← List.append_assoc]; exact .step ih taken

theorem Runs.nil_eq (path : Runs step origin [] after) : origin = after := by
  generalize empty : ([] : List ε) = events at path
  cases path with
  | nil => rfl
  | step => simp at empty

theorem Runs.last (path : Runs step origin (earlier ++ [event]) after) :
    ∃ middle, Runs step origin earlier middle ∧ step middle event after := by
  generalize whole : earlier ++ [event] = events at path
  cases path with
  | nil => simp at whole
  | step prior taken =>
    obtain ⟨same,equal⟩ := List.append_inj' whole rfl
    cases equal
    subst same
    exact ⟨_,prior,taken⟩

theorem Runs.split (path : Runs step origin (xs ++ ys) after) :
    ∃ middle, Runs step origin xs middle ∧ Runs step middle ys after := by
  induction ys using List.reverseRecOn generalizing after with
  | nil => exact ⟨after,by simpa using path,.nil⟩
  | append_singleton ys event ih =>
    rw [← List.append_assoc] at path
    obtain ⟨before,earlier,taken⟩ := path.last
    obtain ⟨middle,left,right⟩ := ih earlier
    exact ⟨middle,left,.step right taken⟩

theorem Runs.first (path : Runs step origin (event :: rest) after) :
    ∃ middle, step origin event middle ∧ Runs step middle rest after := by
  obtain ⟨middle,one,others⟩ := Runs.split (show Runs step origin ([event] ++ rest) after from path)
  obtain ⟨before,none,taken⟩ := Runs.last (show Runs step origin ([] ++ [event]) middle from one)
  cases none.nil_eq
  exact ⟨middle,taken,others⟩

-- The induction rule every safety result of a run is an instance of.
theorem Runs.invariant {holds : σ → Prop}
    (preserved : ∀ s event next, holds s → step s event next → holds next)
    (start : holds origin) (path : Runs step origin events after) : holds after := by
  induction path with
  | nil => exact start
  | step prior taken ih => exact preserved _ _ _ ih taken

-- What every step uses up bounds the length of a run.
theorem Runs.length_le (measure : σ → Nat) (holds : σ → Prop)
    (preserved : ∀ s event next, holds s → step s event next → holds next)
    (decreases : ∀ s event next, holds s → step s event next → measure next < measure s)
    (start : holds origin) (path : Runs step origin events after) : events.length + measure after ≤ measure origin := by
  induction path with
  | nil => simp
  | step prior taken ih =>
    have less := decreases _ _ _ (prior.invariant preserved start) taken
    simp only [List.length_append,List.length_singleton]
    omega

-- The same where the surroundings put back what a step may use up: `credit`
-- counts what has been put in.
theorem Runs.accounted (cost : ε → Nat) (measure credit : σ → Nat)
    (paid : ∀ s event next, step s event next → cost event + measure next + credit s ≤ measure s + credit next)
    (path : Runs step origin events after) :
    (events.map cost).sum + measure after + credit origin ≤ measure origin + credit after := by
  induction path with
  | nil => simp
  | step prior taken ih =>
    have one := paid _ _ _ taken
    simp only [List.map_append,List.map_singleton,List.sum_append,List.sum_singleton]
    omega

-- A relation whose every step is seen as some steps of another one, perhaps as
-- none, has its runs seen as runs.
theorem Runs.simulates {abstract : τ → ζ → τ → Prop} (view : σ → τ) (holds : σ → Prop)
    (preserved : ∀ s event next, holds s → step s event next → holds next)
    (matched : ∀ s event next, holds s → step s event next → ∃ seen, Runs abstract (view s) seen (view next))
    (start : holds origin) (path : Runs step origin events after) :
    ∃ seen, Runs abstract (view origin) seen (view after) := by
  induction path with
  | nil => exact ⟨[],.nil⟩
  | step prior taken ih =>
    obtain ⟨earlier,before⟩ := ih
    obtain ⟨seen,last⟩ := matched _ _ _ (prior.invariant preserved start) taken
    exact ⟨_,before.append last⟩

-- Execution of a partial step function along a list of labels.
def run (advance : σ → ε → Option σ) : σ → List ε → Option σ
  | s,[] => some s
  | s,event :: rest => (advance s event).bind (run advance · rest)

-- The same function where a test has to be passed first.
def guarded (allowed : σ → ε → Bool) (advance : σ → ε → Option σ) (s : σ) (event : ε) : Option σ :=
  if allowed s event then advance s event else none

theorem guarded_some {allowed : σ → ε → Bool} {advance : σ → ε → Option σ}
    (ran : guarded allowed advance s event = some next) : allowed s event = true ∧ advance s event = some next := by
  unfold guarded at ran
  split at ran
  · rename_i passed; exact ⟨passed,ran⟩
  · cases ran

theorem run_runs {advance : σ → ε → Option σ} (sound : ∀ s event next, advance s event = some next → step s event next)
    (ran : run advance s events = some next) : Runs step s events next := by
  induction events generalizing s with
  | nil => cases Option.some.inj ran; exact .nil
  | cons event rest ih =>
    obtain ⟨middle,first,others⟩ := Option.bind_eq_some_iff.mp ran
    exact (Runs.one (sound _ _ _ first)).append (ih others)

-- A label may depend on the state it is taken in; `choice` then says which one.
theorem run_sound {choose : σ → κ → ε} {advance : σ → ε → Option σ}
    (sound : ∀ s choice next, advance s (choose s choice) = some next → step s (choose s choice) next)
    (ran : run (fun s choice => advance s (choose s choice)) s choices = some next) :
    ∃ events, Runs step s events next := by
  induction choices generalizing s with
  | nil => cases Option.some.inj ran; exact ⟨[],.nil⟩
  | cons choice rest ih =>
    obtain ⟨middle,first,others⟩ := Option.bind_eq_some_iff.mp ran
    obtain ⟨events,path⟩ := ih others
    exact ⟨_,(Runs.one (sound _ _ _ first)).append path⟩

end LabelledRuns
