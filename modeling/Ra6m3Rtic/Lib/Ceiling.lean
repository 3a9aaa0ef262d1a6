import Mathlib.Data.List.Perm.Subperm
import Ra6m3Rtic.Lib.Runs

namespace Ceiling
open LabelledRuns

-- Tasks of fixed priorities on one core, and resources they share under locks.
-- The ceiling of a resource is no lower than the priority of any of its users.
structure System (τ ρ : Type) where
  priority : τ → Nat
  uses : τ → ρ → Bool
  ceiling : ρ → Nat
  covers : uses task resource = true → priority task ≤ ceiling resource

-- One activation of a task: what it has locked, newest first, and where it is.
structure Frame (τ ρ κ : Type) where
  task : τ
  held : List ρ
  point : κ
  deriving DecidableEq

-- What the activation on top of the stack, or an arriving one, does.
inductive Action (τ ρ κ : Type) where
  | preempt (task : τ) (point : κ)
  | lock (resource : ρ)
  | unlock (point : κ)
  | work (point : κ)
  | finish

section
variable {τ ρ κ : Type} (system : System τ ρ)

def System.raised (base : Nat) : List ρ → Nat
  | [] => base
  | newest :: older => max (system.ceiling newest) (System.raised base older)

-- The priority an activation runs with: its own, raised by its locks.
def System.level (frame : Frame τ ρ κ) : Nat := system.raised (system.priority frame.task) frame.held

def System.current : List (Frame τ ρ κ) → Nat
  | [] => 0
  | top :: _ => system.level top

def System.act : List (Frame τ ρ κ) → Action τ ρ κ → Option (List (Frame τ ρ κ))
  | stack,.preempt task point =>
    if system.current stack < system.priority task then some (⟨task,[],point⟩ :: stack) else none
  | top :: below,.lock resource =>
    if system.uses top.task resource then some ({top with held := resource :: top.held} :: below) else none
  | top :: below,.unlock point =>
    match top.held with
    | [] => none
    | _ :: older => some (⟨top.task,older,point⟩ :: below)
  | top :: below,.work point => some ({top with point := point} :: below)
  | top :: below,.finish => if top.held = [] then some below else none
  | [],_ => none

def System.Step (stack : List (Frame τ ρ κ)) (action : Action τ ρ κ) (next : List (Frame τ ρ κ)) : Prop :=
  system.act stack action = some next

-- What the steps are, with the tests they have passed.
inductive System.Taken : List (Frame τ ρ κ) → Action τ ρ κ → List (Frame τ ρ κ) → Prop where
  | preempt (task : τ) (point : κ) (above : system.current stack < system.priority task) :
      System.Taken stack (.preempt task point) (⟨task,[],point⟩ :: stack)
  | lock (uses : system.uses top.task resource = true) :
      System.Taken (top :: below) (.lock resource) ({top with held := resource :: top.held} :: below)
  | unlock (point : κ) (newest : top.held = resource :: older) :
      System.Taken (top :: below) (.unlock point) (⟨top.task,older,point⟩ :: below)
  | work (point : κ) : System.Taken (top :: below) (.work point) ({top with point := point} :: below)
  | finish (free : top.held = []) : System.Taken (top :: below) .finish below

variable {system} {stack next : List (Frame τ ρ κ)}

theorem System.Step.taken {action : Action τ ρ κ} (step : system.Step stack action next) :
    system.Taken stack action next := by
  unfold System.Step at step
  cases action with
  | preempt task point =>
    simp only [System.act] at step
    split at step
    · rename_i above
      cases Option.some.inj step
      exact .preempt task point above
    · cases step
  | lock resource =>
    cases stack with
    | nil => cases step
    | cons top below =>
      simp only [System.act] at step
      split at step
      · rename_i uses
        cases Option.some.inj step
        exact .lock uses
      · cases step
  | unlock point =>
    cases stack with
    | nil => cases step
    | cons top below =>
      simp only [System.act] at step
      split at step
      · cases step
      · rename_i newest
        cases Option.some.inj step
        exact .unlock point newest
  | work point =>
    cases stack with
    | nil => cases step
    | cons top below =>
      cases Option.some.inj step
      exact .work point
  | finish =>
    cases stack with
    | nil => cases step
    | cons top below =>
      simp only [System.act] at step
      split at step
      · rename_i free
        cases Option.some.inj step
        exact .finish free
      · cases step

variable {top frame : Frame τ ρ κ}

-- An activation stays until it is on top and finishes.
theorem System.Taken.keeps (taken : system.Taken stack action next) (member : frame ∈ stack) :
    (∃ kept ∈ next, kept.task = frame.task) ∨ (action = .finish ∧ stack.head? = some frame) := by
  cases taken with
  | preempt => exact .inl ⟨frame,List.mem_cons_of_mem _ member,rfl⟩
  | lock | unlock | work =>
    rcases List.mem_cons.mp member with equal | lower
    · subst equal
      exact .inl ⟨_,List.mem_cons_self,rfl⟩
    · exact .inl ⟨frame,List.mem_cons_of_mem _ lower,rfl⟩
  | finish =>
    rcases List.mem_cons.mp member with equal | lower
    · exact .inr ⟨rfl,congrArg some equal.symm⟩
    · exact .inl ⟨frame,lower,rfl⟩

theorem System.le_raised : base ≤ system.raised base held := by
  induction held with
  | nil => exact Nat.le_refl _
  | cons newest older ih => exact Nat.le_trans ih (Nat.le_max_right _ _)

theorem System.ceiling_le_raised (member : resource ∈ held) : system.ceiling resource ≤ system.raised base held := by
  induction held with
  | nil => cases member
  | cons newest older ih =>
    rcases List.mem_cons.mp member with equal | member
    · subst equal
      exact Nat.le_max_left _ _
    · exact Nat.le_trans (ih member) (Nat.le_max_right _ _)

theorem System.raised_lt (low : base < p) (lower : ∀ resource ∈ held, system.ceiling resource < p) :
    system.raised base held < p := by
  induction held with
  | nil => exact low
  | cons newest older ih =>
    apply Nat.max_lt.mpr
    exact ⟨lower newest (by simp),ih fun resource member => lower resource (List.mem_cons_of_mem _ member)⟩

-- Above its own priority an activation runs because of its locks; the oldest of
-- those is the last one to be undone.
theorem System.exists_outermost (low : base < p) (reached : p ≤ system.raised base held) :
    ∃ resource older, resource :: older <:+ held ∧ p ≤ system.ceiling resource ∧
      ∀ other ∈ older, system.ceiling other < p := by
  induction held with
  | nil => exact absurd low (Nat.not_lt.mpr reached)
  | cons newest older ih =>
    by_cases deeper : p ≤ system.raised base older
    · obtain ⟨resource,rest,suffix,above,below⟩ := ih deeper
      exact ⟨resource,rest,suffix.trans (List.suffix_cons _ _),above,below⟩
    · have below : ∀ other ∈ older, system.ceiling other < p := by
        intro other member
        exact Nat.lt_of_le_of_lt (System.ceiling_le_raised member) (Nat.not_le.mp deeper)
      refine ⟨newest,older,List.suffix_refl _,?_,below⟩
      rcases Nat.le_total (system.ceiling newest) (system.raised base older) with smaller | larger
      · rw [System.raised,Nat.max_eq_right smaller] at reached
        exact absurd reached deeper
      · rwa [System.raised,Nat.max_eq_left larger] at reached

-- Whoever is above was started over the level of everyone below, and nobody
-- holds what it does not share.
structure System.Ordered (system : System τ ρ) (stack : List (Frame τ ρ κ)) : Prop where
  above : stack.Pairwise fun upper lower => system.level lower < system.priority upper.task
  shares : ∀ frame ∈ stack, ∀ resource ∈ frame.held, system.uses frame.task resource = true

theorem System.Ordered.nil : system.Ordered ([] : List (Frame τ ρ κ)) :=
  ⟨.nil,by intro frame member; cases member⟩

theorem System.Ordered.le_current (ordered : system.Ordered stack) :
    ∀ frame ∈ stack, system.level frame ≤ system.current stack := by
  intro frame member
  cases stack with
  | nil => cases member
  | cons top below =>
    rcases List.mem_cons.mp member with equal | lower
    · rw [equal]; exact Nat.le_refl _
    · have less := (List.pairwise_cons.mp ordered.above).1 frame lower
      exact Nat.le_trans (Nat.le_of_lt less) System.le_raised

-- The activation on top may change its locks and its place.
theorem System.Ordered.retop (ordered : system.Ordered (top :: below)) (same : frame.task = top.task)
    (shares : ∀ resource ∈ frame.held, system.uses frame.task resource = true) : system.Ordered (frame :: below) := by
  have parts := List.pairwise_cons.mp ordered.above
  refine ⟨List.pairwise_cons.mpr ⟨?_,parts.2⟩,?_⟩
  · intro lower member
    rw [same]
    exact parts.1 lower member
  · intro lower member
    rcases List.mem_cons.mp member with equal | member
    · subst equal
      exact shares
    · exact ordered.shares lower (List.mem_cons_of_mem _ member)

theorem System.Ordered.taken (ordered : system.Ordered stack) (taken : system.Taken stack action next) :
    system.Ordered next := by
  cases taken with
  | preempt task point above =>
    refine ⟨List.pairwise_cons.mpr ⟨?_,ordered.above⟩,?_⟩
    · intro lower member
      exact Nat.lt_of_le_of_lt (ordered.le_current lower member) above
    · intro frame member
      rcases List.mem_cons.mp member with equal | member
      · subst equal
        intro resource held
        cases held
      · exact ordered.shares frame member
  | @lock resource top below uses =>
    refine ordered.retop rfl ?_
    intro other held
    rcases List.mem_cons.mp held with equal | older
    · subst equal; exact uses
    · exact ordered.shares top (by simp) other older
  | @unlock resource older top below point newest =>
    refine ordered.retop rfl ?_
    intro other held
    exact ordered.shares top (by simp) other (by rw [newest]; exact List.mem_cons_of_mem _ held)
  | @work top below point => exact ordered.retop rfl (ordered.shares top (by simp))
  | finish =>
    refine ⟨(List.pairwise_cons.mp ordered.above).2,?_⟩
    intro frame member
    exact ordered.shares frame (List.mem_cons_of_mem _ member)

-- A resource a task shares is not held under it: the lock never waits.
theorem System.Ordered.available (ordered : system.Ordered (top :: below))
    (uses : system.uses top.task resource = true) : ∀ lower ∈ below, resource ∉ lower.held := by
  intro lower member held
  have less := (List.pairwise_cons.mp ordered.above).1 lower member
  have covered : system.ceiling resource ≤ system.level lower := System.ceiling_le_raised held
  exact absurd less (Nat.not_lt.mpr (Nat.le_trans (system.covers uses) covered))

theorem System.Ordered.exclusive (ordered : system.Ordered stack) :
    stack.Pairwise fun upper lower => ∀ resource ∈ upper.held, resource ∉ lower.held := by
  induction stack with
  | nil => exact .nil
  | cons top below ih =>
    refine List.pairwise_cons.mpr ⟨?_,?_⟩
    · intro lower member resource held
      exact ordered.available (ordered.shares top (by simp) resource held) lower member
    · apply ih
      exact ⟨(List.pairwise_cons.mp ordered.above).2,
        fun frame member => ordered.shares frame (List.mem_cons_of_mem _ member)⟩

theorem System.Ordered.lone_holder (ordered : system.Ordered (top :: below)) (held : resource ∈ top.held)
    (member : frame ∈ top :: below) (also : resource ∈ frame.held) : frame = top := by
  rcases List.mem_cons.mp member with equal | lower
  · exact equal
  · exact absurd also ((List.pairwise_cons.mp ordered.exclusive).1 frame lower resource held)

-- A lock is given up by an unlock of its holder only.
theorem System.Step.holds {action : Action τ ρ κ} (step : system.Step stack action next) (member : frame ∈ stack)
    (held : resource ∈ frame.held)
    (kept : (∃ point, action = .unlock point) → ∃ top below, stack = top :: below ∧ frame.task ≠ top.task) :
    ∃ after ∈ next, after.task = frame.task ∧ resource ∈ after.held := by
  have deeper : ∀ {top : Frame τ ρ κ} {below}, frame ∈ below → ∃ after ∈ top :: below, after.task = frame.task ∧
      resource ∈ after.held := fun lower => ⟨frame,List.mem_cons_of_mem _ lower,rfl,held⟩
  cases step.taken with
  | preempt task point => exact deeper member
  | lock =>
    rcases List.mem_cons.mp member with equal | lower
    · subst equal
      exact ⟨_,List.mem_cons_self,rfl,List.mem_cons_of_mem _ held⟩
    · exact deeper lower
  | unlock point =>
    obtain ⟨_,_,equal,other⟩ := kept ⟨point,rfl⟩
    cases equal
    rcases List.mem_cons.mp member with same | lower
    · exact absurd (congrArg Frame.task same) other
    · exact deeper lower
  | work point =>
    rcases List.mem_cons.mp member with equal | lower
    · subst equal
      exact ⟨_,List.mem_cons_self,rfl,held⟩
    · exact deeper lower
  | finish free =>
    rcases List.mem_cons.mp member with equal | lower
    · subst equal
      rw [free] at held
      cases held
    · exact ⟨frame,lower,rfl,held⟩

-- No task is activated over itself, nor over a task of its own priority.
theorem System.Ordered.increasing (ordered : system.Ordered stack) :
    stack.Pairwise fun upper lower => system.priority lower.task < system.priority upper.task :=
  ordered.above.imp fun less => Nat.lt_of_le_of_lt System.le_raised less

-- Of each priority there is one activation at most.
theorem System.Ordered.depth {priorities : List Nat} (ordered : system.Ordered stack)
    (levels : ∀ frame ∈ stack, system.priority frame.task ∈ priorities) : stack.length ≤ priorities.length := by
  have distinct : (stack.map fun frame => system.priority frame.task).Nodup := by
    apply List.pairwise_map.mpr
    exact ordered.increasing.imp fun less => (Nat.ne_of_lt less).symm
  have subset : (stack.map fun frame => system.priority frame.task) ⊆ priorities := by
    intro level member
    obtain ⟨frame,member,equal⟩ := List.mem_map.mp member
    exact equal ▸ levels frame member
  simpa using (distinct.subperm subset).length_le

-- The activations of tasks below a priority.
def System.below (system : System τ ρ) (p : Nat) (stack : List (Frame τ ρ κ)) : List (Frame τ ρ κ) :=
  stack.filter fun frame => decide (system.priority frame.task < p)

theorem System.below_cons_of_ge (high : p ≤ system.priority top.task) :
    system.below p (top :: stack) = system.below p stack :=
  List.filter_cons_of_neg (by simpa using high)

-- Under an activation below the priority there are only such.
theorem System.Ordered.below_eq (ordered : system.Ordered (top :: stack)) (low : system.priority top.task < p) :
    system.below p (top :: stack) = top :: stack := by
  apply List.filter_eq_self.mpr
  intro frame member
  rcases List.mem_cons.mp member with equal | member
  · simpa [equal] using low
  · have less := (List.pairwise_cons.mp ordered.increasing).1 frame member
    simpa using Nat.lt_trans less low

-- A step taken while a task of priority `p` has to wait.
def System.Delayed (system : System τ ρ) (p : Nat) (stack : List (Frame τ ρ κ)) (action : Action τ ρ κ)
    (next : List (Frame τ ρ κ)) : Prop := p ≤ system.current stack ∧ system.Step stack action next

-- Of the activations below `p` nothing has changed but that the uppermost one has
-- gone on, inside a section it was in from the beginning.
def System.Waited (system : System τ ρ) (p : Nat) (origin stack : List (Frame τ ρ κ)) : Prop :=
  system.below p stack = system.below p origin ∨
  ∃ blocker rest held point resource older,
    system.below p origin = blocker :: rest ∧
    system.below p stack = ⟨blocker.task,held,point⟩ :: rest ∧
    p ≤ system.ceiling resource ∧ (∀ other ∈ older, system.ceiling other < p) ∧
    resource :: older <:+ blocker.held ∧ (p ≤ system.current stack → resource :: older <:+ held)

-- The activation on top, below `p`, holds the section that makes `p` wait.
theorem System.Waited.inside (ordered : system.Ordered (top :: rest)) (low : system.priority top.task < p)
    (reached : p ≤ system.level top) (waited : system.Waited p origin (top :: rest)) :
    ∃ blocker resource older, system.below p origin = blocker :: rest ∧ blocker.task = top.task ∧
      p ≤ system.ceiling resource ∧ (∀ other ∈ older, system.ceiling other < p) ∧
      resource :: older <:+ blocker.held ∧ resource :: older <:+ top.held := by
  have whole := ordered.below_eq low
  rcases waited with same | ⟨blocker,others,held,point,resource,older,first,now,above,lower,suffix,kept⟩
  · obtain ⟨resource,older,suffix,above,lower⟩ := System.exists_outermost low reached
    exact ⟨top,resource,older,same ▸ whole,rfl,above,lower,suffix,suffix⟩
  · obtain ⟨equal,tail⟩ := List.cons.inj (whole.symm.trans now)
    subst equal tail
    exact ⟨blocker,resource,older,first,rfl,above,lower,suffix,kept reached⟩

-- What the activation on top does to its locks leaves the section, or ends the
-- delay.
theorem System.Waited.retop (ordered : system.Ordered (top :: rest)) (reached : p ≤ system.level top)
    (waited : system.Waited p origin (top :: rest)) (same : frame.task = top.task)
    (kept : ∀ resource older, system.priority top.task < p → (∀ other ∈ older, system.ceiling other < p) →
      resource :: older <:+ top.held → p ≤ system.level frame → resource :: older <:+ frame.held) : system.Waited p origin (frame :: rest) := by
  by_cases low : system.priority top.task < p
  · obtain ⟨blocker,resource,older,first,task,above,lower,suffix,inside⟩ := waited.inside ordered low reached
    have whole : system.below p (frame :: rest) = frame :: rest := by
      have others := ordered.below_eq low
      unfold System.below at others ⊢
      rw [List.filter_cons_of_pos (by simpa using low)] at others
      rw [List.filter_cons_of_pos (by simpa [same] using low)]
      exact congrArg (frame :: ·) (List.cons.inj others).2
    refine .inr ⟨blocker,rest,frame.held,frame.point,resource,older,first,?_,above,lower,suffix,?_⟩
    · rw [whole,task,← same]
    · intro still
      exact kept resource older low lower inside still
  · have high := Nat.not_lt.mp low
    have equal : system.below p (frame :: rest) = system.below p (top :: rest) := by
      rw [System.below_cons_of_ge high,System.below_cons_of_ge (same ▸ high)]
    rcases waited with unchanged | ⟨blocker,others,held,point,resource,older,first,now,above,lower,suffix,kept⟩
    · exact .inl (equal.trans unchanged)
    · exact .inr ⟨blocker,others,held,point,resource,older,first,equal.trans now,above,lower,suffix,fun _ => kept reached⟩

theorem System.Waited.taken (ordered : system.Ordered stack) (reached : p ≤ system.current stack)
    (waited : system.Waited p origin stack) (taken : system.Taken stack action next) : system.Waited p origin next := by
  cases taken with
  | preempt task point above =>
    have high : p ≤ system.priority task := Nat.le_of_lt (Nat.lt_of_le_of_lt reached above)
    have equal : system.below p (⟨task,[],point⟩ :: stack) = system.below p stack := System.below_cons_of_ge high
    rcases waited with unchanged | ⟨blocker,rest,held,point,resource,older,first,now,reaches,lower,suffix,kept⟩
    · exact .inl (equal.trans unchanged)
    · exact .inr ⟨blocker,rest,held,point,resource,older,first,equal.trans now,reaches,lower,suffix,fun _ => kept reached⟩
  | lock =>
    refine waited.retop ordered reached rfl ?_
    intro resource older _ _ inside _
    exact inside.trans (List.suffix_cons _ _)
  | @unlock newest others top below point held =>
    refine waited.retop ordered reached rfl ?_
    intro resource older low lower inside still
    rw [held] at inside
    rcases List.suffix_cons_iff.mp inside with equal | deeper
    · obtain ⟨_,equal⟩ := List.cons.inj equal
      subst equal
      exact absurd still (Nat.not_le.mpr (System.raised_lt low lower))
    · exact deeper
  | work =>
    refine waited.retop ordered reached rfl ?_
    intro resource older _ _ inside _
    exact inside
  | @finish top _ free =>
    by_cases low : system.priority top.task < p
    · obtain ⟨_,_,_,_,_,_,_,_,inside⟩ := waited.inside ordered low reached
      rw [free] at inside
      cases List.suffix_nil.mp inside
    · have equal : system.below p (top :: next) = system.below p next :=
        System.below_cons_of_ge (Nat.not_lt.mp low)
      rcases waited with unchanged | ⟨blocker,rest,held,point,resource,older,first,now,reaches,lower,suffix,kept⟩
      · exact .inl (equal.symm.trans unchanged)
      · refine .inr ⟨blocker,rest,held,point,resource,older,first,equal.symm.trans now,reaches,lower,suffix,?_⟩
        exact fun _ => kept reached

-- However long a task waits, it waits for one section of one activation.
theorem System.Ordered.waited (ordered : system.Ordered origin) (path : Runs (system.Delayed p) origin actions stack) :
    system.Waited p origin stack := by
  have both : system.Ordered stack ∧ system.Waited p origin stack := by
    induction path with
    | nil => exact ⟨ordered,.inl rfl⟩
    | step prior delayed ih =>
      have taken := System.Step.taken delayed.2
      exact ⟨ih.1.taken taken,ih.2.taken ih.1 delayed.1 taken⟩
  exact both.2

end
end Ceiling
