import Ra6m3Rtic.Clock
import Ra6m3Rtic.Lib.Runs

namespace Ra6m3Rtic.Periodic
open LabelledRuns

-- `network_link_poll` and `blinky` go round with `next += 100.millis()` and
-- `delay_until(next)`; the one starts there, the other with its work.
inductive Pc where
  | work
  | later
  | delay
  deriving DecidableEq, Repr

def period : Duration := .millis 100
def periodTicks : Nat := period.ticks.toNat

-- `rounds` and `shifts` count the work done and the additions to `next`.
structure Machine (β : Type) where
  pc : Pc
  next : Instant
  now : Instant
  state : β
  rounds : Nat
  shifts : Nat

inductive Event where
  | run
  | tick (now : Instant)

section
variable {β : Type} (work : β → β)

def start (pc : Pc) (now : Instant) (state : β) : Machine β := ⟨pc,now,now,state,0,0⟩

def advance (m : Machine β) : Event → Option (Machine β)
  | .run =>
    match m.pc with
    | .work => some {m with pc := .later,state := work m.state,rounds := m.rounds + 1}
    | .later => some {m with pc := .delay,next := m.next.addDuration period,shifts := m.shifts + 1}
    | .delay => if m.now.lt m.next then none else some {m with pc := .work}
  | .tick now => some {m with now := now}

def Admitted (m : Machine β) : Event → Prop
  | .tick now => m.now.ticks ≤ now.ticks ∧ now.ticks.toNat < 2 ^ 63
  | .run => True

instance (m : Machine β) : (event : Event) → Decidable (Admitted m event)
  | .tick _ => inferInstanceAs (Decidable (_ ∧ _))
  | .run => inferInstanceAs (Decidable True)

def Step (m : Machine β) (event : Event) (next : Machine β) : Prop :=
  Admitted m event ∧ advance work m event = some next

-- The task is asleep in `delay_until`.
def Machine.asleep (m : Machine β) : Prop := m.pc = .delay ∧ m.now.lt m.next = true

-- `next` is a whole number of periods from the start, and all but the last of them
-- are over.
structure OnTime (origin : Nat) (m : Machine β) : Prop where
  bounded : m.now.ticks.toNat < 2 ^ 63
  past : origin ≤ m.now.ticks.toNat
  next : m.next.ticks.toNat = origin + m.shifts * periodTicks
  reached : m.pc ≠ .delay → origin + m.shifts * periodTicks ≤ m.now.ticks.toNat
  within : origin + m.shifts * periodTicks ≤ m.now.ticks.toNat + periodTicks

variable {work} {m next : Machine β} {origin : Nat}

theorem periodTicks_eq : periodTicks = 3000000 := by decide

theorem OnTime.asleep (valid : OnTime origin m) : m.now.lt m.next = true ↔ m.now.ticks.toNat < m.next.ticks.toNat := by
  have size := periodTicks_eq
  have bounded := valid.bounded
  have within := valid.within
  have at_ := valid.next
  exact Instant.lt_iff (by omega) (by omega)

theorem OnTime.shifted (valid : OnTime origin m) (at_ : m.pc = .later) :
    (m.next.addDuration period).ticks.toNat = origin + (m.shifts + 1) * periodTicks := by
  have size := periodTicks_eq
  have bounded := valid.bounded
  have reached := valid.reached (by rw [at_]; nofun)
  have before := valid.next
  have sum : (m.next.addDuration period).ticks.toNat = (m.next.ticks.toNat + periodTicks) % 2 ^ 64 := UInt64.toNat_add _ _
  rw [sum,Nat.mod_eq_of_lt (by omega),Nat.add_mul]
  omega

theorem onTime_step (valid : OnTime origin m) (step : Step work m event next) : OnTime origin next := by
  obtain ⟨admitted,ran⟩ := step
  cases event with
  | tick now =>
    cases Option.some.inj ran
    have more := UInt64.le_iff_toNat_le.mp admitted.1
    exact ⟨admitted.2,Nat.le_trans valid.past more,valid.next,fun other => Nat.le_trans (valid.reached other) more,
      Nat.le_trans valid.within (Nat.add_le_add_right more _)⟩
  | run =>
    simp only [advance] at ran
    split at ran
    · rename_i at_
      cases Option.some.inj ran
      exact ⟨valid.bounded,valid.past,valid.next,fun _ => valid.reached (by rw [at_]; nofun),valid.within⟩
    · rename_i at_
      cases Option.some.inj ran
      have reached := valid.reached (by rw [at_]; nofun)
      refine ⟨valid.bounded,valid.past,valid.shifted at_,nofun,?_⟩
      simp only [Nat.add_mul]
      omega
    · split at ran
      · cases ran
      · rename_i due
        cases Option.some.inj ran
        rw [valid.asleep] at due
        have reached : origin + m.shifts * periodTicks ≤ m.now.ticks.toNat := by
          have at_ := valid.next
          omega
        exact ⟨valid.bounded,valid.past,valid.next,fun _ => reached,valid.within⟩

-- One round of work for each addition; `first` is 1 for the task that begins with
-- its work.
structure Counted (first : Nat) (state : β) (work : β → β) (m : Machine β) : Prop where
  rounds : if m.pc = .later then m.rounds = m.shifts + first else m.rounds + 1 = m.shifts + first
  state : m.state = work^[m.rounds] state

theorem counted_step {state : β} (valid : Counted first state work m) (step : Step work m event next) :
    Counted first state work next := by
  obtain ⟨_,ran⟩ := step
  have rounds := valid.rounds
  have same := valid.state
  cases event with
  | tick now =>
    cases Option.some.inj ran
    exact ⟨rounds,same⟩
  | run =>
    simp only [advance] at ran
    split at ran
    · rename_i at_
      cases Option.some.inj ran
      simp only [at_,reduceCtorEq,if_false] at rounds
      refine ⟨rounds,?_⟩
      rw [Function.iterate_succ_apply',same]
    · rename_i at_
      cases Option.some.inj ran
      simp only [at_,if_true] at rounds
      refine ⟨?_,same⟩
      simp only [reduceCtorEq,if_false]
      omega
    · rename_i at_
      split at ran
      · cases ran
      · cases Option.some.inj ran
        simp only [at_,reduceCtorEq,if_false] at rounds
        exact ⟨rounds,same⟩

-- Never ahead of the clock, and up to date when asleep.
theorem rounds_elapsed {state : β} (onTime : OnTime origin m) (counted : Counted first state work m) :
    m.rounds ≤ (m.now.ticks.toNat - origin) / periodTicks + first ∧
    (m.asleep → m.rounds = (m.now.ticks.toNat - origin) / periodTicks + first) := by
  have size := periodTicks_eq
  have rounds := counted.rounds
  have within := onTime.within
  have past := onTime.past
  have quotient : m.shifts ≤ (m.now.ticks.toNat - origin) / periodTicks + 1 := by
    have shorter : (m.shifts - 1) * periodTicks ≤ m.now.ticks.toNat - origin := by rw [Nat.sub_mul]; omega
    have := (Nat.le_div_iff_mul_le (by omega)).mpr shorter
    omega
  by_cases at_ : m.pc = .later
  · rw [if_pos at_] at rounds
    have reached := onTime.reached (by rw [at_]; nofun)
    have whole : m.shifts ≤ (m.now.ticks.toNat - origin) / periodTicks :=
      (Nat.le_div_iff_mul_le (by omega)).mpr (by omega)
    refine ⟨by omega,?_⟩
    intro asleep
    rw [asleep.1] at at_
    cases at_
  · rw [if_neg at_] at rounds
    refine ⟨by omega,?_⟩
    intro asleep
    have ahead := onTime.asleep.mp asleep.2
    rw [onTime.next] at ahead
    have less : (m.now.ticks.toNat - origin) / periodTicks < m.shifts :=
      (Nat.div_lt_iff_lt_mul (by omega)).mpr (by omega)
    omega

theorem onTime_start {now : Instant} (bounded : now.ticks.toNat < 2 ^ 63) (pc : Pc) (state : β) :
    OnTime now.ticks.toNat (start pc now state) :=
  ⟨bounded,Nat.le_refl _,by simp [start],by simp [start],by simp [start]⟩

theorem counted_start_later (now : Instant) (state : β) : Counted 0 state work (start .later now state) :=
  ⟨by simp [start],rfl⟩

theorem counted_start_work (now : Instant) (state : β) : Counted 1 state work (start .work now state) :=
  ⟨by simp [start],rfl⟩

theorem play_sound {next : Machine β}
    (played : run (guarded (fun m event => decide (Admitted m event)) (advance work)) m events = some next) :
    Runs (Step work) m events next :=
  run_runs (fun _ _ _ ran => (guarded_some ran).imp_left of_decide_eq_true) played

theorem link_polled_once_each_period {now : Instant} (bounded : now.ticks.toNat < 2 ^ 63) (pollLink : β → β) (device : β)
    (path : Runs (Step pollLink) (start .later now device) events m) :
    m.state = pollLink^[m.rounds] device ∧
    m.rounds ≤ (m.now.ticks.toNat - now.ticks.toNat) / periodTicks ∧
    (m.asleep → m.rounds = (m.now.ticks.toNat - now.ticks.toNat) / periodTicks) := by
  have onTime : OnTime now.ticks.toNat m :=
    path.invariant (fun _ _ _ valid step => onTime_step valid step) (onTime_start bounded _ _)
  have counted : Counted 0 device pollLink m :=
    path.invariant (fun _ _ _ valid step => counted_step valid step) (counted_start_later _ _)
  exact ⟨counted.state,rounds_elapsed onTime counted⟩

end

namespace Controls
def tick (ticks : UInt64) : Event := .tick ⟨ticks⟩

-- Two rounds of the link poll, the second half a period late; one of the light.
def polled : List Event := [.run,tick 3000000,.run,.run,.run,tick 7500000,.run,.run,.run]
def blinked : List Event := [.run,.run,tick 3000000,.run,.run,.run]
end Controls

theorem link_polled_twice_in_250_ms :
    ∃ m : Machine Nat, Runs (Step Nat.succ) (start .later ⟨0⟩ 0) Controls.polled m ∧ m.asleep ∧
      m.rounds = 7500000 / periodTicks := by
  have path : Runs (Step Nat.succ) (start .later ⟨0⟩ 0) Controls.polled ⟨.delay,⟨9000000⟩,⟨7500000⟩,2,2,3⟩ :=
    play_sound rfl
  have asleep : Machine.asleep (⟨.delay,⟨9000000⟩,⟨7500000⟩,2,2,3⟩ : Machine Nat) := ⟨rfl,by decide⟩
  exact ⟨_,path,asleep,(link_polled_once_each_period (by decide) _ _ path).2.2 asleep⟩

-- `blinky` counts in a `usize` of 32 bits that wraps around.
structure Blinky where
  i : UInt32
  lit : Bool
  deriving DecidableEq, Repr

def lights (phase : Nat) : Bool := phase = 0 || phase = 2

def blink (b : Blinky) : Blinky := ⟨b.i + 1,lights (b.i % 8).toNat⟩

-- The pattern has 8 phases and the counter 2 ^ 32 values: the wrap is not seen.
theorem blink_iterate (lit : Bool) (n : Nat) : (blink^[n + 1] ⟨0,lit⟩).i.toNat = (n + 1) % 2 ^ 32 ∧
    (blink^[n + 1] ⟨0,lit⟩).lit = lights (n % 8) := by
  induction n with
  | zero => exact ⟨rfl,rfl⟩
  | succ n ih =>
    rw [Function.iterate_succ_apply']
    obtain ⟨counted,_⟩ := ih
    refine ⟨?_,?_⟩
    · simp only [blink,UInt32.toNat_add,counted]
      have one : (1 : UInt32).toNat = 1 := rfl
      omega
    · simp only [blink]
      have eight : (8 : UInt32).toNat = 8 := rfl
      have phase : ((blink^[n + 1] ⟨0,lit⟩).i % 8).toNat = (n + 1) % 8 := by
        rw [UInt32.toNat_mod,counted,eight]
        omega
      rw [phase]

theorem blinky_follows_the_clock {now : Instant} (bounded : now.ticks.toNat < 2 ^ 63) (lit : Bool)
    (path : Runs (Step blink) (start .work now ⟨0,lit⟩) events m) (asleep : m.asleep) :
    m.state.lit = lights ((m.now.ticks.toNat - now.ticks.toNat) / periodTicks % 8) := by
  have onTime : OnTime now.ticks.toNat m :=
    path.invariant (fun _ _ _ valid step => onTime_step valid step) (onTime_start bounded _ _)
  have counted : Counted 1 ⟨0,lit⟩ blink m :=
    path.invariant (fun _ _ _ valid step => counted_step valid step) (counted_start_work _ _)
  rw [counted.state,(rounds_elapsed onTime counted).2 asleep]
  exact (blink_iterate lit _).2

theorem blinky_dark_after_100_ms :
    ∃ m : Machine Blinky, Runs (Step blink) (start .work ⟨0⟩ ⟨0,false⟩) Controls.blinked m ∧ m.asleep ∧
      m.state.lit = lights (3000000 / periodTicks % 8) := by
  have path : Runs (Step blink) (start .work ⟨0⟩ ⟨0,false⟩) Controls.blinked ⟨.delay,⟨6000000⟩,⟨3000000⟩,⟨2,false⟩,2,2⟩ :=
    play_sound rfl
  have asleep : Machine.asleep (⟨.delay,⟨6000000⟩,⟨3000000⟩,⟨2,false⟩,2,2⟩ : Machine Blinky) := ⟨rfl,by decide⟩
  exact ⟨_,path,asleep,blinky_follows_the_clock (by decide) _ path asleep⟩

end Ra6m3Rtic.Periodic
