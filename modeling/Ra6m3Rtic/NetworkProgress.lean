import Ra6m3Rtic.Network

namespace Ra6m3Rtic.Network
open LabelledRuns

section
variable {Client Net : Type} (pollAt : Int64 → Net → Option Int64)

-- The steps of the poller itself: nobody asks, no time passes.
def Event.own : Event Client Net → Bool
  | .run | .poll _ => true
  | _ => false

def OwnStep (m : Machine Client Net) (event : Event Client Net) (next : Machine Client Net) : Prop :=
  event.own = true ∧ Step pollAt m event next

variable {pollAt} {m next : Machine Client Net}

theorem OwnStep.own {event : Event Client Net} (step : OwnStep pollAt m event next) : Own pollAt m next := by
  obtain ⟨own,step⟩ := step
  cases event with
  | run => exact runPoller_own step
  | poll net =>
    unfold Step at step
    simp only [advance] at step
    split at step
    · rename_i ready
      cases Option.some.inj step
      exact .poll ready.1 net
    · cases step
  | withMut | store | wake | callback | callbackStore | callbackWake | link | tick | expire => cases own

-- Whether the deadline in force has passed.
def Machine.overdue (m : Machine Client Net) : Bool :=
  match m.armed with
  | some (some deadline) => !m.now.lt deadline
  | _ => false

-- How far the poller is from its suspension. With the link down an answer of
-- `poll_at` can still be on its way, and be overdue, once.
def place (linkUp : Bool) : Pc → Nat
  | .suspended => 0
  | .timer => 1
  | .swap => 2
  | .arm _ => 3
  | .isUp => 6
  | .pollAt => if linkUp then 4 else 11
  | .poll => if linkUp then 5 else 12

def Machine.work (m : Machine Client Net) : Nat :=
  m.request.toNat * 5 + m.wakePending.toNat * 3 + m.overdue.toNat * 7 + place m.linkUp m.pc

-- Every answer of smoltcp is later than the clock, by less than half its range.
def Ahead (pollAt : Int64 → Net → Option Int64) (now : Instant) : Prop :=
  ∀ net at_, pollAt (smolNow now) net = some at_ →
    smolNow now < at_ ∧ at_.toInt ≤ (2 ^ 64 - 1) / 30 ∧ (pollDeadline at_).ticks.toNat < now.ticks.toNat + 2 ^ 63

def Calm (pollAt : Int64 → Net → Option Int64) (m : Machine Client Net) : Prop :=
  m.linkUp = false ∨ Ahead pollAt m.now

theorem Ahead.lt {now : Instant} (ahead : Ahead pollAt now) (answer : pollAt (smolNow now) net = some at_) :
    now.lt (pollDeadline at_) = true := by
  obtain ⟨later,bounded,near⟩ := ahead net at_ answer
  have start : 0 ≤ (smolNow now).toInt := by
    rw [smolNow_toInt]
    exact Int.natCast_nonneg _
  have after : 0 ≤ at_ := by
    rw [Int64.le_iff_toInt_le]
    have less := Int64.lt_iff_toInt_lt.mp later
    exact Int.le_of_lt (Int.lt_of_le_of_lt start less)
  have early : now.ticks.toNat < (pollDeadline at_).ticks.toNat := by
    apply Nat.lt_of_not_le
    intro reached
    have contrary := (le_smolNow_iff after bounded now).mpr reached
    rw [Int64.le_iff_toInt_le] at contrary
    have less := Int64.lt_iff_toInt_lt.mp later
    omega
  rw [Instant.lt_iff (by omega) near]
  exact early

-- A deadline just computed is not overdue.
theorem Ahead.overdue (ahead : Ahead pollAt m.now)
    (at_ : m.pc = .arm ((pollAt (smolNow m.now) net).map pollDeadline)) : m.overdue = false := by
  cases answer : pollAt (smolNow m.now) net with
  | none => simp [Machine.overdue,Machine.armed,at_,answer]
  | some deadline => simp [Machine.overdue,Machine.armed,at_,answer,ahead.lt answer]

theorem work_decreases (calm : Calm pollAt m) (own : Own pollAt m next) : next.work < m.work := by
  unfold Machine.work
  cases own with
  | requested at_ request =>
    simp [Machine.overdue,Machine.armed,at_,request,place]
    omega
  | unrequested at_ request => simp [Machine.overdue,Machine.armed,at_,request,place]
  | expired at_ armed due => simp [Machine.overdue,Machine.armed,at_,armed,due,place]
  | suspend at_ => simp [Machine.overdue,Machine.armed,at_,place]
  | resume at_ woken =>
    simp [Machine.overdue,Machine.armed,at_,woken,place]
    omega
  | up at_ up => simp [Machine.overdue,Machine.armed,at_,up,place]
  | down at_ => simp [Machine.overdue,Machine.armed,at_,place]
  | poll at_ net =>
    simp [Machine.overdue,Machine.armed,at_,place]
    split <;> omega
  | pollAt at_ =>
    have before : m.overdue = false := by simp [Machine.overdue,Machine.armed,at_]
    rcases calm with down | ahead
    · have once := Bool.toNat_le (Machine.overdue
        {m with pc := .arm ((pollAt (smolNow m.now) m.net).map pollDeadline),asked := some (m.now,m.net)})
      have far : place m.linkUp m.pc = 11 := by simp [at_,down,place]
      rw [before,far]
      simp only [place,Bool.toNat_false]
      omega
    · have after : Machine.overdue
          {m with pc := .arm ((pollAt (smolNow m.now) m.net).map pollDeadline),asked := some (m.now,m.net)} = false := by
        refine Ahead.overdue ?_ rfl
        exact ahead
      have far : 4 ≤ place m.linkUp m.pc := by
        rw [at_,place]
        split <;> omega
      rw [before,after]
      exact Nat.add_lt_add_left (Nat.lt_of_lt_of_le (Nat.lt_succ_self 3) far) _
  | arm at_ =>
    simp [Machine.overdue,Machine.armed,at_,place]

theorem Calm.own (calm : Calm pollAt m) (own : Own pollAt m next) : Calm pollAt next := by
  cases own <;> exact calm

theorem work_le : m.work ≤ 20 := by
  have request := Bool.toNat_le m.request
  have woken := Bool.toNat_le m.wakePending
  have overdue := Bool.toNat_le m.overdue
  unfold Machine.work
  cases at_ : m.pc with
  | suspended | timer | swap | arm =>
    simp only [place]
    omega
  | isUp =>
    simp [Machine.overdue,Machine.armed,at_,place]
    omega
  | pollAt | poll =>
    simp [Machine.overdue,Machine.armed,at_,place]
    split <;> omega

-- Out of the locks of the others the poller is never stuck but asleep.
theorem own_enabled (unlocked : m.lock = none) (returned : m.callback = none)
    (stuck : ∀ event next, ¬ OwnStep pollAt m event next) : m.pc = .suspended ∧ m.wakePending = false := by
  have halted : runPoller pollAt m = none := by
    cases ran : runPoller pollAt m with
    | none => rfl
    | some next => exact absurd ⟨rfl,ran⟩ (stuck .run next)
  unfold runPoller at halted
  split at halted
  case h_1 => split at halted <;> cases halted
  case h_2 =>
    split at halted
    · split at halted <;> cases halted
    · cases halted
  case h_3 at_ =>
    split at halted
    · cases halted
    · rename_i unwoken
      exact ⟨at_,by simpa using unwoken⟩
  case h_4 =>
    rw [returned] at halted
    simp only [Option.isSome_none,Bool.false_eq_true,if_false] at halted
    split at halted <;> cases halted
  case h_5 at_ =>
    have polled : Step pollAt m (.poll m.net) {m with pc := .pollAt,sincePoll := []} := by
      simp [Step,advance,at_,unlocked,returned]
    exact absurd ⟨rfl,polled⟩ (stuck _ _)
  case h_6 =>
    rw [unlocked] at halted
    cases halted
  case h_7 => cases halted

theorem play_own (played : run (guarded (fun _ event => event.own) (advance pollAt)) m events = some next) :
    Runs (OwnStep pollAt) m events next := by
  refine run_runs ?_ played
  intro m event next ran
  exact guarded_some ran

end

namespace Controls
-- smoltcp as the comment of `poll_network` has it: poll again at once.
def restless (now : Int64) (_ : Nat) : Option Int64 := some now

-- Woken with the link down, and back to sleep.
def roused : Machine Unit Nat :=
  ⟨3,none,none,false,false,true,true,.suspended,none,⟨45⟩,none,none,[.withMut ()],[.withMut ()]⟩
def asleep : Machine Unit Nat :=
  ⟨3,none,none,false,false,false,false,.suspended,none,⟨45⟩,some false,none,[.withMut ()],[]⟩
end Controls

section
variable {Client Net : Type} {pollAt : Int64 → Net → Option Int64} {m next : Machine Client Net}

theorem poller_settles (calm : m.linkUp = false ∨ Ahead pollAt m.now) (path : Runs (OwnStep pollAt) m events next) :
    events.length ≤ 20 ∧
    (next.lock = none → next.callback = none → (∀ event after, ¬ OwnStep pollAt next event after) →
      next.pc = .suspended ∧ next.wakePending = false) := by
  refine ⟨?_,own_enabled⟩
  have bound := path.length_le Machine.work (Calm pollAt) (fun _ _ _ calm step => calm.own step.own)
    (fun _ _ _ calm step => work_decreases calm step.own) calm
  have most := work_le (m := m)
  omega

theorem settled_with_the_link_down : Controls.asleep.pc = .suspended ∧ Controls.asleep.wakePending = false := by
  have path : Runs (OwnStep Controls.restless) Controls.roused [.run,.run,.run,.run,.run,.run] Controls.asleep :=
    play_own (by decide +kernel)
  refine (poller_settles (.inl rfl) path).2 rfl rfl ?_
  intro event after step
  obtain ⟨own,step⟩ := step
  cases event with
  | run => cases step
  | poll => cases step
  | withMut | store | wake | callback | callbackStore | callbackWake | link | tick | expire => cases own

-- The answer the comment of `poll_network` speaks of: poll again at once.
def Immediate (pollAt : Int64 → Net → Option Int64) (now : Instant) : Prop :=
  ∀ net, pollAt (smolNow now) net = some (smolNow now)

theorem now_overdue (now : Instant) : now.lt (pollDeadline (smolNow now)) = false := by
  have micros := smolNow_toInt now
  have width : now.ticks.toNat < 2 ^ 64 := now.ticks.toNat_lt
  have after : 0 ≤ smolNow now := by
    rw [Int64.le_iff_toInt_le,micros]
    exact Int.natCast_nonneg _
  have bounded : (smolNow now).toInt ≤ (2 ^ 64 - 1) / 30 := by
    rw [micros]
    omega
  have ticks := pollDeadline_ticks after bounded
  rw [micros,Int.toNat_natCast] at ticks
  rw [Bool.eq_false_iff,ne_eq,Instant.lt_iff (by omega) (by omega)]
  omega

-- On its way to a poll, or with a deadline that has passed.
def Machine.spinning (m : Machine Client Net) : Prop :=
  m.linkUp = true ∧ m.pc ≠ .suspended ∧ (m.armed = none ∨ m.overdue = true)

theorem spinning_own (immediate : Immediate pollAt m.now) (spinning : m.spinning) (own : Own pollAt m next) :
    next.spinning := by
  obtain ⟨up,awake,due⟩ := spinning
  cases own with
  | requested | expired | up | poll => exact ⟨up,by simp,.inl rfl⟩
  | unrequested at_ =>
    refine ⟨up,by simp,.inr ?_⟩
    simpa [Machine.overdue,Machine.armed,at_] using due
  | suspend at_ early =>
    have contrary : m.overdue = false := by
      cases armed : m.nextPollAt with
      | none => simp [Machine.overdue,Machine.armed,at_,armed]
      | some deadline => simp [Machine.overdue,Machine.armed,at_,armed,early deadline armed]
    rcases due with none | overdue
    · simp [Machine.armed,at_] at none
    · rw [contrary] at overdue; cases overdue
  | resume at_ => exact absurd at_ awake
  | down _ down => rw [up] at down; cases down
  | pollAt at_ =>
    refine ⟨up,by simp,.inr ?_⟩
    simp [Machine.overdue,Machine.armed,immediate m.net,now_overdue]
  | arm at_ =>
    refine ⟨up,by simp,.inr ?_⟩
    simpa [Machine.overdue,Machine.armed,at_] using due

theorem own_now (own : Own pollAt m next) : next.now = m.now ∧ next.lock = m.lock ∧ next.callback = m.callback := by
  cases own <;> exact ⟨rfl,rfl,rfl⟩

theorem immediate_deadline_spins (immediate : Immediate pollAt m.now) (up : m.linkUp = true) (at_ : m.pc = .isUp)
    (unlocked : m.lock = none) (returned : m.callback = none) :
    (∀ events next, Runs (OwnStep pollAt) m events next → next.pc ≠ .suspended) ∧
    ∀ n, ∃ events next, Runs (OwnStep pollAt) m events next ∧ events.length = n := by
  have kept : ∀ events next, Runs (OwnStep pollAt) m events next →
      next.spinning ∧ next.now = m.now ∧ next.lock = none ∧ next.callback = none := by
    intro events next path
    induction path with
    | nil => exact ⟨⟨up,by simp [at_],.inl (by simp [Machine.armed,at_])⟩,rfl,unlocked,returned⟩
    | step prior step ih =>
      obtain ⟨spinning,now,free,idle⟩ := ih
      obtain ⟨sameNow,sameLock,sameCallback⟩ := own_now step.own
      have still := spinning_own (by rw [now]; exact immediate) spinning step.own
      exact ⟨still,sameNow.trans now,sameLock.trans free,sameCallback.trans idle⟩
  refine ⟨fun events next path => (kept events next path).1.2.1,?_⟩
  intro n
  induction n with
  | zero => exact ⟨[],m,.nil,rfl⟩
  | succ n ih =>
    obtain ⟨events,next,path,length⟩ := ih
    obtain ⟨spinning,_,free,idle⟩ := kept events next path
    by_contra none
    have stuck : ∀ event after, ¬ OwnStep pollAt next event after := by
      intro event after step
      exact none ⟨_,_,path.step step,by simp [length]⟩
    exact spinning.2.1 (own_enabled free idle stuck).1

theorem spins_with_the_link_up :
    ∃ events next, Runs (OwnStep Controls.restless)
      ({Controls.roused with linkUp := true,pc := .isUp} : Machine Unit Nat) events next ∧ events.length = 1000 :=
  (immediate_deadline_spins (fun _ => rfl) rfl rfl rfl rfl).2 1000

end
end Ra6m3Rtic.Network
