import Ra6m3Rtic.MqttReconnect

namespace Ra6m3Rtic.Mqtt
open Smoltcp LabelledRuns Spacing

-- What the task can wait for: its deadline, the handshake, the end of the
-- connection it has closed, and the session.
def Machine.waits (cx : Waker) (m : Machine) : Bool :=
  match m.pc with
  | .delay deadline => m.now.lt deadline
  | .connectWait =>
    match (TcpSocket.connectWait cx m.socket).1 with
    | .pending => true
    | .ready _ | .panicked => false
  | .disconnect (.check _) => m.socket.isOpen
  | .disconnect (.register _) | .disconnect (.suspended _) => true
  | .exchange _ | .panicked => true
  | _ => false

def Event.moves (cx : Waker) (m : Machine) : Event → Bool
  | .run => !m.waits cx
  | _ => false

def Event.outcome : Event → Bool
  | .finish _ => true
  | _ => false

-- The loop with its steps counted that were no polls of something pending, and
-- the outcomes of calls into the session.
structure Tally where
  machine : Machine
  moved : Nat
  outcomes : Nat

def TallyStep (net : Bool → Socket → Socket → Prop) (board : Board) (cx : Waker) (t : Tally) (event : Event)
    (next : Tally) : Prop :=
  Step net board cx t.machine event next.machine ∧ next.moved = t.moved + (event.moves cx t.machine).toNat ∧
    next.outcomes = t.outcomes + event.outcome.toNat

-- The way to the next attempt, which pays for the way round again.
def Pc.work : Pc → Nat
  | .setTimeout _ => 9
  | .setKeepAlive _ => 8
  | .isOpen _ => 7
  | .abort _ => 6
  | .connect _ => 5
  | .connectWait => 4
  | .disconnect .close => 6
  | .disconnect (.check _) | .disconnect (.register _) | .disconnect (.suspended _) => 5
  | .disconnect .done => 4
  | .attempt => 3
  | .delay _ => 2
  | .record => 1
  | .exchange _ | .panicked => 0

section
variable {board : Board} {cx : Waker} {m next : Machine} {net : Bool → Socket → Socket → Prop}

theorem teardown_work (at_ : m.pc = .disconnect pc) :
    (!m.waits cx).toNat + (teardown cx m pc).pc.work ≤ m.pc.work := by
  unfold Machine.waits teardown
  rw [at_]
  cases pc with
  | close | register | suspended | done => simp [Disconnect.advance,Pc.work]
  | check began =>
    cases open_ : m.socket.isOpen <;> simp [Disconnect.advance,Pc.work,open_]

-- A step that is taken without the clock or the session leads on to `record`,
-- where the new attempt pays.
theorem connectTransport_work (ran : connectTransport board cx m = some next) :
    (!m.waits cx).toNat + next.pc.work + 9 * m.attempts.length ≤ m.pc.work + 9 * next.attempts.length := by
  unfold connectTransport at ran
  unfold Machine.waits
  split at ran
  case h_1 at_ =>
    split at ran
    · cases Option.some.inj ran
      cases early : m.now.lt (_ : Instant) <;> simp [at_,Pc.work]
    · cases Option.some.inj ran
      simp [at_,Pc.work]
  case h_2 at_ =>
    split at ran
    · cases ran
    · rename_i due
      cases Option.some.inj ran
      simp [at_,Pc.work,due]
  case h_3 at_ =>
    cases Option.some.inj ran
    simp only [at_,Bool.not_false,Bool.toNat_true,Pc.work,List.length_append,List.length_singleton]
    omega
  case h_4 at_ | h_5 at_ | h_7 at_ => cases Option.some.inj ran; simp [at_,Pc.work]
  case h_6 at_ =>
    cases Option.some.inj ran
    cases open_ : m.socket.isOpen <;> simp [at_,Pc.work]
  case h_8 at_ =>
    split at ran
    all_goals
      cases Option.some.inj ran
      simp [at_,Pc.work]
  case h_9 at_ =>
    split at ran
    all_goals
      rename_i wait
      cases Option.some.inj ran
      simp [at_,Pc.work,wait]
  all_goals cases ran

theorem follow_work (onward : follow call outcome = some pc) : pc.work ≤ 6 := by
  cases follow_followed onward with
  | unopened | refused | invalid | failed | split => simp [Pc.work]
  | opened | connected | subscribing | polling | subscribed | polled | received | published | oversized =>
    simp [Pc.work]

theorem step_work (step : Step net board cx m event next) :
    (event.moves cx m).toNat + next.pc.work + 9 * m.attempts.length ≤
      m.pc.work + 9 * next.attempts.length + 6 * event.outcome.toNat := by
  obtain ⟨_,ran⟩ := step
  cases event with
  | run =>
    simp only [advance] at ran
    split at ran
    · rename_i at_
      cases Option.some.inj ran
      have less : _ + (teardown cx m _).pc.work ≤ _ := teardown_work at_
      rw [(teardown_kept cx m _).2.1]
      simp only [Event.moves,Event.outcome]
      omega
    · have less := connectTransport_work ran
      simp only [Event.moves,Event.outcome]
      omega
  | finish outcome =>
    simp only [advance] at ran
    split at ran
    · obtain ⟨pc,onward,equal⟩ := Option.map_eq_some_iff.mp ran
      subst equal
      have short := follow_work onward
      simp only [Event.moves,Event.outcome,Bool.toNat_false,Bool.toNat_true]
      omega
    · cases ran
  | io memory f =>
    simp only [advance] at ran
    split at ran
    · cases Option.some.inj ran
      simp [Event.moves]
    · cases ran
  | tick | net =>
    cases Option.some.inj ran
    simp [Event.moves]

-- There is nothing else the task could be stuck at.
theorem run_enabled (moves : m.waits cx = false) : ∃ next, Step net board cx m .run next := by
  suffices ran : ∃ next, advance board cx m .run = some next by
    obtain ⟨next,ran⟩ := ran
    exact ⟨next,True.intro,ran⟩
  unfold Machine.waits at moves
  simp only [advance,connectTransport]
  cases at_ : m.pc with
  | disconnect | record | setTimeout | setKeepAlive | isOpen | abort => exact ⟨_,rfl⟩
  | delay deadline =>
    rw [at_] at moves
    exact ⟨_,if_neg (by simpa using moves)⟩
  | attempt | connect | connectWait =>
    dsimp only
    split <;> exact ⟨_,rfl⟩
  | exchange | panicked => rw [at_] at moves; cases moves

-- The attempts lie between the start and now.
structure Since (origin : Nat) (m : Machine) : Prop where
  past : origin ≤ m.now.ticks.toNat
  recorded : ∀ instant ∈ instants m, origin ≤ instant ∧ instant ≤ m.now.ticks.toNat

theorem since_taken (valid : Since origin m) (taken : Taken net board cx m next) : Since origin next := by
  cases taken with
  | record at_ =>
    refine ⟨valid.past,?_⟩
    intro instant member
    simp only [instants,List.map_append,List.map_cons,List.map_nil,List.mem_append,List.mem_singleton] at member
    rcases member with earlier | newest
    · exact valid.recorded instant earlier
    · rw [newest]
      exact ⟨valid.past,Nat.le_refl _⟩
  | tick later bounded =>
    have more := UInt64.le_iff_toNat_le.mp later
    refine ⟨Nat.le_trans valid.past more,?_⟩
    intro instant member
    obtain ⟨after,before⟩ := valid.recorded instant member
    exact ⟨after,Nat.le_trans before more⟩
  | teardown at_ =>
    obtain ⟨_,attempts,_,_,now,_⟩ := teardown_kept cx m _
    refine ⟨by rw [now]; exact valid.past,?_⟩
    unfold instants
    rw [attempts,now]
    exact valid.recorded
  | first | early | late | delayed | setTimeout | setKeepAlive | stillOpen | shut | abort | issued | refused | waiting |
      connected | reset | unreachable | io | finish | net =>
    exact ⟨valid.past,valid.recorded⟩

-- What the tally is worth, the clock aside.
structure Settled (origin : Nat) (t : Tally) : Prop where
  paced : Paced t.machine
  since : Since origin t.machine
  paid : t.moved + t.machine.pc.work ≤ 3 + 9 * t.machine.attempts.length + 6 * t.outcomes

theorem settled_tally {t next : Tally} (valid : Settled origin t) (step : TallyStep net board cx t event next) :
    Settled origin next := by
  obtain ⟨step,moved,outcomes⟩ := step
  refine ⟨paced_taken valid.paced step.taken,since_taken valid.since step.taken,?_⟩
  have paid := valid.paid
  have one := step_work step
  omega

theorem Settled.attempts {t : Tally} (valid : Settled origin t) :
    t.machine.attempts.length ≤ (t.machine.now.ticks.toNat - origin) / interval + 1 := by
  have count := valid.paced.spaced.length_le (by decide) valid.since.recorded
  simpa [instants] using count

theorem reconnect_loop_never_spins {now : Instant} (bounded : now.ticks.toNat < 2 ^ 63) (s : Socket)
    (path : Runs (TallyStep net board cx) ⟨start now s,0,0⟩ events t) :
    t.moved ≤ 12 + 9 * ((t.machine.now.ticks.toNat - now.ticks.toNat) / interval) + 6 * t.outcomes ∧
    (t.machine.waits cx = false → ∃ next, Step net board cx t.machine .run next) := by
  have begins : Settled now.ticks.toNat ⟨start now s,0,0⟩ :=
    ⟨.start bounded s,⟨Nat.le_refl _,nofun⟩,Nat.le_refl _⟩
  have valid : Settled now.ticks.toNat t := path.invariant (fun _ _ _ valid step => settled_tally valid step) begins
  have paid := valid.paid
  have attempts := valid.attempts
  exact ⟨by omega,run_enabled⟩

end

def count (board : Board) (cx : Waker) (t : Tally) (event : Event) : Option Tally :=
  (guarded admits (advance board cx) t.machine event).map fun next =>
    ⟨next,t.moved + (event.moves cx t.machine).toNat,t.outcomes + event.outcome.toNat⟩

theorem play_tally {t next : Tally}
    (played : run (fun t choice => count board cx t (choose t.machine choice)) t choices = some next) :
    ∃ events, Runs (TallyStep Polls board cx) t events next := by
  refine run_sound ?_ played
  intro t choice next ran
  obtain ⟨machine,guards,equal⟩ := Option.map_eq_some_iff.mp ran
  obtain ⟨allowed,advanced⟩ := guarded_some guards
  subst equal
  exact ⟨⟨admits_admitted allowed,advanced⟩,rfl,rfl⟩

namespace Controls
-- No source address for the broker: `connect` fails at once, again and again.
def unrouted : Board := ⟨false,Smoltcp.Controls.peer.remote,fun _ => none⟩
end Controls

theorem unrouted_board_sleeps : ∃ events t,
    Runs (TallyStep Polls Controls.unrouted 7) ⟨start ⟨5⟩ (.fresh 4 4),0,0⟩ events t ∧ t.moved = 7 ∧
      t.machine.waits 7 = true ∧ t.moved ≤ 12 := by
  have played : ∃ t, run (fun t choice => count Controls.unrouted 7 t (choose t.machine choice))
      ⟨start ⟨5⟩ (.fresh 4 4),0,0⟩ [.run,.run,.run,.run,.run,.run,.run] = some t ∧ t.moved = 7 ∧ t.machine.waits 7 = true ∧
        t.machine.now = ⟨5⟩ ∧ t.outcomes = 0 := ⟨_,rfl,rfl,by decide +kernel,rfl,rfl⟩
  obtain ⟨t,ran,moved,waits,now,outcomes⟩ := played
  obtain ⟨events,path⟩ := play_tally ran
  have most := (reconnect_loop_never_spins (by decide) _ path).1
  rw [now,outcomes] at most
  exact ⟨events,t,path,moved,waits,by simpa using most⟩

end Ra6m3Rtic.Mqtt
