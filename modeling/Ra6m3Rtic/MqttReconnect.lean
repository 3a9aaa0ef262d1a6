import Ra6m3Rtic.Lib.Spacing
import Ra6m3Rtic.Mqtt

namespace Ra6m3Rtic.Mqtt
open Smoltcp LabelledRuns Spacing

-- `connect` is issued on a socket that is not open, whatever the previous round
-- left behind.
structure Issuable (m : Machine) : Prop where
  shut : ∀ port, m.pc = .connect port → m.socket.isOpen = false
  returned : .error .invalidState ∉ m.returned

theorem connect_shut (shut : s.isOpen = false)
    (connect : TcpSocket.connect source remote port s = (.error e,next)) : e ≠ .invalidState := by
  have spec := TcpSocket.connect_spec source remote port s
  rw [connect] at spec
  cases spec with
  | invalidState open_ => rw [shut] at open_; cases open_
  | noRoute => intro same; cases same

theorem connectWait_error (wait : TcpSocket.connectWait cx s = (.ready (.error e),next)) : e = .connectionReset := by
  unfold TcpSocket.connectWait at wait
  split at wait <;> cases wait
  all_goals rfl

-- Where the session and the teardown can lead.
inductive Outside : Pc → Prop where
  | attempt : Outside .attempt
  | exchange : Outside (.exchange call)
  | disconnect : Outside (.disconnect pc)
  | panicked : Outside .panicked

theorem follow_outside (onward : follow call outcome = some pc) : Outside pc := by
  cases follow_followed onward with
  | unopened | refused => exact .attempt
  | invalid | failed => exact .disconnect
  | split => exact .panicked
  | opened | connected | subscribing | polling | subscribed | polled | received | published | oversized => exact .exchange

theorem teardown_outside (cx : Waker) (m : Machine) (pc : Disconnect.Pc) : Outside (teardown cx m pc).pc := by
  unfold teardown
  split
  · exact .disconnect
  · exact .attempt

theorem teardown_kept (cx : Waker) (m : Machine) (pc : Disconnect.Pc) :
    (teardown cx m pc).returned = m.returned ∧ (teardown cx m pc).attempts = m.attempts ∧
      (teardown cx m pc).lastAttempt = m.lastAttempt ∧ (teardown cx m pc).portShift = m.portShift ∧
      (teardown cx m pc).now = m.now ∧ (teardown cx m pc).found = m.found ∧ (teardown cx m pc).owed = m.owed := by
  unfold teardown
  split <;> exact ⟨rfl,rfl,rfl,rfl,rfl,rfl,rfl⟩

theorem issuable_taken {net : Bool → Socket → Socket → Prop} (laws : ∀ reached, ClosedLaws (net reached))
    (valid : Issuable m) (taken : Taken net board cx m next) : Issuable next := by
  have outside : ∀ m' : Machine, Outside m'.pc → m'.returned = m.returned → Issuable m' := by
    intro m' outside same
    refine ⟨?_,by rw [same]; exact valid.returned⟩
    intro port at_
    rw [at_] at outside
    cases outside
  cases taken with
  | shut at_ shut => exact ⟨fun _ _ => shut,valid.returned⟩
  | abort at_ => exact ⟨fun _ _ => rfl,valid.returned⟩
  | refused at_ connect =>
    have other := connect_shut (valid.shut _ at_) connect
    refine ⟨fun port at_ => (by cases at_),?_⟩
    simp only [List.mem_append,List.mem_singleton,not_or]
    refine ⟨valid.returned,?_⟩
    intro same
    cases same
    exact other rfl
  | connected at_ wait =>
    refine ⟨fun port at_ => (by cases at_),?_⟩
    simpa using valid.returned
  | reset at_ wait =>
    have reset := connectWait_error wait
    subst reset
    refine ⟨fun port at_ => (by cases at_),?_⟩
    simpa using valid.returned
  | waiting at_ wait =>
    refine ⟨fun port other => ?_,valid.returned⟩
    rw [show m.pc = .connect port from other] at at_
    cases at_
  | teardown at_ => exact outside _ (teardown_outside cx m _) (teardown_kept _ _ _).1
  | io at_ memory f =>
    refine ⟨fun port other => ?_,valid.returned⟩
    rw [show m.pc = .connect port from other] at at_
    cases at_
  | finish at_ outcome onward => exact outside _ (follow_outside onward) rfl
  | tick later bounded => exact ⟨valid.shut,valid.returned⟩
  | net reached taken =>
    exact ⟨fun port at_ => (laws reached).not_open taken (valid.shut port at_),valid.returned⟩
  | first | early | late | delayed | record | setTimeout | setKeepAlive | stillOpen | issued | unreachable =>
    exact ⟨fun port at_ => (by cases at_),valid.returned⟩

theorem connect_never_invalidState {net : Bool → Socket → Socket → Prop} (laws : ∀ reached, ClosedLaws (net reached))
    (now : Instant) (s : Socket) (path : Runs (Step net board cx) (start now s) events m) :
    .error .invalidState ∉ m.returned ∧ ∀ port, m.pc = .connect port →
      (TcpSocket.connect board.source board.broker port m.socket).1 ≠ .error .invalidState := by
  have begins : Issuable (start now s) := ⟨fun port at_ => (by cases at_),by simp [start]⟩
  have valid : Issuable m := path.invariant (fun _ _ _ valid step => issuable_taken laws valid step.taken) begins
  refine ⟨valid.returned,?_⟩
  intro port at_ same
  cases connect : TcpSocket.connect board.source board.broker port m.socket with
  | mk result next =>
    rw [connect] at same
    have refused : result = .error .invalidState := same
    subst refused
    exact connect_shut (valid.shut port at_) connect rfl

-- The first connection is dropped while still open; the next round aborts it
-- and connects again.
theorem dropped_connection_reconnects : ∃ events m, Runs (Step Polls Controls.board 7) (start ⟨5⟩ (.fresh 4 4)) events m ∧
    m.returned = [.ok (),.ok ()] ∧ .error .invalidState ∉ m.returned := by
  have played : (run (fun m choice => guarded admits (advance Controls.board 7) m (choose m choice)) (start ⟨5⟩ (.fresh 4 4))
      (Controls.attempt 5 ++ Controls.dropped ++ Controls.attempt 60000005 ++ [.run] ++ Controls.dropped)).map
        Machine.returned = some [.ok (),.ok ()] := by decide +kernel
  obtain ⟨m,ran,returned⟩ := Option.map_eq_some_iff.mp played
  obtain ⟨events,path⟩ := play_sound ran
  exact ⟨events,m,path,returned,(connect_never_invalidState (fun reached => (polls_tcp reached).closedLaws) _ _ path).1⟩

def interval : Nat := reconnectInterval.ticks.toNat

def instants (m : Machine) : List Nat := m.attempts.map (fun attempt => attempt.instant.ticks.toNat)
def ports (m : Machine) : List Nat := m.attempts.map (fun attempt => attempt.port.toNat)

-- `last` ties the stored time stamp to the record, `shift` the wrapping counter
-- to its length; `ready` is what the delay has achieved.
structure Paced (m : Machine) : Prop where
  bounded : m.now.ticks.toNat < 2 ^ 63
  last : (m.lastAttempt.map (fun instant => instant.ticks.toNat)) = (instants m).getLast?
  past : ∀ instant, m.lastAttempt = some instant → instant.ticks.toNat ≤ m.now.ticks.toNat
  shift : m.portShift.toNat = m.attempts.length % 256
  spaced : Spaced interval (instants m)
  cyclic : Cyclic mqttClientPort.toNat 256 (ports m)
  delay : ∀ deadline, m.pc = .delay deadline →
    ∃ instant, m.lastAttempt = some instant ∧ deadline = instant.addDuration reconnectInterval
  ready : m.pc = .record → ∀ instant, m.lastAttempt = some instant →
    instant.ticks.toNat + interval ≤ m.now.ticks.toNat

theorem interval_eq : interval = 60000000 := by decide

theorem deadline_reached {now instant : Instant} (bounded : now.ticks.toNat < 2 ^ 63)
    (past : instant.ticks.toNat ≤ now.ticks.toNat)
    (after : now.lt (instant.addDuration reconnectInterval) = false) :
    instant.ticks.toNat + interval ≤ now.ticks.toNat := by
  have size := interval_eq
  have sum : (instant.addDuration reconnectInterval).ticks.toNat = instant.ticks.toNat + interval := by
    change (instant.ticks + reconnectInterval.ticks).toNat = instant.ticks.toNat + reconnectInterval.ticks.toNat
    rw [UInt64.toNat_add]
    have same : reconnectInterval.ticks.toNat = interval := rfl
    omega
  by_contra early
  have less : now.lt (instant.addDuration reconnectInterval) = true := by
    rw [Instant.lt_iff (by omega) (by omega)]
    omega
  rw [less] at after
  cases after

-- Nothing recorded and no time gone by: only the place in the code changes.
theorem Paced.moved {m next : Machine} (valid : Paced m) (now : next.now = m.now) (last : next.lastAttempt = m.lastAttempt)
    (shift : next.portShift = m.portShift) (attempts : next.attempts = m.attempts)
    (delay : ∀ deadline, next.pc = .delay deadline →
      ∃ instant, m.lastAttempt = some instant ∧ deadline = instant.addDuration reconnectInterval)
    (ready : next.pc = .record → ∀ instant, m.lastAttempt = some instant →
      instant.ticks.toNat + interval ≤ m.now.ticks.toNat) : Paced next := by
  refine ⟨?_,?_,?_,?_,?_,?_,?_,?_⟩
  · rw [now]; exact valid.bounded
  · simp only [instants,last,attempts]; exact valid.last
  · rw [now,last]; exact valid.past
  · rw [shift,attempts]; exact valid.shift
  · simp only [instants,attempts]; exact valid.spaced
  · simp only [ports,attempts]; exact valid.cyclic
  · rw [last]; exact delay
  · rw [now,last]; exact ready

theorem port_next (shift : UInt8) : (mqttClientPort + shift.toUInt16).toNat = mqttClientPort.toNat + shift.toNat := by
  have small := shift.toNat_lt
  have base : mqttClientPort.toNat = 58026 := by decide
  rw [UInt16.toNat_add,UInt8.toNat_toUInt16]
  omega

theorem Paced.recorded {m : Machine} (valid : Paced m) (at_ : m.pc = .record) :
    Paced {m with
      pc := .setTimeout (mqttClientPort + m.portShift.toUInt16)
      lastAttempt := some m.now
      portShift := m.portShift + 1
      attempts := m.attempts ++ [⟨m.now,mqttClientPort + m.portShift.toUInt16⟩]} := by
  refine ⟨valid.bounded,?_,?_,?_,?_,?_,fun _ other => (by cases other),fun other => (by cases other)⟩
  · simp [instants]
  · intro instant same
    cases same
    exact Nat.le_refl _
  · simp only [List.length_append,List.length_singleton,UInt8.toNat_add,valid.shift]
    have one : (1 : UInt8).toNat = 1 := rfl
    omega
  · simp only [instants,List.map_append,List.map_cons,List.map_nil]
    apply valid.spaced.snoc
    intro last final
    have stamped : (m.lastAttempt.map (fun instant => instant.ticks.toNat)) = some last := valid.last.trans final
    obtain ⟨instant,stored,equal⟩ := Option.map_eq_some_iff.mp stamped
    rw [← equal]
    exact valid.ready at_ instant stored
  · simp only [ports,List.map_append,List.map_cons,List.map_nil]
    apply valid.cyclic.snoc
    rw [port_next,valid.shift]
    simp [ports]

theorem paced_taken {net : Bool → Socket → Socket → Prop} (valid : Paced m) (taken : Taken net board cx m next) :
    Paced next := by
  have outside : ∀ m' : Machine, m'.now = m.now → m'.lastAttempt = m.lastAttempt → m'.portShift = m.portShift →
      m'.attempts = m.attempts → Outside m'.pc → Paced m' := by
    intro m' now last shift attempts outside
    refine valid.moved now last shift attempts ?_ ?_
    · intro deadline at_
      rw [at_] at outside
      cases outside
    · intro at_
      rw [at_] at outside
      cases outside
  cases taken with
  | first at_ none =>
    refine valid.moved rfl rfl rfl rfl (fun _ other => (by cases other)) ?_
    intro _ instant some
    rw [none] at some
    cases some
  | early at_ last before =>
    refine valid.moved rfl rfl rfl rfl ?_ (fun other => (by cases other))
    intro deadline same
    exact ⟨_,last,(Pc.delay.inj same).symm⟩
  | late at_ last after =>
    refine valid.moved rfl rfl rfl rfl (fun _ other => (by cases other)) ?_
    intro _ instant same
    cases last.symm.trans same
    exact deadline_reached valid.bounded (valid.past _ last) after
  | delayed at_ after =>
    refine valid.moved rfl rfl rfl rfl (fun _ other => (by cases other)) ?_
    intro _ instant same
    obtain ⟨stored,last,deadline⟩ := valid.delay _ at_
    cases last.symm.trans same
    rw [deadline] at after
    exact deadline_reached valid.bounded (valid.past _ last) after
  | record at_ => exact valid.recorded at_
  | tick later bounded =>
    have more := UInt64.le_iff_toNat_le.mp later
    exact ⟨bounded,valid.last,fun instant some => Nat.le_trans (valid.past instant some) more,valid.shift,valid.spaced,
      valid.cyclic,valid.delay,fun at_ instant some => Nat.le_trans (valid.ready at_ instant some) more⟩
  | waiting at_ wait =>
    exact valid.moved rfl rfl rfl rfl valid.delay valid.ready
  | io at_ memory f => exact valid.moved rfl rfl rfl rfl valid.delay valid.ready
  | net reached taken => exact valid.moved rfl rfl rfl rfl valid.delay valid.ready
  | teardown at_ =>
    obtain ⟨_,attempts,last,shift,now,_⟩ := teardown_kept cx m _
    exact outside _ now last shift attempts (teardown_outside cx m _)
  | finish at_ outcome onward => exact outside _ rfl rfl rfl rfl (follow_outside onward)
  | refused | reset => exact outside _ rfl rfl rfl rfl .attempt
  | connected => exact outside _ rfl rfl rfl rfl .exchange
  | unreachable => exact outside _ rfl rfl rfl rfl .panicked
  | setTimeout | setKeepAlive | stillOpen | shut | abort | issued =>
    exact valid.moved rfl rfl rfl rfl (fun _ other => by cases other) (fun other => by cases other)

theorem Paced.start {now : Instant} (bounded : now.ticks.toNat < 2 ^ 63) (s : Socket) : Paced (start now s) :=
  ⟨bounded,rfl,fun _ some => (by cases some),rfl,.nil,.nil,fun _ other => (by cases other),fun other => (by cases other)⟩

-- The four facts of the pacing, on the recorded attempts themselves.
structure WellPaced (attempts : List Attempt) : Prop where
  gaps : ∀ i (_ : i + 1 < attempts.length),
    attempts[i].instant.ticks.toNat + interval ≤ attempts[i+1].instant.ticks.toNat
  range : ∀ attempt ∈ attempts, mqttClientPort.toNat ≤ attempt.port.toNat ∧
    attempt.port.toNat ≤ mqttClientPort.toNat + 255 ∧ attempt.port ≠ 0
  different : ∀ i j (_ : i < j) (_ : j < attempts.length), j < i + 256 → attempts[i].port ≠ attempts[j].port
  reuse : ∀ i j (_ : i < j) (_ : j < attempts.length), attempts[i].port = attempts[j].port →
    attempts[i].instant.ticks.toNat + 256 * interval ≤ attempts[j].instant.ticks.toNat

theorem Paced.wellPaced {m : Machine} (valid : Paced m) : WellPaced m.attempts := by
  have apart : ∀ i j (_ : i < j) (_ : j < m.attempts.length), m.attempts[i].port = m.attempts[j].port → i + 256 ≤ j := by
    intro i j before within same
    exact valid.cyclic.apart before (by simpa [ports] using within) (by simp [ports,same])
  refine ⟨?_,?_,?_,?_⟩
  · intro i within
    have gap := valid.spaced i (i+1) (by omega) (by simpa [instants] using within)
    simpa [instants,Nat.add_sub_cancel_left] using gap
  · intro attempt recorded
    obtain ⟨i,within,equal⟩ := List.mem_iff_getElem.mp recorded
    have range := valid.cyclic.range (by decide) (i := i) (by simpa [ports] using within)
    simp only [ports,List.getElem_map,equal] at range
    refine ⟨range.1,by omega,?_⟩
    intro zero
    rw [zero] at range
    exact absurd range.1 (by decide)
  · intro i j before within close same
    have := apart i j before within same
    omega
  · intro i j before within same
    have reused := valid.spaced.reused (apart i j before within same) (by decide) (by simpa [instants] using within)
    simpa [instants] using reused

-- The port an attempt has got, on its way to `connect`.
def Pc.port : Pc → Option UInt16
  | .setTimeout port | .setKeepAlive port | .isOpen port | .abort port | .connect port => some port
  | _ => none

def Carried (m : Machine) : Prop := ∀ port, m.pc.port = some port → m.attempts.getLast?.map Attempt.port = some port

theorem Outside.port (outside : Outside pc) : pc.port = none := by
  cases outside <;> rfl

theorem carried_taken {net : Bool → Socket → Socket → Prop} (valid : Carried m) (taken : Taken net board cx m next) :
    Carried next := by
  have without : ∀ m' : Machine, m'.pc.port = none → Carried m' := by
    intro m' none port some
    rw [none] at some
    cases some
  have along : ∀ m' : Machine, m'.attempts = m.attempts → m'.pc.port = m.pc.port → Carried m' := by
    intro m' attempts same port some
    rw [attempts]
    exact valid port (same ▸ some)
  cases taken with
  | record at_ =>
    intro port some
    rw [List.getLast?_concat,Option.map_some]
    exact some
  | setTimeout at_ | setKeepAlive at_ | stillOpen at_ | shut at_ | abort at_ => exact along _ rfl (by rw [at_]; rfl)
  | waiting | io | tick | net => exact along _ rfl rfl
  | teardown => exact without _ (teardown_outside cx m _).port
  | finish _ _ onward => exact without _ (follow_outside onward).port
  | first | early | late | delayed | issued | refused | connected | reset | unreachable => exact without _ rfl

-- Each attempt records its port together with its instant, and `connect` gets the
-- port recorded last.
theorem reconnects_well_paced {net : Bool → Socket → Socket → Prop} {now : Instant} (bounded : now.ticks.toNat < 2 ^ 63)
    (s : Socket) (path : Runs (Step net board cx) (start now s) events m) :
    WellPaced m.attempts ∧ ∀ port, m.pc = .connect port → m.attempts.getLast?.map Attempt.port = some port := by
  have valid : Paced m := path.invariant (fun _ _ _ valid step => paced_taken valid step.taken) (.start bounded s)
  have carried : Carried m := path.invariant (fun _ _ _ valid step => carried_taken valid step.taken) (fun _ some => by cases some)
  exact ⟨valid.wellPaced,fun port at_ => carried port (by rw [at_]; rfl)⟩

-- Too early for the second attempt, the loop waits for its deadline.
theorem early_reconnect_waits : ∃ events m, Runs (Step Polls Controls.board 7) (start ⟨5⟩ (.fresh 4 4)) events m ∧
    m.attempts = [⟨⟨5⟩,58026⟩,⟨⟨60000007⟩,58027⟩] ∧ WellPaced m.attempts := by
  have played : (run (fun m choice => guarded admits (advance Controls.board 7) m (choose m choice)) (start ⟨5⟩ (.fresh 4 4))
      (Controls.attempt 5 ++ Controls.dropped ++ [.tick 9,.run] ++ Controls.attempt 60000007)).map
        Machine.attempts = some [⟨⟨5⟩,58026⟩,⟨⟨60000007⟩,58027⟩] := by decide +kernel
  obtain ⟨m,ran,attempts⟩ := Option.map_eq_some_iff.mp played
  obtain ⟨events,path⟩ := play_sound ran
  exact ⟨events,m,path,attempts,(reconnects_well_paced (by decide) _ path).1⟩

end Ra6m3Rtic.Mqtt
