import Ra6m3Rtic.Lib.OneShot
import Ra6m3Rtic.Lib.Runs
import Ra6m3Rtic.Socket

namespace Ra6m3Rtic.Disconnect
open Smoltcp LabelledRuns OneShot

-- `TcpSocket::disconnect` closes in one section; each poll then reads `is_open`
-- in one and registers the receive waker in another. `began` is the socket at
-- the start of the poll under way, the first poll including the close.
inductive Pc where
  | close
  | check (began : Socket)
  | register (began : Socket)
  | suspended (began : Socket)
  | done

structure Machine where
  pc : Pc
  socket : Socket

-- `run` is the task's next section; polling a suspended future again is its step too.
inductive Event where
  | run
  | net (next : Socket)

def advance (cx : Waker) (m : Machine) : Event → Option Machine
  | .net next => some {m with socket := next}
  | .run =>
    match m.pc with
    | .close => some ⟨.check m.socket,m.socket.close⟩
    | .check began => some ⟨if m.socket.isOpen then .register began else .done,m.socket⟩
    | .register began => some ⟨.suspended began,m.socket.registerRecvWaker cx⟩
    | .suspended _ => some ⟨.check m.socket,m.socket⟩
    | .done => none

def Admitted (net : Socket → Socket → Prop) (m : Machine) : Event → Prop
  | .net next => net m.socket next
  | .run => True

def Step (net : Socket → Socket → Prop) (cx : Waker) (m : Machine) (event : Event) (next : Machine) : Prop :=
  Admitted net m event ∧ advance cx m event = some next

-- A network step between the two sections may close the socket only while a
-- wake is still bound to reach the task: it was woken since the poll began, or
-- one of the slots holds its waker.
def covered (cx : Waker) (m : Machine) : Event → Bool
  | .net next =>
    match m.pc with
    | .register began => !m.socket.isOpen || next.isOpen || decide (WokenSince cx began m.socket) ||
        m.socket.rxWaker == some cx || m.socket.txWaker == some cx
    | _ => true
  | .run => true

def CoveredStep (net : Socket → Socket → Prop) (cx : Waker) (m : Machine) (event : Event) (next : Machine) : Prop :=
  Step net cx m event next ∧ covered cx m event = true

-- The property of one poll: Pending, not open any more, and yet no wake.
def Woken (cx : Waker) (m : Machine) : Prop :=
  ∀ began, m.pc = .suspended began → m.socket.isOpen = false → WokenSince cx began m.socket

-- The suspended poll as a waiter: what it waits for is the end of the connection.
def watch (cx : Waker) (began : Socket) : Watch Socket where
  ready := fun s => s.isOpen = false
  armed := fun s => s.rxWaker = some cx
  woken := fun s => WokenSince cx began s

structure Invariant (cx : Waker) (m : Machine) : Prop where
  check : ∀ began, m.pc = .check began → began.wakes.count cx ≤ m.socket.wakes.count cx
  register : ∀ began, m.pc = .register began → began.wakes.count cx ≤ m.socket.wakes.count cx ∧
    (m.socket.isOpen = true ∨ WokenSince cx began m.socket)
  suspended : ∀ began, m.pc = .suspended began → began.wakes.count cx ≤ m.socket.wakes.count cx ∧
    (watch cx began).Safe m.socket

theorem setState_counted (s : Socket) (state : State) (cx : Waker) :
    s.wakes.count cx ≤ (s.setState state).wakes.count cx := by
  simp only [Socket.setState,Socket.wakeRx,Socket.wakeTx,List.count_append]
  omega

theorem close_counted (s : Socket) (cx : Waker) : s.wakes.count cx ≤ s.close.wakes.count cx := by
  unfold Socket.close
  split
  all_goals first | exact setState_counted s _ cx | exact Nat.le_refl _

theorem run_invariant (valid : Invariant cx m) (ran : advance cx m .run = some next) : Invariant cx next := by
  obtain ⟨pc,socket⟩ := m
  cases pc with
  | close =>
    cases Option.some.inj ran
    refine ⟨?_,(by intro _ at_; cases at_),(by intro _ at_; cases at_)⟩
    intro began at_
    cases at_
    exact close_counted socket cx
  | check began =>
    have counted := valid.check began rfl
    cases Option.some.inj ran
    cases isOpen : socket.isOpen with
    | false => exact ⟨by simp,by simp,by simp⟩
    | true =>
      refine ⟨by simp,?_,by simp⟩
      intro other at_
      cases at_
      exact ⟨counted,.inl isOpen⟩
  | register began =>
    obtain ⟨counted,state⟩ := valid.register began rfl
    cases Option.some.inj ran
    refine ⟨(by intro _ at_; cases at_),(by intro _ at_; cases at_),?_⟩
    intro other at_
    cases at_
    refine ⟨counted,?_⟩
    rcases state with isOpen | woken
    · refine .inr ⟨rfl,?_⟩
      intro shut
      rw [show socket.isOpen = false from shut] at isOpen
      cases isOpen
    · exact .inl woken
  | suspended began =>
    cases Option.some.inj ran
    refine ⟨?_,(by intro _ at_; cases at_),(by intro _ at_; cases at_)⟩
    intro other at_
    cases at_
    exact Nat.le_refl _
  | done => cases ran

-- Any step that takes the socket from open to not open changes the TCP state,
-- and so fires both slots.
theorem closing_fires {net : Socket → Socket → Prop} (laws : WakeLaws net) (taken : net s next)
    (isOpen : s.isOpen = true) (shut : next.isOpen = false) : RxFired s next ∧ TxFired s next := by
  refine laws.stateChange _ _ taken ?_
  intro same
  simp only [Socket.isOpen,same] at isOpen shut
  rw [isOpen] at shut
  cases shut

theorem covered_net {m : Machine} (at_ : m.pc = .register began) : covered cx m (.net next) = true ↔
    (m.socket.isOpen = true → next.isOpen = false →
      WokenSince cx began m.socket ∨ m.socket.rxWaker = some cx ∨ m.socket.txWaker = some cx) := by
  cases isOpen : m.socket.isOpen <;> cases after : next.isOpen <;> simp [covered,at_,isOpen,after,or_assoc]

theorem watch_kept {net : Socket → Socket → Prop} (laws : WakeLaws net) (taken : net s next)
    (before : began.wakes.count cx ≤ s.wakes.count cx) : (watch cx began).Kept s next where
  woken := fun woken => Nat.lt_of_lt_of_le woken (laws.counted _ _ taken cx)
  fires := by
    intro registered blocked
    have isOpen : s.isOpen = true := by simpa [watch] using blocked
    cases after : next.isOpen with
    | false =>
      have fired := closing_fires laws taken isOpen after
      exact .inl (Nat.lt_of_le_of_lt before (fired.1.2 cx registered))
    | true =>
      rcases laws.rxSlot _ _ taken with kept | fired
      · exact .inr ⟨kept.trans registered,by simp [watch,after]⟩
      · exact .inl (Nat.lt_of_le_of_lt before (fired.2 cx registered))

theorem net_invariant {net : Socket → Socket → Prop} (laws : WakeLaws net) {m : Machine} (valid : Invariant cx m)
    (taken : net m.socket next) (allowed : covered cx m (.net next) = true) : Invariant cx {m with socket := next} := by
  have counted := laws.counted _ _ taken cx
  refine ⟨?_,?_,?_⟩
  · intro began at_
    exact Nat.le_trans (valid.check began at_) counted
  · intro began at_
    obtain ⟨before,state⟩ := valid.register began at_
    refine ⟨Nat.le_trans before counted,?_⟩
    cases after : next.isOpen with
    | true => exact .inl rfl
    | false =>
      rcases state with isOpen | woken
      · have fired := closing_fires laws taken isOpen after
        have at_ : m.pc = .register began := at_
        rcases (covered_net at_).mp allowed isOpen after with woken | rx | tx
        · exact .inr (Nat.lt_of_lt_of_le woken counted)
        · exact .inr (Nat.lt_of_le_of_lt before (fired.1.2 cx rx))
        · exact .inr (Nat.lt_of_le_of_lt before (fired.2.2 cx tx))
      · exact .inr (Nat.lt_of_lt_of_le woken counted)
  · intro began at_
    obtain ⟨before,state⟩ := valid.suspended began at_
    refine ⟨Nat.le_trans before counted,?_⟩
    exact Watch.safe_step _ state (watch_kept laws taken before)

theorem covered_invariant {net : Socket → Socket → Prop} (laws : WakeLaws net) (m : Machine) (event : Event)
    (next : Machine) (valid : Invariant cx m) (step : CoveredStep net cx m event next) : Invariant cx next := by
  obtain ⟨⟨admitted,ran⟩,allowed⟩ := step
  cases event with
  | run => exact run_invariant valid ran
  | net socket =>
    cases Option.some.inj ran
    exact net_invariant laws valid admitted allowed

theorem start_invariant (cx : Waker) (s : Socket) : Invariant cx ⟨.close,s⟩ :=
  ⟨(by intro _ at_; cases at_),(by intro _ at_; cases at_),(by intro _ at_; cases at_)⟩

theorem covered_woken {net : Socket → Socket → Prop} (laws : WakeLaws net) (s : Socket)
    (path : Runs (CoveredStep net cx) ⟨.close,s⟩ events m) : Woken cx m := by
  have valid := path.invariant (covered_invariant laws) (start_invariant cx s)
  intro began at_ shut
  exact Watch.woken_of_ready _ (valid.suspended began at_).2 shut

-- The condition cannot be relaxed at any step: a close it forbids leaves the
-- poll Pending on a socket that is not open, with no wake.
theorem uncovered_lost {net : Socket → Socket → Prop} (oneShot : WakesRegistered net) {m : Machine}
    (taken : net m.socket next) (uncovered : covered cx m (.net next) = false) :
    ∃ pending, advance cx {m with socket := next} .run = some pending ∧ ¬ Woken cx pending := by
  obtain ⟨pc,socket⟩ := m
  cases pc with
  | register began =>
    have refused : ¬ covered cx ⟨.register began,socket⟩ (.net next) = true := by simp [uncovered]
    rw [covered_net rfl] at refused
    simp only [Classical.not_imp,not_or] at refused
    obtain ⟨isOpen,shut,unwoken,rx,tx⟩ := refused
    refine ⟨⟨.suspended began,next.registerRecvWaker cx⟩,rfl,?_⟩
    intro woken
    have late : WokenSince cx began next := woken began rfl shut
    have silent : ¬ WokenSince cx socket next := oneShot _ _ taken cx rx tx
    unfold WokenSince at late silent unwoken
    omega
  | close | check | suspended | done => cases uncovered

theorem disconnect_woken_exactly_when_covered {net : Socket → Socket → Prop} (laws : WakeLaws net)
    (oneShot : WakesRegistered net) (s : Socket) (path : Runs (CoveredStep net cx) ⟨.close,s⟩ events m) :
    Woken cx m ∧ ∀ next, net m.socket next → covered cx m (.net next) = false →
      ∃ pending, advance cx {m with socket := next} .run = some pending ∧ ¬ Woken cx pending :=
  ⟨covered_woken laws s path,fun _ taken uncovered => uncovered_lost oneShot taken uncovered⟩

-- Runs over the concrete network: `none` is the task's section.
def choose (m : Machine) : Option NetEvent → Event
  | none => .run
  | some event => .net (process m.socket event)

theorem choose_admitted (m : Machine) (choice : Option NetEvent) : Admitted Processed m (choose m choice) := by
  cases choice with
  | none => exact True.intro
  | some event => exact ⟨event,rfl⟩

theorem play_sound (played : run (fun m choice => advance cx m (choose m choice)) m choices = some next) :
    ∃ events, Runs (Step Processed cx) m events next :=
  run_sound (fun m choice _ ran => ⟨choose_admitted m choice,ran⟩) played

theorem play_covered
    (played : run (fun m choice => guarded (covered cx) (advance cx) m (choose m choice)) m choices = some next) :
    ∃ events, Runs (CoveredStep Processed cx) m events next := by
  refine run_sound ?_ played
  intro m choice next ran
  obtain ⟨allowed,ran⟩ := guarded_some ran
  exact ⟨⟨choose_admitted m choice,ran⟩,allowed⟩

-- A peer that had already closed: our FIN is acknowledged after the poll has
-- registered, and the task is woken.
theorem last_ack_woken : Woken 7 ⟨.suspended (Controls.connected .closeWait),
    process ((Controls.connected .lastAck).registerRecvWaker 7) .finAcked⟩ := by
  have played : run (fun m choice => guarded (covered 7) (advance 7) m (choose m choice))
      ⟨.close,Controls.connected .closeWait⟩ [none,none,none,some .finAcked] = some _ := rfl
  obtain ⟨_,path⟩ := play_covered played
  exact (disconnect_woken_exactly_when_covered processed_wakes processed_registered _ path).1

-- The same acknowledgement between the two sections: the future stays
-- suspended on a closed socket and nothing will wake it.
theorem disconnect_loses_wakeup :
    ¬ ∀ (s : Socket) (events : List Event) (m : Machine), Runs (Step Processed 7) ⟨.close,s⟩ events m → Woken 7 m := by
  intro claimed
  have played : run (fun m choice => advance 7 m (choose m choice)) ⟨.close,Controls.connected .closeWait⟩
      [none,none,some .finAcked,none] = some _ := rfl
  obtain ⟨_,path⟩ := play_sound played
  exact absurd (claimed _ _ _ path _ rfl rfl) (by decide)

end Ra6m3Rtic.Disconnect
