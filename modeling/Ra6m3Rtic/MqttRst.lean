import Ra6m3Rtic.MqttReconnect
import Ra6m3Rtic.Shutdown

namespace Ra6m3Rtic.Mqtt
open Smoltcp LabelledRuns Shutdown

-- A poll on an up link with the neighbour resolved sends what is owed; one that
-- cannot transmit keeps it.
structure RstLaws (net : Bool → Socket → Socket → Prop) : Prop where
  tcp : ∀ reached, TcpLaws (net reached)
  sent : ∀ s next, net true s next → SocketInner.rstPending next = false
  kept : ∀ s next, net false s next → s.state = .closed → next.tuple = s.tuple

-- `connect` is called only after a poll that reached the neighbour has followed
-- the last abort of a live endpoint, by this loop or by one of smoltcp's timers.
def settled (m : Machine) : Event → Bool
  | .run =>
    match m.pc with
    | .connect _ => !m.owed
    | _ => true
  | _ => true

def SettledStep (net : Bool → Socket → Socket → Prop) (board : Board) (cx : Waker) (m : Machine) (event : Event)
    (next : Machine) : Prop := Step net board cx m event next ∧ settled m event = true

structure Owing (m : Machine) : Prop where
  owed : m.owed = SocketInner.rstPending m.socket
  accepted : (∃ call, m.pc = .exchange call) ∨ m.pc = .disconnect .close → Accepted m.socket.state = true

def NoneDiscarded (m : Machine) : Prop := ∀ s ∈ m.found, SocketInner.rstPending s = false

theorem rstPending_iff {s : Socket} :
    SocketInner.rstPending s = true ↔ s.state = .closed ∧ s.tuple.isSome = true := by
  simp [SocketInner.rstPending,Socket.remoteEndpoint]

theorem rstPending_same {s next : Socket} (state : next.state = s.state) (tuple : next.tuple = s.tuple) :
    SocketInner.rstPending next = SocketInner.rstPending s := by
  simp only [SocketInner.rstPending,Socket.remoteEndpoint,state,tuple]

theorem rstPending_live {s : Socket} (live : s.state ≠ .closed) : SocketInner.rstPending s = false := by
  simp [SocketInner.rstPending,live]

theorem abort_owing (valid : owed = SocketInner.rstPending s) :
    (owed || s.tuple.isSome) = SocketInner.rstPending s.abort := by
  rw [valid,Bool.eq_iff_iff,Bool.or_eq_true,rstPending_iff,rstPending_iff]
  constructor
  · intro due
    rcases due with pending | endpoint
    · exact ⟨rfl,pending.2⟩
    · exact ⟨rfl,endpoint⟩
  · intro pending
    exact .inr pending.2

-- The close of a connection never skips to Closed.
theorem close_owing {s : Socket} (accepted : Accepted s.state = true) :
    SocketInner.rstPending s.close = SocketInner.rstPending s := by
  by_cases closed : s.state = .closed
  · exact congrArg SocketInner.rstPending (by simp [Socket.close,closed])
  · rw [rstPending_live closed]
    apply rstPending_live
    cases state : s.state <;> simp_all [Accepted,Socket.close]

theorem net_owing {net : Bool → Socket → Socket → Prop} (laws : RstLaws net) (reached : Bool)
    (valid : owed = SocketInner.rstPending s) (taken : net reached s next) :
    (if reached then false else owed || lapsed s next) = SocketInner.rstPending next := by
  cases reached with
  | true => exact (laws.sent _ _ taken).symm
  | false =>
    rw [valid]
    by_cases closed : s.state = .closed
    · have after := (laws.tcp false).closedLaws.closed _ _ taken closed
      have same := rstPending_same (after.trans closed.symm) (laws.kept _ _ taken closed)
      simp [lapsed,closed,same]
    · rw [rstPending_live closed,Bool.eq_iff_iff,rstPending_iff]
      simp [lapsed,closed]

theorem connected_accepted (wait : TcpSocket.connectWait cx s = (.ready (.ok ()),next)) :
    Accepted s.state = true := by
  unfold TcpSocket.connectWait at wait
  cases state : s.state <;> simp_all [Accepted]

theorem touched_owing (valid : owed = SocketInner.rstPending s) (touched : Touched cx s next) :
    owed = SocketInner.rstPending next :=
  valid.trans (rstPending_same touched.state touched.tuple).symm

theorem connectWait_owing (valid : owed = SocketInner.rstPending s)
    (wait : TcpSocket.connectWait cx s = (poll,next)) : owed = SocketInner.rstPending next := by
  have touched := TcpSocket.connectWait_touched cx s
  rw [wait] at touched
  exact touched_owing valid touched

theorem issued_owing (connect : TcpSocket.connect source remote port s = (.ok (),next)) :
    false = SocketInner.rstPending next := by
  have spec := TcpSocket.connect_spec source remote port s
  rw [connect] at spec
  cases spec with
  | issued shut tuple => exact (rstPending_live (by simp)).symm

theorem refused_same (connect : TcpSocket.connect source remote port s = (.error e,next)) : next = s := by
  have spec := TcpSocket.connect_spec source remote port s
  rw [connect] at spec
  cases spec with
  | invalidState | noRoute => rfl

theorem teardown_owing {m : Machine} (valid : Owing m) (at_ : m.pc = .disconnect pc) : Owing (teardown cx m pc) := by
  have same := (teardown_kept cx m pc).2.2.2.2.2.2
  cases pc with
  | close =>
    refine ⟨?_,?_⟩
    · rw [same,valid.owed]
      exact (close_owing (valid.accepted (.inr at_))).symm
    · intro other
      rcases other with ⟨_,other⟩ | other <;> cases other
  | check began =>
    refine ⟨valid.owed,?_⟩
    intro other
    simp only [teardown,Disconnect.advance] at other
    rcases other with ⟨_,other⟩ | other
    · cases other
    · split at other <;> cases other
  | register began | suspended began | done =>
    refine ⟨valid.owed,?_⟩
    intro other
    rcases other with ⟨_,other⟩ | other <;> cases other

theorem follow_accepted (valid : Owing m) (at_ : m.pc = .exchange call) : Owing {m with pc := pc} :=
  ⟨valid.owed,fun _ => valid.accepted (.inl ⟨_,at_⟩)⟩

theorem owing_taken {net : Bool → Socket → Socket → Prop} (laws : RstLaws net) (valid : Owing m)
    (taken : Taken net board cx m next) : Owing next := by
  have outside : ∀ m' : Machine, m'.owed = SocketInner.rstPending m'.socket →
      (∀ call, m'.pc ≠ .exchange call) → m'.pc ≠ .disconnect .close → Owing m' := by
    intro m' owed noExchange noClose
    refine ⟨owed,?_⟩
    intro session
    rcases session with ⟨call,at_⟩ | at_
    · exact absurd at_ (noExchange call)
    · exact absurd at_ noClose
  cases taken with
  | abort at_ =>
    exact outside _ (abort_owing valid.owed) (fun _ other => by cases other) (fun other => by cases other)
  | issued at_ connect =>
    exact outside _ (issued_owing connect) (fun _ other => by cases other) (fun other => by cases other)
  | refused at_ connect =>
    have unchanged := refused_same connect
    subst unchanged
    exact outside _ valid.owed (fun _ other => by cases other) (fun other => by cases other)
  | waiting at_ wait =>
    refine ⟨connectWait_owing valid.owed wait,?_⟩
    intro session
    rw [show _ = m.pc from rfl,at_] at session
    rcases session with ⟨_,other⟩ | other <;> cases other
  | connected at_ wait =>
    refine ⟨connectWait_owing valid.owed wait,fun _ => ?_⟩
    have touched := TcpSocket.connectWait_touched cx m.socket
    rw [wait] at touched
    rw [touched.state]
    exact connected_accepted wait
  | reset at_ wait =>
    exact outside _ (connectWait_owing valid.owed wait) (fun _ other => by cases other) (fun other => by cases other)
  | unreachable at_ wait =>
    exact outside _ (connectWait_owing valid.owed wait) (fun _ other => by cases other) (fun other => by cases other)
  | teardown at_ => exact teardown_owing valid at_
  | io at_ memory f =>
    have touched := Future.poll_touched cx memory m.socket f
    refine ⟨touched_owing valid.owed touched,fun session => ?_⟩
    rw [touched.state]
    exact valid.accepted session
  | finish at_ outcome onward => exact follow_accepted valid at_
  | tick later bounded => exact ⟨valid.owed,valid.accepted⟩
  | net reached taken =>
    refine ⟨net_owing laws reached valid.owed taken,fun session => ?_⟩
    have accepted : Phase .close m.socket.state = true := valid.accepted session
    exact phase_network (laws.tcp reached) taken accepted
  | first | early | late | delayed | record | setTimeout | setKeepAlive | stillOpen | shut =>
    exact outside _ valid.owed (fun _ other => by cases other) (fun other => by cases other)

theorem connect_found {m : Machine} (at_ : m.pc = .connect port) (ran : advance board cx m .run = some next) :
    next.found = m.found ++ [m.socket] := by
  simp only [advance,connectTransport,at_] at ran
  split at ran
  all_goals cases Option.some.inj ran; rfl

-- Only the section of `connect` looks at the socket it is about to reset.
theorem found_step {net : Bool → Socket → Socket → Prop} (step : Step net board cx m event next) :
    next.found = m.found ∨
      (∃ port, m.pc = .connect port) ∧ event = .run ∧ next.found = m.found ++ [m.socket] := by
  have taken := step.taken
  obtain ⟨_,ran⟩ := step
  cases event with
  | run =>
    cases taken with
    | issued at_ connect => exact .inr ⟨⟨_,at_⟩,rfl,rfl⟩
    | refused at_ connect => exact .inr ⟨⟨_,at_⟩,rfl,rfl⟩
    | teardown at_ => exact .inl (teardown_kept _ _ _).2.2.2.2.2.1
    | _ => exact .inl rfl
  | io memory f =>
    simp only [advance] at ran
    split at ran
    · cases Option.some.inj ran; exact .inl rfl
    · cases ran
  | finish outcome =>
    simp only [advance] at ran
    split at ran
    · obtain ⟨pc,_,equal⟩ := Option.map_eq_some_iff.mp ran
      exact .inl (by rw [← equal])
    · cases ran
  | tick now => cases Option.some.inj ran; exact .inl rfl
  | net reached socket => cases Option.some.inj ran; exact .inl rfl

theorem settled_connect {m : Machine} (at_ : m.pc = .connect port) : settled m .run = !m.owed := by
  simp [settled,at_]

theorem settled_step {net : Bool → Socket → Socket → Prop} (laws : RstLaws net) (m : Machine) (event : Event)
    (next : Machine) (valid : Owing m ∧ NoneDiscarded m) (step : SettledStep net board cx m event next) :
    Owing next ∧ NoneDiscarded next := by
  obtain ⟨owing,none⟩ := valid
  obtain ⟨step,allowed⟩ := step
  refine ⟨owing_taken laws owing step.taken,?_⟩
  rcases found_step step with same | ⟨⟨port,at_⟩,run,grown⟩
  · intro s found
    rw [same] at found
    exact none s found
  · subst run
    rw [settled_connect at_,Bool.not_eq_true'] at allowed
    intro s found
    rw [grown,List.mem_append,List.mem_singleton] at found
    rcases found with earlier | newest
    · exact none s earlier
    · rw [newest,← owing.owed]
      exact allowed

-- A `connect` the condition forbids does discard a RST.
theorem unsettled_discards {net : Bool → Socket → Socket → Prop} (owing : Owing m)
    (step : Step net board cx m event next) (refused : settled m event = false) : ¬ NoneDiscarded next := by
  intro none
  unfold settled at refused
  split at refused
  · split at refused
    · rename_i port at_
      have grown := connect_found at_ step.2
      have pending := none m.socket (by simp [grown])
      rw [← owing.owed] at pending
      simp [pending] at refused
    · cases refused
  · cases refused

theorem no_rst_discarded_exactly_when_settled {net : Bool → Socket → Socket → Prop} (laws : RstLaws net) (now : Instant)
    (path : Runs (SettledStep net board cx) (start now (.fresh rxCapacity txCapacity)) events m) :
    NoneDiscarded m ∧ ∀ event next, Step net board cx m event next → settled m event = false → ¬ NoneDiscarded next := by
  have accepted : Accepted (start now (.fresh rxCapacity txCapacity)).socket.state = true := rfl
  have begins : Owing (start now (.fresh rxCapacity txCapacity)) ∧ NoneDiscarded (start now (.fresh rxCapacity txCapacity)) :=
    ⟨⟨rfl,fun _ => accepted⟩,fun _ found => by cases found⟩
  have valid := path.invariant (settled_step laws) begins
  exact ⟨valid.2,fun _ _ step refused => unsettled_discards valid.1 step refused⟩

theorem polls_rst : RstLaws Polls where
  tcp := polls_tcp
  sent := fun _ _ taken => taken.2
  kept := fun _ _ taken => taken.2

theorem play_settled
    (played : run (fun m choice => guarded settled (guarded admits (advance board cx)) m (choose m choice)) m choices =
      some next) : ∃ events, Runs (SettledStep Polls board cx) m events next := by
  refine run_sound ?_ played
  intro m choice next ran
  obtain ⟨allowed,admitted⟩ := guarded_some ran
  obtain ⟨admits,ran⟩ := guarded_some admitted
  exact ⟨⟨admits_admitted admits,ran⟩,allowed⟩

namespace Controls
-- A session that fails while its connection is open, and the next attempt up to the abort.
def aborted : List Choice := attempt 5 ++ dropped ++ attempt 60000005 ++ [.run]
end Controls

-- The RST leaves between the abort and the connect.
theorem prompt_rst_not_discarded : ∃ events m,
    Runs (SettledStep Polls Controls.board 7) (start ⟨5⟩ (.fresh 4 4)) events m ∧
      m.found.length = 2 ∧ NoneDiscarded m := by
  have played : (run (fun m choice => guarded settled (guarded admits (advance Controls.board 7)) m (choose m choice))
      (start ⟨5⟩ (.fresh 4 4)) (Controls.aborted ++ [.net true .sendRst,.run])).map (fun m => m.found.length) = some 2 := by decide +kernel
  obtain ⟨m,ran,found⟩ := Option.map_eq_some_iff.mp played
  obtain ⟨events,path⟩ := play_settled ran
  exact ⟨events,m,path,found,(no_rst_discarded_exactly_when_settled polls_rst _ path).1⟩

-- With the link down nothing leaves there, and `connect` forgets the RST.
theorem link_down_discards_rst : ¬ ∀ (events : List Event) (m : Machine),
    Runs (Step Polls Controls.board 7) (start ⟨5⟩ (.fresh 4 4)) events m → NoneDiscarded m := by
  intro claimed
  have played : (run (fun m choice => guarded admits (advance Controls.board 7) m (choose m choice)) (start ⟨5⟩ (.fresh 4 4))
      (Controls.aborted ++ [.run])).map (fun m => m.found.all (fun s => !SocketInner.rstPending s)) = some false := by
    decide +kernel
  obtain ⟨m,ran,found⟩ := Option.map_eq_some_iff.mp played
  obtain ⟨events,path⟩ := play_sound ran
  have none := claimed events m path
  have all : m.found.all (fun s => !SocketInner.rstPending s) = true := by
    rw [List.all_eq_true]
    intro s found
    simp [none s found]
  rw [all] at found
  cases found

end Ra6m3Rtic.Mqtt
