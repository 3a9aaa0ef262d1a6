import Ra6m3Rtic.Lib.Runs
import Ra6m3Rtic.Socket

namespace Ra6m3Rtic.Handshake
open Smoltcp LabelledRuns

-- What smoltcp does with the listen endpoint and the peer of a socket. A socket
-- goes back to Listen only if it was listening.
structure ListenLaws (net : Socket → Socket → Prop) : Prop where
  relisten : ∀ s next, net s next → s.state ≠ .listen → next.state = .listen → s.listenEndpoint.port ≠ 0
  endpoint : ∀ s next, net s next → next.listenEndpoint = s.listenEndpoint ∨ next.listenEndpoint = ⟨none,0⟩
  peer : ∀ s next, net s next → s.state = .listen ∨ s.tuple.isSome = true →
    next.state = .listen ∨ next.state = .closed ∨ next.tuple.isSome = true

-- The steps that complete a three-way handshake: the answer to our SYN, or to
-- our SYN|ACK, has arrived.
def completes : State → State → Bool
  | .synSent,.established => true
  | .synReceived,.established | .synReceived,.closeWait => true
  | _,_ => false

-- A `connect` or `accept` that has issued its request and waits. `handshaken` is
-- an observation of the steps taken since.
structure Machine where
  socket : Socket
  handshaken : Bool

def start (s : Socket) : Machine := ⟨s,false⟩

inductive Event where
  | poll
  | net (next : Socket)

section
variable {α : Type} (wait : Socket → Poll α × Socket)

def advance (m : Machine) : Event → Machine
  | .poll => {m with socket := (wait m.socket).2}
  | .net next => ⟨next,m.handshaken || completes m.socket.state next.state⟩

def Admitted (net : Socket → Socket → Prop) (m : Machine) : Event → Prop
  | .net next => net m.socket next
  | .poll => True

def Step (net : Socket → Socket → Prop) (m : Machine) (event : Event) (next : Machine) : Prop :=
  Admitted net m event ∧ next = advance wait m event

-- All a poll of the two waits does to the socket.
def Registers (cx : Waker) : Prop := ∀ s, (wait s).2 = s ∨ (wait s).2 = s.registerSendWaker cx

end

theorem connectWait_registers (cx : Waker) : Registers (TcpSocket.connectWait cx) cx := by
  intro s
  unfold TcpSocket.connectWait
  split
  all_goals first | exact .inl rfl | exact .inr rfl

theorem acceptWait_registers (cx : Waker) : Registers (TcpSocket.acceptWait cx) cx := by
  intro s
  unfold TcpSocket.acceptWait
  split
  all_goals first | exact .inl rfl | exact .inr rfl

-- The states a handshake and the peer can lead to while nobody closes locally.
def Opening : State → Bool
  | .synSent | .synReceived | .established | .closeWait | .closed => true
  | _ => false

structure Connecting (m : Machine) : Prop where
  unlistened : m.socket.listenEndpoint.port = 0
  opening : Opening m.socket.state = true
  handshaken : m.socket.state = .established ∨ m.socket.state = .closeWait → m.handshaken = true

theorem opening_transition (before : Opening s = true) (edge : Transition s next = true) (other : next ≠ .listen) :
    Opening next = true := by
  cases s <;> cases next <;> simp_all [Opening,Transition]

-- Into Established and CloseWait leads only the end of the handshake, or the
-- peer's FIN after it.
theorem synchronized_transition (before : Opening s = true) (edge : Transition s next = true)
    (synchronized : next = .established ∨ next = .closeWait) :
    completes s next = true ∨ s = .established := by
  rcases synchronized with same | same
  · subst same
    cases s <;> simp_all [Opening,Transition,completes]
  · subst same
    cases s <;> simp_all [Opening,Transition,completes]

theorem connecting_network {net : Socket → Socket → Prop} (laws : TcpLaws net) (listens : ListenLaws net)
    {m : Machine} (valid : Connecting m) (taken : net m.socket next) :
    Connecting ⟨next,m.handshaken || completes m.socket.state next.state⟩ := by
  have other : next.state ≠ .listen := by
    intro same
    have before : m.socket.state ≠ .listen := by
      intro listening
      have opening := valid.opening
      rw [listening] at opening
      cases opening
    exact listens.relisten _ _ taken before same valid.unlistened
  have unlistened : next.listenEndpoint.port = 0 := by
    rcases listens.endpoint _ _ taken with same | cleared
    · rw [same]; exact valid.unlistened
    · rw [cleared]
  rcases laws.transition _ _ taken with same | edge
  · refine ⟨unlistened,by rw [same]; exact valid.opening,?_⟩
    intro synchronized
    rw [same] at synchronized
    simp [valid.handshaken synchronized]
  · refine ⟨unlistened,opening_transition valid.opening edge other,?_⟩
    intro synchronized
    rcases synchronized_transition valid.opening edge synchronized with completed | established
    · simp [completed]
    · simp [valid.handshaken (.inl established)]

theorem connecting_step {net : Socket → Socket → Prop} (laws : TcpLaws net) (listens : ListenLaws net)
    (m : Machine) (event : Event) (next : Machine) (valid : Connecting m)
    (step : Step (TcpSocket.connectWait cx) net m event next) : Connecting next := by
  obtain ⟨admitted,equal⟩ := step
  subst equal
  cases event with
  | poll =>
    simp only [advance]
    rcases connectWait_registers cx m.socket with same | registered
    · rw [same]; exact valid
    · rw [registered]; exact ⟨valid.unlistened,valid.opening,valid.handshaken⟩
  | net socket => exact connecting_network laws listens valid admitted

theorem issued_connecting (issued : TcpSocket.connect source remote port s = (.ok (),first)) :
    Connecting (start first) := by
  have spec := TcpSocket.connect_spec source remote port s
  rw [issued] at spec
  cases spec with
  | issued shut tuple =>
    refine ⟨rfl,rfl,?_⟩
    intro synchronized
    rcases synchronized with other | other <;> cases other

theorem connect_reports_the_handshake {net : Socket → Socket → Prop} (laws : TcpLaws net) (listens : ListenLaws net)
    (s : Socket) (issued : TcpSocket.connect source remote port s = (.ok (),first))
    (path : Runs (Step (TcpSocket.connectWait cx) net) (start first) events m) :
    m.socket.state ≠ .listen ∧ (TcpSocket.connectWait cx m.socket).1 ≠ .panicked ∧
    ((TcpSocket.connectWait cx m.socket).1 = .ready (.ok ()) →
      m.handshaken = true ∧ (m.socket.state = .established ∨ m.socket.state = .closeWait)) ∧
    ((TcpSocket.connectWait cx m.socket).1 = .ready (.error .connectionReset) → m.socket.state = .closed) ∧
    ((TcpSocket.connectWait cx m.socket).1 = .pending ↔ m.socket.state = .synSent ∨ m.socket.state = .synReceived) := by
  have valid : Connecting m := path.invariant (connecting_step laws listens) (issued_connecting issued)
  have opening := valid.opening
  have handshaken := valid.handshaken
  cases state : m.socket.state with
  | synSent | synReceived | closed => simp [TcpSocket.connectWait,state]
  | established | closeWait =>
    rw [state] at handshaken
    simp [TcpSocket.connectWait,state,handshaken]
  | listen | finWait1 | finWait2 | closing | lastAck | timeWait =>
    rw [state] at opening
    cases opening

theorem plainMove_relisten (move : PlainMove s .listen = true) : False := by
  cases s <;> cases move

theorem finMove_relisten (move : FinMove s .listen = true) : False := by
  cases s <;> cases move

theorem handled_relisten (handled : Handled s next) (before : s.state ≠ .listen) (after : next.state = .listen) :
    s.listenEndpoint.port ≠ 0 := by
  cases handled with
  | relistened _ listens => exact listens
  | moved state move =>
    have target : state = .listen := after
    subst target
    exact (plainMove_relisten move).elim
  | finished state move =>
    have target : state = .listen := after
    subst target
    exact (finMove_relisten move).elim
  | same | received | acknowledged | rstSent => exact absurd after before
  | answered | dropped | expired => cases after

theorem handled_endpoint (handled : Handled s next) :
    next.listenEndpoint = s.listenEndpoint ∨ next.listenEndpoint = ⟨none,0⟩ := by
  cases handled with
  | expired => exact .inr rfl
  | same | answered | moved | finished | dropped | relistened | received | acknowledged | rstSent => exact .inl rfl

-- From Listen every move but the answer to a SYN leads to Closed.
theorem plainMove_listen (move : PlainMove .listen state = true) : state = .closed := by
  cases state <;> first | rfl | cases move

theorem handled_peer (handled : Handled s next) (before : s.state = .listen ∨ s.tuple.isSome = true) :
    next.state = .listen ∨ next.state = .closed ∨ next.tuple.isSome = true := by
  cases handled with
  | answered => exact .inr (.inr rfl)
  | moved state move =>
    rcases before with listening | known
    · rw [listening] at move
      exact .inr (.inl (plainMove_listen move))
    · exact .inr (.inr known)
  | finished state move =>
    rcases before with listening | known
    · rw [listening] at move
      cases move
    · exact .inr (.inr known)
  | relistened => exact .inl rfl
  | dropped | expired => exact .inr (.inl rfl)
  | rstSent closed => exact .inr (.inl closed)
  | same | received | acknowledged => exact before.imp_right .inr

theorem processed_listen : ListenLaws Processed where
  relisten := fun _ _ taken => handled_relisten taken.handled
  endpoint := fun _ _ taken => handled_endpoint taken.handled
  peer := fun _ _ taken => handled_peer taken.handled

namespace Controls
-- A handle that has listened before, and the two SYNs that cross on the wire.
def used : Socket := {Socket.fresh 4 4 with listenEndpoint := ⟨none,80⟩}
def source (_ : IpAddress) : Option IpAddress := some Smoltcp.Controls.peer.nearEnd.addr
def requested : Socket := (TcpSocket.connect source Smoltcp.Controls.peer.remote 58026 used).2
def crossed : Socket := process (TcpSocket.connectWait 7 requested).2 (.syn Smoltcp.Controls.peer)
def opened : Machine := ⟨process crossed .ack,true⟩

def listening : Socket := (TcpSocket.accept ⟨none,80⟩ (Socket.fresh 4 4)).2
def greeted : Socket := process listening (.syn Smoltcp.Controls.peer)
def accepted : Machine := ⟨process greeted .ack,true⟩
def dropped : Machine := ⟨process accepted.socket .rst,true⟩
end Controls

theorem simultaneous_open_connects : (TcpSocket.connectWait 7 Controls.opened.socket).1 = .ready (.ok ()) ∧
    Controls.opened.handshaken = true ∧
    (Controls.opened.socket.state = .established ∨ Controls.opened.socket.state = .closeWait) := by
  have issued : TcpSocket.connect Controls.source Smoltcp.Controls.peer.remote 58026 Controls.used =
      (.ok (),Controls.requested) := rfl
  have polled : Step (TcpSocket.connectWait 7) Processed (start Controls.requested) .poll
      ⟨(TcpSocket.connectWait 7 Controls.requested).2,false⟩ := ⟨True.intro,rfl⟩
  have syn : Step (TcpSocket.connectWait 7) Processed ⟨(TcpSocket.connectWait 7 Controls.requested).2,false⟩
      (.net Controls.crossed) ⟨Controls.crossed,false⟩ := ⟨⟨.syn Smoltcp.Controls.peer,rfl⟩,rfl⟩
  have ack : Step (TcpSocket.connectWait 7) Processed ⟨Controls.crossed,false⟩ (.net Controls.opened.socket)
      Controls.opened := ⟨⟨.ack,rfl⟩,rfl⟩
  have path := ((Runs.one polled).step syn).step ack
  have reports := connect_reports_the_handshake processed_tcp processed_listen Controls.used issued path
  exact ⟨rfl,reports.2.2.1 rfl⟩

-- The states between Listen and the peer's own end of the connection.
def Answering : State → Bool
  | .listen | .synReceived | .established | .closeWait | .closed => true
  | _ => false

structure Accepting (m : Machine) : Prop where
  answering : Answering m.socket.state = true
  peer : m.socket.state = .listen ∨ m.socket.state = .closed ∨ m.socket.tuple.isSome = true

theorem answering_transition (before : Answering s = true) (edge : Transition s next = true) : Answering next = true := by
  cases s <;> cases next <;> simp_all [Answering,Transition]

theorem accepting_network {net : Socket → Socket → Prop} (laws : TcpLaws net) (listens : ListenLaws net)
    {m : Machine} (valid : Accepting m) (taken : net m.socket next) : Accepting ⟨next,handshaken⟩ := by
  refine ⟨?_,?_⟩
  · rcases laws.transition _ _ taken with same | edge
    · rw [same]; exact valid.answering
    · exact answering_transition valid.answering edge
  · rcases valid.peer with listening | closed | known
    · exact listens.peer _ _ taken (.inl listening)
    · exact .inr (.inl (laws.closedLaws.closed _ _ taken closed))
    · exact listens.peer _ _ taken (.inr known)

theorem accepting_step {net : Socket → Socket → Prop} (laws : TcpLaws net) (listens : ListenLaws net)
    (m : Machine) (event : Event) (next : Machine) (valid : Accepting m)
    (step : Step (TcpSocket.acceptWait cx) net m event next) : Accepting next := by
  obtain ⟨admitted,equal⟩ := step
  subst equal
  cases event with
  | poll =>
    simp only [advance]
    rcases acceptWait_registers cx m.socket with same | registered
    · rw [same]; exact valid
    · rw [registered]; exact ⟨valid.answering,valid.peer⟩
  | net socket => exact accepting_network laws listens valid admitted

theorem issued_accepting (issued : TcpSocket.accept endpoint s = (.ok (),first)) : first.state = .listen := by
  have spec := TcpSocket.accept_spec endpoint s
  rw [issued] at spec
  cases spec with
  | again listens => exact listens
  | issued => rfl

-- Ok stands for a connection with a peer; one that was reset meanwhile is an error.
def Live (cx : Waker) (m : Machine) : Prop :=
  ((TcpSocket.acceptWait cx m.socket).1 = .ready (.ok ()) →
    m.socket.remoteEndpoint.isSome = true ∧ (m.socket.state = .established ∨ m.socket.state = .closeWait)) ∧
  (m.handshaken = true → m.socket.state = .closed →
    (TcpSocket.acceptWait cx m.socket).1 = .ready (.error .connectionReset))

theorem accept_live_exactly_unless_closed {net : Socket → Socket → Prop} (laws : TcpLaws net)
    (listens : ListenLaws net) (s : Socket) (issued : TcpSocket.accept endpoint s = (.ok (),first))
    (path : Runs (Step (TcpSocket.acceptWait cx) net) (start first) events m) :
    Live cx m ↔ m.socket.state ≠ .closed := by
  have begins : Accepting (start first) := by
    have listening := issued_accepting issued
    exact ⟨by simp [start,listening,Answering],.inl listening⟩
  have valid : Accepting m := path.invariant (accepting_step laws listens) begins
  have answering := valid.answering
  have peer := valid.peer
  unfold Live
  cases state : m.socket.state with
  | listen | synReceived => simp [TcpSocket.acceptWait,state]
  | established | closeWait =>
    have known : m.socket.remoteEndpoint.isSome = true := by simpa [Socket.remoteEndpoint,state] using peer
    simp [TcpSocket.acceptWait,state,known]
  | closed => simp [TcpSocket.acceptWait,state]
  | synSent | finWait1 | finWait2 | closing | lastAck | timeWait =>
    rw [state] at answering
    cases answering

namespace Controls
theorem client_accepted : Runs (Step (TcpSocket.acceptWait 7) Processed) (start listening)
    [.net greeted,.net accepted.socket] accepted := by
  have syn : Step (TcpSocket.acceptWait 7) Processed (start listening) (.net greeted) ⟨greeted,false⟩ :=
    ⟨⟨.syn Smoltcp.Controls.peer,rfl⟩,rfl⟩
  have ack : Step (TcpSocket.acceptWait 7) Processed ⟨greeted,false⟩ (.net accepted.socket) accepted :=
    ⟨⟨.ack,rfl⟩,rfl⟩
  exact (Runs.one syn).step ack
end Controls

theorem established_client_live : Live 7 Controls.accepted ∧
    (TcpSocket.acceptWait 7 Controls.accepted.socket).1 = .ready (.ok ()) := by
  have issued : TcpSocket.accept ⟨none,80⟩ (Socket.fresh 4 4) = (.ok (),Controls.listening) := rfl
  have live := accept_live_exactly_unless_closed processed_tcp processed_listen _ issued Controls.client_accepted
  exact ⟨live.mpr (by decide),rfl⟩

-- The client resets the connection before the task is polled.
theorem reset_client_not_live : ¬ ∀ (s first : Socket) (events : List Event) (m : Machine),
    TcpSocket.accept ⟨none,80⟩ s = (.ok (),first) →
    Runs (Step (TcpSocket.acceptWait 7) Processed) (start first) events m → Live 7 m := by
  intro claimed
  have reset : Step (TcpSocket.acceptWait 7) Processed Controls.accepted (.net Controls.dropped.socket) Controls.dropped :=
    ⟨⟨.rst,rfl⟩,rfl⟩
  have live := claimed (Socket.fresh 4 4) Controls.listening _ _ rfl (Controls.client_accepted.step reset)
  exact absurd (live.2 rfl rfl) (by decide)

end Ra6m3Rtic.Handshake
