import Ra6m3Rtic.Shutdown

namespace Ra6m3Rtic.Http
open Smoltcp LabelledRuns Shutdown

-- The `http` task around its one socket. `serve` is picoserve at work: it polls
-- futures of the two halves as it likes and ends the connection by one call of
-- `Socket::shutdown` or `Socket::abort`.
inductive Pc where
  | accept
  | acceptWait
  | serve
  | ending (pc : Shutdown.Pc)
  | panicked
  deriving DecidableEq

structure Machine where
  pc : Pc
  socket : Socket
  deriving DecidableEq

inductive Event where
  | run (expired : Bool)
  | io (memory : Memory) (f : Future Unit)
  | finish (gracefully : Bool)
  | net (next : Socket)

def httpPort : IpListenEndpoint := ⟨none,80⟩

-- `unwrap` panics on an error; whatever `serve` returns is only logged, and the
-- `TcpSocket` made for the next round is the same smoltcp socket.
def resume (cx : Waker) (buf : List UInt8) (expired : Bool) (s : Socket) : Pc → Option Machine
  | .accept =>
    match TcpSocket.accept httpPort s with
    | (.ok (),next) => some ⟨.acceptWait,next⟩
    | (.error _,next) => some ⟨.panicked,next⟩
  | .acceptWait =>
    match TcpSocket.acceptWait cx s with
    | (.ready (.ok ()),next) => some ⟨.serve,next⟩
    | (.ready (.error _),next) | (.panicked,next) => some ⟨.panicked,next⟩
    | (.pending,next) => some ⟨.acceptWait,next⟩
  | .ending (.done _) => some ⟨.accept,s⟩
  | .ending pc =>
    let out := Shutdown.resume cx buf expired s pc
    some ⟨.ending out.1,out.2⟩
  | .serve | .panicked => none

def advance (cx : Waker) (buf : List UInt8) (m : Machine) : Event → Option Machine
  | .run expired => resume cx buf expired m.socket m.pc
  | .io memory f => if m.pc = .serve then some ⟨.serve,(f.poll cx memory m.socket).socket⟩ else none
  | .finish gracefully => if m.pc = .serve then some ⟨.ending (if gracefully then .close else .abort),m.socket⟩ else none
  | .net next => some {m with socket := next}

def Admitted (net : Socket → Socket → Prop) (m : Machine) : Event → Prop
  | .net next => net m.socket next
  | .run _ | .io _ _ | .finish _ => True

def Step (net : Socket → Socket → Prop) (cx : Waker) (buf : List UInt8) (m : Machine) (event : Event)
    (next : Machine) : Prop := Admitted net m event ∧ advance cx buf m event = some next

def start (rxCapacity txCapacity : Nat) : Machine := ⟨.accept,.fresh rxCapacity txCapacity⟩

-- No timeout of the shutdown fires while the socket is still open.
def patient (m : Machine) : Event → Bool
  | .run true =>
    match m.pc with
    | .ending (.readTimer _) | .ending .flushTimer => !m.socket.isOpen
    | _ => true
  | _ => true

def PatientStep (net : Socket → Socket → Prop) (cx : Waker) (buf : List UInt8) (m : Machine) (event : Event)
    (next : Machine) : Prop := Step net cx buf m event next ∧ patient m event = true

-- `accept` finds the socket in Closed or TimeWait, and so the task goes on.
def Reusable (m : Machine) : Prop :=
  (m.pc = .accept → m.socket.state = .closed ∨ m.socket.state = .timeWait) ∧ m.pc ≠ .panicked

def Standing (s : Socket) : Pc → Prop
  | .accept | .ending (.done _) => s.isOpen = false
  | .acceptWait => True
  | .serve => Accepted s.state = true
  | .ending pc => Phase pc s.state = true
  | .panicked => False

structure Invariant (m : Machine) : Prop where
  fin : FinRecorded m.socket
  standing : Standing m.socket m.pc

theorem shut_iff {s : Socket} : s.isOpen = false ↔ s.state = .closed ∨ s.state = .timeWait := by
  cases state : s.state <;> simp [Socket.isOpen,state]

theorem invariant_network {net : Socket → Socket → Prop} (laws : TcpLaws net) {m : Machine} (valid : Invariant m)
    (taken : net m.socket next) : Invariant {m with socket := next} := by
  refine ⟨finRecorded_network laws taken valid.fin,?_⟩
  obtain ⟨pc,socket⟩ := m
  have standing := valid.standing
  cases pc with
  | accept => exact laws.closedLaws.not_open taken standing
  | acceptWait => exact True.intro
  | serve =>
    have accepted : Phase .close socket.state = true := standing
    exact phase_network laws taken accepted
  | ending pc =>
    cases pc with
    | done result => exact laws.closedLaws.not_open taken standing
    | close | read | readTimer | txFlush | suspended | abort | flush | flushTimer | flushSuspended =>
      exact phase_network laws taken standing
  | panicked => exact standing.elim

-- `listen` on a socket that is not open cannot fail: the port is not 0.
theorem accept_shut {s : Socket} (shut : s.isOpen = false) : TcpSocket.accept httpPort s =
    (.ok (),({s.reset with listenEndpoint := httpPort} : Socket).setState .listen) := by
  rw [TcpSocket.accept,Socket.listens.listening s httpPort (by decide) shut]

theorem accept_open {s : Socket} (isOpen : s.isOpen = true) (other : s.state ≠ .listen) :
    TcpSocket.accept httpPort s = (.error .invalidState,s) := by
  rw [TcpSocket.accept,Socket.listens.inUse s httpPort (by decide) isOpen (fun same => other same.1)]

-- Every way out of the two calls: an error of the drain means that the
-- connection is gone, a timeout is where the guard is needed.
theorem ending_standing (resumed : Resumed cx s expired pc out) (live : ∀ result, pc ≠ .done result)
    (fin : FinRecorded s) (standing : Standing s (.ending pc))
    (waits : expired = true → (∃ flushed, pc = .readTimer flushed) ∨ pc = .flushTimer → s.isOpen = false) :
    Standing out.2 (.ending out.1) := by
  have phase : Phase pc s.state = true := by
    cases pc with
    | done result => exact absurd rfl (live result)
    | close | read | readTimer | txFlush | suspended | abort | flush | flushTimer | flushSuspended => exact standing
  have after := resumed.phase phase
  cases resumed with
  | reset ended none =>
    have gone : s.state = .closed := by
      cases state : s.state <;> simp_all [Phase,LocallyClosed,Socket.mayRecv,FinRecorded,PeerClosed]
    exact shut_iff.mpr (.inl gone)
  | readTimeout => exact waits rfl (.inl ⟨_,rfl⟩)
  | writeTimeout => exact waits rfl (.inr rfl)
  | flushed idle =>
    rcases flush_ready phase idle with waiting | ⟨closed,_⟩
    · exact shut_iff.mpr (.inr waiting)
    · exact shut_iff.mpr (.inl closed)
  | close | wait | octets | finished | readFirst | readAgain | sending | sent | repoll => exact after
  | abort | flushing | flushTimed | flushRepoll => exact after

theorem resume_ending (live : ∀ result, pc ≠ .done result) : resume cx buf expired s (.ending pc) =
    some ⟨.ending (Shutdown.resume cx buf expired s pc).1,(Shutdown.resume cx buf expired s pc).2⟩ := by
  cases pc with
  | done result => exact absurd rfl (live result)
  | close | read | readTimer | txFlush | suspended | abort | flush | flushTimer | flushSuspended => rfl

theorem patient_waits (allowed : patient ⟨.ending pc,s⟩ (.run expired) = true) (late : expired = true)
    (timer : (∃ flushed, pc = .readTimer flushed) ∨ pc = .flushTimer) : s.isOpen = false := by
  subst late
  rcases timer with ⟨flushed,at_⟩ | at_
  · subst at_; simpa [patient] using allowed
  · subst at_; simpa [patient] using allowed

theorem ending_invariant {m : Machine} (some : buf ≠ []) (at_ : m.pc = .ending pc) (valid : Invariant m)
    (allowed : patient m (.run expired) = true) (ran : resume cx buf expired m.socket m.pc = Option.some next) :
    Invariant next := by
  obtain ⟨_,socket⟩ := m
  subst at_
  by_cases live : ∀ result, pc ≠ .done result
  · rw [resume_ending live] at ran
    cases Option.some.inj ran
    have resumed := @resume_spec buf pc cx expired some socket live
    exact ⟨resumed.finRecorded valid.fin,
      ending_standing resumed live valid.fin valid.standing (fun late timer => patient_waits allowed late timer)⟩
  · simp only [not_forall,Classical.not_not] at live
    obtain ⟨result,returned⟩ := live
    subst returned
    cases Option.some.inj ran
    exact ⟨valid.fin,valid.standing⟩

theorem acceptWait_invariant {s : Socket} (valid : FinRecorded s)
    (ran : resume cx buf expired s .acceptWait = some next) : Invariant next := by
  have waiting : FinRecorded (s.registerSendWaker cx) := valid
  simp only [resume,TcpSocket.acceptWait] at ran
  cases state : s.state with
  | listen | synSent | synReceived =>
    simp only [state] at ran
    cases Option.some.inj ran
    exact ⟨waiting,True.intro⟩
  | closed | established | finWait1 | finWait2 | closeWait | closing | lastAck | timeWait =>
    simp only [state] at ran
    cases Option.some.inj ran
    exact ⟨valid,by simp [Standing,state,Accepted]⟩

theorem run_invariant {m : Machine} (some : buf ≠ []) (valid : Invariant m)
    (allowed : patient m (.run expired) = true) (ran : resume cx buf expired m.socket m.pc = Option.some next) :
    Invariant next := by
  cases at_ : m.pc with
  | accept =>
    have shut : m.socket.isOpen = false := by simpa [Standing,at_] using valid.standing
    simp only [at_,resume,accept_shut shut] at ran
    cases Option.some.inj ran
    exact ⟨fun peer => (by cases peer),True.intro⟩
  | acceptWait =>
    rw [at_] at ran
    exact acceptWait_invariant valid.fin ran
  | serve => rw [at_] at ran; cases ran
  | ending pc => exact ending_invariant some at_ valid allowed ran
  | panicked => rw [at_] at ran; cases ran

theorem io_invariant {m : Machine} (valid : Invariant m)
    (ran : advance cx buf m (.io memory f) = some next) : Invariant next := by
  simp only [advance] at ran
  split at ran
  · rename_i serving
    cases Option.some.inj ran
    have touched := Future.poll_touched cx memory m.socket f
    have accepted : Accepted m.socket.state = true := by simpa [Standing,serving] using valid.standing
    refine ⟨finRecorded_touched valid.fin touched,?_⟩
    change Accepted _ = true
    rw [touched.state]
    exact accepted
  · cases ran

theorem finish_invariant {m : Machine} (valid : Invariant m)
    (ran : advance cx buf m (.finish gracefully) = some next) : Invariant next := by
  simp only [advance] at ran
  split at ran
  · rename_i serving
    cases Option.some.inj ran
    have accepted : Accepted m.socket.state = true := by simpa [Standing,serving] using valid.standing
    refine ⟨valid.fin,?_⟩
    cases gracefully with
    | true => exact accepted
    | false => rfl
  · cases ran

theorem patient_invariant {net : Socket → Socket → Prop} (laws : TcpLaws net) (some : buf ≠ []) (m : Machine)
    (event : Event) (next : Machine) (valid : Invariant m) (step : PatientStep net cx buf m event next) :
    Invariant next := by
  obtain ⟨⟨admitted,ran⟩,allowed⟩ := step
  cases event with
  | run expired => exact run_invariant some valid allowed ran
  | io memory f => exact io_invariant valid ran
  | finish gracefully => exact finish_invariant valid ran
  | net socket =>
    cases Option.some.inj ran
    exact invariant_network laws valid admitted

theorem Invariant.reusable {m : Machine} (valid : Invariant m) : Reusable m := by
  refine ⟨?_,?_⟩
  · intro at_
    exact shut_iff.mp (by simpa [Standing,at_] using valid.standing)
  · intro at_
    have standing := valid.standing
    rw [at_] at standing
    exact standing

theorem patient_refused {m : Machine} (refused : patient m event = false) : event = .run true ∧
    m.socket.isOpen = true ∧ ((∃ flushed, m.pc = .ending (.readTimer flushed)) ∨ m.pc = .ending .flushTimer) := by
  unfold patient at refused
  split at refused
  · split at refused
    · rename_i flushed at_
      exact ⟨rfl,by simpa using refused,.inl ⟨flushed,at_⟩⟩
    · rename_i at_
      exact ⟨rfl,by simpa using refused,.inr at_⟩
    · cases refused
  · cases refused

theorem locallyClosed_not_listen (closed : LocallyClosed state = true) : state ≠ .listen := by
  intro same
  rw [same] at closed
  cases closed

theorem bothClosed_not_listen (closed : BothClosed state = true) : state ≠ .listen := by
  intro same
  rw [same] at closed
  cases closed

-- `serve` has returned on an open socket: the next two sections of the task are
-- the top of the loop and the `accept` that panics.
theorem open_panics {net : Socket → Socket → Prop} (isOpen : s.isOpen = true) (other : s.state ≠ .listen) :
    ∃ last, Runs (Step net cx buf) ⟨.ending (.done result),s⟩ [.run false,.run false] last ∧ last.pc = .panicked := by
  have top : Step net cx buf ⟨.ending (.done result),s⟩ (.run false) ⟨.accept,s⟩ := ⟨True.intro,rfl⟩
  have panics : Step net cx buf ⟨.accept,s⟩ (.run false) ⟨.panicked,s⟩ := by
    refine ⟨True.intro,?_⟩
    simp [advance,resume,accept_open isOpen other]
  exact ⟨⟨.panicked,s⟩,.step (.one top) panics,rfl⟩

theorem impatient_panics {net : Socket → Socket → Prop} {m : Machine} (valid : Invariant m)
    (step : Step net cx buf m event next) (refused : patient m event = false) :
    ∃ last, Runs (Step net cx buf) next [.run false,.run false] last ∧ last.pc = .panicked := by
  obtain ⟨pc,socket⟩ := m
  obtain ⟨_,ran⟩ := step
  obtain ⟨late,isOpen,timer⟩ := patient_refused refused
  subst late
  have standing := valid.standing
  rcases timer with ⟨flushed,at_⟩ | at_
  · cases at_
    cases Option.some.inj ran
    exact open_panics isOpen (locallyClosed_not_listen standing)
  · cases at_
    cases Option.some.inj ran
    exact open_panics isOpen (bothClosed_not_listen standing)

theorem accept_reusable_exactly_when_patient {net : Socket → Socket → Prop} (laws : TcpLaws net) (some : buf ≠ [])
    (path : Runs (PatientStep net cx buf) (start rxCapacity txCapacity) events m) :
    Reusable m ∧ ∀ event next, Step net cx buf m event next → patient m event = false →
      ∃ last, Runs (Step net cx buf) next [.run false,.run false] last ∧ last.pc = .panicked := by
  have begins : Invariant (start rxCapacity txCapacity) := ⟨fun peer => (by cases peer),rfl⟩
  have valid := path.invariant (patient_invariant laws some) begins
  exact ⟨valid.reusable,fun _ _ step refused => impatient_panics valid step refused⟩

inductive Choice where
  | run (expired : Bool)
  | finish (gracefully : Bool)
  | net (event : NetEvent)

def choose (m : Machine) : Choice → Event
  | .run expired => .run expired
  | .finish gracefully => .finish gracefully
  | .net event => .net (process m.socket event)

theorem choose_admitted (m : Machine) (choice : Choice) : Admitted Processed m (choose m choice) := by
  cases choice with
  | run | finish => exact True.intro
  | net event => exact ⟨event,rfl⟩

theorem play_sound (played : run (fun m choice => advance cx buf m (choose m choice)) m choices = some next) :
    ∃ events, Runs (Step Processed cx buf) m events next :=
  run_sound (fun m choice _ ran => ⟨choose_admitted m choice,ran⟩) played

theorem play_patient
    (played : run (fun m choice => guarded patient (advance cx buf) m (choose m choice)) m choices = some next) :
    ∃ events, Runs (PatientStep Processed cx buf) m events next := by
  refine run_sound ?_ played
  intro m choice next ran
  obtain ⟨allowed,ran⟩ := guarded_some ran
  exact ⟨⟨choose_admitted m choice,ran⟩,allowed⟩

namespace Controls
def client : Tuple := ⟨⟨.v4 192 168 69 100,80⟩,⟨.v4 192 168 69 20,50000⟩⟩
-- A client connects, picoserve shuts the connection down, and our FIN is acknowledged.
def served : List Choice :=
  [.run false,.net (.syn client),.net .ack,.run false,.finish true,.run false,.net .finAcked,.run false]
-- It closes its half in time, or never does.
def closes : List Choice := served ++ [.net .fin,.run true,.run false]
def lingers : List Choice := served ++ [.run true,.run false]
end Controls

theorem closing_client_reusable : ∃ events m, Runs (PatientStep Processed 7 [0]) (start 4 4) events m ∧
    m.pc = .accept ∧ (m.socket.state = .closed ∨ m.socket.state = .timeWait) := by
  have played : run (fun m choice => guarded patient (advance 7 [0]) m (choose m choice)) (start 4 4)
      Controls.closes = some _ := rfl
  obtain ⟨events,path⟩ := play_patient played
  have reusable := (accept_reusable_exactly_when_patient processed_tcp (by decide) path).1
  exact ⟨events,_,path,rfl,reusable.1 rfl⟩

-- A client that keeps its half open: the read timeout ends the shutdown in
-- FinWait2 and the loop comes back to `accept` with an open socket.
theorem lingering_client_not_reusable : ¬ ∀ (events : List Event) (m : Machine),
    Runs (Step Processed 7 [0]) (start 4 4) events m → Reusable m := by
  intro claimed
  have played : run (fun m choice => advance 7 [0] m (choose m choice)) (start 4 4) Controls.lingers = some _ := rfl
  obtain ⟨events,path⟩ := play_sound played
  exact absurd ((claimed _ _ path).1 rfl) (by decide)

end Ra6m3Rtic.Http
