import Ra6m3Rtic.SocketStreams

namespace Ra6m3Rtic.Shutdown
open Smoltcp LabelledRuns

inductive PicoserveError where
  | badRequest
  | read (e : Error)
  | write (e : Error)
  | readTimeout
  | writeTimeout
  deriving DecidableEq, Repr

-- `Socket::shutdown` from `close`, `Socket::abort` from `abort`: the places
-- between two critical sections. `flushed` says that the flush raced against
-- the draining of the receive half has completed and only waits from then on.
inductive Pc where
  | close
  | read (flushed : Bool)
  | readTimer (flushed : Bool)
  | txFlush
  | suspended (flushed : Bool)
  | abort
  | flush
  | flushTimer
  | flushSuspended
  | done (result : Except PicoserveError Unit)
  deriving DecidableEq

-- `discard_all_data` reads into `buf` until it is told 0; `run_with_timeout`
-- polls its future first and looks at the timer, `expired`, when that is Pending.
def resume (cx : Waker) (buf : List UInt8) (expired : Bool) (s : Socket) : Pc → Pc × Socket
  | .close => (.read false,s.close)
  | .read flushed =>
    match SocketInner.read cx buf s with
    | (.ready (.ok 0),_,next) => (.flush,next)
    | (.ready (.ok (_+1)),_,next) => (.read flushed,next)
    | (.ready (.error e),_,next) => (.done (.error (.read e)),next)
    | (.pending,_,next) => (.readTimer flushed,next)
    | (.panicked,_,next) => (.read flushed,next)
  | .readTimer flushed =>
    if expired then (.done (.error .readTimeout),s) else if flushed then (.suspended true,s) else (.txFlush,s)
  | .txFlush =>
    match SocketInner.flush cx s with
    | (.ready (.ok ()),next) => (.suspended true,next)
    | (.ready (.error e),next) => (.done (.error (.write e)),next)
    | (.pending,next) => (.suspended false,next)
    | (.panicked,next) => (.txFlush,next)
  | .suspended flushed => (.read flushed,s)
  | .abort => (.flush,s.abort)
  | .flush =>
    match SocketInner.flush cx s with
    | (.ready (.ok ()),next) => (.done (.ok ()),next)
    | (.ready (.error e),next) => (.done (.error (.write e)),next)
    | (.pending,next) => (.flushTimer,next)
    | (.panicked,next) => (.flush,next)
  | .flushTimer => if expired then (.done (.error .writeTimeout),s) else (.flushSuspended,s)
  | .flushSuspended => (.flush,s)
  | .done result => (.done result,s)

-- Every section of the two calls, with what it has found out.
inductive Resumed (cx : Waker) (s : Socket) : Bool → Pc → Pc × Socket → Prop where
  | close : Resumed cx s e .close (.read false,s.close)
  | wait (receiving : s.mayRecv = true) (dry : s.rx.data = []) :
      Resumed cx s e (.read flushed) (.readTimer flushed,s.registerRecvWaker cx)
  | octets (n : Nat) (some : 0 < n) (within : n ≤ s.rx.data.length) :
      Resumed cx s e (.read flushed) (.read flushed,{s with rx := s.rx.dequeue n})
  | finished (ended : s.mayRecv = false) (fin : s.rxFinReceived = true) : Resumed cx s e (.read flushed) (.flush,s)
  | reset (ended : s.mayRecv = false) (fin : s.rxFinReceived = false) :
      Resumed cx s e (.read flushed) (.done (.error (.read .connectionReset)),s)
  | readTimeout : Resumed cx s true (.readTimer flushed) (.done (.error .readTimeout),s)
  | readFirst : Resumed cx s false (.readTimer false) (.txFlush,s)
  | readAgain : Resumed cx s false (.readTimer true) (.suspended true,s)
  | sending : Resumed cx s e .txFlush (.suspended false,s.registerSendWaker cx)
  | sent : Resumed cx s e .txFlush (.suspended true,s)
  | repoll : Resumed cx s e (.suspended flushed) (.read flushed,s)
  | abort : Resumed cx s e .abort (.flush,s.abort)
  | flushing : Resumed cx s e .flush (.flushTimer,s.registerSendWaker cx)
  | flushed (idle : (SocketInner.dataPending s || SocketInner.finPending s || SocketInner.rstPending s) = false) :
      Resumed cx s e .flush (.done (.ok ()),s)
  | writeTimeout : Resumed cx s true .flushTimer (.done (.error .writeTimeout),s)
  | flushTimed : Resumed cx s false .flushTimer (.flushSuspended,s)
  | flushRepoll : Resumed cx s e .flushSuspended (.flush,s)

-- `discard_all_data` is told 0 only at the end of the stream, because its buffer
-- is not empty.
theorem resume_spec (some : buf ≠ []) (s : Socket) (live : ∀ result, pc ≠ .done result) :
    Resumed cx s expired pc (resume cx buf expired s pc) := by
  cases pc with
  | close => exact .close
  | read flushed =>
    have spec := SocketInner.read_spec cx buf s
    simp only [resume]
    generalize SocketInner.read cx buf s = out at spec
    cases spec with
    | empty _ none => exact absurd none some
    | wait receiving _ dry => exact .wait receiving dry
    | octets _ n size positive =>
      cases n with
      | zero => exact absurd positive (Nat.lt_irrefl _)
      | succ n => exact .octets (n+1) positive (by omega)
    | finished ended fin => exact .finished ended fin
    | reset ended fin => exact .reset ended fin
  | readTimer flushed =>
    cases expired with
    | true => exact .readTimeout
    | false =>
      cases flushed with
      | true => exact .readAgain
      | false => exact .readFirst
  | txFlush =>
    have spec := SocketInner.flush_spec cx s
    simp only [resume]
    generalize SocketInner.flush cx s = out at spec
    cases spec with
    | wait => exact .sending
    | flushed => exact .sent
  | suspended flushed => exact .repoll
  | abort => exact .abort
  | flush =>
    have spec := SocketInner.flush_spec cx s
    simp only [resume]
    generalize SocketInner.flush cx s = out at spec
    cases spec with
    | wait => exact .flushing
    | flushed idle => exact .flushed idle
  | flushTimer =>
    cases expired with
    | true => exact .writeTimeout
    | false => exact .flushTimed
  | flushSuspended => exact .flushRepoll
  | done result => exact absurd rfl (live result)

-- The states `accept` can hand over, those `close` leads to from there, and
-- those in which the peer's FIN has been taken after our own close.
def Accepted : State → Bool
  | .listen | .synSent | .synReceived => false
  | _ => true
def LocallyClosed : State → Bool
  | .finWait1 | .finWait2 | .closing | .lastAck | .timeWait | .closed => true
  | _ => false
def BothClosed : State → Bool
  | .closing | .lastAck | .timeWait | .closed => true
  | _ => false

def Phase : Pc → State → Bool
  | .close,state => Accepted state
  | .read _,state | .readTimer _,state | .txFlush,state | .suspended _,state => LocallyClosed state
  | .flush,state | .flushTimer,state | .flushSuspended,state => BothClosed state
  | .abort,_ | .done _,_ => true

theorem close_locallyClosed {s : Socket} (accepted : Accepted s.state = true) :
    LocallyClosed s.close.state = true := by
  cases state : s.state <;> simp_all [Accepted,LocallyClosed,Socket.close]

theorem finished_bothClosed {s : Socket} (closed : LocallyClosed s.state = true) (ended : s.mayRecv = false) :
    BothClosed s.state = true ∧ s.rx.data = [] := by
  cases state : s.state <;> simp_all [LocallyClosed,BothClosed,Socket.mayRecv,RingBuffer.isEmpty]

theorem Resumed.phase (spec : Resumed cx s expired pc out) (before : Phase pc s.state = true) :
    Phase out.1 out.2.state = true := by
  cases spec with
  | close => exact close_locallyClosed before
  | finished ended => exact (finished_bothClosed before ended).1
  | abort | reset | readTimeout | flushed | writeTimeout => rfl
  | wait | octets | readFirst | readAgain | sending | sent | repoll => exact before
  | flushing | flushTimed | flushRepoll => exact before

-- A peer that has closed is known to have: the FIN is on record.
def FinRecorded (s : Socket) : Prop := PeerClosed s.state = true → s.rxFinReceived = true

theorem finRecorded_touched (before : FinRecorded s) (touched : Touched cx s next) : FinRecorded next := by
  intro peer
  rw [touched.state] at peer
  exact touched.fin.trans (before peer)

theorem finRecorded_close (before : FinRecorded s) : FinRecorded s.close := by
  intro peer
  cases state : s.state <;> simp_all [Socket.close,FinRecorded,PeerClosed]

theorem Resumed.finRecorded (spec : Resumed cx s expired pc out) (before : FinRecorded s) : FinRecorded out.2 := by
  cases spec with
  | close => exact finRecorded_close before
  | abort => intro peer; cases peer
  | wait | octets | finished | reset | readTimeout | readFirst | readAgain | sending | sent | repoll => exact before
  | flushing | flushed | writeTimeout | flushTimed | flushRepoll => exact before

theorem finRecorded_network {net : Socket → Socket → Prop} (laws : TcpLaws net) (taken : net s next)
    (before : FinRecorded s) : FinRecorded next := by
  intro after
  cases peer : PeerClosed s.state with
  | false => exact laws.fin _ _ taken peer after
  | true =>
    rcases laws.ingress _ _ taken with emptied | ⟨_,kept⟩
    · rw [emptied.1] at after; cases after
    · exact kept (before peer)

theorem accepted_transition (before : Accepted s = true) (edge : Transition s next = true) : Accepted next = true := by
  cases s <;> cases next <;> simp_all [Accepted,Transition]

theorem locallyClosed_transition (before : LocallyClosed s = true) (edge : Transition s next = true) :
    LocallyClosed next = true := by
  cases s <;> cases next <;> simp_all [LocallyClosed,Transition]

theorem bothClosed_transition (before : BothClosed s = true) (edge : Transition s next = true) :
    BothClosed next = true := by
  cases s <;> cases next <;> simp_all [BothClosed,Transition]

theorem phase_transition (before : Phase pc s = true) (edge : Transition s next = true) : Phase pc next = true := by
  cases pc with
  | close => exact accepted_transition before edge
  | read | readTimer | txFlush | suspended => exact locallyClosed_transition before edge
  | flush | flushTimer | flushSuspended => exact bothClosed_transition before edge
  | abort | done => rfl

theorem phase_network {net : Socket → Socket → Prop} (laws : TcpLaws net) (taken : net s next)
    (before : Phase pc s.state = true) : Phase pc next.state = true := by
  rcases laws.transition _ _ taken with same | edge
  · rw [same]; exact before
  · exact phase_transition before edge

-- The octets that arrived and were drained since the call, whether the peer's
-- FIN has been seen, and the socket at the moment of the abort.
structure Machine where
  pc : Pc
  socket : Socket
  arrived : List UInt8
  drained : List UInt8
  fin : Bool
  aborted : Option Socket

def start (pc : Pc) (s : Socket) : Machine := ⟨pc,s,[],[],s.rxFinReceived,none⟩

inductive Event where
  | run (expired : Bool)
  | net (next : Socket)

def Machine.ran (m : Machine) (out : Pc × Socket) : Machine :=
  {m with
    pc := out.1
    socket := out.2
    drained := m.drained ++ removed m.socket out.2
    aborted := if m.pc = .abort then some m.socket else m.aborted}

def Machine.network (m : Machine) (next : Socket) : Machine :=
  {m with
    socket := next
    arrived := m.arrived ++ next.rx.data.drop m.socket.rx.data.length
    fin := m.fin || next.rxFinReceived}

-- The call has returned at `done`; nothing after that belongs to it.
def advance (cx : Waker) (buf : List UInt8) (m : Machine) (event : Event) : Option Machine :=
  match m.pc,event with
  | .done _,_ => none
  | _,.run expired => some (m.ran (resume cx buf expired m.socket m.pc))
  | _,.net next => some (m.network next)

def Admitted (net : Socket → Socket → Prop) (m : Machine) : Event → Prop
  | .run _ => True
  | .net next => net m.socket next

def Step (net : Socket → Socket → Prop) (cx : Waker) (buf : List UInt8) (m : Machine) (event : Event)
    (next : Machine) : Prop := Admitted net m event ∧ advance cx buf m event = some next

inductive Taken (net : Socket → Socket → Prop) (cx : Waker) (m : Machine) : Machine → Prop where
  | ran (resumed : Resumed cx m.socket expired m.pc out) : Taken net cx m (m.ran out)
  | network (live : ∀ result, m.pc ≠ .done result) (taken : net m.socket next) : Taken net cx m (m.network next)

theorem Step.taken {net : Socket → Socket → Prop} (some : buf ≠ []) (step : Step net cx buf m event next) :
    Taken net cx m next := by
  obtain ⟨admitted,ran⟩ := step
  unfold advance at ran
  split at ran
  · cases ran
  · rename_i live
    cases Option.some.inj ran
    exact .ran (resume_spec some m.socket live)
  · rename_i live
    cases Option.some.inj ran
    exact .network live admitted

-- Before the end of the stream: nothing is lost, unless the whole receive side
-- was, and then no end of stream will be reported any more.
def Wiped (s : Socket) : Prop := s.state = .closed ∧ s.rx.data = [] ∧ s.rxFinReceived = false

structure Draining (before : List UInt8) (m : Machine) : Prop where
  octets : Wiped m.socket ∨ before ++ m.arrived = m.drained ++ m.socket.rx.data
  fin : m.socket.rxFinReceived = true → m.fin = true

structure Drained (before : List UInt8) (m : Machine) : Prop where
  octets : before ++ m.arrived = m.drained
  dry : m.socket.rx.data = []
  fin : m.fin = true
  deaf : m.socket.rxFinReceived = true ∨ m.socket.state = .closed

theorem draining_network {net : Socket → Socket → Prop} (laws : TcpLaws net) (valid : Draining before m)
    (taken : net m.socket next) : Draining before (m.network next) := by
  refine ⟨?_,fun fin => by simp [Machine.network,show next.rxFinReceived = true from fin]⟩
  rcases valid.octets with ⟨closed,dry,fin⟩ | equal
  · have deaf := laws.deaf _ _ taken closed
    exact .inl ⟨laws.closedLaws.closed _ _ taken closed,deaf.1.trans dry,deaf.2.trans fin⟩
  · rcases laws.ingress _ _ taken with emptied | ⟨⟨arrived,ring,_⟩,_⟩
    · exact .inl ⟨emptied.1,emptied.2.1,emptied.2.2.1⟩
    · refine .inr ?_
      simp only [Machine.network,ring,List.drop_left]
      rw [← List.append_assoc,equal,List.append_assoc]

theorem drained_network {net : Socket → Socket → Prop} (laws : TcpLaws net) (valid : Drained before m)
    (taken : net m.socket next) : Drained before (m.network next) := by
  have quiet : next.rx.data = [] ∧ (next.rxFinReceived = true ∨ next.state = .closed) := by
    rcases laws.ingress _ _ taken with emptied | ⟨⟨arrived,ring,none⟩,fin⟩
    · exact ⟨emptied.2.1,.inr emptied.1⟩
    · rcases valid.deaf with received | closed
      · exact ⟨by rw [ring,valid.dry,none received]; rfl,.inl (fin received)⟩
      · exact ⟨(laws.deaf _ _ taken closed).1.trans valid.dry,.inr (laws.closedLaws.closed _ _ taken closed)⟩
  exact ⟨by simpa [Machine.network,quiet.1] using valid.octets,quiet.1,
    by simp [Machine.network,valid.fin],quiet.2⟩

def Octets (before : List UInt8) (m : Machine) : Prop :=
  match m.pc with
  | .close | .read _ | .readTimer _ | .txFlush | .suspended _ => Draining before m
  | .flush | .flushTimer | .flushSuspended | .done (.ok ()) => Drained before m
  | .done (.error _) => True
  | .abort => False

def Flushed (s : Socket) : Prop := s.state = .timeWait ∨ s.state = .closed ∧ s.remoteEndpoint = none

structure Invariant (before : List UInt8) (m : Machine) : Prop where
  phase : Phase m.pc m.socket.state = true
  octets : Octets before m
  flushed : m.pc = .done (.ok ()) → Flushed m.socket

theorem flush_ready {s : Socket} (both : BothClosed s.state = true)
    (idle : (SocketInner.dataPending s || SocketInner.finPending s || SocketInner.rstPending s) = false) :
    Flushed s := by
  simp only [Bool.or_eq_false_iff] at idle
  obtain ⟨⟨_,fin⟩,rst⟩ := idle
  cases state : s.state with
  | timeWait => exact .inl state
  | closed =>
    refine .inr ⟨state,?_⟩
    simpa [SocketInner.rstPending,state] using rst
  | closing | lastAck => simp [SocketInner.finPending,state] at fin
  | listen | synSent | synReceived | established | finWait1 | finWait2 | closeWait =>
    rw [state] at both
    cases both

-- A section that leaves the receive side as it is.
theorem draining_ran {m : Machine} {out : Pc × Socket} (valid : Draining before m) (rx : out.2.rx = m.socket.rx)
    (fin : out.2.rxFinReceived = m.socket.rxFinReceived)
    (state : m.socket.state = .closed → out.2.state = .closed) : Draining before (m.ran out) := by
  refine ⟨?_,fun received => valid.fin (fin.symm.trans received)⟩
  rcases valid.octets with ⟨closed,dry,none⟩ | equal
  · exact .inl ⟨state closed,(congrArg RingBuffer.data rx).trans dry,fin.trans none⟩
  · refine .inr ?_
    simpa [Machine.ran,removed,rx] using equal

theorem drained_ran {m : Machine} {out : Pc × Socket} (valid : Drained before m) (rx : out.2.rx = m.socket.rx)
    (fin : out.2.rxFinReceived = m.socket.rxFinReceived) (state : out.2.state = m.socket.state) :
    Drained before (m.ran out) := by
  refine ⟨?_,(congrArg RingBuffer.data rx).trans valid.dry,valid.fin,?_⟩
  · simpa [Machine.ran,removed,rx] using valid.octets
  · exact valid.deaf.imp fin.trans state.trans

theorem close_kept (s : Socket) : s.close.rx = s.rx ∧ s.close.rxFinReceived = s.rxFinReceived ∧
    (s.state = .closed → s.close.state = .closed) := by
  cases state : s.state <;> simp [Socket.close,state]

theorem octets_read {m : Machine} (valid : Draining before m) (some : 0 < n) (within : n ≤ m.socket.rx.data.length) :
    Draining before (m.ran (pc,{m.socket with rx := m.socket.rx.dequeue n})) := by
  refine ⟨?_,valid.fin⟩
  rcases valid.octets with ⟨_,dry,_⟩ | equal
  · rw [dry] at within
    exact absurd some (Nat.not_lt.mpr within)
  · refine .inr ?_
    simp only [Machine.ran,removed,RingBuffer.data_dequeue,List.length_drop,Nat.sub_sub_self within,List.append_assoc,
      List.take_append_drop]
    exact equal

-- The end of the stream: whatever was received has been drained.
theorem octets_finished {m : Machine} (valid : Draining before m) (dry : m.socket.rx.data = [])
    (fin : m.socket.rxFinReceived = true) : Drained before (m.ran (pc,m.socket)) := by
  refine ⟨?_,dry,valid.fin fin,.inl fin⟩
  rcases valid.octets with ⟨_,_,none⟩ | equal
  · rw [none] at fin; cases fin
  · simpa [Machine.ran,removed,dry] using equal

theorem octets_ran {m : Machine} (resumed : Resumed cx m.socket expired m.pc out)
    (phase : Phase m.pc m.socket.state = true) (valid : Octets before m) : Octets before (m.ran out) := by
  obtain ⟨pc,socket,arrived,drained,fin,aborted⟩ := m
  cases resumed with
  | close =>
    have kept := close_kept socket
    exact draining_ran valid kept.1 kept.2.1 kept.2.2
  | octets n some within => exact octets_read valid some within
  | finished ended fin => exact octets_finished valid (finished_bothClosed phase ended).2 fin
  | wait | readFirst | readAgain | sending | sent | repoll => exact draining_ran valid rfl rfl id
  | flushing | flushed | flushTimed | flushRepoll => exact drained_ran valid rfl rfl rfl
  | reset | readTimeout | writeTimeout => exact True.intro
  | abort => exact valid.elim

theorem octets_network {net : Socket → Socket → Prop} (laws : TcpLaws net) {m : Machine}
    (live : ∀ result, m.pc ≠ .done result) (valid : Octets before m) (taken : net m.socket next) :
    Octets before (m.network next) := by
  obtain ⟨pc,socket,arrived,drained,fin,aborted⟩ := m
  cases pc with
  | close | read | readTimer | txFlush | suspended => exact draining_network laws valid taken
  | flush | flushTimer | flushSuspended => exact drained_network laws valid taken
  | abort => exact valid.elim
  | done result => exact absurd rfl (live result)

theorem invariant_taken {net : Socket → Socket → Prop} (laws : TcpLaws net) (valid : Invariant before m)
    (taken : Taken net cx m next) : Invariant before next := by
  cases taken with
  | ran resumed =>
    refine ⟨resumed.phase valid.phase,octets_ran resumed valid.phase valid.octets,?_⟩
    intro returned
    obtain ⟨pc,socket,arrived,drained,fin,aborted⟩ := m
    cases resumed with
    | flushed idle => exact flush_ready valid.phase idle
    | _ => cases returned
  | network live taken =>
    exact ⟨phase_network laws taken valid.phase,octets_network laws live valid.octets taken,
      fun returned => absurd returned (live _)⟩

theorem shutdown_invariant {net : Socket → Socket → Prop} (laws : TcpLaws net) (some : buf ≠ [])
    (accepted : Accepted s.state = true) (path : Runs (Step net cx buf) (start .close s) events m) :
    Invariant s.rx.data m := by
  have octets : Octets s.rx.data (start .close s) := ⟨.inr (by simp [start]),id⟩
  have begins : Invariant s.rx.data (start .close s) := ⟨accepted,octets,fun returned => by cases returned⟩
  refine path.invariant ?_ begins
  intro m event next valid step
  exact invariant_taken laws valid (step.taken some)

-- What the socket owes the peer it was aborted against.
structure Owed (atAbort s : Socket) : Prop where
  closed : s.state = .closed
  tuple : s.tuple = atAbort.tuple ∧ atAbort.rstsSent ≤ s.rstsSent ∨ s.tuple = none ∧ atAbort.rstsSent < s.rstsSent

theorem Owed.network {net : Socket → Socket → Prop} (laws : TcpLaws net) (owed : Owed atAbort s)
    (taken : net s next) : Owed atAbort next := by
  refine ⟨laws.closedLaws.closed _ _ taken owed.closed,?_⟩
  have more := laws.rstsSent _ _ taken
  rcases laws.rst _ _ taken owed.closed with same | ⟨none,sent⟩
  · rw [same]
    rcases owed.tuple with ⟨equal,le⟩ | ⟨none,lt⟩
    · exact .inl ⟨equal,Nat.le_trans le more⟩
    · exact .inr ⟨none,Nat.lt_of_lt_of_le lt more⟩
  · refine .inr ⟨none,?_⟩
    rcases owed.tuple with ⟨_,le⟩ | ⟨_,lt⟩ <;> omega

theorem Owed.touched (owed : Owed atAbort s) (touched : Touched cx s next) : Owed atAbort next :=
  ⟨touched.state.trans owed.closed,by rw [touched.tuple,touched.rsts]; exact owed.tuple⟩

def AbortInvariant (m : Machine) : Prop :=
  match m.pc with
  | .abort => m.aborted = none
  | .flush | .flushTimer | .flushSuspended => ∃ atAbort, m.aborted = some atAbort ∧ Owed atAbort m.socket
  | .done (.error _) => True
  | .done (.ok ()) => (∃ atAbort, m.aborted = some atAbort ∧ Owed atAbort m.socket) ∧ m.socket.tuple = none
  | _ => False

theorem abort_taken {net : Socket → Socket → Prop} (laws : TcpLaws net) {m : Machine} (valid : AbortInvariant m)
    (taken : Taken net cx m next) : AbortInvariant next := by
  obtain ⟨pc,socket,arrived,drained,fin,aborted⟩ := m
  cases taken with
  | ran resumed =>
    cases resumed with
    | abort => exact ⟨socket,rfl,rfl,.inl ⟨rfl,Nat.le_refl _⟩⟩
    | flushing =>
      obtain ⟨atAbort,at_,owed⟩ := valid
      exact ⟨atAbort,at_,owed.touched (touched_sendWaker cx socket)⟩
    | flushed idle =>
      obtain ⟨atAbort,at_,owed⟩ := valid
      have closed : socket.state = .closed := owed.closed
      simp only [Bool.or_eq_false_iff] at idle
      have forgotten : socket.tuple = none := by
        simpa [SocketInner.rstPending,closed,Socket.remoteEndpoint] using idle.2
      exact ⟨⟨atAbort,at_,owed⟩,forgotten⟩
    | writeTimeout => exact True.intro
    | flushTimed | flushRepoll => exact valid
    | close | wait | octets | finished | reset => exact valid.elim
    | readTimeout | readFirst | readAgain | sending | sent | repoll => exact valid.elim
  | network live taken =>
    cases pc with
    | abort => exact valid
    | flush | flushTimer | flushSuspended =>
      obtain ⟨atAbort,at_,owed⟩ := valid
      exact ⟨atAbort,at_,owed.network laws taken⟩
    | done result => exact absurd rfl (live result)
    | close | read | readTimer | txFlush | suspended => exact valid.elim

theorem abort_invariant {net : Socket → Socket → Prop} (laws : TcpLaws net) (some : buf ≠ [])
    (path : Runs (Step net cx buf) (start .abort s) events m) : AbortInvariant m := by
  have begins : AbortInvariant (start .abort s) := rfl
  refine path.invariant ?_ begins
  intro m event next valid step
  exact abort_taken laws valid (step.taken some)

theorem acceptWait_accepted (handed : (TcpSocket.acceptWait cx s).1 = .ready (.ok ())) :
    Accepted s.state = true := by
  cases state : s.state <;> simp_all [TcpSocket.acceptWait,Accepted]

theorem flushed_finPending (flushed : Flushed s) : SocketInner.finPending s = false := by
  rcases flushed with waiting | ⟨closed,_⟩
  · simp [SocketInner.finPending,waiting]
  · simp [SocketInner.finPending,closed]

theorem shutdown_abort_postcondition {net : Socket → Socket → Prop} (laws : TcpLaws net) (some : buf ≠ []) :
    (∀ s events m, (TcpSocket.acceptWait cx s).1 = .ready (.ok ()) →
      Runs (Step net cx buf) (start .close s) events m → m.pc = .done (.ok ()) →
      (m.socket.state = .closed ∨ m.socket.state = .timeWait) ∧
      (s.rx.data ++ m.arrived = m.drained ∧ m.socket.rx.data = [] ∧ m.fin = true) ∧
      SocketInner.finPending m.socket = false ∧
      (m.socket.state = .closed → m.socket.remoteEndpoint = none)) ∧
    (∀ s events m, Runs (Step net cx buf) (start .abort s) events m → m.pc = .done (.ok ()) →
      m.socket.state = .closed ∧ m.socket.remoteEndpoint = none ∧
      ∃ atAbort, m.aborted = Option.some atAbort ∧
        (atAbort.tuple.isSome = true → atAbort.rstsSent < m.socket.rstsSent)) := by
  refine ⟨?_,?_⟩
  · intro s events m handed path returned
    have valid := shutdown_invariant laws some (acceptWait_accepted handed) path
    have flushed := valid.flushed returned
    have drained : Drained s.rx.data m := by simpa only [Octets,returned] using valid.octets
    refine ⟨?_,⟨drained.octets,drained.dry,drained.fin⟩,flushed_finPending flushed,?_⟩
    · exact flushed.elim .inr (fun closed => .inl closed.1)
    · intro closed
      rcases flushed with waiting | ⟨_,none⟩
      · rw [closed] at waiting; cases waiting
      · exact none
  · intro s events m path returned
    have valid := abort_invariant laws some path
    simp only [AbortInvariant,returned] at valid
    obtain ⟨⟨atAbort,at_,owed⟩,none⟩ := valid
    refine ⟨owed.closed,by simp [Socket.remoteEndpoint,none],atAbort,at_,?_⟩
    intro due
    rcases owed.tuple with ⟨same,_⟩ | ⟨_,sent⟩
    · rw [← same,none] at due; cases due
    · exact sent

-- Runs over the concrete network: a Bool is the call's own section.
def choose (m : Machine) : Bool ⊕ NetEvent → Event
  | .inl expired => .run expired
  | .inr event => .net (process m.socket event)

theorem play_sound (played : run (fun m choice => advance cx buf m (choose m choice)) m choices = some next) :
    ∃ events, Runs (Step Processed cx buf) m events next := by
  refine run_sound ?_ played
  intro m choice next ran
  refine ⟨?_,ran⟩
  cases choice with
  | inl expired => exact True.intro
  | inr event => exact ⟨event,rfl⟩

namespace Controls
-- The client sends one octet more and then closes.
def orderly : List (Bool ⊕ NetEvent) :=
  [.inl false,.inl false,.inl false,.inl false,.inr .finAcked,.inr (.octets [9]),.inr .fin,
    .inl false,.inl false,.inl false,.inl false]
-- The RST leaves while the flush waits for it.
def forced : List (Bool ⊕ NetEvent) := [.inl false,.inl false,.inl false,.inr .sendRst,.inl false,.inl false]
end Controls

theorem orderly_shutdown_and_abort :
    (∃ events m, Runs (Step Processed 7 [0]) (start .close (Smoltcp.Controls.connected .established)) events m ∧
      m.pc = .done (.ok ()) ∧ m.socket.state = .timeWait ∧ m.drained = [9] ∧ m.fin = true) ∧
    ∃ events m, Runs (Step Processed 7 [0]) (start .abort (Smoltcp.Controls.connected .established)) events m ∧
      m.pc = .done (.ok ()) ∧ m.socket.state = .closed ∧ m.socket.remoteEndpoint = none := by
  have laws := @shutdown_abort_postcondition [0] 7 Processed processed_tcp (by decide)
  have played : run (fun m choice => advance 7 [0] m (choose m choice))
      (start .close (Smoltcp.Controls.connected .established)) Controls.orderly = some _ := rfl
  obtain ⟨_,path⟩ := play_sound played
  have ended := laws.1 _ _ _ rfl path rfl
  have forced : run (fun m choice => advance 7 [0] m (choose m choice))
      (start .abort (Smoltcp.Controls.connected .established)) Controls.forced = some _ := rfl
  obtain ⟨_,other⟩ := play_sound forced
  have reset := laws.2 _ _ _ other rfl
  exact ⟨⟨_,_,path,rfl,rfl,ended.2.1.1.symm,ended.2.1.2.2⟩,⟨_,_,other,rfl,reset.1,reset.2.1⟩⟩

end Ra6m3Rtic.Shutdown
