import Ra6m3Rtic.SmoltcpNetwork
import Ra6m3Rtic.SmoltcpUser

namespace Ra6m3Rtic
open Smoltcp

inductive Error where
  | connectionReset
  deriving DecidableEq, Repr

inductive ConnectError where
  | invalidState | connectionReset | timedOut | noRoute
  deriving DecidableEq, Repr

inductive AcceptError where
  | invalidState | invalidPort | connectionReset
  deriving DecidableEq, Repr

-- `panicked` is a failed assertion or `unreachable!()`: the firmware halts.
inductive Poll (α : Type) where
  | pending
  | ready (value : α)
  | panicked
  deriving DecidableEq, Repr

-- Each function below is the closure one poll hands to `with_mut`; a poll is
-- one critical section. The request for a network poll that ends every
-- `with_mut` belongs to the handshake with the network poller.
namespace SocketInner

def pollReadReady (cx : Waker) (s : Socket) : Poll Unit × Socket :=
  if s.canRecv then (.ready (),s) else (.pending,s.registerRecvWaker cx)

def read (cx : Waker) (buf : List UInt8) (s : Socket) : Poll (Except Error Nat) × List UInt8 × Socket :=
  match s.recvSlice buf with
  | (.ok 0,after,next) =>
    if buf.isEmpty then (.ready (.ok 0),after,next) else (.pending,after,next.registerRecvWaker cx)
  | (.ok n,after,next) => (.ready (.ok n),after,next)
  | (.error .finished,after,next) => (.ready (.ok 0),after,next)
  | (.error .invalidState,after,next) => (.ready (.error .connectionReset),after,next)

def pollWriteReady (cx : Waker) (s : Socket) : Poll Unit × Socket :=
  if s.canSend then (.ready (),s) else (.pending,s.registerSendWaker cx)

def write (cx : Waker) (buf : List UInt8) (s : Socket) : Poll (Except Error Nat) × Socket :=
  match s.sendSlice buf with
  | (.ok 0,next) => (.pending,next.registerSendWaker cx)
  | (.ok n,next) => (.ready (.ok n),next)
  | (.error .invalidState,next) => (.ready (.error .connectionReset),next)

-- The state a `write_with` or `read_with` future is left in, with the calls of
-- its closure made by this poll.
structure PolledWith (ρ : Type) where
  poll : Poll (Except Error ρ)
  f : Option (Closure ρ)
  calls : List Invocation
  socket : Socket

def writeWith (cx : Waker) (run : Nat) (stale : Nat → UInt8) (f : Option (Closure ρ)) (s : Socket) : PolledWith ρ :=
  if !s.canSend then
    if s.maySend then ⟨.pending,f,[],s.registerSendWaker cx⟩
    else ⟨.ready (.error .connectionReset),f,[],s⟩
  else match f with
    | some f =>
      let sent := s.send run stale f
      let poll := match sent.result with
        | some (.error .invalidState) => .ready (.error .connectionReset)
        | some (.ok r) => .ready (.ok r)
        | none => .panicked
      ⟨poll,none,sent.calls,sent.socket⟩
    | none => ⟨.pending,none,[],s⟩

def readWith (cx : Waker) (run : Nat) (f : Option (Closure ρ)) (s : Socket) : PolledWith ρ :=
  if !s.canRecv then
    if s.mayRecv then ⟨.pending,f,[],s.registerRecvWaker cx⟩
    else ⟨.ready (.error .connectionReset),f,[],s⟩
  else match f with
    | some f =>
      let received := s.recv run f
      let poll := match received.result with
        | some (.error .finished) | some (.error .invalidState) => .ready (.error .connectionReset)
        | some (.ok r) => .ready (.ok r)
        | none => .panicked
      ⟨poll,none,received.calls,received.socket⟩
    | none => ⟨.pending,none,[],s⟩

def dataPending (s : Socket) : Bool := decide (0 < s.sendQueue) && s.state != .closed
def finPending (s : Socket) : Bool :=
  match s.state with
  | .finWait1 | .closing | .lastAck => true
  | _ => false
def rstPending (s : Socket) : Bool := s.state == .closed && s.remoteEndpoint.isSome

def flush (cx : Waker) (s : Socket) : Poll (Except Error Unit) × Socket :=
  if dataPending s || finPending s || rstPending s then (.pending,s.registerSendWaker cx)
  else (.ready (.ok ()),s)

end SocketInner

namespace TcpSocket

-- `connect` and `accept` are one section that issues the request and then a
-- wait, polled any number of times.
def connect (source : IpAddress → Option IpAddress) (remote : IpEndpoint) (localPort : UInt16) (s : Socket) :
    Except ConnectError Unit × Socket :=
  match s.connect source remote localPort with
  | (.ok (),next) => (.ok (),next)
  | (.error .invalidState,next) => (.error .invalidState,next)
  | (.error .unaddressable,next) => (.error .noRoute,next)

def connectWait (cx : Waker) (s : Socket) : Poll (Except ConnectError Unit) × Socket :=
  match s.state with
  | .closed | .timeWait => (.ready (.error .connectionReset),s)
  | .listen => (.panicked,s)
  | .synSent | .synReceived => (.pending,s.registerSendWaker cx)
  | _ => (.ready (.ok ()),s)

def accept (endpoint : IpListenEndpoint) (s : Socket) : Except AcceptError Unit × Socket :=
  match s.listen endpoint with
  | (.ok (),next) => (.ok (),next)
  | (.error .invalidState,next) => (.error .invalidState,next)
  | (.error .unaddressable,next) => (.error .invalidPort,next)

def acceptWait (cx : Waker) (s : Socket) : Poll (Except AcceptError Unit) × Socket :=
  match s.state with
  | .listen | .synSent | .synReceived => (.pending,s.registerSendWaker cx)
  | _ => (.ready (.ok ()),s)

end TcpSocket

-- The futures that poll in one critical section, with the state they keep
-- between two polls.
inductive Future (ρ : Type) where
  | readReady
  | read (buf : List UInt8)
  | writeReady
  | write (buf : List UInt8)
  | readWith (f : Option (Closure ρ))
  | writeWith (f : Option (Closure ρ))
  | flush
  | connect
  | accept

inductive Output (ρ : Type) where
  | readiness
  | count (result : Except Error Nat)
  | closure (result : Except Error ρ)
  | flushed (result : Except Error Unit)
  | connected (result : Except ConnectError Unit)
  | accepted (result : Except AcceptError Unit)

def Poll.map (f : α → β) : Poll α → Poll β
  | .pending => .pending
  | .ready value => .ready (f value)
  | .panicked => .panicked

structure Polled (ρ : Type) where
  poll : Poll (Output ρ)
  future : Future ρ
  calls : List Invocation
  socket : Socket

-- Where the rings wrap and what their free part holds when a poll runs.
structure Memory where
  run : Nat
  stale : Nat → UInt8

def Memory.blank : Memory := ⟨0,fun _ => 0⟩

def Future.poll (cx : Waker) (memory : Memory) (s : Socket) : Future ρ → Polled ρ
  | .readReady =>
    let out := SocketInner.pollReadReady cx s
    ⟨out.1.map (fun _ => .readiness),.readReady,[],out.2⟩
  | .read buf =>
    let out := SocketInner.read cx buf s
    ⟨out.1.map .count,.read out.2.1,[],out.2.2⟩
  | .writeReady =>
    let out := SocketInner.pollWriteReady cx s
    ⟨out.1.map (fun _ => .readiness),.writeReady,[],out.2⟩
  | .write buf =>
    let out := SocketInner.write cx buf s
    ⟨out.1.map .count,.write buf,[],out.2⟩
  | .readWith f =>
    let out := SocketInner.readWith cx memory.run f s
    ⟨out.poll.map .closure,.readWith out.f,out.calls,out.socket⟩
  | .writeWith f =>
    let out := SocketInner.writeWith cx memory.run memory.stale f s
    ⟨out.poll.map .closure,.writeWith out.f,out.calls,out.socket⟩
  | .flush =>
    let out := SocketInner.flush cx s
    ⟨out.1.map .flushed,.flush,[],out.2⟩
  | .connect =>
    let out := TcpSocket.connectWait cx s
    ⟨out.1.map .connected,.connect,[],out.2⟩
  | .accept =>
    let out := TcpSocket.acceptWait cx s
    ⟨out.1.map .accepted,.accept,[],out.2⟩

-- One case for each way out of `read`.
inductive SocketInner.Read (cx : Waker) (buf : List UInt8) (s : Socket) :
    Poll (Except Error Nat) × List UInt8 × Socket → Prop where
  | empty (receiving : s.mayRecv = true) (none : buf = []) : Read cx buf s (.ready (.ok 0),buf,s)
  | wait (receiving : s.mayRecv = true) (some : buf ≠ []) (dry : s.rx.data = []) :
      Read cx buf s (.pending,buf,s.registerRecvWaker cx)
  | octets (receiving : s.mayRecv = true) (n : Nat) (size : n = min buf.length s.rx.data.length) (some : 0 < n) :
      Read cx buf s (.ready (.ok n),s.rx.data.take n ++ buf.drop n,{s with rx := s.rx.dequeue n})
  | finished (ended : s.mayRecv = false) (fin : s.rxFinReceived = true) : Read cx buf s (.ready (.ok 0),buf,s)
  | reset (ended : s.mayRecv = false) (fin : s.rxFinReceived = false) :
      Read cx buf s (.ready (.error .connectionReset),buf,s)

theorem SocketInner.read_spec (cx : Waker) (buf : List UInt8) (s : Socket) : Read cx buf s (read cx buf s) := by
  cases receiving : s.mayRecv with
  | false =>
    cases fin : s.rxFinReceived with
    | false =>
      rw [read,Socket.transfers.reset s buf receiving fin]
      exact .reset receiving fin
    | true =>
      rw [read,Socket.transfers.finished s buf receiving fin]
      exact .finished receiving fin
  | true =>
    rw [read,Socket.transfers.received s buf receiving]
    cases size : min buf.length s.rx.data.length with
    | zero =>
      by_cases none : buf = []
      · subst none; simpa using (Read.empty receiving rfl : Read cx [] s _)
      · have dry : s.rx.data = [] := by
          have positive := List.length_pos_iff.mpr none
          exact List.eq_nil_of_length_eq_zero (by omega)
        simpa [none] using (Read.wait receiving none dry : Read cx buf s _)
    | succ n => exact .octets receiving (n+1) size.symm (Nat.succ_pos _)

inductive SocketInner.Write (cx : Waker) (buf : List UInt8) (s : Socket) :
    Poll (Except Error Nat) × Socket → Prop where
  | wait (sending : s.maySend = true) (none : buf = [] ∨ s.tx.isFull = true) :
      Write cx buf s (.pending,s.registerSendWaker cx)
  | octets (sending : s.maySend = true) (n : Nat) (size : n = min buf.length s.tx.window) (some : 0 < n) :
      Write cx buf s (.ready (.ok n),{s with tx := s.tx.enqueue buf})
  | reset (ended : s.maySend = false) : Write cx buf s (.ready (.error .connectionReset),s)

theorem SocketInner.write_spec (cx : Waker) (buf : List UInt8) (s : Socket) : Write cx buf s (write cx buf s) := by
  cases sending : s.maySend with
  | false =>
    rw [write,Socket.transfers.refused s buf sending]
    exact .reset sending
  | true =>
    rw [write,Socket.transfers.queued s buf sending]
    cases size : min buf.length s.tx.window with
    | zero =>
      have none : buf = [] ∨ s.tx.isFull = true := by
        by_cases none : buf = []
        · exact .inl none
        · have positive := List.length_pos_iff.mpr none
          exact .inr (by simp only [RingBuffer.isFull,beq_iff_eq]; omega)
      have unchanged : s.tx.enqueue buf = s.tx := by
        rcases none with none | full
        · rw [none,RingBuffer.enqueue_nil]
        · have window : s.tx.window = 0 := by simpa [RingBuffer.isFull] using full
          simp [RingBuffer.enqueue,window]
      simpa [unchanged] using (Write.wait sending none : Write cx buf s _)
    | succ n => exact .octets sending (n+1) size.symm (Nat.succ_pos _)

theorem canSend_maySend {s : Socket} (able : s.canSend = true) : s.maySend = true :=
  ((Socket.probes.room s).mp able).1

theorem canRecv_iff {s : Socket} : s.canRecv = true ↔ s.rx.data ≠ [] := Socket.probes.octets s

theorem canRecv_mayRecv {s : Socket} (able : s.canRecv = true) : s.mayRecv = true :=
  (Socket.probes.receives s).mpr (.inr (.inr (.inr (canRecv_iff.mp able))))

-- The closure is called once the ring has room, and never again: it is gone
-- from the future after the call.
inductive SocketInner.WriteWith (cx : Waker) (s : Socket) : Option (Closure ρ) → PolledWith ρ → Prop where
  | wait (sending : s.maySend = true) (full : s.tx.isFull = true) :
      WriteWith cx s f ⟨.pending,f,[],s.registerSendWaker cx⟩
  | reset (ended : s.maySend = false) : WriteWith cx s f ⟨.ready (.error .connectionReset),f,[],s⟩
  | called (able : s.canSend = true) (call : Invocation) (kept : call.left.length = call.given.length)
      (count : call.count ≤ call.given.length) (room : call.given.length ≤ s.tx.window) (r : ρ) :
      WriteWith cx s (some f) ⟨.ready (.ok r),none,[call],{s with tx := s.tx.enqueue (call.left.take call.count)}⟩
  | asserted (able : s.canSend = true) (call : Invocation) :
      WriteWith cx s (some f) ⟨.panicked,none,[call],s⟩
  | late (able : s.canSend = true) : WriteWith cx s none ⟨.pending,none,[],s⟩

theorem SocketInner.writeWith_spec (cx : Waker) (run : Nat) (stale : Nat → UInt8) (f : Option (Closure ρ))
    (s : Socket) : WriteWith cx s f (writeWith cx run stale f s) := by
  cases able : s.canSend with
  | false =>
    cases sending : s.maySend with
    | false => simpa [writeWith,able,sending] using WriteWith.reset sending
    | true =>
      have full : s.tx.isFull = true := by simpa [Socket.canSend,sending] using able
      simpa [writeWith,able,sending] using WriteWith.wait sending full
  | true =>
    cases f with
    | none => simpa [writeWith,able] using WriteWith.late able
    | some f =>
      have sending := canSend_maySend able
      have room : (s.free run stale).length ≤ s.tx.window := by
        simp only [Socket.free,List.length_map,List.length_range]
        exact RingBuffer.contiguous_le _ _
      simp only [writeWith,able,Bool.not_true,Bool.false_eq_true,if_false]
      rcases Nat.lt_or_ge (s.free run stale).length (f.run (s.free run stale)).2.1 with beyond | count
      · rw [Socket.closures.overwritten s run stale f sending beyond]
        exact .asserted able _
      · rw [Socket.closures.sent s run stale f sending count]
        exact .called able (f.call (s.free run stale)) (f.keeps _) count room _

inductive SocketInner.ReadWith (cx : Waker) (s : Socket) : Option (Closure ρ) → PolledWith ρ → Prop where
  | wait (receiving : s.mayRecv = true) (dry : s.rx.data = []) :
      ReadWith cx s f ⟨.pending,f,[],s.registerRecvWaker cx⟩
  | reset (ended : s.mayRecv = false) : ReadWith cx s f ⟨.ready (.error .connectionReset),f,[],s⟩
  | called (able : s.canRecv = true) (call : Invocation) (k : Nat) (slice : call.given = s.rx.data.take k)
      (kept : call.left.length = (s.rx.data.take k).length) (count : call.count ≤ call.given.length) (r : ρ) :
      ReadWith cx s (some f) ⟨.ready (.ok r),none,[call],{s with rx := s.rx.dequeueWith k call.count call.left kept}⟩
  | asserted (able : s.canRecv = true) (call : Invocation) :
      ReadWith cx s (some f) ⟨.panicked,none,[call],s⟩
  | late (able : s.canRecv = true) : ReadWith cx s none ⟨.pending,none,[],s⟩

theorem SocketInner.readWith_spec (cx : Waker) (run : Nat) (f : Option (Closure ρ)) (s : Socket) :
    ReadWith cx s f (readWith cx run f s) := by
  cases able : s.canRecv with
  | false =>
    cases receiving : s.mayRecv with
    | false => simpa [readWith,able,receiving] using ReadWith.reset receiving
    | true =>
      have dry : s.rx.data = [] := by
        have blocked : ¬ s.rx.data ≠ [] := fun some => by simp [canRecv_iff.mpr some] at able
        simpa using blocked
      simpa [readWith,able,receiving] using ReadWith.wait receiving dry
  | true =>
    cases f with
    | none => simpa [readWith,able] using ReadWith.late able
    | some f =>
      have receiving := canRecv_mayRecv able
      simp only [readWith,able,Bool.not_true,Bool.false_eq_true,if_false]
      rcases Nat.lt_or_ge (s.stored run).length (f.run (s.stored run)).2.1 with beyond | count
      · rw [Socket.closures.overread s run f receiving beyond]
        exact .asserted able _
      · rw [Socket.closures.received s run f receiving count]
        exact .called able (f.call (s.stored run)) _ rfl (f.keeps _) count _

inductive SocketInner.Flush (cx : Waker) (s : Socket) : Poll (Except Error Unit) × Socket → Prop where
  | wait (busy : (dataPending s || finPending s || rstPending s) = true) :
      Flush cx s (.pending,s.registerSendWaker cx)
  | flushed (idle : (dataPending s || finPending s || rstPending s) = false) : Flush cx s (.ready (.ok ()),s)

theorem SocketInner.flush_spec (cx : Waker) (s : Socket) : Flush cx s (flush cx s) := by
  unfold flush
  split
  · rename_i busy; exact .wait busy
  · rename_i idle; exact .flushed (by simpa using idle)

inductive TcpSocket.Connect (s : Socket) : Except ConnectError Unit × Socket → Prop where
  | invalidState (open_ : s.isOpen = true) : Connect s (.error .invalidState,s)
  | noRoute (shut : s.isOpen = false) : Connect s (.error .noRoute,s)
  | issued (shut : s.isOpen = false) (tuple : Tuple) :
      Connect s (.ok (),({s.reset with tuple := some tuple} : Socket).setState .synSent)

theorem TcpSocket.connect_spec (source : IpAddress → Option IpAddress) (remote : IpEndpoint) (localPort : UInt16)
    (s : Socket) : Connect s (connect source remote localPort s) := by
  cases open_ : s.isOpen with
  | true =>
    rw [connect,Socket.connects.inUse s source remote localPort open_]
    exact .invalidState open_
  | false =>
    by_cases wrong : Unaddressable remote localPort
    · rw [connect,Socket.connects.unaddressable s source remote localPort open_ wrong]
      exact .noRoute open_
    · cases route : source remote.addr with
      | none =>
        rw [connect,Socket.connects.unrouted s source remote localPort open_ route]
        exact .noRoute open_
      | some addr =>
        rw [connect,Socket.connects.connecting s source remote localPort addr open_ wrong route]
        exact .issued open_ ⟨⟨addr,localPort⟩,remote⟩

inductive TcpSocket.Accept (endpoint : IpListenEndpoint) (s : Socket) : Except AcceptError Unit × Socket → Prop where
  | invalidPort (none : endpoint.port = 0) : Accept endpoint s (.error .invalidPort,s)
  | invalidState (isOpen : s.isOpen = true) : Accept endpoint s (.error .invalidState,s)
  | again (listens : s.state = .listen) : Accept endpoint s (.ok (),s)
  | issued (shut : s.isOpen = false) :
      Accept endpoint s (.ok (),({s.reset with listenEndpoint := endpoint} : Socket).setState .listen)

theorem TcpSocket.accept_spec (endpoint : IpListenEndpoint) (s : Socket) : Accept endpoint s (accept endpoint s) := by
  by_cases port : endpoint.port = 0
  · rw [accept,Socket.listens.unaddressable s endpoint port]
    exact .invalidPort port
  · cases isOpen : s.isOpen with
    | false =>
      rw [accept,Socket.listens.listening s endpoint port isOpen]
      exact .issued isOpen
    | true =>
      by_cases same : s.state = .listen ∧ s.listenEndpoint = endpoint
      · rw [accept,Socket.listens.again s endpoint port isOpen same]
        exact .again same.1
      · rw [accept,Socket.listens.inUse s endpoint port isOpen same]
        exact .invalidState isOpen

-- What a poll leaves alone, and how it may change the two slots.
structure Touched (cx : Waker) (s next : Socket) : Prop where
  state : next.state = s.state
  tuple : next.tuple = s.tuple
  fin : next.rxFinReceived = s.rxFinReceived
  wakes : next.wakes = s.wakes
  rsts : next.rstsSent = s.rstsSent
  capacity : next.tx.capacity = s.tx.capacity
  rxSlot : next.rxWaker = s.rxWaker ∨ next.rxWaker = some cx
  txSlot : next.txWaker = s.txWaker ∨ next.txWaker = some cx

theorem Touched.refl (cx : Waker) (s : Socket) : Touched cx s s :=
  ⟨rfl,rfl,rfl,rfl,rfl,rfl,.inl rfl,.inl rfl⟩
theorem touched_recvWaker (cx : Waker) (s : Socket) : Touched cx s (s.registerRecvWaker cx) :=
  ⟨rfl,rfl,rfl,rfl,rfl,rfl,.inr rfl,.inl rfl⟩
theorem touched_sendWaker (cx : Waker) (s : Socket) : Touched cx s (s.registerSendWaker cx) :=
  ⟨rfl,rfl,rfl,rfl,rfl,rfl,.inl rfl,.inr rfl⟩

theorem SocketInner.read_touched (cx : Waker) (buf : List UInt8) (s : Socket) :
    Touched cx s (read cx buf s).2.2 := by
  have spec := read_spec cx buf s
  generalize read cx buf s = out at spec
  cases spec with
  | wait => exact touched_recvWaker cx s
  | octets => exact ⟨rfl,rfl,rfl,rfl,rfl,rfl,.inl rfl,.inl rfl⟩
  | empty | finished | reset => exact .refl cx s

theorem SocketInner.write_touched (cx : Waker) (buf : List UInt8) (s : Socket) : Touched cx s (write cx buf s).2 := by
  have spec := write_spec cx buf s
  generalize write cx buf s = out at spec
  cases spec with
  | wait => exact touched_sendWaker cx s
  | octets => exact ⟨rfl,rfl,rfl,rfl,rfl,rfl,.inl rfl,.inl rfl⟩
  | reset => exact .refl cx s

theorem SocketInner.flush_touched (cx : Waker) (s : Socket) : Touched cx s (flush cx s).2 := by
  have spec := flush_spec cx s
  generalize flush cx s = out at spec
  cases spec with
  | wait => exact touched_sendWaker cx s
  | flushed => exact .refl cx s

theorem TcpSocket.connectWait_touched (cx : Waker) (s : Socket) : Touched cx s (connectWait cx s).2 := by
  unfold connectWait
  split
  all_goals first | exact .refl cx s | exact touched_sendWaker cx s

theorem Future.poll_touched (cx : Waker) (memory : Memory) (s : Socket) (f : Future ρ) :
    Touched cx s (f.poll cx memory s).socket := by
  cases f with
  | readReady =>
    simp only [poll,SocketInner.pollReadReady]
    split
    · exact .refl cx s
    · exact touched_recvWaker cx s
  | read buf => exact SocketInner.read_touched cx buf s
  | writeReady =>
    simp only [poll,SocketInner.pollWriteReady]
    split
    · exact .refl cx s
    · exact touched_sendWaker cx s
  | write buf => exact SocketInner.write_touched cx buf s
  | readWith f =>
    simp only [poll]
    have spec := SocketInner.readWith_spec cx memory.run f s
    generalize SocketInner.readWith cx memory.run f s = out at spec
    cases spec with
    | wait => exact touched_recvWaker cx s
    | called => exact ⟨rfl,rfl,rfl,rfl,rfl,rfl,.inl rfl,.inl rfl⟩
    | reset | asserted | late => exact .refl cx s
  | writeWith f =>
    simp only [poll]
    have spec := SocketInner.writeWith_spec cx memory.run memory.stale f s
    generalize SocketInner.writeWith cx memory.run memory.stale f s = out at spec
    cases spec with
    | wait => exact touched_sendWaker cx s
    | called => exact ⟨rfl,rfl,rfl,rfl,rfl,rfl,.inl rfl,.inl rfl⟩
    | reset | asserted | late => exact .refl cx s
  | flush => exact SocketInner.flush_touched cx s
  | connect => exact TcpSocket.connectWait_touched cx s
  | accept =>
    simp only [poll,TcpSocket.acceptWait]
    split <;> first | exact .refl cx s | exact touched_sendWaker cx s

end Ra6m3Rtic
