import Ra6m3Rtic.Lib.RingBuffer

namespace Ra6m3Rtic.Smoltcp

-- smoltcp is not part of the repository. This module has what the firmware sees of
-- one `tcp::Socket` through its public interface, clause by clause as documented;
-- the clauses are stated as laws of the calls, and so are those of the network,
-- which is a relation.
inductive State where
  | closed | listen | synSent | synReceived | established | finWait1 | finWait2
  | closeWait | closing | lastAck | timeWait
  deriving DecidableEq, Repr

inductive IpAddress where
  | v4 (a b c d : UInt8)
  | v6 (a b c d e f g h : UInt16)
  deriving DecidableEq, Repr

def IpAddress.isUnspecified : IpAddress → Bool
  | .v4 a b c d => a == 0 && b == 0 && c == 0 && d == 0
  | .v6 a b c d e f g h => a == 0 && b == 0 && c == 0 && d == 0 && e == 0 && f == 0 && g == 0 && h == 0

structure IpEndpoint where
  addr : IpAddress
  port : UInt16
  deriving DecidableEq, Repr

structure IpListenEndpoint where
  addr : Option IpAddress
  port : UInt16
  deriving DecidableEq, Repr

structure Tuple where
  nearEnd : IpEndpoint
  remote : IpEndpoint
  deriving DecidableEq, Repr

inductive RecvError where
  | invalidState | finished
  deriving DecidableEq, Repr
inductive SendError where
  | invalidState
  deriving DecidableEq, Repr
inductive ConnectError where
  | invalidState | unaddressable
  deriving DecidableEq, Repr
inductive ListenError where
  | invalidState | unaddressable
  deriving DecidableEq, Repr

-- A waker is the identity of the task it wakes (`Waker::will_wake`).
abbrev Waker := Nat

-- `wakes` lists the calls of `Waker::wake`, oldest first, and `rstsSent` counts
-- the RST segments handed to the device: both are observations, read by no code.
structure Socket where
  state : State
  rx : RingBuffer UInt8
  tx : RingBuffer UInt8
  rxFinReceived : Bool
  tuple : Option Tuple
  listenEndpoint : IpListenEndpoint
  timeout : Option Nat
  keepAlive : Option Nat
  rxWaker : Option Waker
  txWaker : Option Waker
  wakes : List Waker
  rstsSent : Nat
  deriving DecidableEq

namespace Socket

def fresh (rxCapacity txCapacity : Nat) : Socket :=
  ⟨.closed,.empty rxCapacity,.empty txCapacity,false,none,⟨none,0⟩,none,none,none,none,[],0⟩

def isOpen (s : Socket) : Bool :=
  match s.state with
  | .closed | .timeWait => false
  | _ => true

def maySend (s : Socket) : Bool :=
  match s.state with
  | .established | .closeWait => true
  | _ => false

def mayRecv (s : Socket) : Bool :=
  match s.state with
  | .established | .finWait1 | .finWait2 => true
  | _ => !s.rx.isEmpty

def canSend (s : Socket) : Bool := s.maySend && !s.tx.isFull
def canRecv (s : Socket) : Bool := s.mayRecv && !s.rx.isEmpty

def sendQueue (s : Socket) : Nat := s.tx.data.length
def remoteEndpoint (s : Socket) : Option IpEndpoint := s.tuple.map Tuple.remote

-- `WakerRegistration`: one slot, emptied by the wake.
def wakeRx (s : Socket) : Socket := {s with rxWaker := none,wakes := s.wakes ++ s.rxWaker.toList}
def wakeTx (s : Socket) : Socket := {s with txWaker := none,wakes := s.wakes ++ s.txWaker.toList}
def registerRecvWaker (s : Socket) (cx : Waker) : Socket := {s with rxWaker := some cx}
def registerSendWaker (s : Socket) (cx : Waker) : Socket := {s with txWaker := some cx}

def setState (s : Socket) (state : State) : Socket := ({s with state := state} : Socket).wakeRx.wakeTx

def setTimeout (s : Socket) (duration : Option Nat) : Socket := {s with timeout := duration}
def setKeepAlive (s : Socket) (interval : Option Nat) : Socket := {s with keepAlive := interval}

def close (s : Socket) : Socket :=
  match s.state with
  | .listen | .synSent => s.setState .closed
  | .synReceived | .established => s.setState .finWait1
  | .closeWait => s.setState .lastAck
  | .finWait1 | .finWait2 | .closing | .timeWait | .lastAck | .closed => s

def abort (s : Socket) : Socket := s.setState .closed

def reset (s : Socket) : Socket :=
  ({s with
    state := .closed,rx := s.rx.clear,tx := s.tx.clear,rxFinReceived := false
    tuple := none,listenEndpoint := ⟨none,0⟩} : Socket).wakeRx.wakeTx

def listen (s : Socket) (endpoint : IpListenEndpoint) : Except ListenError Unit × Socket :=
  if endpoint.port = 0 then (.error .unaddressable,s)
  else if s.isOpen then
    if s.state = .listen ∧ s.listenEndpoint = endpoint then (.ok (),s) else (.error .invalidState,s)
  else (.ok (),({s.reset with listenEndpoint := endpoint} : Socket).setState .listen)

-- `source` is the interface's choice of a source address for the destination.
def connect (s : Socket) (source : IpAddress → Option IpAddress) (remote : IpEndpoint) (port : UInt16) :
    Except ConnectError Unit × Socket :=
  if s.isOpen then (.error .invalidState,s)
  else if remote.port = 0 ∨ remote.addr.isUnspecified ∨ port = 0 then (.error .unaddressable,s)
  else match source remote.addr with
    | none => (.error .unaddressable,s)
    | some addr => (.ok (),({s.reset with tuple := some ⟨⟨addr,port⟩,remote⟩} : Socket).setState .synSent)

def recvErrorCheck (s : Socket) : Except RecvError Unit :=
  if s.mayRecv then .ok () else if s.rxFinReceived then .error .finished else .error .invalidState

-- Copies as much as there is room and data for; the rest of `buf` stays.
def recvSlice (s : Socket) (buf : List UInt8) : Except RecvError Nat × List UInt8 × Socket :=
  match s.recvErrorCheck with
  | .error e => (.error e,buf,s)
  | .ok () =>
    let n := min buf.length s.rx.data.length
    (.ok n,s.rx.data.take n ++ buf.drop n,{s with rx := s.rx.dequeue n})

def sendSlice (s : Socket) (buf : List UInt8) : Except SendError Nat × Socket :=
  if s.maySend then
    (.ok (min buf.length s.tx.window),{s with tx := s.tx.enqueue buf})
  else (.error .invalidState,s)

end Socket

-- A closure over a mutable slice: what it leaves in the slice, how many
-- elements it reports and its result. It cannot change the slice's length.
structure Closure (ρ : Type) where
  run : List UInt8 → List UInt8 × Nat × ρ
  keeps : ∀ slice, (run slice).1.length = slice.length

-- One call of a closure, as its caller sees it.
structure Invocation where
  given : List UInt8
  left : List UInt8
  count : Nat
  deriving DecidableEq, Repr

-- `none` is the failed assertion on a count beyond the slice.
structure Applied (ε ρ : Type) where
  result : Option (Except ε ρ)
  calls : List Invocation
  socket : Socket

namespace Socket

def recv (s : Socket) (run : Nat) (f : Closure ρ) : Applied RecvError ρ :=
  match s.recvErrorCheck with
  | .error e => ⟨some (.error e),[],s⟩
  | .ok () =>
    let count := RingBuffer.contiguous run s.rx.data.length
    let slice := s.rx.data.take count
    let out := f.run slice
    let call : Invocation := ⟨slice,out.1,out.2.1⟩
    if out.2.1 ≤ slice.length then
      ⟨some (.ok out.2.2),[call],{s with rx := s.rx.dequeueWith count out.2.1 out.1 (f.keeps slice)}⟩
    else ⟨none,[call],s⟩

-- `stale` is whatever the free part of the transmit buffer happens to hold.
def send (s : Socket) (run : Nat) (stale : Nat → UInt8) (f : Closure ρ) : Applied SendError ρ :=
  if s.maySend then
    let slice := (List.range (RingBuffer.contiguous run s.tx.window)).map stale
    let out := f.run slice
    let call : Invocation := ⟨slice,out.1,out.2.1⟩
    if out.2.1 ≤ slice.length then
      ⟨some (.ok out.2.2),[call],{s with tx := s.tx.enqueue (out.1.take out.2.1)}⟩
    else ⟨none,[call],s⟩
  else ⟨some (.error .invalidState),[],s⟩

end Socket
end Ra6m3Rtic.Smoltcp
