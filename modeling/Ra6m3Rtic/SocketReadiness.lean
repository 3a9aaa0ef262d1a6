import Ra6m3Rtic.Socket

namespace Ra6m3Rtic
open Smoltcp

-- The readiness probes of `TcpSocket`: two waits, polled in one section each, and
-- the two questions of `embedded_io_async`.
namespace TcpSocket
def waitReadReady (cx : Waker) (s : Socket) : Poll Unit × Socket := SocketInner.pollReadReady cx s
def waitWriteReady (cx : Waker) (s : Socket) : Poll Unit × Socket := SocketInner.pollWriteReady cx s
def readReady (s : Socket) : Bool := s.canRecv || !s.mayRecv
def writeReady (s : Socket) : Bool := s.canSend
end TcpSocket

def Poll.isReady : Poll α → Bool
  | .ready _ => true
  | _ => false

theorem waitReadReady_iff : (TcpSocket.waitReadReady cx s).1.isReady = true ↔ s.canRecv = true := by
  unfold TcpSocket.waitReadReady SocketInner.pollReadReady
  split <;> simp_all [Poll.isReady]

theorem waitWriteReady_iff : (TcpSocket.waitWriteReady cx s).1.isReady = true ↔ s.canSend = true := by
  unfold TcpSocket.waitWriteReady SocketInner.pollWriteReady
  split <;> simp_all [Poll.isReady]

-- Octets move only out of a ring that holds some and into one with room.
theorem available_of_octets {s : Socket} (size : n = min k s.rx.data.length) (positive : 0 < n) : s.rx.data ≠ [] := by
  intro dry
  rw [dry,List.length_nil] at size
  omega

theorem room_of_octets {s : Socket} (size : n = min k s.tx.window) (positive : 0 < n) : s.tx.isFull = false := by
  simp only [RingBuffer.isFull,beq_eq_false_iff_ne]
  omega

-- A read answers once there is something to hand over or nothing more to come.
theorem read_ready_iff (some : buf ≠ []) :
    (SocketInner.read cx buf s).1.isReady = true ↔ s.canRecv = true ∨ s.mayRecv = false := by
  have spec := SocketInner.read_spec cx buf s
  generalize SocketInner.read cx buf s = out at spec
  cases spec with
  | empty _ none => exact absurd none some
  | wait receiving _ dry =>
    have blocked : s.canRecv = false := by simp [Socket.canRecv,receiving,RingBuffer.isEmpty,dry]
    simp [Poll.isReady,receiving,blocked]
  | octets receiving n size positive =>
    simp [Poll.isReady,canRecv_iff.mpr (available_of_octets size positive)]
  | finished ended | reset ended => simp [Poll.isReady,ended]

theorem write_ready_iff (some : buf ≠ []) :
    (SocketInner.write cx buf s).1.isReady = true ↔ s.canSend = true ∨ s.maySend = false := by
  have spec := SocketInner.write_spec cx buf s
  generalize SocketInner.write cx buf s = out at spec
  cases spec with
  | wait sending blocked =>
    have full : s.tx.isFull = true := blocked.resolve_left some
    simp [Poll.isReady,Socket.canSend,sending,full]
  | octets sending n size positive =>
    simp [Poll.isReady,Socket.canSend,sending,room_of_octets size positive]
  | reset ended => simp [Poll.isReady,ended]

-- Each probe against the operation it stands for.
structure ProbesAgree (cx : Waker) (buf : List UInt8) (s : Socket) : Prop where
  waitRead : (TcpSocket.waitReadReady cx s).1.isReady = true ↔ (SocketInner.read cx buf s).1.isReady = true
  readReady : TcpSocket.readReady s = true ↔ (SocketInner.read cx buf s).1.isReady = true
  waitWrite : (TcpSocket.waitWriteReady cx s).1.isReady = true ↔ (SocketInner.write cx buf s).1.isReady = true
  writeReady : TcpSocket.writeReady s = true → (SocketInner.write cx buf s).1.isReady = true

-- The waits do not know that a half can be closed for good.
theorem probes_agree_exactly_when_open (s : Socket) (some : buf ≠ []) :
    ProbesAgree cx buf s ↔ s.mayRecv = true ∧ s.maySend = true := by
  have read := @read_ready_iff buf cx s some
  have write := @write_ready_iff buf cx s some
  constructor
  · intro agree
    refine ⟨?_,?_⟩
    · by_contra ended
      have answered := read.mpr (.inr (by simpa using ended))
      exact ended (canRecv_mayRecv (waitReadReady_iff.mp (agree.waitRead.mpr answered)))
    · by_contra ended
      have answered := write.mpr (.inr (by simpa using ended))
      exact ended (canSend_maySend (waitWriteReady_iff.mp (agree.waitWrite.mpr answered)))
  · intro open_
    obtain ⟨receiving,sending⟩ := open_
    refine ⟨?_,?_,?_,?_⟩
    · rw [waitReadReady_iff,read]
      simp [receiving]
    · rw [read]
      simp [TcpSocket.readReady,receiving]
    · rw [waitWriteReady_iff,write]
      simp [sending]
    · intro able
      exact write.mpr (.inl able)

theorem established_probes_agree : ProbesAgree 7 [1] (Controls.connected .established) :=
  (probes_agree_exactly_when_open _ (by decide)).mpr ⟨rfl,rfl⟩

-- At the end of the stream `read` answers at once and the wait never does.
theorem wait_read_ready_misses_eof : ¬ ∀ (s : Socket) (buf : List UInt8), buf ≠ [] → ProbesAgree 7 buf s := by
  intro claimed
  have agree := claimed {Controls.connected .closeWait with rxFinReceived := true} [1] (by decide)
  have answered := agree.waitRead.mpr rfl
  cases answered

-- The receive half as the TCP state has it, and its end: the peer has closed it
-- and everything received was taken.
def ReceiveOpen (s : Socket) : Prop := s.state = .established ∨ s.state = .finWait1 ∨ s.state = .finWait2
def EndOfStream (s : Socket) : Prop := s.rxFinReceived = true ∧ ¬ ReceiveOpen s ∧ s.rx.data = []

theorem mayRecv_iff : s.mayRecv = true ↔ ReceiveOpen s ∨ s.rx.data ≠ [] := by
  cases state : s.state <;> simp [Socket.mayRecv,ReceiveOpen,state,RingBuffer.isEmpty]

structure ZeroLength (cx : Waker) (buf : List UInt8) (s : Socket) : Prop where
  prompt : buf = [] → (SocketInner.read cx buf s).1 ≠ .pending ∧ (SocketInner.write cx buf s).1 ≠ .pending
  eof : buf ≠ [] → ((SocketInner.read cx buf s).1 = .ready (.ok 0) ↔ EndOfStream s)
  progress : buf ≠ [] → (SocketInner.write cx buf s).1 ≠ .ready (.ok 0)
  readWaits : (SocketInner.read cx buf s).1 = .pending → ReceiveOpen s ∧ s.rx.data = []
  writeWaits : (SocketInner.write cx buf s).1 = .pending → s.maySend = true ∧ s.tx.isFull = true

theorem read_waits (pending : (SocketInner.read cx buf s).1 = .pending) : buf ≠ [] ∧ ReceiveOpen s ∧ s.rx.data = [] := by
  have spec := SocketInner.read_spec cx buf s
  generalize SocketInner.read cx buf s = out at spec pending
  cases spec with
  | wait receiving some dry =>
    rcases mayRecv_iff.mp receiving with isOpen | available
    · exact ⟨some,isOpen,dry⟩
    · exact absurd dry available
  | empty | octets | finished | reset => cases pending

theorem read_eof_iff (some : buf ≠ []) : (SocketInner.read cx buf s).1 = .ready (.ok 0) ↔ EndOfStream s := by
  have spec := SocketInner.read_spec cx buf s
  generalize SocketInner.read cx buf s = out at spec
  cases spec with
  | empty _ none => exact absurd none some
  | wait receiving _ dry =>
    have isOpen : ReceiveOpen s := (mayRecv_iff.mp receiving).resolve_right (fun available => available dry)
    simp [EndOfStream,isOpen]
  | octets receiving n size positive =>
    simp [EndOfStream,available_of_octets size positive,Nat.ne_of_gt positive]
  | finished ended fin | reset ended fin =>
    have closed : ¬ (ReceiveOpen s ∨ s.rx.data ≠ []) := by rw [← mayRecv_iff,ended]; simp
    simp only [not_or,Classical.not_not] at closed
    simp [EndOfStream,closed,fin]

theorem write_progress : (SocketInner.write cx buf s).1 ≠ .ready (.ok 0) := by
  have spec := SocketInner.write_spec cx buf s
  generalize SocketInner.write cx buf s = out at spec
  cases spec with
  | octets sending n size positive =>
    intro none
    cases none
    exact absurd positive (Nat.lt_irrefl _)
  | wait | reset => intro none; cases none

theorem write_waits_iff : (SocketInner.write cx buf s).1 = .pending ↔
    s.maySend = true ∧ (buf = [] ∨ s.tx.isFull = true) := by
  have spec := SocketInner.write_spec cx buf s
  generalize SocketInner.write cx buf s = out at spec
  cases spec with
  | wait sending blocked => simp [sending,blocked]
  | octets sending n size positive =>
    have some : buf ≠ [] := by
      intro none
      rw [none,List.length_nil] at size
      omega
    simp [some,room_of_octets size positive]
  | reset ended => simp [ended]

-- `read` makes an exception for the empty buffer, `write` does not.
theorem zero_length_exactly_unless_empty_write (buf : List UInt8) (s : Socket) :
    ZeroLength cx buf s ↔ ¬ (buf = [] ∧ s.maySend = true) := by
  constructor
  · intro lawful blocked
    obtain ⟨none,sending⟩ := blocked
    exact (lawful.prompt none).2 (write_waits_iff.mpr ⟨sending,.inl none⟩)
  · intro allowed
    refine ⟨?_,read_eof_iff,fun _ => write_progress,fun pending => (read_waits pending).2,?_⟩
    · intro none
      refine ⟨fun pending => (read_waits pending).1 none,?_⟩
      intro pending
      exact allowed ⟨none,(write_waits_iff.mp pending).1⟩
    · intro pending
      obtain ⟨sending,none | full⟩ := write_waits_iff.mp pending
      · exact absurd ⟨none,sending⟩ allowed
      · exact ⟨sending,full⟩

theorem empty_write_waits : ¬ ∀ (buf : List UInt8) (s : Socket), ZeroLength 7 buf s := by
  intro claimed
  exact ((claimed [] (Controls.connected .established)).prompt rfl).2 rfl

end Ra6m3Rtic
