import Mathlib.Logic.Relation
import Ra6m3Rtic.SocketWakeups

namespace Ra6m3Rtic.Halves
open Smoltcp LabelledRuns OneShot
open Relation (ReflTransGen)

-- The two halves `TcpSocket::split` hands out. While they live the socket is
-- borrowed, so only their own methods run: `wait_read_ready`, `read` and
-- `read_with` of the one, `wait_write_ready`, `write`, `write_with` and `flush`
-- of the other.
inductive Half where
  | reader
  | writer
  deriving DecidableEq, Repr

def Half.offers : Half → Future ρ → Bool
  | .reader,.readReady | .reader,.read _ | .reader,.readWith _ => true
  | .writer,.writeReady | .writer,.write _ | .writer,.writeWith _ | .writer,.flush => true
  | _,_ => false

theorem Half.offers_reader {f : Future ρ} (offered : Half.offers .reader f = true) : f.receives = true := by
  cases f <;> first | rfl | cases offered

theorem Half.offers_writer {f : Future ρ} (offered : Half.offers .writer f = true) : f.receives = false := by
  cases f <;> first | rfl | cases offered

-- The part of the socket that belongs to the receive half, and to the transmit half.
structure Inbound where
  rx : RingBuffer UInt8
  waker : Option Waker

structure Outbound where
  tx : RingBuffer UInt8
  waker : Option Waker

def inbound (s : Socket) : Inbound := ⟨s.rx,s.rxWaker⟩
def outbound (s : Socket) : Outbound := ⟨s.tx,s.txWaker⟩
def putInbound (part : Inbound) (s : Socket) : Socket := {s with rx := part.rx,rxWaker := part.waker}
def putOutbound (part : Outbound) (s : Socket) : Socket := {s with tx := part.tx,txWaker := part.waker}

def reframe (frame : Socket → Socket) (out : Polled ρ) : Polled ρ := {out with socket := frame out.socket}

theorem recv_frame (run : Nat) (f : Closure ρ) (part : Outbound) (s : Socket) :
    (putOutbound part s).recv run f = {s.recv run f with socket := putOutbound part (s.recv run f).socket} := by
  simp only [Socket.recv,show (putOutbound part s).recvErrorCheck = s.recvErrorCheck from rfl,
    show (putOutbound part s).rx = s.rx from rfl]
  cases s.recvErrorCheck with
  | error => rfl
  | ok => dsimp only; split <;> rfl

theorem send_frame (run : Nat) (stale : Nat → UInt8) (f : Closure ρ) (part : Inbound) (s : Socket) :
    (putInbound part s).send run stale f =
      {s.send run stale f with socket := putInbound part (s.send run stale f).socket} := by
  simp only [Socket.send,show (putInbound part s).maySend = s.maySend from rfl,
    show (putInbound part s).tx = s.tx from rfl]
  cases s.maySend with
  | false => rfl
  | true => simp only [if_true]; split <;> rfl

-- A reader neither looks at the transmit half nor changes it.
theorem reader_frame {f : Future ρ} (offered : Half.offers .reader f = true) (cx : Waker) (memory : Memory)
    (part : Outbound) (s : Socket) :
    f.poll cx memory (putOutbound part s) = reframe (putOutbound part) (f.poll cx memory s) := by
  cases f with
  | readReady =>
    simp only [Future.poll,SocketInner.pollReadReady,show (putOutbound part s).canRecv = s.canRecv from rfl]
    split <;> rfl
  | read buf =>
    simp only [Future.poll,SocketInner.read,Socket.recvSlice,
      show (putOutbound part s).recvErrorCheck = s.recvErrorCheck from rfl,show (putOutbound part s).rx = s.rx from rfl]
    cases s.recvErrorCheck with
    | error e => cases e <;> rfl
    | ok =>
      cases min buf.length s.rx.data.length with
      | zero => cases buf.isEmpty <;> rfl
      | succ n => rfl
  | readWith f =>
    simp only [Future.poll,SocketInner.readWith,recv_frame,show (putOutbound part s).canRecv = s.canRecv from rfl,
      show (putOutbound part s).mayRecv = s.mayRecv from rfl]
    cases s.canRecv with
    | false => cases s.mayRecv <;> rfl
    | true => cases f <;> rfl
  | writeReady | write | writeWith | flush | connect | accept => cases offered

theorem writer_frame {f : Future ρ} (offered : Half.offers .writer f = true) (cx : Waker) (memory : Memory)
    (part : Inbound) (s : Socket) :
    f.poll cx memory (putInbound part s) = reframe (putInbound part) (f.poll cx memory s) := by
  cases f with
  | writeReady =>
    simp only [Future.poll,SocketInner.pollWriteReady,show (putInbound part s).canSend = s.canSend from rfl]
    split <;> rfl
  | write buf =>
    simp only [Future.poll,SocketInner.write,Socket.sendSlice,show (putInbound part s).maySend = s.maySend from rfl,
      show (putInbound part s).tx = s.tx from rfl]
    cases s.maySend with
    | false => rfl
    | true => cases min buf.length s.tx.window <;> rfl
  | writeWith f =>
    simp only [Future.poll,SocketInner.writeWith,send_frame,show (putInbound part s).canSend = s.canSend from rfl,
      show (putInbound part s).maySend = s.maySend from rfl]
    cases s.canSend with
    | false => cases s.maySend <;> rfl
    | true => cases f <;> rfl
  | flush =>
    simp only [Future.poll,SocketInner.flush,
      show SocketInner.dataPending (putInbound part s) = SocketInner.dataPending s from rfl,
      show SocketInner.finPending (putInbound part s) = SocketInner.finPending s from rfl,
      show SocketInner.rstPending (putInbound part s) = SocketInner.rstPending s from rfl]
    split <;> rfl
  | readReady | read | readWith | connect | accept => cases offered

-- What a half leaves behind differs from what it found in its own part only.
theorem reader_only {f : Future ρ} (offered : Half.offers .reader f = true) (cx : Waker) (memory : Memory) (s : Socket) :
    (f.poll cx memory s).socket = putInbound (inbound (f.poll cx memory s).socket) s := by
  cases f with
  | readReady =>
    simp only [Future.poll,SocketInner.pollReadReady]
    split <;> rfl
  | read buf =>
    simp only [Future.poll]
    have spec := SocketInner.read_spec cx buf s
    generalize SocketInner.read cx buf s = out at spec
    cases spec <;> rfl
  | readWith f =>
    simp only [Future.poll]
    have spec := SocketInner.readWith_spec cx memory.run f s
    generalize SocketInner.readWith cx memory.run f s = out at spec
    cases spec <;> rfl
  | writeReady | write | writeWith | flush | connect | accept => cases offered

theorem writer_only {f : Future ρ} (offered : Half.offers .writer f = true) (cx : Waker) (memory : Memory) (s : Socket) :
    (f.poll cx memory s).socket = putOutbound (outbound (f.poll cx memory s).socket) s := by
  cases f with
  | writeReady =>
    simp only [Future.poll,SocketInner.pollWriteReady]
    split <;> rfl
  | write buf =>
    simp only [Future.poll]
    have spec := SocketInner.write_spec cx buf s
    generalize SocketInner.write cx buf s = out at spec
    cases spec <;> rfl
  | writeWith f =>
    simp only [Future.poll]
    have spec := SocketInner.writeWith_spec cx memory.run memory.stale f s
    generalize SocketInner.writeWith cx memory.run memory.stale f s = out at spec
    cases spec <;> rfl
  | flush =>
    simp only [Future.poll,SocketInner.flush]
    split <;> rfl
  | readReady | read | readWith | connect | accept => cases offered

-- What a half is told by a poll: the answer, the future as the poll leaves it and
-- the calls of its closure. `seen` counts the wakes the task had been given by then.
structure Answer (ρ : Type) where
  poll : Poll (Output ρ)
  future : Future ρ
  calls : List Invocation
  seen : Nat

-- The task at one half. What it polls next, and whether it drops a future that is
-- still pending, is up to the answers it has had.
structure Client (ρ : Type) (half : Half) where
  waker : Waker
  next : List (Answer ρ) → Future ρ × Memory
  offered : ∀ answers, half.offers (next answers).1 = true
  live : ∀ answers, (next answers).1.Live

structure Duplex (ρ : Type) where
  socket : Socket
  reads : List (Answer ρ)
  writes : List (Answer ρ)

def start (s : Socket) : Duplex ρ := ⟨s,[],[]⟩

inductive Event where
  | turn (half : Half)
  | net (next : Socket)

def Client.poll (client : Client ρ half) (answers : List (Answer ρ)) (s : Socket) : Polled ρ :=
  (client.next answers).1.poll client.waker (client.next answers).2 s

def Client.answer (client : Client ρ half) (answers : List (Answer ρ)) (s : Socket) : Answer ρ :=
  let out := client.poll answers s
  ⟨out.poll,out.future,out.calls,s.wakes.count client.waker⟩

section
variable (reader : Client ρ .reader) (writer : Client ρ .writer)

def advance (d : Duplex ρ) : Event → Duplex ρ
  | .turn .reader => {d with socket := (reader.poll d.reads d.socket).socket,reads := d.reads ++ [reader.answer d.reads d.socket]}
  | .turn .writer => {d with socket := (writer.poll d.writes d.socket).socket,writes := d.writes ++ [writer.answer d.writes d.socket]}
  | .net next => {d with socket := next}

def Admitted (net : Socket → Socket → Prop) (d : Duplex ρ) : Event → Prop
  | .net next => net d.socket next
  | .turn _ => True

def Step (net : Socket → Socket → Prop) (d : Duplex ρ) (event : Event) (next : Duplex ρ) : Prop :=
  Admitted net d event ∧ next = advance reader writer d event

end

namespace Controls
-- One task waits for an octet, another one writes as often as it can.
def reader : Client Unit .reader := ⟨7,fun _ => (.read [0],.blank),fun _ => rfl,fun _ => True.intro⟩
def writer : Client Unit .writer := ⟨9,fun _ => (.write [1],.blank),fun _ => rfl,fun _ => True.intro⟩
def opened : Duplex Unit := start (Smoltcp.Controls.connected .established)
def written : Duplex Unit := advance reader writer (advance reader writer opened (.turn .reader)) (.turn .writer)

theorem written_runs (net : Socket → Socket → Prop) :
    Runs (Step reader writer net) opened [.turn .reader,.turn .writer] written :=
  (Runs.one ⟨True.intro,rfl⟩).append (.one ⟨True.intro,rfl⟩)
end Controls

section
variable {reader : Client ρ .reader} {writer : Client ρ .writer}

theorem Client.reads_apart (writer : Client ρ .writer) (answers : List (Answer ρ)) (s : Socket) :
    reader.poll reads (writer.poll answers s).socket =
      reframe (putOutbound (outbound (writer.poll answers s).socket)) (reader.poll reads s) := by
  have only : (writer.poll answers s).socket = _ := writer_only (writer.offered answers) _ _ s
  rw [only]
  exact reader_frame (reader.offered reads) _ _ _ s

theorem Client.writes_apart (reader : Client ρ .reader) (answers : List (Answer ρ)) (s : Socket) :
    writer.poll writes (reader.poll answers s).socket =
      reframe (putInbound (inbound (reader.poll answers s).socket)) (writer.poll writes s) := by
  have only : (reader.poll answers s).socket = _ := reader_only (reader.offered answers) _ _ s
  rw [only]
  exact writer_frame (writer.offered writes) _ _ _ s

theorem Client.wakes (client : Client ρ half) (answers : List (Answer ρ)) (s : Socket) :
    (client.poll answers s).socket.wakes = s.wakes := (Future.poll_touched _ _ s _).wakes

-- The parts two halves leave are put together alike in either order.
theorem parts_meet (reader : Client ρ .reader) (writer : Client ρ .writer) (reads writes : List (Answer ρ)) (s : Socket) :
    putInbound (inbound (reader.poll reads s).socket) (writer.poll writes s).socket =
      putOutbound (outbound (writer.poll writes s).socket) (reader.poll reads s).socket := by
  have left : (reader.poll reads s).socket = _ := reader_only (reader.offered reads) _ _ s
  have right : (writer.poll writes s).socket = _ := writer_only (writer.offered writes) _ _ s
  rw [left,right]
  rfl

theorem turns_commute (reader : Client ρ .reader) (writer : Client ρ .writer) (d : Duplex ρ) (a b : Half) :
    advance reader writer (advance reader writer d (.turn a)) (.turn b) =
      advance reader writer (advance reader writer d (.turn b)) (.turn a) := by
  have exchange : advance reader writer (advance reader writer d (.turn .reader)) (.turn .writer) =
      advance reader writer (advance reader writer d (.turn .writer)) (.turn .reader) := by
    simp only [advance,Client.answer,Client.wakes]
    rw [Client.writes_apart,Client.reads_apart]
    simp only [reframe,parts_meet]
  cases a <;> cases b <;> first | rfl | exact exchange | exact exchange.symm

-- Two schedules of the same turns, between the same steps of the network.
inductive Swapped : List Event → List Event → Prop where
  | turns (xs ys : List Event) (a b : Half) :
      Swapped (xs ++ .turn a :: .turn b :: ys) (xs ++ .turn b :: .turn a :: ys)

theorem swapped_runs {net : Socket → Socket → Prop} (path : Runs (Step reader writer net) origin events d)
    (swapped : Swapped events other) : Runs (Step reader writer net) origin other d := by
  cases swapped with
  | turns xs ys a b =>
    obtain ⟨before,earlier,rest⟩ := path.split
    obtain ⟨middle,first,rest⟩ := rest.first
    obtain ⟨after,second,later⟩ := rest.first
    have equal := turns_commute reader writer before a b
    rw [← first.2,← second.2] at equal
    have exchanged : Runs (Step reader writer net) before [.turn b,.turn a] after :=
      (Runs.one ⟨True.intro,rfl⟩).append (.one ⟨True.intro,equal⟩)
    exact earlier.append (exchanged.append later)

theorem schedule_of_halves_immaterial {net : Socket → Socket → Prop}
    (path : Runs (Step reader writer net) (start s) events d) (rescheduled : ReflTransGen Swapped events other) :
    Runs (Step reader writer net) (start s) other d := by
  induction rescheduled with
  | refl => exact path
  | tail _ swapped ih => exact swapped_runs ih swapped

theorem writer_may_go_first : Runs (Step Controls.reader Controls.writer Processed) Controls.opened
    [.turn .writer,.turn .reader] Controls.written :=
  schedule_of_halves_immaterial (Controls.written_runs Processed) (.single (.turns [] [] .reader .writer))

-- The slots too are one for each half: what is parked at one is out of reach of
-- the polls of the other, whatever waker they bring.
theorem other_slot {f g : Future ρ} (mine : Half.offers half f = true) (theirs : Half.offers other g = true)
    (differ : other ≠ half) (cx : Waker) (memory : Memory) (s : Socket) :
    f.slot (g.poll cx memory s).socket = f.slot s := by
  cases half with
  | reader =>
    cases other with
    | reader => exact absurd rfl differ
    | writer =>
      rw [writer_only theirs]
      simp only [Future.slot,Half.offers_reader mine,if_true]
      rfl
  | writer =>
    cases other with
    | writer => exact absurd rfl differ
    | reader =>
      rw [reader_only theirs]
      simp only [Future.slot,Half.offers_writer mine,Bool.false_eq_true,if_false]
      rfl

theorem apart_kept {f g : Future ρ} (mine : Half.offers half f = true) (theirs : Half.offers other g = true)
    (differ : other ≠ half) (cx own : Waker) (memory : Memory) (s last : Socket) :
    (f.watch own last).Kept s (g.poll cx memory s).socket := by
  have touched := g.poll_touched cx memory s
  have rings := poll_rings g cx memory s
  have slot := other_slot mine theirs differ cx memory s
  refine ⟨fun woken => by simpa only [Future.watch,WokenSince,touched.wakes] using woken,?_⟩
  intro armed blocked
  obtain ⟨registered,before⟩ := armed
  have blocked : f.Blocked s := Classical.not_not.mp blocked
  refine .inr ⟨⟨slot.trans registered,by rwa [touched.wakes]⟩,Classical.not_not.mpr ?_⟩
  exact blocked.stable touched.state (fun _ => rings.1) (fun _ => ⟨rings.2,touched.capacity⟩)
    (fun _ _ owed => by rwa [touched.tuple])

-- What the task at a half relies on while its last answer is Pending.
def Waits (half : Half) (waker : Waker) (answers : List (Answer ρ)) (s : Socket) : Prop :=
  ∀ answer, answers.getLast? = some answer → answer.poll = .pending →
    half.offers answer.future = true ∧
      ∃ last : Socket, last.wakes.count waker = answer.seen ∧ (answer.future.watch waker last).Safe s

theorem waits_nil (half : Half) (waker : Waker) (s : Socket) : Waits half waker ([] : List (Answer ρ)) s := by
  intro answer final
  cases final

theorem Waits.kept {answers : List (Answer ρ)} (waits : Waits half waker answers s)
    (kept : ∀ f : Future ρ, half.offers f = true → ∀ last, (f.watch waker last).Kept s next) :
    Waits half waker answers next := by
  intro answer final pending
  obtain ⟨offered,last,seen,safe⟩ := waits answer final pending
  exact ⟨offered,last,seen,(answer.future.watch waker last).safe_step safe (kept _ offered last)⟩

theorem Client.waits (client : Client ρ half) (answers : List (Answer ρ)) (s : Socket) :
    Waits half client.waker (answers ++ [client.answer answers s]) (client.poll answers s).socket := by
  intro answer final pending
  rw [List.getLast?_concat] at final
  cases final
  have blocked := blocked_of_pending (client.live answers) pending
  have out : client.poll answers s = _ := poll_blocked blocked client.waker (client.next answers).2
  simp only [Client.answer,out]
  refine ⟨client.offered answers,s,rfl,.inr ⟨⟨register_slot _ _ _,?_⟩,Classical.not_not.mpr (register_blocked blocked _)⟩⟩
  have same := client.wakes answers s
  rw [out] at same
  exact Nat.le_of_eq (by rw [same])

def Attended (reader : Client ρ .reader) (writer : Client ρ .writer) (d : Duplex ρ) : Prop :=
  Waits .reader reader.waker d.reads d.socket ∧ Waits .writer writer.waker d.writes d.socket

theorem attended_step {net : Socket → Socket → Prop} (laws : WakeLaws net) (d : Duplex ρ) (event : Event)
    (next : Duplex ρ) (attended : Attended reader writer d) (step : Step reader writer net d event next) :
    Attended reader writer next := by
  obtain ⟨reads,writes⟩ := attended
  obtain ⟨admitted,equal⟩ := step
  subst equal
  cases event with
  | net socket =>
    exact ⟨reads.kept fun f _ last => net_kept laws admitted f _ last,
      writes.kept fun f _ last => net_kept laws admitted f _ last⟩
  | turn half =>
    cases half with
    | reader =>
      exact ⟨reader.waits _ _,writes.kept fun f mine last => apart_kept mine (reader.offered _) nofun _ _ _ _ last⟩
    | writer =>
      exact ⟨reads.kept fun f mine last => apart_kept mine (writer.offered _) nofun _ _ _ _ last,writer.waits _ _⟩

theorem Waits.woken (waits : Waits half waker answers s) (final : answers.getLast? = some answer)
    (pending : answer.poll = .pending) (ready : (answer.future.poll waker memory s).poll ≠ .pending) :
    answer.seen < s.wakes.count waker := by
  obtain ⟨_,last,seen,safe⟩ := waits answer final pending
  have woken : WokenSince waker last s := by
    refine (answer.future.watch waker last).woken_of_ready safe ?_
    intro blocked
    exact ready (by rw [poll_blocked blocked])
  rw [← seen]
  exact woken

theorem split_halves_no_lost_wakeup {net : Socket → Socket → Prop} (laws : WakeLaws net)
    (path : Runs (Step reader writer net) (start s) events d) (answer : Answer ρ) (pending : answer.poll = .pending) :
    (d.reads.getLast? = some answer → ∀ memory, (answer.future.poll reader.waker memory d.socket).poll ≠ .pending →
      answer.seen < d.socket.wakes.count reader.waker) ∧
    (d.writes.getLast? = some answer → ∀ memory, (answer.future.poll writer.waker memory d.socket).poll ≠ .pending →
      answer.seen < d.socket.wakes.count writer.waker) := by
  have attended : Attended reader writer d := path.invariant (attended_step laws) ⟨waits_nil _ _ _,waits_nil _ _ _⟩
  exact ⟨fun final _ ready => attended.1.woken final pending ready,fun final _ ready => attended.2.woken final pending ready⟩

theorem waiting_reader_woken : 0 < (process Controls.written.socket (.octets [5])).wakes.count 7 := by
  have arrives : Step Controls.reader Controls.writer Processed Controls.written (.net (process Controls.written.socket (.octets [5])))
      {Controls.written with socket := process Controls.written.socket (.octets [5])} := ⟨⟨.octets [5],rfl⟩,rfl⟩
  have path := (Controls.written_runs Processed).step arrives
  exact (split_halves_no_lost_wakeup processed_wakes path ⟨.pending,.read [0],[],0⟩ rfl).1 rfl .blank nofun

end

end Ra6m3Rtic.Halves
