import Mathlib.Algebra.GroupWithZero.Nat
import Ra6m3Rtic.Lib.Runs
import Ra6m3Rtic.SocketWakeups

namespace Ra6m3Rtic
open Smoltcp LabelledRuns

-- What a caller learns from one poll: the octets it got, the octets it was told
-- were accepted. Both come from the answer, not from the rings.
def Future.handed (f : Future ρ) (p : Polled ρ) : List UInt8 :=
  match f,p.poll,p.future with
  | .read _,.ready (.count (.ok n)),.read buf => buf.take n
  | .readWith _,.ready (.closure (.ok _)),_ => p.calls.flatMap (fun call => call.given.take call.count)
  | _,_,_ => []

def Future.accepted (f : Future ρ) (p : Polled ρ) : List UInt8 :=
  match f,p.poll with
  | .write buf,.ready (.count (.ok n)) => buf.take n
  | .writeWith _,.ready (.closure (.ok _)) => p.calls.flatMap (fun call => call.left.take call.count)
  | _,_ => []

-- What happened to the rings, whatever was answered.
def removed (s next : Socket) : List UInt8 := s.rx.data.take (s.rx.data.length - next.rx.data.length)
def appended (s next : Socket) : List UInt8 := next.tx.data.drop s.tx.data.length

def Poll.failed : Poll (Output ρ) → Bool
  | .ready (.count (.error _)) | .ready (.closure (.error _)) => true
  | _ => false

-- A closure that does not write into the part of the slice it leaves behind.
def Smoltcp.Invocation.respects (call : Invocation) : Bool := call.left.drop call.count == call.given.drop call.count

structure Moves (f : Future ρ) (s : Socket) (p : Polled ρ) : Prop where
  handed : f.handed p = removed s p.socket
  accepted : f.accepted p = appended s p.socket
  kept : s.tx.data ++ f.accepted p = p.socket.tx.data
  queued : (∀ call ∈ p.calls, call.respects = true) → s.rx.data = f.handed p ++ p.socket.rx.data
  quiet : p.poll = .pending ∨ p.poll.failed = true → p.socket.rx.data = s.rx.data ∧ p.socket.tx.data = s.tx.data

theorem moves_nothing (f : Future ρ) {s : Socket} {p : Polled ρ} (handed : f.handed p = [])
    (accepted : f.accepted p = []) (rx : p.socket.rx = s.rx) (tx : p.socket.tx = s.tx) : Moves f s p :=
  ⟨by simp [handed,removed,rx],by simp [accepted,appended,tx],by simp [accepted,tx],
    fun _ => by simp [handed,rx],fun _ => ⟨by rw [rx],by rw [tx]⟩⟩

theorem read_moves (cx : Waker) (memory : Memory) (s : Socket) (buf : List UInt8) :
    Moves (.read buf : Future ρ) s ((Future.read buf).poll cx memory s) := by
  simp only [Future.poll]
  have spec := SocketInner.read_spec cx buf s
  generalize SocketInner.read cx buf s = out at spec
  cases spec with
  | octets receiving n size some =>
    have length : n ≤ s.rx.data.length := by omega
    have taken : (s.rx.data.take n ++ buf.drop n).take n = s.rx.data.take n := by
      rw [List.take_append_of_le_length (by simp [length]),List.take_take,Nat.min_self]
    refine ⟨?_,by simp [Future.accepted,appended],by simp [Future.accepted],?_,?_⟩
    · simp only [Future.handed,Poll.map,taken,removed,RingBuffer.data_dequeue,List.length_drop]
      rw [Nat.sub_sub_self length]
    · intro _
      simp only [Future.handed,Poll.map,taken,RingBuffer.data_dequeue,List.take_append_drop]
    · intro quiet
      rcases quiet with pending | failed
      · cases pending
      · cases failed
  | empty => exact moves_nothing _ rfl rfl rfl rfl
  | wait => exact moves_nothing _ rfl rfl rfl rfl
  | finished => exact moves_nothing _ rfl rfl rfl rfl
  | reset => exact moves_nothing _ rfl rfl rfl rfl

theorem write_moves (cx : Waker) (memory : Memory) (s : Socket) (buf : List UInt8) :
    Moves (.write buf : Future ρ) s ((Future.write buf).poll cx memory s) := by
  simp only [Future.poll]
  have spec := SocketInner.write_spec cx buf s
  generalize SocketInner.write cx buf s = out at spec
  cases spec with
  | octets sending n size some =>
    have taken : buf.take s.tx.window = buf.take n := by
      rw [size,Nat.min_comm,← List.take_take,List.take_length]
    refine ⟨by simp [Future.handed,removed],?_,?_,fun _ => by simp [Future.handed],?_⟩
    · simp [Future.accepted,Poll.map,appended,taken]
    · simp [Future.accepted,Poll.map,taken]
    · intro quiet
      rcases quiet with pending | failed
      · cases pending
      · cases failed
  | wait => exact moves_nothing _ rfl rfl rfl rfl
  | reset => exact moves_nothing _ rfl rfl rfl rfl

theorem readWith_moves (cx : Waker) (memory : Memory) (s : Socket) (f : Option (Closure ρ)) :
    Moves (.readWith f) s ((Future.readWith f).poll cx memory s) := by
  simp only [Future.poll]
  have spec := SocketInner.readWith_spec cx memory.run f s
  generalize SocketInner.readWith cx memory.run f s = out at spec
  cases spec with
  | called able call k slice kept count r =>
    have length : (call.left.drop call.count ++ s.rx.data.drop k).length = s.rx.data.length - call.count := by
      simp only [List.length_append,List.length_drop,kept,List.length_take]
      rw [slice,List.length_take] at count
      omega
    have within : call.count ≤ s.rx.data.length := by
      rw [slice,List.length_take] at count
      omega
    have front : call.given.take call.count = s.rx.data.take call.count := by
      rw [slice,List.length_take] at count
      rw [slice,List.take_take,Nat.min_eq_left (by omega)]
    refine ⟨?_,by simp [Future.accepted,appended],by simp [Future.accepted],?_,?_⟩
    · simp only [Future.handed,Poll.map,List.flatMap_cons,List.flatMap_nil,List.append_nil,front,removed,
        RingBuffer.dequeueWith,length]
      rw [Nat.sub_sub_self within]
    · intro respected
      have left : call.left.drop call.count = call.given.drop call.count := by
        simpa [Invocation.respects] using respected call (by simp)
      simp only [Future.handed,Poll.map,List.flatMap_cons,List.flatMap_nil,List.append_nil,RingBuffer.dequeueWith,left]
      rw [← List.append_assoc,List.take_append_drop,slice,List.take_append_drop]
    · intro quiet
      rcases quiet with pending | failed
      · cases pending
      · cases failed
  | wait => exact moves_nothing _ rfl rfl rfl rfl
  | reset => exact moves_nothing _ rfl rfl rfl rfl
  | asserted => exact moves_nothing _ rfl rfl rfl rfl
  | late => exact moves_nothing _ rfl rfl rfl rfl

theorem writeWith_moves (cx : Waker) (memory : Memory) (s : Socket) (f : Option (Closure ρ)) :
    Moves (.writeWith f) s ((Future.writeWith f).poll cx memory s) := by
  simp only [Future.poll]
  have spec := SocketInner.writeWith_spec cx memory.run memory.stale f s
  generalize SocketInner.writeWith cx memory.run memory.stale f s = out at spec
  cases spec with
  | called able call kept count room r =>
    have fits : (call.left.take call.count).take s.tx.window = call.left.take call.count := by
      rw [List.take_take,Nat.min_eq_right (by omega)]
    refine ⟨by simp [Future.handed,removed],?_,?_,fun _ => by simp [Future.handed],?_⟩
    · simp [Future.accepted,Poll.map,appended,fits]
    · simp [Future.accepted,Poll.map,fits]
    · intro quiet
      rcases quiet with pending | failed
      · cases pending
      · cases failed
  | wait => exact moves_nothing _ rfl rfl rfl rfl
  | reset => exact moves_nothing _ rfl rfl rfl rfl
  | asserted => exact moves_nothing _ rfl rfl rfl rfl
  | late => exact moves_nothing _ rfl rfl rfl rfl

theorem poll_moves (f : Future ρ) (cx : Waker) (memory : Memory) (s : Socket) : Moves f s (f.poll cx memory s) := by
  cases f with
  | read buf => exact read_moves cx memory s buf
  | write buf => exact write_moves cx memory s buf
  | readWith f => exact readWith_moves cx memory s f
  | writeWith f => exact writeWith_moves cx memory s f
  | readReady =>
    simp only [Future.poll,SocketInner.pollReadReady]
    split <;> exact moves_nothing _ rfl rfl rfl rfl
  | writeReady =>
    simp only [Future.poll,SocketInner.pollWriteReady]
    split <;> exact moves_nothing _ rfl rfl rfl rfl
  | flush =>
    simp only [Future.poll,SocketInner.flush]
    split <;> exact moves_nothing _ rfl rfl rfl rfl
  | connect =>
    simp only [Future.poll,TcpSocket.connectWait]
    split <;> exact moves_nothing _ rfl rfl rfl rfl
  | accept =>
    simp only [Future.poll,TcpSocket.acceptWait]
    split <;> exact moves_nothing _ rfl rfl rfl rfl

theorem map_ready {p : Poll α} {g : α → β} (answered : p.map g = .ready value) : ∃ a, p = .ready a ∧ g a = value := by
  cases p with
  | ready a => exact ⟨a,rfl,by simpa [Poll.map] using answered⟩
  | pending | panicked => cases answered

theorem poll_calls {f : Future ρ} (live : f.Live) (cx : Waker) (memory : Memory) (s : Socket) :
    (f.poll cx memory s).calls.length ≤ 1 ∧
      ∀ r, (f.poll cx memory s).poll = .ready (.closure (.ok r)) → (f.poll cx memory s).calls.length = 1 := by
  cases f with
  | readWith f =>
    simp only [Future.poll]
    have spec := SocketInner.readWith_spec cx memory.run f s
    generalize SocketInner.readWith cx memory.run f s = out at spec
    cases spec with
    | called => exact ⟨Nat.le_refl _,fun _ _ => rfl⟩
    | wait => exact ⟨Nat.zero_le _,fun _ answered => by cases answered⟩
    | reset => exact ⟨Nat.zero_le _,fun _ answered => by cases answered⟩
    | asserted => exact ⟨Nat.le_refl _,fun _ answered => by cases answered⟩
    | late => cases live
  | writeWith f =>
    simp only [Future.poll]
    have spec := SocketInner.writeWith_spec cx memory.run memory.stale f s
    generalize SocketInner.writeWith cx memory.run memory.stale f s = out at spec
    cases spec with
    | called => exact ⟨Nat.le_refl _,fun _ _ => rfl⟩
    | wait => exact ⟨Nat.zero_le _,fun _ answered => by cases answered⟩
    | reset => exact ⟨Nat.zero_le _,fun _ answered => by cases answered⟩
    | asserted => exact ⟨Nat.le_refl _,fun _ answered => by cases answered⟩
    | late => cases live
  | read | write | readReady | writeReady | flush | connect | accept =>
    refine ⟨Nat.zero_le _,?_⟩
    intro r answered
    obtain ⟨_,_,equal⟩ := map_ready answered
    cases equal

structure Record (ρ : Type) where
  key : Nat
  future : Future ρ
  before : Socket
  polled : Polled ρ

-- All futures made on one connection: `live` holds those not yet finished or
-- dropped, `polls` every poll so far, oldest first.
structure Streams (ρ : Type) where
  socket : Socket
  started : Nat
  live : Nat → Option (Future ρ)
  polls : List (Record ρ)
  arrived : List UInt8
  acked : List UInt8

def Streams.start (s : Socket) : Streams ρ := ⟨s,0,fun _ => none,[],[],[]⟩

inductive StreamEvent (ρ : Type) where
  | start (future : Future ρ)
  | poll (key : Nat) (memory : Memory)
  | drop (key : Nat)
  | net (next : Socket) (arrived acked : List UInt8)

def setLive (live : Nat → Option (Future ρ)) (key : Nat) (value : Option (Future ρ)) : Nat → Option (Future ρ) :=
  fun other => if other = key then value else live other

def remaining (p : Polled ρ) : Option (Future ρ) :=
  match p.poll with
  | .pending => some p.future
  | _ => none

inductive StreamStep (cx : Waker) : Streams ρ → StreamEvent ρ → Streams ρ → Prop where
  | start (future : Future ρ) (live : future.Live) : StreamStep cx m (.start future)
      {m with started := m.started + 1,live := setLive m.live m.started (some future)}
  | poll (key : Nat) (future : Future ρ) (memory : Memory) (alive : m.live key = some future) :
      StreamStep cx m (.poll key memory)
      {m with
        socket := (future.poll cx memory m.socket).socket
        live := setLive m.live key (remaining (future.poll cx memory m.socket))
        polls := m.polls ++ [⟨key,future,m.socket,future.poll cx memory m.socket⟩]}
  | drop (key : Nat) : StreamStep cx m (.drop key) {m with live := setLive m.live key none}
  | net (next : Socket) (arrived acked : List UInt8) (rx : next.rx.data = m.socket.rx.data ++ arrived)
      (tx : m.socket.tx.data = acked ++ next.tx.data) :
      StreamStep cx m (.net next arrived acked)
        {m with socket := next,arrived := m.arrived ++ arrived,acked := m.acked ++ acked}

def Streams.handed (m : Streams ρ) : List UInt8 := m.polls.flatMap (fun r => r.future.handed r.polled)
def Streams.accepted (m : Streams ρ) : List UInt8 := m.polls.flatMap (fun r => r.future.accepted r.polled)
def Streams.removed (m : Streams ρ) : List UInt8 := m.polls.flatMap (fun r => Ra6m3Rtic.removed r.before r.polled.socket)
def Streams.appended (m : Streams ρ) : List UInt8 := m.polls.flatMap (fun r => Ra6m3Rtic.appended r.before r.polled.socket)

def calls (polls : List (Record ρ)) (key : Nat) : Nat :=
  (polls.map (fun r => if r.key = key then r.polled.calls.length else 0)).sum

theorem calls_append (polls : List (Record ρ)) (r : Record ρ) (key : Nat) :
    calls (polls ++ [r]) key = calls polls key + if r.key = key then r.polled.calls.length else 0 := by
  simp [calls]

-- What the run leaves behind, for the socket `origin` it started on.
structure Integrity (origin : Socket) (m : Streams ρ) : Prop where
  handed : m.handed = m.removed
  accepted : m.accepted = m.appended
  sent : origin.tx.data ++ m.accepted = m.acked ++ m.socket.tx.data
  received : (∀ r ∈ m.polls, ∀ call ∈ r.polled.calls, call.respects = true) →
    origin.rx.data ++ m.arrived = m.handed ++ m.socket.rx.data
  quiet : ∀ r ∈ m.polls, r.polled.poll = .pending ∨ r.polled.poll.failed = true →
    r.polled.socket.rx.data = r.before.rx.data ∧ r.polled.socket.tx.data = r.before.tx.data
  once : ∀ key, calls m.polls key ≤ 1
  exactlyOnce : ∀ r ∈ m.polls, ∀ value, r.polled.poll = .ready (.closure (.ok value)) → calls m.polls r.key = 1

-- A future that can still be polled has not called its closure, and one that
-- has answered is gone.
structure Tracked (m : Streams ρ) : Prop where
  live : ∀ key future, m.live key = some future → future.Live ∧ key < m.started ∧ calls m.polls key = 0
  fresh : ∀ key, m.started ≤ key → calls m.polls key = 0
  answered : ∀ r ∈ m.polls, r.polled.poll ≠ .pending → m.live r.key = none ∧ r.key < m.started

theorem setLive_eq (live : Nat → Option (Future ρ)) (key : Nat) (value : Option (Future ρ)) :
    setLive live key value key = value := by simp [setLive]
theorem setLive_ne (live : Nat → Option (Future ρ)) (value : Option (Future ρ)) (different : other ≠ key) :
    setLive live key value other = live other := by simp [setLive,different]

theorem remaining_some {p : Polled ρ} (left : remaining p = some future) : p.poll = .pending ∧ p.future = future := by
  cases poll : p.poll <;> simp_all [remaining]

theorem remaining_none {p : Polled ρ} (done : p.poll ≠ .pending) : remaining p = none := by
  cases poll : p.poll <;> simp_all [remaining]

theorem tracked_step (m : Streams ρ) (event : StreamEvent ρ) (next : Streams ρ) (valid : Tracked m)
    (step : StreamStep cx m event next) : Tracked next := by
  cases step with
  | start future live =>
    refine ⟨?_,fun key later => valid.fresh key (by simp only at later; omega),?_⟩
    · intro key other alive
      simp only at alive ⊢
      by_cases same : key = m.started
      · subst same
        rw [setLive_eq] at alive
        cases Option.some.inj alive
        exact ⟨live,Nat.lt_succ_self _,valid.fresh _ (Nat.le_refl _)⟩
      · rw [setLive_ne _ _ same] at alive
        obtain ⟨live,earlier,uncalled⟩ := valid.live key other alive
        exact ⟨live,Nat.lt_succ_of_lt earlier,uncalled⟩
    · intro r member done
      obtain ⟨gone,earlier⟩ := valid.answered r member done
      exact ⟨(setLive_ne _ _ (Nat.ne_of_lt earlier)).trans gone,Nat.lt_succ_of_lt earlier⟩
  | poll key future memory alive =>
    obtain ⟨live,earlier,uncalled⟩ := valid.live key future alive
    refine ⟨?_,?_,?_⟩
    · intro other remains alive'
      simp only at alive' ⊢
      by_cases same : other = key
      · subst same
        rw [setLive_eq] at alive'
        obtain ⟨pending,_⟩ := remaining_some alive'
        have blocked := blocked_of_pending live pending
        rw [poll_blocked blocked] at alive' ⊢
        cases Option.some.inj alive'
        exact ⟨live,earlier,by rw [calls_append,uncalled]; simp⟩
      · rw [setLive_ne _ _ same] at alive'
        obtain ⟨live,before,none⟩ := valid.live other remains alive'
        exact ⟨live,before,by rw [calls_append,none,if_neg (Ne.symm same)]⟩
    · intro other later
      simp only at later ⊢
      rw [calls_append,valid.fresh other later,if_neg (by simp only; omega)]
    · intro r member done
      simp only at member ⊢
      rcases List.mem_append.mp member with old | new
      · obtain ⟨gone,before⟩ := valid.answered r old done
        have different : r.key ≠ key := by intro same; rw [same,alive] at gone; cases gone
        exact ⟨(setLive_ne _ _ different).trans gone,before⟩
      · have equal := List.mem_singleton.mp new
        subst equal
        exact ⟨by rw [setLive_eq]; exact remaining_none done,earlier⟩
  | drop key =>
    refine ⟨?_,valid.fresh,?_⟩
    · intro other future alive
      by_cases same : other = key
      · subst same; simp only [setLive_eq] at alive; cases alive
      · simp only [setLive_ne _ _ same] at alive; exact valid.live other future alive
    · intro r member done
      obtain ⟨gone,before⟩ := valid.answered r member done
      refine ⟨?_,before⟩
      by_cases same : r.key = key
      · simp only [same,setLive_eq]
      · simp only [setLive_ne _ _ same]; exact gone
  | net => exact ⟨valid.live,valid.fresh,valid.answered⟩

theorem integrity_poll {m : Streams ρ} (tracked : Tracked m) (sound : Integrity origin m) (key : Nat)
    (future : Future ρ) (memory : Memory) (alive : m.live key = some future) (live : Nat → Option (Future ρ)) :
    Integrity origin
      {m with
        socket := (future.poll cx memory m.socket).socket
        live := live
        polls := m.polls ++ [⟨key,future,m.socket,future.poll cx memory m.socket⟩]} := by
  obtain ⟨isLive,earlier,uncalled⟩ := tracked.live key future alive
  have moves := poll_moves future cx memory m.socket
  have called := poll_calls isLive cx memory m.socket
  have counted := fun other => calls_append m.polls ⟨key,future,m.socket,future.poll cx memory m.socket⟩ other
  generalize future.poll cx memory m.socket = p at moves called counted ⊢
  refine ⟨?_,?_,?_,?_,?_,?_,?_⟩
  · have before : m.polls.flatMap _ = m.polls.flatMap _ := sound.handed
    simp only [Streams.handed,Streams.removed,List.flatMap_append,List.flatMap_singleton,before,moves.handed]
  · have before : m.polls.flatMap _ = m.polls.flatMap _ := sound.accepted
    simp only [Streams.accepted,Streams.appended,List.flatMap_append,List.flatMap_singleton,before,moves.accepted]
  · have before := sound.sent
    simp only [Streams.accepted,List.flatMap_append,List.flatMap_singleton] at before ⊢
    rw [← List.append_assoc,before,List.append_assoc,moves.kept]
  · intro respected
    have before := sound.received (fun r member => respected r (List.mem_append_left _ member))
    have front := moves.queued (respected _ (List.mem_append_right _ (List.mem_singleton.mpr rfl)))
    simp only [Streams.handed,List.flatMap_append,List.flatMap_singleton] at before ⊢
    rw [before,front,List.append_assoc]
  · intro r member
    rcases List.mem_append.mp member with old | new
    · exact sound.quiet r old
    · cases List.mem_singleton.mp new
      exact moves.quiet
  · intro other
    simp only
    rw [counted]
    split
    · rename_i same
      have same : key = other := same
      subst same
      rw [uncalled,Nat.zero_add]
      exact called.1
    · exact sound.once other
  · intro r member value answered
    simp only at member ⊢
    rw [counted]
    rcases List.mem_append.mp member with old | new
    · obtain ⟨gone,_⟩ := tracked.answered r old (by rw [answered]; simp)
      have different : key ≠ r.key := by intro same; rw [← same,alive] at gone; cases gone
      rw [sound.exactlyOnce r old value answered,if_neg different]
    · cases List.mem_singleton.mp new
      rw [uncalled,if_pos rfl,called.2 value answered]

theorem integrity_step (m : Streams ρ) (event : StreamEvent ρ) (next : Streams ρ)
    (valid : Tracked m ∧ Integrity origin m) (step : StreamStep cx m event next) :
    Tracked next ∧ Integrity origin next := by
  obtain ⟨tracked,sound⟩ := valid
  refine ⟨tracked_step m event next tracked step,?_⟩
  cases step with
  | start | drop =>
    exact ⟨sound.handed,sound.accepted,sound.sent,sound.received,sound.quiet,sound.once,sound.exactlyOnce⟩
  | poll key future memory alive => exact integrity_poll tracked sound key future memory alive _
  | net next arrived acked rx tx =>
    refine ⟨sound.handed,sound.accepted,?_,?_,sound.quiet,sound.once,sound.exactlyOnce⟩
    · have before := sound.sent
      change origin.tx.data ++ m.accepted = (m.acked ++ acked) ++ next.tx.data
      rw [before,tx,List.append_assoc]
    · intro respected
      have before := sound.received respected
      change origin.rx.data ++ (m.arrived ++ arrived) = m.handed ++ next.rx.data
      rw [← List.append_assoc,before,rx,List.append_assoc]

theorem stream_integrity (origin : Socket) {m : Streams ρ}
    (path : Runs (StreamStep cx) (Streams.start origin) events m) : Integrity origin m := by
  refine (path.invariant integrity_step ⟨?_,?_⟩).2
  · exact ⟨by simp [Streams.start],fun _ _ => rfl,by simp [Streams.start]⟩
  · refine ⟨rfl,rfl,by simp [Streams.start,Streams.accepted],?_,by simp [Streams.start],fun _ => Nat.zero_le _,?_⟩
    · simp [Streams.start,Streams.handed]
    · simp [Streams.start]

-- A read that is polled too early, then again once two octets have arrived.
theorem early_read_integrity :
    ∃ m : Streams Unit, m.handed = [5] ∧ m.socket.rx.data = [6] ∧ Integrity (Controls.connected .established) m := by
  have started : Runs (StreamStep 7) (Streams.start (Controls.connected .established)) _ _ :=
    .one (.start (.read [0] : Future Unit) True.intro)
  have early := started.step (.poll 0 (.read [0]) .blank rfl)
  have arrived := early.step (.net {Controls.connected .established with rx := ⟨[5,6],4,by decide⟩} [5,6] [] rfl rfl)
  have later := arrived.step (.poll 0 (.read [0]) .blank rfl)
  exact ⟨_,rfl,rfl,stream_integrity _ later⟩

end Ra6m3Rtic
