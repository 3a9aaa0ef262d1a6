import Ra6m3Rtic.Lib.OneShot
import Ra6m3Rtic.Lib.Runs
import Ra6m3Rtic.Socket

namespace Ra6m3Rtic
open Smoltcp LabelledRuns OneShot

-- The condition under which each future parks its task, as a property of the
-- socket alone.
def Future.Blocked : Future ρ → Socket → Prop
  | .readReady,s => s.rx.data = []
  | .read buf,s => buf ≠ [] ∧ s.mayRecv = true ∧ s.rx.data = []
  | .writeReady,s => s.canSend = false
  | .write buf,s => s.maySend = true ∧ (buf = [] ∨ s.tx.isFull = true)
  | .readWith _,s => s.mayRecv = true ∧ s.rx.data = []
  | .writeWith _,s => s.maySend = true ∧ s.tx.isFull = true
  | .flush,s => (SocketInner.dataPending s || SocketInner.finPending s || SocketInner.rstPending s) = true
  | .connect,s => s.state = .synSent ∨ s.state = .synReceived
  | .accept,s => s.state = .listen ∨ s.state = .synSent ∨ s.state = .synReceived

-- An `async fn` is never polled again once it has returned, so the closure of a
-- future that can still be polled has not been taken.
def Future.Live : Future ρ → Prop
  | .readWith f => f.isSome = true
  | .writeWith f => f.isSome = true
  | _ => True

def Future.receives : Future ρ → Bool
  | .readReady | .read _ | .readWith _ => true
  | _ => false

def Future.slot (f : Future ρ) (s : Socket) : Option Waker := if f.receives then s.rxWaker else s.txWaker
def Future.register (f : Future ρ) (cx : Waker) (s : Socket) : Socket :=
  if f.receives then s.registerRecvWaker cx else s.registerSendWaker cx
def Future.Fired (f : Future ρ) (s next : Socket) : Prop := if f.receives then RxFired s next else TxFired s next

theorem poll_blocked {f : Future ρ} (blocked : f.Blocked s) (cx : Waker) (memory : Memory) :
    f.poll cx memory s = ⟨.pending,f,[],f.register cx s⟩ := by
  cases f with
  | readReady =>
    have dry : s.canRecv = false := by
      cases able : s.canRecv with
      | false => rfl
      | true => exact absurd blocked (canRecv_iff.mp able)
    simp [Future.poll,SocketInner.pollReadReady,dry,Poll.map,Future.register,Future.receives]
  | read buf =>
    obtain ⟨some,receiving,dry⟩ := blocked
    simp [Future.poll,SocketInner.read,Socket.recvSlice,Socket.recvErrorCheck,receiving,dry,some,Poll.map,
      Future.register,Future.receives]
  | writeReady =>
    have blocked : s.canSend = false := blocked
    simp [Future.poll,SocketInner.pollWriteReady,blocked,Poll.map,Future.register,Future.receives]
  | write buf =>
    obtain ⟨sending,none⟩ := blocked
    have size : min buf.length s.tx.window = 0 := by
      rcases none with none | full
      · simp [none]
      · have window : s.tx.window = 0 := by simpa [RingBuffer.isFull] using full
        simp [window]
    have ring : s.tx.enqueue buf = s.tx := by
      rcases none with none | full
      · rw [none,RingBuffer.enqueue_nil]
      · have window : s.tx.window = 0 := by simpa [RingBuffer.isFull] using full
        simp [RingBuffer.enqueue,window]
    simp [Future.poll,SocketInner.write,Socket.sendSlice,sending,size,ring,Poll.map,Future.register,Future.receives]
  | readWith f =>
    obtain ⟨receiving,dry⟩ := blocked
    have able : s.canRecv = false := by simp [Socket.canRecv,receiving,RingBuffer.isEmpty,dry]
    simp [Future.poll,SocketInner.readWith,able,receiving,Poll.map,Future.register,Future.receives]
  | writeWith f =>
    obtain ⟨sending,full⟩ := blocked
    have able : s.canSend = false := by simp [Socket.canSend,sending,full]
    simp [Future.poll,SocketInner.writeWith,able,sending,Poll.map,Future.register,Future.receives]
  | flush =>
    have blocked : (SocketInner.dataPending s || SocketInner.finPending s || SocketInner.rstPending s) = true := blocked
    simp [Future.poll,SocketInner.flush,blocked,Poll.map,Future.register,Future.receives]
  | connect =>
    rcases blocked with state | state <;>
      simp [Future.poll,TcpSocket.connectWait,state,Poll.map,Future.register,Future.receives]
  | accept =>
    rcases blocked with state | state | state <;>
      simp [Future.poll,TcpSocket.acceptWait,state,Poll.map,Future.register,Future.receives]

theorem blocked_of_pending {f : Future ρ} (live : f.Live) (pending : (f.poll cx memory s).poll = .pending) :
    f.Blocked s := by
  cases f with
  | readReady =>
    simp only [Future.poll,SocketInner.pollReadReady] at pending
    split at pending
    · cases pending
    · rename_i blocked
      have dry : ¬ s.rx.data ≠ [] := fun some => blocked (canRecv_iff.mpr some)
      simpa [Future.Blocked] using dry
  | read buf =>
    simp only [Future.poll] at pending
    have spec := SocketInner.read_spec cx buf s
    generalize SocketInner.read cx buf s = out at spec pending
    cases spec with
    | wait receiving some dry => exact ⟨some,receiving,dry⟩
    | empty | octets | finished | reset => cases pending
  | writeReady =>
    simp only [Future.poll,SocketInner.pollWriteReady] at pending
    split at pending
    · cases pending
    · rename_i blocked
      simpa [Future.Blocked] using blocked
  | write buf =>
    simp only [Future.poll] at pending
    have spec := SocketInner.write_spec cx buf s
    generalize SocketInner.write cx buf s = out at spec pending
    cases spec with
    | wait sending none => exact ⟨sending,none⟩
    | octets | reset => cases pending
  | readWith f =>
    simp only [Future.poll] at pending
    have spec := SocketInner.readWith_spec cx memory.run f s
    generalize SocketInner.readWith cx memory.run f s = out at spec pending
    cases spec with
    | wait receiving dry => exact ⟨receiving,dry⟩
    | late => cases live
    | reset | called | asserted => cases pending
  | writeWith f =>
    simp only [Future.poll] at pending
    have spec := SocketInner.writeWith_spec cx memory.run memory.stale f s
    generalize SocketInner.writeWith cx memory.run memory.stale f s = out at spec pending
    cases spec with
    | wait sending full => exact ⟨sending,full⟩
    | late => cases live
    | reset | called | asserted => cases pending
  | flush =>
    simp only [Future.poll,SocketInner.flush] at pending
    split at pending
    · rename_i blocked; exact blocked
    · cases pending
  | connect =>
    cases state : s.state <;> simp [Future.poll,TcpSocket.connectWait,state,Poll.map] at pending <;>
      simp [Future.Blocked,state]
  | accept =>
    cases state : s.state <;> simp [Future.poll,TcpSocket.acceptWait,state,Poll.map] at pending <;>
      simp [Future.Blocked,state]

-- Blocking is a matter of the TCP state, of an empty receive ring, of a
-- transmit ring that is full (or not drained) and of an RST not yet sent.
theorem Future.Blocked.stable {f : Future ρ} (blocked : f.Blocked s) (state : next.state = s.state)
    (rx : f.receives = true → s.rx.data = [] → next.rx.data = [])
    (tx : f.receives = false → s.tx.data.length ≤ next.tx.data.length ∧ next.tx.capacity = s.tx.capacity)
    (tuple : f.receives = false → s.state = .closed → s.tuple.isSome → next.tuple.isSome) : f.Blocked next := by
  have may : next.maySend = s.maySend := by simp [Socket.maySend,state]
  have full : f.receives = false → s.tx.isFull = true → next.tx.isFull = true := by
    intro sends full
    have := tx sends
    have := next.tx.bounded
    rw [RingBuffer.isFull_iff] at full ⊢
    omega
  have receiving : s.mayRecv = true → s.rx.data = [] → next.mayRecv = true := by
    intro may dry
    cases at_ : s.state <;> simp_all [Socket.mayRecv,RingBuffer.isEmpty]
  cases f with
  | readReady => exact rx rfl blocked
  | read buf => exact ⟨blocked.1,receiving blocked.2.1 blocked.2.2,rx rfl blocked.2.2⟩
  | readWith f => exact ⟨receiving blocked.1 blocked.2,rx rfl blocked.2⟩
  | writeReady =>
    have blocked : s.canSend = false := blocked
    change next.canSend = false
    simp only [Socket.canSend,may,Bool.and_eq_false_iff,Bool.not_eq_false'] at blocked ⊢
    exact blocked.imp id (full rfl)
  | write buf => exact ⟨may.trans blocked.1,blocked.2.imp id (full rfl)⟩
  | writeWith f => exact ⟨may.trans blocked.1,full rfl blocked.2⟩
  | flush =>
    have lengths := (tx rfl).1
    simp only [Future.Blocked,Bool.or_eq_true] at blocked ⊢
    rcases blocked with (queued | fin) | rst
    · refine .inl (.inl ?_)
      simp only [SocketInner.dataPending,Bool.and_eq_true,state] at queued ⊢
      exact ⟨decide_eq_true (Nat.lt_of_lt_of_le (of_decide_eq_true queued.1) lengths),queued.2⟩
    · exact .inl (.inr (by simpa [SocketInner.finPending,state] using fin))
    · refine .inr ?_
      simp only [SocketInner.rstPending,Socket.remoteEndpoint,Option.isSome_map,Bool.and_eq_true,beq_iff_eq,
        state] at rst ⊢
      exact ⟨rst.1,tuple rfl rst.1 rst.2⟩
  | connect => simpa [Future.Blocked,state] using blocked
  | accept => simpa [Future.Blocked,state] using blocked

theorem net_blocked {net : Socket → Socket → Prop} (laws : WakeLaws net) (taken : net s next) {f : Future ρ}
    (blocked : f.Blocked s) : f.Fired s next ∨ (f.slot next = f.slot s ∧ f.Blocked next) := by
  by_cases changed : next.state = s.state
  · cases receives : f.receives with
    | true =>
      simp only [Future.Fired,Future.slot,receives,if_true]
      rcases laws.rxSlot _ _ taken with kept | fired
      · by_cases readable : s.rx.data = [] → next.rx.data = []
        · exact .inr ⟨kept,blocked.stable changed (fun _ => readable) (by simp [receives]) (by simp [receives])⟩
        · obtain ⟨dry,some⟩ := Classical.not_imp.mp readable
          exact .inl (laws.readable _ _ taken dry some)
      · exact .inl fired
    | false =>
      simp only [Future.Fired,Future.slot,receives,Bool.false_eq_true,if_false]
      rcases laws.txSlot _ _ taken with kept | fired
      · by_cases shorter : next.tx.data.length < s.tx.data.length
        · exact .inl (laws.acknowledged _ _ taken shorter)
        · by_cases forgotten : s.state = .closed ∧ s.tuple.isSome ∧ next.tuple = none
          · exact .inl (laws.rstDispatched _ _ taken forgotten.1 forgotten.2.1 forgotten.2.2)
          · refine .inr ⟨kept,blocked.stable changed (by simp [receives]) ?_ ?_⟩
            · exact fun _ => ⟨Nat.le_of_not_lt shorter,laws.capacity _ _ taken⟩
            · intro _ closed owed
              cases peer : next.tuple with
              | none => exact absurd ⟨closed,owed,peer⟩ forgotten
              | some _ => rfl
      · exact .inl fired
  · have fired := laws.stateChange _ _ taken changed
    unfold Future.Fired
    split
    · exact .inl fired.1
    · exact .inl fired.2

-- A poll of any future leaves an empty receive ring empty and never shortens
-- the transmit ring.
theorem poll_rings (g : Future ρ) (cx : Waker) (memory : Memory) (s : Socket) :
    (s.rx.data = [] → (g.poll cx memory s).socket.rx.data = []) ∧
      s.tx.data.length ≤ (g.poll cx memory s).socket.tx.data.length := by
  cases g with
  | readReady => simp only [Future.poll,SocketInner.pollReadReady]; split <;> exact ⟨id,Nat.le_refl _⟩
  | writeReady => simp only [Future.poll,SocketInner.pollWriteReady]; split <;> exact ⟨id,Nat.le_refl _⟩
  | flush => simp only [Future.poll,SocketInner.flush]; split <;> exact ⟨id,Nat.le_refl _⟩
  | connect => simp only [Future.poll,TcpSocket.connectWait]; split <;> exact ⟨id,Nat.le_refl _⟩
  | accept => simp only [Future.poll,TcpSocket.acceptWait]; split <;> exact ⟨id,Nat.le_refl _⟩
  | read buf =>
    simp only [Future.poll]
    have spec := SocketInner.read_spec cx buf s
    generalize SocketInner.read cx buf s = out at spec
    cases spec with
    | octets receiving n size some => exact ⟨fun dry => by simp [dry],Nat.le_refl _⟩
    | empty | wait | finished | reset => exact ⟨id,Nat.le_refl _⟩
  | write buf =>
    simp only [Future.poll]
    have spec := SocketInner.write_spec cx buf s
    generalize SocketInner.write cx buf s = out at spec
    cases spec with
    | octets sending n size some => exact ⟨id,by simp⟩
    | wait | reset => exact ⟨id,Nat.le_refl _⟩
  | readWith f =>
    simp only [Future.poll]
    have spec := SocketInner.readWith_spec cx memory.run f s
    generalize SocketInner.readWith cx memory.run f s = out at spec
    cases spec with
    | called able => exact ⟨fun dry => absurd dry (canRecv_iff.mp able),Nat.le_refl _⟩
    | wait | reset | asserted | late => exact ⟨id,Nat.le_refl _⟩
  | writeWith f =>
    simp only [Future.poll]
    have spec := SocketInner.writeWith_spec cx memory.run memory.stale f s
    generalize SocketInner.writeWith cx memory.run memory.stale f s = out at spec
    cases spec with
    | called => exact ⟨id,by simp⟩
    | wait | reset | asserted | late => exact ⟨id,Nat.le_refl _⟩

theorem other_blocked {f g : Future ρ} (blocked : f.Blocked s) (registered : f.slot s = some cx) (memory : Memory) :
    f.slot (g.poll cx memory s).socket = some cx ∧ f.Blocked (g.poll cx memory s).socket := by
  have touched := g.poll_touched cx memory s
  have rings := poll_rings g cx memory s
  refine ⟨?_,blocked.stable touched.state (fun _ => rings.1) (fun _ => ⟨rings.2,touched.capacity⟩)
    (fun _ _ owed => by rwa [touched.tuple])⟩
  unfold Future.slot at registered ⊢
  split
  · rename_i receives
    rw [if_pos receives] at registered
    exact touched.rxSlot.elim (fun same => same.trans registered) id
  · rename_i sends
    rw [if_neg sends] at registered
    exact touched.txSlot.elim (fun same => same.trans registered) id

-- One future of a socket in the hands of its task `cx`. `since` is the socket
-- as the last poll left it, when that poll returned Pending.
structure Waiter (ρ : Type) where
  future : Future ρ
  socket : Socket
  since : Option Socket

inductive WaiterEvent (ρ : Type) where
  | net (next : Socket)
  | poll (memory : Memory)
  | other (future : Future ρ) (memory : Memory)

-- A future that has returned is not polled again: `poll` is a step only while
-- the answer is Pending. The other futures of the socket are polled by the same task.
inductive WaiterStep (net : Socket → Socket → Prop) (cx : Waker) :
    Waiter ρ → WaiterEvent ρ → Waiter ρ → Prop where
  | net (taken : net w.socket next) : WaiterStep net cx w (.net next) {w with socket := next}
  | poll (pending : (w.future.poll cx memory w.socket).poll = .pending) :
      WaiterStep net cx w (.poll memory)
        ⟨(w.future.poll cx memory w.socket).future,(w.future.poll cx memory w.socket).socket,
          some (w.future.poll cx memory w.socket).socket⟩
  | other : WaiterStep net cx w (.other g memory) {w with socket := (g.poll cx memory w.socket).socket}

def Future.watch (f : Future ρ) (cx : Waker) (last : Socket) : Watch Socket where
  ready s := ¬ f.Blocked s
  armed s := f.slot s = some cx ∧ last.wakes.count cx ≤ s.wakes.count cx
  woken := WokenSince cx last

theorem register_slot (f : Future ρ) (cx : Waker) (s : Socket) : f.slot (f.register cx s) = some cx := by
  unfold Future.slot Future.register
  split <;> rfl

theorem register_blocked {f : Future ρ} (blocked : f.Blocked s) (cx : Waker) : f.Blocked (f.register cx s) := by
  unfold Future.register
  split <;> exact blocked.stable rfl (fun _ => id) (fun _ => ⟨Nat.le_refl _,rfl⟩) (fun _ _ => id)

theorem net_kept {net : Socket → Socket → Prop} (laws : WakeLaws net) (taken : net s next) (f : Future ρ)
    (cx : Waker) (last : Socket) : (f.watch cx last).Kept s next := by
  have counted := laws.counted _ _ taken cx
  refine ⟨fun woken => Nat.lt_of_lt_of_le woken counted,?_⟩
  intro armed blocked
  obtain ⟨registered,before⟩ := armed
  have blocked : f.Blocked s := Classical.not_not.mp blocked
  rcases net_blocked laws taken blocked with fired | ⟨kept,blocked⟩
  · have woken : WokenSince cx s next := by
      unfold Future.Fired at fired
      unfold Future.slot at registered
      split at fired
      · rename_i receives; rw [if_pos receives] at registered; exact fired.2 cx registered
      · rename_i sends; rw [if_neg sends] at registered; exact fired.2 cx registered
    exact .inl (Nat.lt_of_le_of_lt before woken)
  · exact .inr ⟨⟨kept.trans registered,Nat.le_trans before counted⟩,Classical.not_not.mpr blocked⟩

theorem other_kept (f g : Future ρ) (cx : Waker) (memory : Memory) (s last : Socket) :
    (f.watch cx last).Kept s (g.poll cx memory s).socket := by
  have wakes := (g.poll_touched cx memory s).wakes
  refine ⟨fun woken => by simpa only [Future.watch,WokenSince,wakes] using woken,?_⟩
  intro armed blocked
  obtain ⟨registered,before⟩ := armed
  obtain ⟨slot,blocked⟩ := other_blocked (g := g) (Classical.not_not.mp blocked) registered memory
  exact .inr ⟨⟨slot,by rwa [wakes]⟩,Classical.not_not.mpr blocked⟩

def Waiter.Safe (cx : Waker) (w : Waiter ρ) : Prop :=
  w.future.Live ∧ ∀ last, w.since = some last → (w.future.watch cx last).Safe w.socket

theorem waiter_step {net : Socket → Socket → Prop} (laws : WakeLaws net) (w : Waiter ρ) (event : WaiterEvent ρ)
    (next : Waiter ρ) (safe : w.Safe cx) (step : WaiterStep net cx w event next) : next.Safe cx := by
  obtain ⟨live,waiting⟩ := safe
  cases step with
  | net taken =>
    exact ⟨live,fun last since => (w.future.watch cx last).safe_step (waiting last since) (net_kept laws taken _ _ _)⟩
  | other =>
    exact ⟨live,fun last since => (w.future.watch cx last).safe_step (waiting last since) (other_kept _ _ _ _ _ _)⟩
  | poll pending =>
    have blocked := blocked_of_pending live pending
    rw [poll_blocked blocked]
    refine ⟨live,?_⟩
    intro last since
    cases Option.some.inj since
    exact .inr ⟨⟨register_slot _ _ _,Nat.le_refl _⟩,Classical.not_not.mpr (register_blocked blocked cx)⟩

theorem waiter_runs {net : Socket → Socket → Prop} (laws : WakeLaws net) {start w : Waiter ρ}
    (live : start.future.Live) (unpolled : start.since = none)
    (path : Runs (WaiterStep net cx) start events w) : w.Safe cx :=
  path.invariant (waiter_step laws) ⟨live,fun last since => by rw [unpolled] at since; cases since⟩

theorem future_no_lost_wakeup {net : Socket → Socket → Prop} (laws : WakeLaws net) (f : Future ρ) (live : f.Live)
    (s : Socket) (path : Runs (WaiterStep net cx) ⟨f,s,none⟩ events w) (last : Socket)
    (suspended : w.since = some last) (memory : Memory) (value : Output ρ)
    (ready : (w.future.poll cx memory w.socket).poll = .ready value) : WokenSince cx last w.socket := by
  have safe := (waiter_runs laws live rfl path).2 last suspended
  refine (w.future.watch cx last).woken_of_ready safe ?_
  intro blocked
  rw [poll_blocked blocked] at ready
  cases ready

theorem read_woken_by_octets :
    WokenSince 7 ((Controls.connected .established).registerRecvWaker 7)
      (process ((Controls.connected .established).registerRecvWaker 7) (.octets [5])) := by
  have polled : WaiterStep Processed 7 (⟨.read [0],Controls.connected .established,none⟩ : Waiter Unit) (.poll .blank) _ :=
    .poll rfl
  exact future_no_lost_wakeup processed_wakes (.read [0]) True.intro _ (.step (.one polled) (.net ⟨.octets [5],rfl⟩))
    _ rfl .blank (.count (.ok 1)) rfl

end Ra6m3Rtic
