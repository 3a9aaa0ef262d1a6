import Ra6m3Rtic.Smoltcp

namespace Ra6m3Rtic.Smoltcp

def WokenSince (cx : Waker) (before after : Socket) : Prop := before.wakes.count cx < after.wakes.count cx

instance (cx : Waker) (before after : Socket) : Decidable (WokenSince cx before after) :=
  inferInstanceAs (Decidable (_ < _))

def RxFired (s next : Socket) : Prop :=
  next.rxWaker = none ∧ ∀ cx, s.rxWaker = some cx → WokenSince cx s next
def TxFired (s next : Socket) : Prop :=
  next.txWaker = none ∧ ∀ cx, s.txWaker = some cx → WokenSince cx s next

-- What the firmware's futures rely on. A network step may change the socket in
-- any way; the laws only say which changes fire which of the two slots.
structure WakeLaws (net : Socket → Socket → Prop) : Prop where
  counted : ∀ s next, net s next → ∀ cx, s.wakes.count cx ≤ next.wakes.count cx
  rxSlot : ∀ s next, net s next → next.rxWaker = s.rxWaker ∨ RxFired s next
  txSlot : ∀ s next, net s next → next.txWaker = s.txWaker ∨ TxFired s next
  stateChange : ∀ s next, net s next → next.state ≠ s.state → RxFired s next ∧ TxFired s next
  readable : ∀ s next, net s next → s.rx.data = [] → next.rx.data ≠ [] → RxFired s next
  acknowledged : ∀ s next, net s next → next.tx.data.length < s.tx.data.length → TxFired s next
  rstDispatched : ∀ s next, net s next → s.state = .closed → s.tuple.isSome → next.tuple = none → TxFired s next
  capacity : ∀ s next, net s next → next.tx.capacity = s.tx.capacity

-- The slots are all a network step knows of the tasks.
def WakesRegistered (net : Socket → Socket → Prop) : Prop :=
  ∀ s next, net s next → ∀ cx, s.rxWaker ≠ some cx → s.txWaker ≠ some cx → ¬ WokenSince cx s next

-- A network step never reopens a socket.
structure ClosedLaws (net : Socket → Socket → Prop) : Prop where
  closed : ∀ s next, net s next → s.state = .closed → next.state = .closed
  timeWait : ∀ s next, net s next → s.state = .timeWait → next.state = .timeWait ∨ next.state = .closed

theorem ClosedLaws.not_open {net : Socket → Socket → Prop} (laws : ClosedLaws net) (taken : net s next)
    (shut : s.isOpen = false) : next.isOpen = false := by
  have cases : s.state = .closed ∨ s.state = .timeWait := by
    cases state : s.state <;> simp_all [Socket.isOpen]
  rcases cases with closed | waiting
  · simp [Socket.isOpen,laws.closed _ _ taken closed]
  · rcases laws.timeWait _ _ taken waiting with same | closed
    · simp [Socket.isOpen,same]
    · simp [Socket.isOpen,closed]

-- The edges of the TCP state machine that segments and timers drive. Every
-- state can be left for Closed: by a RST or by the user timeout.
def Transition : State → State → Bool
  | _,.closed => true
  | .listen,.synReceived => true
  | .synSent,.synReceived | .synSent,.established => true
  | .synReceived,.established | .synReceived,.closeWait | .synReceived,.listen => true
  | .established,.closeWait => true
  | .finWait1,.finWait2 | .finWait1,.closing | .finWait1,.timeWait => true
  | .finWait2,.timeWait => true
  | .closing,.timeWait => true
  | _,_ => false

-- The states a connection is in only after the peer's FIN.
def PeerClosed : State → Bool
  | .closeWait | .closing | .lastAck | .timeWait => true
  | _ => false

-- Everything but the endpoints of a socket that was reset.
def Emptied (s : Socket) : Prop := s.state = .closed ∧ s.rx.data = [] ∧ s.rxFinReceived = false ∧ s.tuple = none

structure TcpLaws (net : Socket → Socket → Prop) : Prop where
  transition : ∀ s next, net s next → next.state = s.state ∨ Transition s.state next.state
  -- Received octets are appended, none after the peer's FIN; only a reset forgets them.
  ingress : ∀ s next, net s next → Emptied next ∨
    (∃ arrived, next.rx.data = s.rx.data ++ arrived ∧ (s.rxFinReceived = true → arrived = [])) ∧
      (s.rxFinReceived = true → next.rxFinReceived = true)
  fin : ∀ s next, net s next → PeerClosed s.state = false → PeerClosed next.state = true → next.rxFinReceived = true
  deaf : ∀ s next, net s next → s.state = .closed →
    next.rx.data = s.rx.data ∧ next.rxFinReceived = s.rxFinReceived
  -- A closed socket forgets its peer only by sending the RST it owes.
  rst : ∀ s next, net s next → s.state = .closed → next.tuple = s.tuple ∨
    (next.tuple = none ∧ s.rstsSent < next.rstsSent)
  rstsSent : ∀ s next, net s next → s.rstsSent ≤ next.rstsSent

theorem TcpLaws.closedLaws {net : Socket → Socket → Prop} (laws : TcpLaws net) : ClosedLaws net := by
  refine ⟨?_,?_⟩
  · intro s next taken closed
    rcases laws.transition _ _ taken with same | edge
    · exact same.trans closed
    · rw [closed] at edge
      cases target : next.state <;> simp_all [Transition]
  · intro s next taken waiting
    rcases laws.transition _ _ taken with same | edge
    · exact .inl (same.trans waiting)
    · rw [waiting] at edge
      cases target : next.state <;> simp_all [Transition]

-- A concrete network: the segments and timers of one connection as smoltcp
-- handles them. It is used where a run has to be exhibited.
inductive NetEvent where
  | syn (tuple : Tuple)
  | synAck
  | ack
  | fin
  | finAcked
  | rst
  | octets (bytes : List UInt8)
  | acknowledge (n : Nat)
  | timeout
  | sendRst
  | timeWaitExpired
  deriving DecidableEq

def process (s : Socket) : NetEvent → Socket
  | .syn tuple =>
    match s.state with
    | .listen => ({s with tuple := some tuple} : Socket).setState .synReceived
    | .synSent => s.setState .synReceived
    | _ => s
  | .synAck => if s.state = .synSent then s.setState .established else s
  | .ack => if s.state = .synReceived then s.setState .established else s
  | .fin =>
    let received : Socket := {s with rxFinReceived := true}
    match s.state with
    | .synReceived | .established => received.setState .closeWait
    | .finWait1 => received.setState .closing
    | .finWait2 => received.setState .timeWait
    | _ => s
  | .finAcked =>
    match s.state with
    | .finWait1 => s.setState .finWait2
    | .closing => s.setState .timeWait
    | .lastAck => {s.setState .closed with tuple := none}
    | _ => s
  | .rst =>
    match s.state with
    | .closed | .listen => s
    | .synReceived =>
      if s.listenEndpoint.port ≠ 0 then ({s with tuple := none} : Socket).setState .listen
      else {s.setState .closed with tuple := none}
    | _ => {s.setState .closed with tuple := none}
  | .octets bytes =>
    match s.state with
    | .established | .finWait1 | .finWait2 =>
      if s.rxFinReceived then s else ({s with rx := s.rx.enqueue bytes} : Socket).wakeRx
    | _ => s
  | .acknowledge n => ({s with tx := s.tx.dequeue n} : Socket).wakeTx
  | .timeout => if s.tuple.isSome ∧ s.state ≠ .closed then s.setState .closed else s
  | .sendRst =>
    if s.tuple.isSome ∧ s.state = .closed then
      ({s with tuple := none,rstsSent := s.rstsSent + 1} : Socket).wakeTx
    else s
  | .timeWaitExpired => if s.state = .timeWait then s.reset else s

def Processed (s next : Socket) : Prop := ∃ event, next = process s event

-- What an event may do to the two slots: nothing at all, fire both, or fire the
-- one slot whose buffer (or pending RST) it served.
inductive Shape (s next : Socket) : Prop where
  | same (equal : next = s)
  | both (rx : next.rxWaker = none) (tx : next.txWaker = none)
      (log : next.wakes = s.wakes ++ s.rxWaker.toList ++ s.txWaker.toList)
      (capacity : next.tx.capacity = s.tx.capacity)
  | receive (bytes : List UInt8) (equal : next = ({s with rx := s.rx.enqueue bytes} : Socket).wakeRx)
  | acknowledge (n : Nat) (equal : next = ({s with tx := s.tx.dequeue n} : Socket).wakeTx)
  | sendRst (equal : next = ({s with tuple := none,rstsSent := s.rstsSent + 1} : Socket).wakeTx)

-- The moves that only change the state, and those of the peer's FIN.
def PlainMove : State → State → Bool
  | _,.closed => true
  | .synSent,.synReceived | .synSent,.established | .synReceived,.established => true
  | .finWait1,.finWait2 | .closing,.timeWait => true
  | _,_ => false
def FinMove : State → State → Bool
  | .synReceived,.closeWait | .established,.closeWait | .finWait1,.closing | .finWait2,.timeWait => true
  | _,_ => false

-- All that an event can do to a socket. Every law of the concrete network is
-- read off these cases.
inductive Handled (s : Socket) : Socket → Prop where
  | same : Handled s s
  | answered (tuple : Tuple) (listening : s.state = .listen) :
      Handled s (({s with tuple := some tuple} : Socket).setState .synReceived)
  | moved (state : State) (move : PlainMove s.state state = true) : Handled s (s.setState state)
  | finished (state : State) (move : FinMove s.state state = true) :
      Handled s (({s with rxFinReceived := true} : Socket).setState state)
  | dropped (live : s.state ≠ .closed) : Handled s {s.setState .closed with tuple := none}
  | relistened (before : s.state = .synReceived) (listens : s.listenEndpoint.port ≠ 0) :
      Handled s (({s with tuple := none} : Socket).setState .listen)
  | received (bytes : List UInt8) (live : s.state ≠ .closed) (unfinished : s.rxFinReceived = false) :
      Handled s ({s with rx := s.rx.enqueue bytes} : Socket).wakeRx
  | acknowledged (n : Nat) : Handled s ({s with tx := s.tx.dequeue n} : Socket).wakeTx
  | rstSent (closed : s.state = .closed) :
      Handled s ({s with tuple := none,rstsSent := s.rstsSent + 1} : Socket).wakeTx
  | expired (waiting : s.state = .timeWait) : Handled s s.reset

theorem process_handled (s : Socket) (event : NetEvent) : Handled s (process s event) := by
  cases event with
  | syn tuple =>
    simp only [process]
    split
    · rename_i listening
      exact .answered tuple listening
    · rename_i sent
      exact .moved .synReceived (by rw [sent]; rfl)
    · exact .same
  | synAck =>
    simp only [process]
    split
    · rename_i sent
      exact .moved .established (by rw [sent]; rfl)
    · exact .same
  | ack =>
    simp only [process]
    split
    · rename_i received
      exact .moved .established (by rw [received]; rfl)
    · exact .same
  | fin =>
    simp only [process]
    split
    iterate 4
      · rename_i state
        exact .finished _ (by rw [state]; rfl)
    · exact .same
  | finAcked =>
    simp only [process]
    split
    · rename_i state
      exact .moved .finWait2 (by rw [state]; rfl)
    · rename_i state
      exact .moved .timeWait (by rw [state]; rfl)
    · rename_i state
      exact .dropped (by simp [state])
    · exact .same
  | rst =>
    simp only [process]
    split
    · exact .same
    · exact .same
    · rename_i state
      split
      · rename_i listens
        exact .relistened state listens
      · exact .dropped (by simp [state])
    · rename_i live _ _
      exact .dropped live
  | octets bytes =>
    simp only [process]
    split
    iterate 3
      · rename_i state
        split
        · exact .same
        · rename_i unfinished
          exact .received bytes (by simp [state]) (by simpa using unfinished)
    · exact .same
  | acknowledge n => exact .acknowledged n
  | timeout =>
    simp only [process]
    split
    · exact .moved .closed (by cases s.state <;> rfl)
    · exact .same
  | sendRst =>
    simp only [process]
    split
    · rename_i owed
      exact .rstSent owed.2
    · exact .same
  | timeWaitExpired =>
    simp only [process]
    split
    · rename_i waiting
      exact .expired waiting
    · exact .same

theorem Processed.handled (taken : Processed s next) : Handled s next := by
  obtain ⟨event,equal⟩ := taken
  rw [equal]
  exact process_handled s event

theorem Processed.shape (taken : Processed s next) : Shape s next := by
  cases taken.handled with
  | same => exact .same rfl
  | received bytes => exact .receive bytes rfl
  | acknowledged n => exact .acknowledge n rfl
  | rstSent => exact .sendRst rfl
  | answered | moved | finished | dropped | relistened | expired => exact .both rfl rfl rfl rfl

theorem fired_both {s next : Socket} (rx : next.rxWaker = none) (tx : next.txWaker = none)
    (log : next.wakes = s.wakes ++ s.rxWaker.toList ++ s.txWaker.toList) : RxFired s next ∧ TxFired s next := by
  refine ⟨⟨rx,?_⟩,⟨tx,?_⟩⟩
  · intro cx registered
    simp only [WokenSince,log,registered,List.count_append,Option.toList_some,List.count_singleton_self]
    omega
  · intro cx registered
    simp only [WokenSince,log,registered,List.count_append,Option.toList_some,List.count_singleton_self]
    omega

theorem fired_rx (s middle : Socket) (slot : middle.rxWaker = s.rxWaker) (log : middle.wakes = s.wakes) :
    RxFired s middle.wakeRx := by
  refine ⟨rfl,?_⟩
  intro cx registered
  simp [WokenSince,Socket.wakeRx,slot,log,registered]

theorem fired_tx (s middle : Socket) (slot : middle.txWaker = s.txWaker) (log : middle.wakes = s.wakes) :
    TxFired s middle.wakeTx := by
  refine ⟨rfl,?_⟩
  intro cx registered
  simp [WokenSince,Socket.wakeTx,slot,log,registered]

theorem processed_wakes : WakeLaws Processed where
  counted := by
    intro s next taken cx
    cases taken.shape with
    | same equal => exact Nat.le_of_eq (by rw [equal])
    | both rx tx log capacity => simp only [log,List.count_append]; omega
    | receive bytes equal => simp [equal,Socket.wakeRx]
    | acknowledge n equal => simp [equal,Socket.wakeTx]
    | sendRst equal => simp [equal,Socket.wakeTx]
  rxSlot := by
    intro s next taken
    cases taken.shape with
    | same equal => rw [equal]; exact .inl rfl
    | both rx tx log capacity => exact .inr (fired_both rx tx log).1
    | receive bytes equal => rw [equal]; exact .inr (fired_rx _ _ rfl rfl)
    | acknowledge n equal => rw [equal]; exact .inl rfl
    | sendRst equal => rw [equal]; exact .inl rfl
  txSlot := by
    intro s next taken
    cases taken.shape with
    | same equal => rw [equal]; exact .inl rfl
    | both rx tx log capacity => exact .inr (fired_both rx tx log).2
    | receive bytes equal => rw [equal]; exact .inl rfl
    | acknowledge n equal => rw [equal]; exact .inr (fired_tx _ _ rfl rfl)
    | sendRst equal => rw [equal]; exact .inr (fired_tx _ _ rfl rfl)
  stateChange := by
    intro s next taken changed
    cases taken.shape with
    | same equal => rw [equal] at changed; exact absurd rfl changed
    | both rx tx log capacity => exact fired_both rx tx log
    | receive bytes equal => rw [equal] at changed; exact absurd rfl changed
    | acknowledge n equal => rw [equal] at changed; exact absurd rfl changed
    | sendRst equal => rw [equal] at changed; exact absurd rfl changed
  readable := by
    intro s next taken none some
    cases taken.shape with
    | same equal => rw [equal] at some; exact absurd none some
    | both rx tx log capacity => exact (fired_both rx tx log).1
    | receive bytes equal => rw [equal]; exact fired_rx _ _ rfl rfl
    | acknowledge n equal => rw [equal] at some; exact absurd none some
    | sendRst equal => rw [equal] at some; exact absurd none some
  acknowledged := by
    intro s next taken shorter
    cases taken.shape with
    | same equal => rw [equal] at shorter; omega
    | both rx tx log capacity => exact (fired_both rx tx log).2
    | receive bytes equal => rw [equal] at shorter; exact absurd shorter (Nat.lt_irrefl _)
    | acknowledge n equal => rw [equal]; exact fired_tx _ _ rfl rfl
    | sendRst equal => rw [equal]; exact fired_tx _ _ rfl rfl
  rstDispatched := by
    intro s next taken _ owed forgotten
    cases taken.shape with
    | same equal => rw [equal] at forgotten; simp [forgotten] at owed
    | both rx tx log capacity => exact (fired_both rx tx log).2
    | receive bytes equal =>
      rw [equal] at forgotten
      have kept : s.tuple = none := forgotten
      simp [kept] at owed
    | acknowledge n equal => rw [equal]; exact fired_tx _ _ rfl rfl
    | sendRst equal => rw [equal]; exact fired_tx _ _ rfl rfl
  capacity := by
    intro s next taken
    cases taken.shape with
    | same equal => rw [equal]
    | both rx tx log capacity => exact capacity
    | receive bytes equal => rw [equal]; rfl
    | acknowledge n equal => rw [equal]; rfl
    | sendRst equal => rw [equal]; rfl

theorem toList_count_zero {slot : Option Waker} (unregistered : slot ≠ some cx) : slot.toList.count cx = 0 := by
  cases slot with
  | none => rfl
  | some other =>
    have different : other ≠ cx := fun same => unregistered (by rw [same])
    simp [different]

theorem processed_registered : WakesRegistered Processed := by
  intro s next taken cx rx tx woken
  have noRx := toList_count_zero rx
  have noTx := toList_count_zero tx
  unfold WokenSince at woken
  cases taken.shape with
  | same equal => rw [equal] at woken; omega
  | both _ _ log _ => rw [log,List.count_append,List.count_append] at woken; omega
  | receive bytes equal => simp only [equal,Socket.wakeRx,List.count_append] at woken; omega
  | acknowledge n equal => simp only [equal,Socket.wakeTx,List.count_append] at woken; omega
  | sendRst equal => simp only [equal,Socket.wakeTx,List.count_append] at woken; omega

@[simp] theorem setState_state (s : Socket) (state : State) : (s.setState state).state = state := rfl
@[simp] theorem setState_rx (s : Socket) (state : State) : (s.setState state).rx = s.rx := rfl
@[simp] theorem setState_rxFin (s : Socket) (state : State) :
    (s.setState state).rxFinReceived = s.rxFinReceived := rfl

theorem plainMove_transition (move : PlainMove s state = true) : Transition s state = true := by
  cases s <;> cases state <;> simp_all [PlainMove,Transition]

theorem finMove_transition (move : FinMove s state = true) : Transition s state = true := by
  cases s <;> cases state <;> simp_all [FinMove,Transition]

theorem transition_closed (s : State) : Transition s .closed = true := by
  cases s <;> rfl

theorem Handled.transition (handled : Handled s next) : next.state = s.state ∨ Transition s.state next.state := by
  cases handled with
  | same | received | acknowledged | rstSent => exact .inl rfl
  | answered tuple listening => rw [listening]; exact .inr rfl
  | moved state move => exact .inr (plainMove_transition move)
  | finished state move => exact .inr (finMove_transition move)
  | relistened before listens => rw [before]; exact .inr rfl
  | dropped | expired => exact .inr (transition_closed s.state)

-- Only TIME-WAIT expiry and an arriving segment touch the receive side.
theorem Handled.ingress (handled : Handled s next) : Emptied next ∨
    (∃ arrived, next.rx.data = s.rx.data ++ arrived ∧ (s.rxFinReceived = true → arrived = [])) ∧
      (s.rxFinReceived = true → next.rxFinReceived = true) := by
  have nothing : ∃ arrived, s.rx.data = s.rx.data ++ arrived ∧ (s.rxFinReceived = true → arrived = []) :=
    ⟨[],(List.append_nil _).symm,fun _ => rfl⟩
  cases handled with
  | expired waiting => exact .inl ⟨rfl,rfl,rfl,rfl⟩
  | received bytes live unfinished =>
    refine .inr ⟨⟨bytes.take s.rx.window,rfl,?_⟩,id⟩
    intro fin
    rw [unfinished] at fin
    cases fin
  | finished state move => exact .inr ⟨nothing,fun _ => rfl⟩
  | same | answered | moved | dropped | relistened | acknowledged | rstSent => exact .inr ⟨nothing,id⟩

theorem plainMove_peerClosed (move : PlainMove s state = true) (after : PeerClosed state = true) : PeerClosed s = true := by
  cases s <;> cases state <;> simp_all [PlainMove,PeerClosed]

theorem Handled.fin (handled : Handled s next) (before : PeerClosed s.state = false)
    (after : PeerClosed next.state = true) : next.rxFinReceived = true := by
  cases handled with
  | finished state move => rfl
  | moved state move =>
    have known := plainMove_peerClosed move after
    rw [before] at known
    cases known
  | same | received | acknowledged | rstSent =>
    have same : PeerClosed s.state = true := after
    rw [before] at same
    cases same
  | answered | dropped | relistened | expired => cases after

theorem Handled.deaf (handled : Handled s next) (closed : s.state = .closed) :
    next.rx.data = s.rx.data ∧ next.rxFinReceived = s.rxFinReceived := by
  cases handled with
  | finished state move => rw [closed] at move; cases move
  | received bytes live => exact absurd closed live
  | expired waiting => rw [closed] at waiting; cases waiting
  | same | answered | moved | dropped | relistened | acknowledged | rstSent => exact ⟨rfl,rfl⟩

theorem Handled.rst (handled : Handled s next) (closed : s.state = .closed) :
    next.tuple = s.tuple ∨ (next.tuple = none ∧ s.rstsSent < next.rstsSent) := by
  cases handled with
  | rstSent => exact .inr ⟨rfl,Nat.lt_succ_self _⟩
  | answered tuple listening => rw [closed] at listening; cases listening
  | dropped live => exact absurd closed live
  | relistened before => rw [closed] at before; cases before
  | expired waiting => rw [closed] at waiting; cases waiting
  | same | moved | finished | received | acknowledged => exact .inl rfl

theorem Handled.rstsSent (handled : Handled s next) : s.rstsSent ≤ next.rstsSent := by
  cases handled with
  | rstSent => exact Nat.le_succ _
  | same | answered | moved | finished | dropped | relistened | received | acknowledged | expired => exact Nat.le_refl _

theorem TcpLaws.mono {net other : Socket → Socket → Prop} (laws : TcpLaws net)
    (included : ∀ s next, other s next → net s next) : TcpLaws other where
  transition := fun s next taken => laws.transition s next (included s next taken)
  ingress := fun s next taken => laws.ingress s next (included s next taken)
  fin := fun s next taken => laws.fin s next (included s next taken)
  deaf := fun s next taken => laws.deaf s next (included s next taken)
  rst := fun s next taken => laws.rst s next (included s next taken)
  rstsSent := fun s next taken => laws.rstsSent s next (included s next taken)

theorem processed_tcp : TcpLaws Processed where
  transition := fun _ _ taken => taken.handled.transition
  ingress := fun _ _ taken => taken.handled.ingress
  fin := fun _ _ taken => taken.handled.fin
  deaf := fun _ _ taken => taken.handled.deaf
  rst := fun _ _ taken => taken.handled.rst
  rstsSent := fun _ _ taken => taken.handled.rstsSent

namespace Controls
def peer : Tuple := ⟨⟨.v4 192 168 69 100,58026⟩,⟨.v4 192 168 69 20,1883⟩⟩
def connected (state : State) : Socket := {Socket.fresh 4 4 with state := state,tuple := some peer}
end Controls

end Ra6m3Rtic.Smoltcp
