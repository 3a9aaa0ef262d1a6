import Ra6m3Rtic.Smoltcp

namespace Ra6m3Rtic.Smoltcp

-- The user side of `tcp::Socket` by its documented clauses, one for each way a call
-- can go. The definitions of Socket meet them, and nothing else does: they assume
-- no more than the clauses say.
structure User.ProbeLaws (isOpen maySend mayRecv canSend canRecv : Socket → Bool) : Prop where
  opened : ∀ s, isOpen s = true ↔ s.state ≠ .closed ∧ s.state ≠ .timeWait
  sends : ∀ s, maySend s = true ↔ s.state = .established ∨ s.state = .closeWait
  receives : ∀ s, mayRecv s = true ↔
    s.state = .established ∨ s.state = .finWait1 ∨ s.state = .finWait2 ∨ s.rx.data ≠ []
  room : ∀ s, canSend s = true ↔ maySend s = true ∧ s.tx.isFull = false
  octets : ∀ s, canRecv s = true ↔ s.rx.data ≠ []

-- `set_state` wakes both slots.
structure User.CloseLaws (close abort : Socket → Socket) : Prop where
  unconnected : ∀ s, s.state = .listen ∨ s.state = .synSent → close s = s.setState .closed
  finishing : ∀ s, s.state = .synReceived ∨ s.state = .established → close s = s.setState .finWait1
  answering : ∀ s, s.state = .closeWait → close s = s.setState .lastAck
  ended : ∀ s, s.state ∈ [.finWait1,.finWait2,.closing,.timeWait,.lastAck,.closed] → close s = s
  aborted : ∀ s, abort s = s.setState .closed

structure User.ListenLaws (listen : Socket → IpListenEndpoint → Except ListenError Unit × Socket) : Prop where
  unaddressable : ∀ s endpoint, endpoint.port = 0 → listen s endpoint = (.error .unaddressable,s)
  again : ∀ s endpoint, endpoint.port ≠ 0 → s.isOpen = true → s.state = .listen ∧ s.listenEndpoint = endpoint →
    listen s endpoint = (.ok (),s)
  inUse : ∀ s endpoint, endpoint.port ≠ 0 → s.isOpen = true → ¬ (s.state = .listen ∧ s.listenEndpoint = endpoint) →
    listen s endpoint = (.error .invalidState,s)
  listening : ∀ s endpoint, endpoint.port ≠ 0 → s.isOpen = false →
    listen s endpoint = (.ok (),({s.reset with listenEndpoint := endpoint} : Socket).setState .listen)

def Unaddressable (remote : IpEndpoint) (port : UInt16) : Prop :=
  remote.port = 0 ∨ remote.addr.isUnspecified = true ∨ port = 0

structure User.ConnectLaws (connect : Socket → (IpAddress → Option IpAddress) → IpEndpoint → UInt16 →
    Except ConnectError Unit × Socket) : Prop where
  inUse : ∀ s source remote port, s.isOpen = true → connect s source remote port = (.error .invalidState,s)
  unaddressable : ∀ s source remote port, s.isOpen = false → Unaddressable remote port →
    connect s source remote port = (.error .unaddressable,s)
  unrouted : ∀ s source remote port, s.isOpen = false → source remote.addr = none →
    connect s source remote port = (.error .unaddressable,s)
  connecting : ∀ s source remote port addr, s.isOpen = false → ¬ Unaddressable remote port →
    source remote.addr = some addr → connect s source remote port =
      (.ok (),({s.reset with tuple := some ⟨⟨addr,port⟩,remote⟩} : Socket).setState .synSent)

structure User.TransferLaws (recvSlice : Socket → List UInt8 → Except RecvError Nat × List UInt8 × Socket)
    (sendSlice : Socket → List UInt8 → Except SendError Nat × Socket) : Prop where
  received : ∀ s buf, s.mayRecv = true → recvSlice s buf =
    (.ok (min buf.length s.rx.data.length),
      s.rx.data.take (min buf.length s.rx.data.length) ++ buf.drop (min buf.length s.rx.data.length),
      {s with rx := s.rx.dequeue (min buf.length s.rx.data.length)})
  finished : ∀ s buf, s.mayRecv = false → s.rxFinReceived = true → recvSlice s buf = (.error .finished,buf,s)
  reset : ∀ s buf, s.mayRecv = false → s.rxFinReceived = false → recvSlice s buf = (.error .invalidState,buf,s)
  queued : ∀ s buf, s.maySend = true →
    sendSlice s buf = (.ok (min buf.length s.tx.window),{s with tx := s.tx.enqueue buf})
  refused : ∀ s buf, s.maySend = false → sendSlice s buf = (.error .invalidState,s)

-- What `recv` and `send` hand to their closure.
def Socket.stored (s : Socket) (run : Nat) : List UInt8 :=
  s.rx.data.take (RingBuffer.contiguous run s.rx.data.length)
def Socket.free (s : Socket) (run : Nat) (stale : Nat → UInt8) : List UInt8 :=
  (List.range (RingBuffer.contiguous run s.tx.window)).map stale

def Closure.call (f : Closure ρ) (slice : List UInt8) : Invocation := ⟨slice,(f.run slice).1,(f.run slice).2.1⟩

structure User.ClosureLaws (recv : {ρ : Type} → Socket → Nat → Closure ρ → Applied RecvError ρ)
    (send : {ρ : Type} → Socket → Nat → (Nat → UInt8) → Closure ρ → Applied SendError ρ) : Prop where
  received : ∀ {ρ} (s : Socket) (run : Nat) (f : Closure ρ), s.mayRecv = true →
    (f.run (s.stored run)).2.1 ≤ (s.stored run).length → recv s run f =
      ⟨some (.ok (f.run (s.stored run)).2.2),[f.call (s.stored run)],
        {s with
          rx := s.rx.dequeueWith (RingBuffer.contiguous run s.rx.data.length) (f.run (s.stored run)).2.1
            (f.run (s.stored run)).1 (f.keeps (s.stored run))}⟩
  overread : ∀ {ρ} (s : Socket) (run : Nat) (f : Closure ρ), s.mayRecv = true →
    (s.stored run).length < (f.run (s.stored run)).2.1 → recv s run f = ⟨none,[f.call (s.stored run)],s⟩
  unreceived : ∀ {ρ} (s : Socket) (run : Nat) (f : Closure ρ), s.mayRecv = false → recv s run f =
    ⟨some (.error (if s.rxFinReceived then .finished else .invalidState)),[],s⟩
  sent : ∀ {ρ} (s : Socket) (run : Nat) (stale : Nat → UInt8) (f : Closure ρ), s.maySend = true →
    (f.run (s.free run stale)).2.1 ≤ (s.free run stale).length → send s run stale f =
      ⟨some (.ok (f.run (s.free run stale)).2.2),[f.call (s.free run stale)],
        {s with tx := s.tx.enqueue ((f.run (s.free run stale)).1.take (f.run (s.free run stale)).2.1)}⟩
  overwritten : ∀ {ρ} (s : Socket) (run : Nat) (stale : Nat → UInt8) (f : Closure ρ), s.maySend = true →
    (s.free run stale).length < (f.run (s.free run stale)).2.1 →
    send s run stale f = ⟨none,[f.call (s.free run stale)],s⟩
  unsent : ∀ {ρ} (s : Socket) (run : Nat) (stale : Nat → UInt8) (f : Closure ρ), s.maySend = false →
    send s run stale f = ⟨some (.error .invalidState),[],s⟩

namespace Socket

theorem probes : User.ProbeLaws isOpen maySend mayRecv canSend canRecv where
  opened s := by cases state : s.state <;> simp [isOpen,state]
  sends s := by cases state : s.state <;> simp [maySend,state]
  receives s := by cases state : s.state <;> simp [mayRecv,state,RingBuffer.isEmpty]
  room s := by simp [canSend]
  octets s := by cases state : s.state <;> simp [canRecv,mayRecv,state,RingBuffer.isEmpty]

theorem closes : User.CloseLaws close abort where
  unconnected s at_ := by rcases at_ with at_ | at_ <;> simp [close,at_]
  finishing s at_ := by rcases at_ with at_ | at_ <;> simp [close,at_]
  answering s at_ := by simp [close,at_]
  ended s at_ := by cases state : s.state <;> simp_all [close]
  aborted _ := rfl

theorem listens : User.ListenLaws listen where
  unaddressable s endpoint none := by simp [listen,none]
  again s endpoint port isOpen same := by simp [listen,port,isOpen,same]
  inUse s endpoint port isOpen other := by simp [listen,port,isOpen,other]
  listening s endpoint port shut := by simp [listen,port,shut]

theorem connects : User.ConnectLaws connect where
  inUse s source remote port isOpen := by simp [connect,isOpen]
  unaddressable s source remote port shut wrong := by
    unfold Unaddressable at wrong
    simp [connect,shut,wrong]
  unrouted s source remote port shut none := by simp [connect,shut,none]
  connecting s source remote port addr shut right route := by
    unfold Unaddressable at right
    simp [connect,shut,right,route]

theorem transfers : User.TransferLaws recvSlice sendSlice where
  received s buf receiving := by simp [recvSlice,recvErrorCheck,receiving]
  finished s buf ended fin := by simp [recvSlice,recvErrorCheck,ended,fin]
  reset s buf ended fin := by simp [recvSlice,recvErrorCheck,ended,fin]
  queued s buf sending := by simp [sendSlice,sending]
  refused s buf ended := by simp [sendSlice,ended]

theorem closures : User.ClosureLaws @recv @send where
  received s run f receiving count := by
    simp only [stored] at count
    simp only [recv,recvErrorCheck,receiving,if_true,if_pos count,stored,Closure.call]
  overread s run f receiving count := by
    simp only [stored] at count
    simp only [recv,recvErrorCheck,receiving,if_true,if_neg (Nat.not_le.mpr count),stored,Closure.call]
  unreceived s run f ended := by cases fin : s.rxFinReceived <;> simp [recv,recvErrorCheck,ended,fin]
  sent s run stale f sending count := by
    simp only [free] at count
    simp only [send,sending,if_true,if_pos count,free,Closure.call]
  overwritten s run stale f sending count := by
    simp only [free] at count
    simp only [send,sending,if_true,if_neg (Nat.not_le.mpr count),free,Closure.call]
  unsent s run stale f ended := by simp [send,ended]

end Socket

theorem User.ProbeLaws.determine {isOpen maySend mayRecv canSend canRecv : Socket → Bool}
    (laws : User.ProbeLaws isOpen maySend mayRecv canSend canRecv) (s : Socket) :
    isOpen s = s.isOpen ∧ maySend s = s.maySend ∧ mayRecv s = s.mayRecv ∧ canSend s = s.canSend ∧ canRecv s = s.canRecv := by
  have probes := Socket.probes
  have sends : maySend s = s.maySend := Bool.eq_iff_iff.mpr ((laws.sends s).trans (probes.sends s).symm)
  refine ⟨Bool.eq_iff_iff.mpr ((laws.opened s).trans (probes.opened s).symm),sends,
    Bool.eq_iff_iff.mpr ((laws.receives s).trans (probes.receives s).symm),Bool.eq_iff_iff.mpr ?_,
    Bool.eq_iff_iff.mpr ((laws.octets s).trans (probes.octets s).symm)⟩
  rw [laws.room,probes.room,sends]

theorem User.CloseLaws.determine {close abort : Socket → Socket} (laws : User.CloseLaws close abort) (s : Socket) :
    close s = s.close ∧ abort s = s.abort := by
  have closes := Socket.closes
  refine ⟨?_,(laws.aborted s).trans (closes.aborted s).symm⟩
  cases at_ : s.state with
  | listen => exact (laws.unconnected s (.inl at_)).trans (closes.unconnected s (.inl at_)).symm
  | synSent => exact (laws.unconnected s (.inr at_)).trans (closes.unconnected s (.inr at_)).symm
  | synReceived => exact (laws.finishing s (.inl at_)).trans (closes.finishing s (.inl at_)).symm
  | established => exact (laws.finishing s (.inr at_)).trans (closes.finishing s (.inr at_)).symm
  | closeWait => exact (laws.answering s at_).trans (closes.answering s at_).symm
  | closed | finWait1 | finWait2 | closing | lastAck | timeWait =>
    exact (laws.ended s (by simp [at_])).trans (closes.ended s (by simp [at_])).symm

theorem User.ListenLaws.determine {listen : Socket → IpListenEndpoint → Except ListenError Unit × Socket}
    (laws : User.ListenLaws listen) (s : Socket) (endpoint : IpListenEndpoint) : listen s endpoint = s.listen endpoint := by
  have listens := Socket.listens
  by_cases port : endpoint.port = 0
  · exact (laws.unaddressable s endpoint port).trans (listens.unaddressable s endpoint port).symm
  · cases isOpen : s.isOpen with
    | false => exact (laws.listening s endpoint port isOpen).trans (listens.listening s endpoint port isOpen).symm
    | true =>
      by_cases same : s.state = .listen ∧ s.listenEndpoint = endpoint
      · exact (laws.again s endpoint port isOpen same).trans (listens.again s endpoint port isOpen same).symm
      · exact (laws.inUse s endpoint port isOpen same).trans (listens.inUse s endpoint port isOpen same).symm

theorem User.ConnectLaws.determine {connect : Socket → (IpAddress → Option IpAddress) → IpEndpoint → UInt16 →
    Except ConnectError Unit × Socket} (laws : User.ConnectLaws connect) (s : Socket)
    (source : IpAddress → Option IpAddress) (remote : IpEndpoint) (port : UInt16) :
    connect s source remote port = s.connect source remote port := by
  have connects := Socket.connects
  cases isOpen : s.isOpen with
  | true => exact (laws.inUse s source remote port isOpen).trans (connects.inUse s source remote port isOpen).symm
  | false =>
    by_cases wrong : Unaddressable remote port
    · exact (laws.unaddressable s source remote port isOpen wrong).trans
        (connects.unaddressable s source remote port isOpen wrong).symm
    · cases route : source remote.addr with
      | none =>
        exact (laws.unrouted s source remote port isOpen route).trans
          (connects.unrouted s source remote port isOpen route).symm
      | some addr =>
        exact (laws.connecting s source remote port addr isOpen wrong route).trans
          (connects.connecting s source remote port addr isOpen wrong route).symm

theorem User.TransferLaws.determine {recvSlice : Socket → List UInt8 → Except RecvError Nat × List UInt8 × Socket}
    {sendSlice : Socket → List UInt8 → Except SendError Nat × Socket} (laws : User.TransferLaws recvSlice sendSlice)
    (s : Socket) (buf : List UInt8) : recvSlice s buf = s.recvSlice buf ∧ sendSlice s buf = s.sendSlice buf := by
  have transfers := Socket.transfers
  refine ⟨?_,?_⟩
  · cases receiving : s.mayRecv with
    | true => exact (laws.received s buf receiving).trans (transfers.received s buf receiving).symm
    | false =>
      cases fin : s.rxFinReceived with
      | true => exact (laws.finished s buf receiving fin).trans (transfers.finished s buf receiving fin).symm
      | false => exact (laws.reset s buf receiving fin).trans (transfers.reset s buf receiving fin).symm
  · cases sending : s.maySend with
    | true => exact (laws.queued s buf sending).trans (transfers.queued s buf sending).symm
    | false => exact (laws.refused s buf sending).trans (transfers.refused s buf sending).symm

theorem User.ClosureLaws.determine {recv : {ρ : Type} → Socket → Nat → Closure ρ → Applied RecvError ρ}
    {send : {ρ : Type} → Socket → Nat → (Nat → UInt8) → Closure ρ → Applied SendError ρ} (laws : User.ClosureLaws recv send)
    (s : Socket) (run : Nat) (stale : Nat → UInt8) (f : Closure ρ) :
    recv s run f = s.recv run f ∧ send s run stale f = s.send run stale f := by
  have closures := Socket.closures
  refine ⟨?_,?_⟩
  · cases receiving : s.mayRecv with
    | false => exact (laws.unreceived s run f receiving).trans (closures.unreceived s run f receiving).symm
    | true =>
      rcases Nat.lt_or_ge (s.stored run).length (f.run (s.stored run)).2.1 with beyond | count
      · exact (laws.overread s run f receiving beyond).trans (closures.overread s run f receiving beyond).symm
      · exact (laws.received s run f receiving count).trans (closures.received s run f receiving count).symm
  · cases sending : s.maySend with
    | false => exact (laws.unsent s run stale f sending).trans (closures.unsent s run stale f sending).symm
    | true =>
      rcases Nat.lt_or_ge (s.free run stale).length (f.run (s.free run stale)).2.1 with beyond | count
      · exact (laws.overwritten s run stale f sending beyond).trans
          (closures.overwritten s run stale f sending beyond).symm
      · exact (laws.sent s run stale f sending count).trans (closures.sent s run stale f sending count).symm

end Ra6m3Rtic.Smoltcp
