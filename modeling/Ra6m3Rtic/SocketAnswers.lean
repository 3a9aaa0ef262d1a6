import Ra6m3Rtic.Handshake
import Ra6m3Rtic.Shutdown
import Ra6m3Rtic.SocketWakeups

namespace Ra6m3Rtic.Answers
open Smoltcp LabelledRuns Shutdown

-- The states of a socket whose `connect` or `accept` has not come to an end.
def opening : State → Bool
  | .listen | .synSent | .synReceived => true
  | _ => false

-- The connections of one socket, one after another. `settled` says that the wait
-- of `connect` or `accept` has returned Ok, the answers are those of the
-- connection at hand, oldest first.
structure Life where
  socket : Socket
  settled : Bool
  reads : List (Poll (Except Error Nat))
  writes : List (Poll (Except Error Nat))

-- The futures beside `read` and `write` may be polled by any task at any time.
inductive Event where
  | net (next : Socket)
  | connect (source : IpAddress → Option IpAddress) (remote : IpEndpoint) (port : UInt16)
  | connectWait (cx : Waker)
  | accept (endpoint : IpListenEndpoint)
  | acceptWait (cx : Waker)
  | read (cx : Waker) (buf : List UInt8)
  | write (cx : Waker) (buf : List UInt8)
  | poll (cx : Waker) (memory : Memory) (f : Future Unit)
  | close
  | abort
  | setTimeout (duration : Option Nat)
  | setKeepAlive (interval : Option Nat)

def Life.settle (life : Life) (answer : Poll (Except ε Unit)) (next : Socket) : Life :=
  match answer with
  | .ready (.ok ()) => {life with socket := next,settled := true}
  | _ => {life with socket := next}

-- The connection is read and written once it has been made. A read into no buffer
-- is answered at once and says nothing about the stream.
def advance (life : Life) : Event → Option Life
  | .net next => some {life with socket := next}
  | .connect source remote port =>
    match TcpSocket.connect source remote port life.socket with
    | (.ok (),next) => some ⟨next,false,[],[]⟩
    | (.error _,next) => some {life with socket := next}
  | .connectWait cx =>
    let out := TcpSocket.connectWait cx life.socket
    some (life.settle out.1 out.2)
  | .accept endpoint =>
    match TcpSocket.accept endpoint life.socket with
    | (.ok (),next) => some ⟨next,false,[],[]⟩
    | (.error _,next) => some {life with socket := next}
  | .acceptWait cx =>
    let out := TcpSocket.acceptWait cx life.socket
    some (life.settle out.1 out.2)
  | .read cx buf =>
    if life.settled ∧ buf ≠ [] then
      let out := SocketInner.read cx buf life.socket
      some {life with socket := out.2.2,reads := life.reads ++ [out.1]}
    else none
  | .write cx buf =>
    if life.settled then
      let out := SocketInner.write cx buf life.socket
      some {life with socket := out.2,writes := life.writes ++ [out.1]}
    else none
  | .poll cx memory f => some {life with socket := (f.poll cx memory life.socket).socket}
  | .close => some {life with socket := life.socket.close}
  | .abort => some {life with socket := life.socket.abort}
  | .setTimeout duration => some {life with socket := life.socket.setTimeout duration}
  | .setKeepAlive interval => some {life with socket := life.socket.setKeepAlive interval}

def start (rxCapacity txCapacity : Nat) : Life := ⟨Socket.fresh rxCapacity txCapacity,false,[],[]⟩

def Admitted (net : Socket → Socket → Prop) (life : Life) : Event → Prop
  | .net next => net life.socket next
  | _ => True

def Step (net : Socket → Socket → Prop) (life : Life) (event : Event) (next : Life) : Prop :=
  Admitted net life event ∧ advance life event = some next

-- From an answer on there is no way back: octets or Pending, then the end of the
-- stream, then the reset.
def rank : Poll (Except Error Nat) → Nat
  | .ready (.error .connectionReset) => 2
  | .ready (.ok 0) => 1
  | _ => 0

def readLevel (s : Socket) : Nat := if s.mayRecv then 0 else if s.rxFinReceived then 1 else 2
def writeLevel (s : Socket) : Nat := if s.maySend then 0 else 2

theorem read_rank (cx : Waker) {buf : List UInt8} (some : buf ≠ []) (s : Socket) :
    rank (SocketInner.read cx buf s).1 = readLevel s := by
  have spec := SocketInner.read_spec cx buf s
  generalize SocketInner.read cx buf s = out at spec
  cases spec with
  | empty _ none => exact absurd none some
  | wait receiving => simp [rank,readLevel,receiving]
  | octets receiving n size positive =>
    cases n with
    | zero => cases positive
    | succ n => simp [rank,readLevel,receiving]
  | finished ended fin => simp [rank,readLevel,ended,fin]
  | reset ended fin => simp [rank,readLevel,ended,fin]

theorem write_rank (cx : Waker) (buf : List UInt8) (s : Socket) :
    rank (SocketInner.write cx buf s).1 = writeLevel s := by
  have spec := SocketInner.write_spec cx buf s
  generalize SocketInner.write cx buf s = out at spec
  cases spec with
  | wait sending => simp [rank,writeLevel,sending]
  | octets sending n size positive =>
    cases n with
    | zero => cases positive
    | succ n => simp [rank,writeLevel,sending]
  | reset ended => simp [rank,writeLevel,ended]

-- What the two levels rest on: the connection is past its handshake and a peer
-- that has closed is on record.
structure Past (s : Socket) : Prop where
  opened : opening s.state = false
  recorded : FinRecorded s

-- One step of the socket within a connection.
structure Onward (s next : Socket) : Prop where
  opened : opening next.state = false
  read : readLevel s ≤ readLevel next
  write : writeLevel s ≤ writeLevel next

theorem opening_past (edge : Transition before after = true) (past : opening before = false) :
    opening after = false := by
  cases before <;> cases after <;> simp_all [Transition,opening]

theorem peerClosed_past (edge : Transition before after = true) (peer : PeerClosed before = true) :
    PeerClosed after = true ∨ after = .closed := by
  cases before <;> cases after <;> simp_all [Transition,PeerClosed]

theorem maySend_past {s next : Socket} (edge : Transition s.state next.state = true) (past : opening s.state = false)
    (ended : s.maySend = false) : next.maySend = false := by
  unfold Socket.maySend at ended ⊢
  cases before : s.state <;> cases after : next.state <;> simp_all [Transition,opening]

-- Past the handshake the receive half ends with the peer's FIN or with the
-- connection, and with the last octet taken.
theorem ended_cases (past : Past s) (ended : s.mayRecv = false) :
    (PeerClosed s.state = true ∨ s.state = .closed) ∧ s.rx.data = [] := by
  have opened := past.opened
  cases state : s.state <;> simp_all [Socket.mayRecv,opening,PeerClosed,RingBuffer.isEmpty]

theorem ended_of_cases {s : Socket} (shut : PeerClosed s.state = true ∨ s.state = .closed) (dry : s.rx.data = []) :
    s.mayRecv = false := by
  rcases shut with peer | closed
  · cases state : s.state <;> simp_all [Socket.mayRecv,PeerClosed,RingBuffer.isEmpty]
  · simp [Socket.mayRecv,closed,RingBuffer.isEmpty,dry]

-- The level of the reads does not fall when an ended receive half stays ended and
-- a missing FIN stays missing.
theorem readLevel_mono (kept : s.mayRecv = false → next.mayRecv = false ∧
    (s.rxFinReceived = false → next.rxFinReceived = false)) : readLevel s ≤ readLevel next := by
  unfold readLevel
  cases receiving : s.mayRecv with
  | true => simp
  | false =>
    obtain ⟨ended,missing⟩ := kept receiving
    cases fin : s.rxFinReceived with
    | true =>
      simp only [ended,Bool.false_eq_true,if_false,if_true]
      split <;> omega
    | false => simp [ended,missing fin]

theorem writeLevel_mono (kept : s.maySend = false → next.maySend = false) : writeLevel s ≤ writeLevel next := by
  unfold writeLevel
  cases sending : s.maySend with
  | true => simp
  | false => simp [kept sending]

theorem onward_network {net : Socket → Socket → Prop} (laws : TcpLaws net) (taken : net s next) (past : Past s) :
    Onward s next := by
  have moved := laws.transition _ _ taken
  refine ⟨?_,readLevel_mono ?_,writeLevel_mono ?_⟩
  · rcases moved with same | edge
    · rw [same]; exact past.opened
    · exact opening_past edge past.opened
  · intro ended
    obtain ⟨shut,dry⟩ := ended_cases past ended
    rcases shut with peer | closed
    · have fin := past.recorded peer
      refine ⟨?_,fun missing => by rw [fin] at missing; cases missing⟩
      rcases laws.ingress _ _ taken with emptied | ⟨⟨arrived,data,late⟩,_⟩
      · exact ended_of_cases (.inr emptied.1) emptied.2.1
      · apply ended_of_cases
        · rcases moved with same | edge
          · exact .inl (same ▸ peer)
          · exact peerClosed_past edge peer
        · rw [data,dry,late fin]; rfl
    · obtain ⟨data,fin⟩ := laws.deaf _ _ taken closed
      refine ⟨ended_of_cases (.inr (laws.closedLaws.closed _ _ taken closed)) (data.trans dry),?_⟩
      intro missing
      exact fin.trans missing
  · intro ended
    rcases moved with same | edge
    · simpa [Socket.maySend,same] using ended
    · exact maySend_past edge past.opened ended

theorem onward_poll (cx : Waker) (memory : Memory) (f : Future Unit) (past : Past s) :
    Onward s (f.poll cx memory s).socket := by
  have touched := f.poll_touched cx memory s
  have rings := poll_rings f cx memory s
  refine ⟨by rw [touched.state]; exact past.opened,readLevel_mono ?_,writeLevel_mono ?_⟩
  · intro ended
    obtain ⟨shut,dry⟩ := ended_cases past ended
    refine ⟨ended_of_cases (by rw [touched.state]; exact shut) (rings.1 dry),?_⟩
    intro missing
    exact touched.fin.trans missing
  · intro ended
    simpa [Socket.maySend,touched.state] using ended

theorem onward_close (past : Past s) : Onward s s.close := by
  obtain ⟨opened,_⟩ := past
  refine ⟨?_,readLevel_mono ?_,writeLevel_mono ?_⟩
  · cases state : s.state <;> simp_all [Socket.close,opening]
  · intro ended
    cases state : s.state <;> simp_all [Socket.close,Socket.mayRecv,opening]
  · intro ended
    cases state : s.state <;> simp_all [Socket.close,Socket.maySend,opening]

theorem onward_abort (past : Past s) : Onward s s.abort := by
  refine ⟨rfl,readLevel_mono ?_,writeLevel_mono fun _ => rfl⟩
  intro ended
  obtain ⟨_,dry⟩ := ended_cases past ended
  exact ⟨ended_of_cases (.inr rfl) dry,id⟩

-- Answers in order, none beyond the level now reached.
structure Ranked (log : List (Poll (Except Error Nat))) (level : Nat) : Prop where
  ordered : log.Pairwise fun earlier later => rank earlier ≤ rank later
  reached : ∀ answer ∈ log, rank answer ≤ level

theorem Ranked.mono (ranked : Ranked log level) (risen : level ≤ next) : Ranked log next :=
  ⟨ranked.ordered,fun answer member => Nat.le_trans (ranked.reached answer member) risen⟩

theorem Ranked.snoc (ranked : Ranked log level) (same : rank answer = level) : Ranked (log ++ [answer]) level := by
  refine ⟨List.pairwise_append.mpr ⟨ranked.ordered,List.pairwise_singleton _ _,?_⟩,?_⟩
  · intro earlier member later last
    rw [List.mem_singleton.mp last,same]
    exact ranked.reached earlier member
  · intro other member
    rcases List.mem_append.mp member with earlier | last
    · exact ranked.reached other earlier
    · rw [List.mem_singleton.mp last]
      exact Nat.le_of_eq same

structure Valid (life : Life) : Prop where
  recorded : FinRecorded life.socket
  opened : life.settled = true → opening life.socket.state = false
  unused : life.settled = false → life.reads = [] ∧ life.writes = []
  reads : Ranked life.reads (readLevel life.socket)
  writes : Ranked life.writes (writeLevel life.socket)

theorem ranked_nil (level : Nat) : Ranked [] level := ⟨.nil,fun _ member => by cases member⟩

-- A step of the socket alone: within a connection the levels rise, before it
-- there is nothing to compare.
theorem Valid.moved (valid : Valid life) (recorded : FinRecorded next)
    (onward : Past life.socket → Onward life.socket next) : Valid {life with socket := next} := by
  rcases Bool.eq_false_or_eq_true life.settled with settled | unsettled
  · have onward := onward ⟨valid.opened settled,valid.recorded⟩
    exact ⟨recorded,fun _ => onward.opened,valid.unused,valid.reads.mono onward.read,valid.writes.mono onward.write⟩
  · obtain ⟨reads,writes⟩ := valid.unused unsettled
    refine ⟨recorded,?_,valid.unused,?_,?_⟩
    · intro settled
      rw [show life.settled = true from settled] at unsettled
      cases unsettled
    · simpa only [reads] using ranked_nil _
    · simpa only [writes] using ranked_nil _

-- The same step of the socket with an answer at the level it started from.
theorem Valid.answered (valid : Valid life) (settled : life.settled = true) (recorded : FinRecorded next)
    (onward : Past life.socket → Onward life.socket next) (reads : Ranked readLog (readLevel life.socket))
    (writes : Ranked writeLog (writeLevel life.socket)) : Valid ⟨next,life.settled,readLog,writeLog⟩ := by
  have onward := onward ⟨valid.opened settled,valid.recorded⟩
  refine ⟨recorded,fun _ => onward.opened,?_,reads.mono onward.read,writes.mono onward.write⟩
  intro other
  rw [show life.settled = false from other] at settled
  cases settled

-- A wait that returns Ok finds the socket past its handshake.
theorem Valid.settle {answer : Poll (Except ε Unit)} (valid : Valid life) (recorded : FinRecorded next)
    (onward : Past life.socket → Onward life.socket next)
    (past : answer = .ready (.ok ()) → opening next.state = false) : Valid (life.settle answer next) := by
  have moved := valid.moved recorded onward
  unfold Life.settle
  split
  · have opened := past rfl
    exact ⟨moved.recorded,fun _ => opened,nofun,moved.reads,moved.writes⟩
  · exact moved

theorem recorded_poll (cx : Waker) (memory : Memory) (f : Future Unit) (recorded : FinRecorded s) :
    FinRecorded (f.poll cx memory s).socket := finRecorded_touched recorded (f.poll_touched cx memory s)

-- A new connection begins with no answers.
theorem valid_issued (recorded : FinRecorded next) : Valid ⟨next,false,[],[]⟩ :=
  ⟨recorded,nofun,fun _ => ⟨rfl,rfl⟩,ranked_nil _,ranked_nil _⟩

theorem accept_refused {s : Socket} (refused : TcpSocket.accept endpoint s = (.error e,next)) : next = s := by
  have spec := TcpSocket.accept_spec endpoint s
  rw [refused] at spec
  cases spec with
  | invalidPort | invalidState => rfl

theorem valid_step {net : Socket → Socket → Prop} (laws : TcpLaws net) (valid : Valid life)
    (step : Step net life event next) : Valid next := by
  obtain ⟨admitted,ran⟩ := step
  cases event with
  | net socket =>
    cases Option.some.inj ran
    exact valid.moved (finRecorded_network laws admitted valid.recorded) (onward_network laws admitted)
  | connect source remote port =>
    simp only [advance] at ran
    have spec := TcpSocket.connect_spec source remote port life.socket
    split at ran
    · rename_i issued
      cases Option.some.inj ran
      rw [issued] at spec
      cases spec
      refine valid_issued ?_
      intro peer
      cases peer
    · rename_i refused
      cases Option.some.inj ran
      rw [refused] at spec
      cases spec <;> exact valid
  | connectWait cx =>
    cases Option.some.inj ran
    refine valid.settle (recorded_poll cx .blank .connect valid.recorded) (onward_poll cx .blank .connect) ?_
    intro answer
    cases state : life.socket.state <;> simp_all [TcpSocket.connectWait,opening]
  | accept endpoint =>
    simp only [advance] at ran
    split at ran
    · rename_i issued
      cases Option.some.inj ran
      refine valid_issued ?_
      intro peer
      rw [Handshake.issued_accepting issued] at peer
      cases peer
    · rename_i refused
      cases Option.some.inj ran
      rw [accept_refused refused]
      exact valid
  | acceptWait cx =>
    cases Option.some.inj ran
    refine valid.settle (recorded_poll cx .blank .accept valid.recorded) (onward_poll cx .blank .accept) ?_
    intro answer
    cases state : life.socket.state <;> simp_all [TcpSocket.acceptWait,opening]
  | read cx buf =>
    simp only [advance] at ran
    split at ran
    · rename_i allowed
      obtain ⟨settled,some⟩ := allowed
      cases Option.some.inj ran
      exact valid.answered settled (recorded_poll cx .blank (.read buf) valid.recorded) (onward_poll cx .blank (.read buf))
        (valid.reads.snoc (read_rank cx some life.socket)) valid.writes
    · cases ran
  | write cx buf =>
    simp only [advance] at ran
    split at ran
    · rename_i settled
      cases Option.some.inj ran
      exact valid.answered settled (recorded_poll cx .blank (.write buf) valid.recorded) (onward_poll cx .blank (.write buf))
        valid.reads (valid.writes.snoc (write_rank cx buf life.socket))
    · cases ran
  | poll cx memory f =>
    cases Option.some.inj ran
    exact valid.moved (recorded_poll cx memory f valid.recorded) (onward_poll cx memory f)
  | close =>
    cases Option.some.inj ran
    exact valid.moved (finRecorded_close valid.recorded) onward_close
  | abort =>
    cases Option.some.inj ran
    refine valid.moved ?_ onward_abort
    intro peer
    cases peer
  | setTimeout | setKeepAlive =>
    cases Option.some.inj ran
    exact valid.moved valid.recorded fun past => ⟨past.opened,Nat.le_refl _,Nat.le_refl _⟩

theorem start_valid (rxCapacity txCapacity : Nat) : Valid (start rxCapacity txCapacity) := valid_issued nofun

-- What the network does is chosen along the run.
inductive Choice where
  | net (event : NetEvent)
  | accept
  | acceptWait
  | read (buf : List UInt8)
  | write (buf : List UInt8)
  | abort

def choose (life : Life) : Choice → Event
  | .net event => .net (process life.socket event)
  | .accept => .accept ⟨none,80⟩
  | .acceptWait => .acceptWait 7
  | .read buf => .read 7 buf
  | .write buf => .write 7 buf
  | .abort => .abort

theorem play_sound (played : run (fun life choice => advance life (choose life choice)) life choices = some next) :
    ∃ events, Runs (Step Processed) life events next := by
  refine run_sound ?_ played
  intro life choice next ran
  refine ⟨?_,ran⟩
  cases choice with
  | net event => exact ⟨event,rfl⟩
  | accept | acceptWait | read | write | abort => exact True.intro

namespace Controls
-- A client that sends one octet and closes: the octet, the end of the stream
-- twice, a write into the half that is still open and one after an abort.
def ending : List Choice :=
  [.accept,.net (.syn Smoltcp.Controls.peer),.net .ack,.acceptWait,.net (.octets [5]),.net .fin,.read [0,0],.read [0,0],
    .write [1],.abort,.write [1],.read [0],.net .sendRst]
end Controls

theorem answers_never_go_back {net : Socket → Socket → Prop} (laws : TcpLaws net)
    (path : Runs (Step net) (start rxCapacity txCapacity) events life) :
    life.reads.Pairwise (fun earlier later => rank earlier ≤ rank later) ∧
    life.writes.Pairwise (fun earlier later => rank earlier ≤ rank later) := by
  have valid : Valid life :=
    path.invariant (fun _ _ _ valid step => valid_step laws valid step) (start_valid rxCapacity txCapacity)
  exact ⟨valid.reads.ordered,valid.writes.ordered⟩

theorem ending_in_order :
    ∃ life : Life, life.reads = [.ready (.ok 1),.ready (.ok 0),.ready (.ok 0)] ∧
      life.writes = [.ready (.ok 1),.ready (.error .connectionReset)] ∧
      life.reads.Pairwise (fun earlier later => rank earlier ≤ rank later) := by
  have played : ∃ life, run (fun life choice => advance life (choose life choice)) (start 4 4) Controls.ending = some life ∧
      life.reads = [.ready (.ok 1),.ready (.ok 0),.ready (.ok 0)] ∧
      life.writes = [.ready (.ok 1),.ready (.error .connectionReset)] := ⟨_,rfl,rfl,rfl⟩
  obtain ⟨life,ran,reads,writes⟩ := played
  obtain ⟨events,path⟩ := play_sound ran
  exact ⟨life,reads,writes,(answers_never_go_back processed_tcp path).1⟩

end Ra6m3Rtic.Answers
