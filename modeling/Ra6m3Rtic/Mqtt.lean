import Ra6m3Rtic.Clock
import Ra6m3Rtic.Disconnect
import Ra6m3Rtic.MqttEcho

namespace Ra6m3Rtic.Mqtt
open Smoltcp LabelledRuns

def mqttClientPort : UInt16 := 58026
def reconnectIntervalMs : UInt64 := 2000
def reconnectInterval : Duration := .millis reconnectIntervalMs

-- What the build and the board fix: whether TLS is built in, the broker, and
-- the interface's choice of a source address.
structure Board where
  tls : Bool
  broker : IpEndpoint
  source : IpAddress → Option IpAddress

-- The calls into embedded-tls and minimq. They poll futures of the socket as
-- they like; only their outcome is seen by the loop.
inductive Exchange where
  | tlsOpen
  | connect
  | subscribe
  | poll
  | recv
  | publish
  deriving DecidableEq, Repr

inductive Outcome where
  | ok
  | again
  | message (payload : ByteArray)
  | payloadError
  | error

inductive Pc where
  | attempt
  | delay (deadline : Instant)
  | record
  | setTimeout (port : UInt16)
  | setKeepAlive (port : UInt16)
  | isOpen (port : UInt16)
  | abort (port : UInt16)
  | connect (port : UInt16)
  | connectWait
  | exchange (call : Exchange)
  | disconnect (pc : Disconnect.Pc)
  | panicked

structure Attempt where
  instant : Instant
  port : UInt16
  deriving DecidableEq, Repr

-- Below `socket` are observations only: the attempts recorded, the socket each
-- call of `connect` found, what these calls returned, and whether a RST is owed
-- to an earlier peer since the last poll that could have sent it.
structure Machine where
  pc : Pc
  portShift : UInt8
  lastAttempt : Option Instant
  now : Instant
  socket : Socket
  attempts : List Attempt
  found : List Socket
  returned : List (Except ConnectError Unit)
  owed : Bool

def start (now : Instant) (s : Socket) : Machine := ⟨.attempt,0,none,now,s,[],[],[],false⟩

-- `reached` is a poll on an up link with the neighbour resolved.
inductive Event where
  | run
  | io (memory : Memory) (f : Future Unit)
  | finish (outcome : Outcome)
  | tick (now : Instant)
  | net (reached : Bool) (next : Socket)

-- The way on from each call. `again` is an Ok after which the subscription is
-- still pending. The session's `?` leads to the teardown, except that a failed
-- `connect` has left no connection to tear down.
def follow : Exchange → Outcome → Option Pc
  | .tlsOpen,.ok => some (.exchange .connect)
  | .tlsOpen,.error => some .attempt
  | .connect,.ok => some (.exchange .subscribe)
  | .connect,.error => some .attempt
  | .subscribe,.again | .poll,.again => some (.exchange .poll)
  | .subscribe,.ok | .poll,.ok => some (.exchange .recv)
  | .recv,.message payload =>
    match echo payload with
    | .publish _ _ => some (.exchange .publish)
    | .disconnected => some (.disconnect .close)
    | .panicked => some .panicked
  | .publish,.ok | .publish,.payloadError => some (.exchange .recv)
  | .subscribe,.error | .poll,.error | .recv,.error | .publish,.error => some (.disconnect .close)
  | _,_ => none

-- Every way on from a call, one case for each way through the code.
inductive Followed : Exchange → Outcome → Pc → Prop where
  | opened : Followed .tlsOpen .ok (.exchange .connect)
  | unopened : Followed .tlsOpen .error .attempt
  | connected : Followed .connect .ok (.exchange .subscribe)
  | refused : Followed .connect .error .attempt
  | subscribing : Followed .subscribe .again (.exchange .poll)
  | polling : Followed .poll .again (.exchange .poll)
  | subscribed : Followed .subscribe .ok (.exchange .recv)
  | polled : Followed .poll .ok (.exchange .recv)
  | received (answer : echo payload = .publish text pushed) : Followed .recv (.message payload) (.exchange .publish)
  | invalid (answer : echo payload = .disconnected) : Followed .recv (.message payload) (.disconnect .close)
  | split (answer : echo payload = .panicked) : Followed .recv (.message payload) .panicked
  | published : Followed .publish .ok (.exchange .recv)
  | oversized : Followed .publish .payloadError (.exchange .recv)
  | failed (session : call = .subscribe ∨ call = .poll ∨ call = .recv ∨ call = .publish) :
      Followed call .error (.disconnect .close)

theorem follow_followed (onward : follow call outcome = some pc) : Followed call outcome pc := by
  cases call with
  | tlsOpen =>
    cases outcome with
    | ok => cases onward; exact .opened
    | error => cases onward; exact .unopened
    | again | message | payloadError => cases onward
  | connect =>
    cases outcome with
    | ok => cases onward; exact .connected
    | error => cases onward; exact .refused
    | again | message | payloadError => cases onward
  | subscribe =>
    cases outcome with
    | ok => cases onward; exact .subscribed
    | again => cases onward; exact .subscribing
    | error => cases onward; exact .failed (by simp)
    | message | payloadError => cases onward
  | poll =>
    cases outcome with
    | ok => cases onward; exact .polled
    | again => cases onward; exact .polling
    | error => cases onward; exact .failed (by simp)
    | message | payloadError => cases onward
  | recv =>
    cases outcome with
    | message payload =>
      simp only [follow] at onward
      split at onward
      · rename_i answer
        cases onward
        exact .received answer
      · rename_i answer
        cases onward
        exact .invalid answer
      · rename_i answer
        cases onward
        exact .split answer
    | error => cases onward; exact .failed (by simp)
    | ok | again | payloadError => cases onward
  | publish =>
    cases outcome with
    | ok => cases onward; exact .published
    | payloadError => cases onward; exact .oversized
    | error => cases onward; exact .failed (by simp)
    | again | message => cases onward

def connectTransport (board : Board) (cx : Waker) (m : Machine) : Option Machine :=
  match m.pc with
  | .attempt =>
    match m.lastAttempt with
    | some last =>
      let deadline := last.addDuration reconnectInterval
      some {m with pc := if m.now.lt deadline then .delay deadline else .record}
    | none => some {m with pc := .record}
  | .delay deadline => if m.now.lt deadline then none else some {m with pc := .record}
  | .record =>
    let port := mqttClientPort + m.portShift.toUInt16
    some {m with
      pc := .setTimeout port
      lastAttempt := some m.now
      portShift := m.portShift + 1
      attempts := m.attempts ++ [⟨m.now,port⟩]}
  | .setTimeout port => some {m with pc := .setKeepAlive port,socket := m.socket.setTimeout (some (3600 * 1000000))}
  | .setKeepAlive port => some {m with pc := .isOpen port,socket := m.socket.setKeepAlive (some (1200 * 1000000))}
  | .isOpen port => some {m with pc := if m.socket.isOpen then .abort port else .connect port}
  | .abort port =>
    some {m with pc := .connect port,socket := m.socket.abort,owed := m.owed || m.socket.tuple.isSome}
  | .connect port =>
    match TcpSocket.connect board.source board.broker port m.socket with
    | (.ok (),next) => some {m with pc := .connectWait,socket := next,found := m.found ++ [m.socket],owed := false}
    | (.error e,next) =>
      some {m with
        pc := .attempt
        socket := next
        found := m.found ++ [m.socket]
        returned := m.returned ++ [.error e]}
  | .connectWait =>
    match TcpSocket.connectWait cx m.socket with
    | (.pending,next) => some {m with socket := next}
    | (.ready (.ok ()),next) =>
      some {m with
        pc := .exchange (if board.tls then .tlsOpen else .connect)
        socket := next
        returned := m.returned ++ [.ok ()]}
    | (.ready (.error e),next) => some {m with pc := .attempt,socket := next,returned := m.returned ++ [.error e]}
    | (.panicked,next) => some {m with pc := .panicked,socket := next}
  | .exchange _ | .disconnect _ | .panicked => none

def teardown (cx : Waker) (m : Machine) (pc : Disconnect.Pc) : Machine :=
  match Disconnect.advance cx ⟨pc,m.socket⟩ .run with
  | some next => {m with pc := .disconnect next.pc,socket := next.socket}
  | none => {m with pc := .attempt}

-- A connection closed by a timer in a poll that could not transmit: smoltcp
-- keeps the endpoint for the RST.
def lapsed (s next : Socket) : Bool := s.state != .closed && next.state == .closed && next.tuple.isSome

def advance (board : Board) (cx : Waker) (m : Machine) : Event → Option Machine
  | .run =>
    match m.pc with
    | .disconnect pc => some (teardown cx m pc)
    | _ => connectTransport board cx m
  | .io memory f =>
    match m.pc with
    | .exchange _ => some {m with socket := (f.poll cx memory m.socket).socket}
    | _ => none
  | .finish outcome =>
    match m.pc with
    | .exchange call => (follow call outcome).map (fun pc => {m with pc := pc})
    | _ => none
  | .tick now => some {m with now := now}
  | .net reached next => some {m with socket := next,owed := if reached then false else m.owed || lapsed m.socket next}

def Admitted (net : Bool → Socket → Socket → Prop) (m : Machine) : Event → Prop
  | .tick now => m.now.ticks ≤ now.ticks ∧ now.ticks.toNat < 2 ^ 63
  | .net reached next => net reached m.socket next
  | .run | .io _ _ | .finish _ => True

def Step (net : Bool → Socket → Socket → Prop) (board : Board) (cx : Waker) (m : Machine) (event : Event)
    (next : Machine) : Prop := Admitted net m event ∧ advance board cx m event = some next

-- Every step of the loop and of its surroundings, one case for each way through
-- the code.
inductive Taken (net : Bool → Socket → Socket → Prop) (board : Board) (cx : Waker) (m : Machine) : Machine → Prop where
  | first (at_ : m.pc = .attempt) (none : m.lastAttempt = none) : Taken net board cx m {m with pc := .record}
  | early (at_ : m.pc = .attempt) (last : m.lastAttempt = some instant)
      (before : m.now.lt (instant.addDuration reconnectInterval) = true) :
      Taken net board cx m {m with pc := .delay (instant.addDuration reconnectInterval)}
  | late (at_ : m.pc = .attempt) (last : m.lastAttempt = some instant)
      (after : m.now.lt (instant.addDuration reconnectInterval) = false) : Taken net board cx m {m with pc := .record}
  | delayed (at_ : m.pc = .delay deadline) (after : m.now.lt deadline = false) :
      Taken net board cx m {m with pc := .record}
  | record (at_ : m.pc = .record) :
      Taken net board cx m {m with
        pc := .setTimeout (mqttClientPort + m.portShift.toUInt16)
        lastAttempt := some m.now
        portShift := m.portShift + 1
        attempts := m.attempts ++ [⟨m.now,mqttClientPort + m.portShift.toUInt16⟩]}
  | setTimeout (at_ : m.pc = .setTimeout port) :
      Taken net board cx m {m with pc := .setKeepAlive port,socket := m.socket.setTimeout (some (3600 * 1000000))}
  | setKeepAlive (at_ : m.pc = .setKeepAlive port) :
      Taken net board cx m {m with pc := .isOpen port,socket := m.socket.setKeepAlive (some (1200 * 1000000))}
  | stillOpen (at_ : m.pc = .isOpen port) (open_ : m.socket.isOpen = true) : Taken net board cx m {m with pc := .abort port}
  | shut (at_ : m.pc = .isOpen port) (shut : m.socket.isOpen = false) :
      Taken net board cx m {m with pc := .connect port}
  | abort (at_ : m.pc = .abort port) :
      Taken net board cx m
        {m with pc := .connect port,socket := m.socket.abort,owed := m.owed || m.socket.tuple.isSome}
  | issued (at_ : m.pc = .connect port)
      (connect : TcpSocket.connect board.source board.broker port m.socket = (.ok (),next)) :
      Taken net board cx m {m with pc := .connectWait,socket := next,found := m.found ++ [m.socket],owed := false}
  | refused (at_ : m.pc = .connect port)
      (connect : TcpSocket.connect board.source board.broker port m.socket = (.error e,next)) :
      Taken net board cx m
        {m with pc := .attempt,socket := next,found := m.found ++ [m.socket],returned := m.returned ++ [.error e]}
  | waiting (at_ : m.pc = .connectWait) (wait : TcpSocket.connectWait cx m.socket = (.pending,next)) :
      Taken net board cx m {m with socket := next}
  | connected (at_ : m.pc = .connectWait) (wait : TcpSocket.connectWait cx m.socket = (.ready (.ok ()),next)) :
      Taken net board cx m
        {m with
          pc := .exchange (if board.tls then .tlsOpen else .connect)
          socket := next
          returned := m.returned ++ [.ok ()]}
  | reset (at_ : m.pc = .connectWait) (wait : TcpSocket.connectWait cx m.socket = (.ready (.error e),next)) :
      Taken net board cx m {m with pc := .attempt,socket := next,returned := m.returned ++ [.error e]}
  | unreachable (at_ : m.pc = .connectWait) (wait : TcpSocket.connectWait cx m.socket = (.panicked,next)) :
      Taken net board cx m {m with pc := .panicked,socket := next}
  | teardown (at_ : m.pc = .disconnect pc) : Taken net board cx m (teardown cx m pc)
  | io (at_ : m.pc = .exchange call) (memory : Memory) (f : Future Unit) :
      Taken net board cx m {m with socket := (f.poll cx memory m.socket).socket}
  | finish (at_ : m.pc = .exchange call) (outcome : Outcome) (onward : follow call outcome = some pc) :
      Taken net board cx m {m with pc := pc}
  | tick (later : m.now.ticks ≤ now.ticks) (bounded : now.ticks.toNat < 2 ^ 63) : Taken net board cx m {m with now := now}
  | net (reached : Bool) (taken : net reached m.socket next) :
      Taken net board cx m {m with socket := next,owed := if reached then false else m.owed || lapsed m.socket next}

theorem connectTransport_taken {net : Bool → Socket → Socket → Prop}
    (ran : connectTransport board cx m = some next) : Taken net board cx m next := by
  unfold connectTransport at ran
  split at ran
  case h_1 at_ =>
    split at ran
    · rename_i last
      cases Option.some.inj ran
      cases before : m.now.lt (_ : Instant)
      · exact .late at_ last before
      · exact .early at_ last before
    · rename_i none
      cases Option.some.inj ran
      exact .first at_ none
  case h_2 at_ =>
    split at ran
    · cases ran
    · rename_i after
      cases Option.some.inj ran
      exact .delayed at_ (by simpa using after)
  case h_3 at_ => cases Option.some.inj ran; exact .record at_
  case h_4 at_ => cases Option.some.inj ran; exact .setTimeout at_
  case h_5 at_ => cases Option.some.inj ran; exact .setKeepAlive at_
  case h_6 at_ =>
    cases Option.some.inj ran
    cases open_ : m.socket.isOpen
    · exact .shut at_ open_
    · exact .stillOpen at_ open_
  case h_7 at_ => cases Option.some.inj ran; exact .abort at_
  case h_8 at_ =>
    split at ran
    · rename_i connect
      cases Option.some.inj ran
      exact .issued at_ connect
    · rename_i connect
      cases Option.some.inj ran
      exact .refused at_ connect
  case h_9 at_ =>
    split at ran
    · rename_i wait
      cases Option.some.inj ran
      exact .waiting at_ wait
    · rename_i wait
      cases Option.some.inj ran
      exact .connected at_ wait
    · rename_i wait
      cases Option.some.inj ran
      exact .reset at_ wait
    · rename_i wait
      cases Option.some.inj ran
      exact .unreachable at_ wait
  all_goals cases ran

theorem Step.taken {net : Bool → Socket → Socket → Prop} (step : Step net board cx m event next) :
    Taken net board cx m next := by
  obtain ⟨admitted,ran⟩ := step
  cases event with
  | run =>
    simp only [advance] at ran
    split at ran
    · rename_i at_
      cases Option.some.inj ran
      exact .teardown at_
    · exact connectTransport_taken ran
  | io memory f =>
    simp only [advance] at ran
    split at ran
    · rename_i at_
      cases Option.some.inj ran
      exact .io at_ memory f
    · cases ran
  | finish outcome =>
    simp only [advance] at ran
    split at ran
    · rename_i at_
      obtain ⟨pc,onward,equal⟩ := Option.map_eq_some_iff.mp ran
      subst equal
      exact .finish at_ outcome onward
    · cases ran
  | tick now =>
    cases Option.some.inj ran
    exact .tick admitted.1 admitted.2
  | net reached socket =>
    cases Option.some.inj ran
    exact .net reached admitted

-- A concrete network for runs that have to be exhibited: a poll that reaches the
-- neighbour leaves no RST unsent, one that does not sends none.
def Polls (reached : Bool) (s next : Socket) : Prop :=
  Processed s next ∧
    if reached then SocketInner.rstPending next = false else s.state = .closed → next.tuple = s.tuple

inductive Choice where
  | run
  | finish (outcome : Outcome)
  | tick (ticks : UInt64)
  | net (reached : Bool) (event : NetEvent)

def choose (m : Machine) : Choice → Event
  | .run => .run
  | .finish outcome => .finish outcome
  | .tick ticks => .tick ⟨ticks⟩
  | .net reached event => .net reached (process m.socket event)

def admits (m : Machine) : Event → Bool
  | .tick now => decide (m.now.ticks ≤ now.ticks) && decide (now.ticks.toNat < 2 ^ 63)
  | .net true next => !SocketInner.rstPending next
  | .net false next => m.socket.state != .closed || next.tuple == m.socket.tuple
  | .run | .io _ _ | .finish _ => true

theorem admits_admitted (allowed : admits m (choose m choice) = true) : Admitted Polls m (choose m choice) := by
  cases choice with
  | run | finish => exact True.intro
  | tick ticks =>
    simp only [choose,admits,Bool.and_eq_true,decide_eq_true_eq] at allowed
    exact allowed
  | net reached event =>
    cases reached with
    | true => exact ⟨⟨event,rfl⟩,by simpa [choose,admits] using allowed⟩
    | false =>
      refine ⟨⟨event,rfl⟩,?_⟩
      intro closed
      simpa [choose,admits,closed] using allowed

theorem play_sound
    (played : run (fun m choice => guarded admits (advance board cx) m (choose m choice)) m choices = some next) :
    ∃ events, Runs (Step Polls board cx) m events next := by
  refine run_sound ?_ played
  intro m choice next ran
  obtain ⟨allowed,ran⟩ := guarded_some ran
  exact ⟨admits_admitted allowed,ran⟩

theorem polls_tcp (reached : Bool) : TcpLaws (Polls reached) := processed_tcp.mono (fun _ _ taken => taken.1)

namespace Controls
def board : Board := ⟨false,Smoltcp.Controls.peer.remote,fun _ => some Smoltcp.Controls.peer.nearEnd.addr⟩

-- From the top of the loop to a connection the session then fails to open.
def attempt (ticks : UInt64) : List Choice := [.tick ticks,.run,.run,.run,.run,.run]
def dropped : List Choice := [.run,.net true .synAck,.run,.finish .error]
end Controls

end Ra6m3Rtic.Mqtt
