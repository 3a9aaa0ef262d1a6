import Mathlib.Data.List.Chain
import Ra6m3Rtic.Handshake
import Ra6m3Rtic.MqttReconnect

namespace Ra6m3Rtic.Mqtt
open Smoltcp LabelledRuns

-- What the loop of `mqtt` does with its broker, as a log: an attempt to connect,
-- a call into embedded-tls or minimq that has returned, a teardown begun.
inductive Entry where
  | attempt (port : UInt16)
  | finished (call : Exchange) (outcome : Outcome)
  | disconnect

structure Logged where
  machine : Machine
  log : List Entry

def note (m : Machine) : Event → List Entry
  | .run =>
    match m.pc with
    | .record => [.attempt (mqttClientPort + m.portShift.toUInt16)]
    | .disconnect .close => [.disconnect]
    | _ => []
  | .finish outcome =>
    match m.pc with
    | .exchange call => [.finished call outcome]
    | _ => []
  | .io _ _ | .tick _ | .net _ _ => []

def LoggedStep (net : Bool → Socket → Socket → Prop) (board : Board) (cx : Waker) (l : Logged) (event : Event)
    (next : Logged) : Prop :=
  Step net board cx l.machine event next.machine ∧ next.log = l.log ++ note l.machine event

-- The protocol of one session after another, told by its neighbouring entries:
-- subscribed before the first `recv`, one answer to a message before the next, a
-- teardown after every failure of an open connection and nothing after a panic.
def follows (tls : Bool) : Entry → Entry → Bool
  | .attempt _,.attempt _ => true
  | .attempt _,.finished .tlsOpen _ => tls
  | .attempt _,.finished .connect _ => !tls
  | .finished .tlsOpen .ok,.finished .connect _ => true
  | .finished .tlsOpen .error,.attempt _ => true
  | .finished .connect .ok,.finished .subscribe _ => true
  | .finished .connect .error,.attempt _ => true
  | .finished .subscribe .again,.finished .poll _ => true
  | .finished .poll .again,.finished .poll _ => true
  | .finished .subscribe .ok,.finished .recv _ => true
  | .finished .poll .ok,.finished .recv _ => true
  | .finished .recv (.message payload),.finished .publish _ =>
    match echo payload with
    | .publish _ _ => true
    | _ => false
  | .finished .recv (.message payload),.disconnect => echo payload = .disconnected
  | .finished .publish .ok,.finished .recv _ => true
  | .finished .publish .payloadError,.finished .recv _ => true
  | .finished .subscribe .error,.disconnect => true
  | .finished .poll .error,.disconnect => true
  | .finished .recv .error,.disconnect => true
  | .finished .publish .error,.disconnect => true
  | .disconnect,.attempt _ => true
  | _,_ => false

-- Connections made and torn down; messages that are answered, and answers.
def Entry.opens : Entry → Bool
  | .finished .connect .ok => true
  | _ => false

def Entry.closes : Entry → Bool
  | .disconnect => true
  | _ => false

def Entry.answerable : Entry → Bool
  | .finished .recv (.message payload) =>
    match echo payload with
    | .publish _ _ => true
    | _ => false
  | _ => false

def Entry.answers : Entry → Bool
  | .finished .publish _ => true
  | _ => false

-- Whether a connection is open whose teardown has not begun, and whether a message
-- is waiting for its answer.
def Pc.live : Pc → Bool
  | .exchange .subscribe | .exchange .poll | .exchange .recv | .exchange .publish => true
  | .disconnect .close => true
  | .panicked => true
  | _ => false

def Pc.owing : Pc → Bool
  | .exchange .publish => true
  | _ => false

-- Between two attempts, and within one.
def Pc.between : Pc → Bool
  | .attempt | .delay _ | .record => true
  | _ => false

def Pc.trying : Pc → Bool
  | .setTimeout _ | .setKeepAlive _ | .isOpen _ | .abort _ | .connect _ | .connectWait => true
  | _ => false

def retries : Entry → Bool
  | .attempt _ => true
  | .finished .tlsOpen .error => true
  | .finished .connect .error => true
  | .disconnect => true
  | _ => false

-- Where the loop is, told by the last entry. It starts as it goes on after a
-- teardown.
inductive Leads (tls : Bool) : Entry → Pc → Prop where
  | between (again : retries last = true) (at_ : pc.between = true) : Leads tls last pc
  | trying (at_ : pc.trying = true) : Leads tls (.attempt port) pc
  | transport : Leads tls (.attempt port) (.exchange (if tls then .tlsOpen else .connect))
  | onward (next : follow call outcome = some (.exchange other)) : Leads tls (.finished call outcome) (.exchange other)
  | failed (next : follow call outcome = some (.disconnect .close)) :
      Leads tls (.finished call outcome) (.disconnect .close)
  | panicked (next : follow call outcome = some .panicked) : Leads tls (.finished call outcome) .panicked
  | closing (begun : pc ≠ .close) : Leads tls .disconnect (.disconnect pc)

theorem follow_panicked (next : follow call outcome = some .panicked) :
    ∃ payload, call = .recv ∧ outcome = .message payload ∧ echo payload = .panicked := by
  cases follow_followed next with
  | split answer => exact ⟨_,rfl,rfl,answer⟩

-- A call that returned leads to the entry that may come next.
theorem follow_next (next : follow call outcome = some (.exchange other)) (after : Outcome) :
    follows tls (.finished call outcome) (.finished other after) = true := by
  cases follow_followed next with
  | received answer => simp [follows,answer]
  | opened | connected | subscribing | polling | subscribed | polled | published | oversized => rfl

theorem follow_failed (next : follow call outcome = some (.disconnect .close)) :
    follows tls (.finished call outcome) .disconnect = true := by
  cases follow_followed next with
  | invalid answer => simp [follows,answer]
  | failed session => obtain rfl | rfl | rfl | rfl := session <;> rfl

theorem follow_retries (next : follow call outcome = some .attempt) : retries (.finished call outcome) = true := by
  cases follow_followed next with
  | unopened | refused => rfl

theorem retries_follows (again : retries last = true) (port : UInt16) : follows tls last (.attempt port) = true := by
  cases last with
  | attempt | disconnect => rfl
  | finished call outcome =>
    cases call <;> cases outcome <;> first | rfl | cases again

-- A call moves the two counts and the two places together.
theorem follow_balance (next : follow call outcome = some pc) :
    (Pc.live (.exchange call)).toNat + (Entry.opens (.finished call outcome)).toNat =
      pc.live.toNat + (Entry.closes (.finished call outcome)).toNat ∧
    (Pc.owing (.exchange call)).toNat + (Entry.answerable (.finished call outcome)).toNat =
      pc.owing.toNat + (Entry.answers (.finished call outcome)).toNat := by
  cases follow_followed next with
  | received answer | invalid answer | split answer =>
    simp [Pc.live,Pc.owing,Entry.opens,Entry.closes,Entry.answerable,Entry.answers,answer]
  | failed session => obtain rfl | rfl | rfl | rfl := session <;> exact ⟨rfl,rfl⟩
  | opened | unopened | connected | refused | subscribing | polling | subscribed | polled | published | oversized =>
    exact ⟨rfl,rfl⟩

theorem Leads.retries (leads : Leads tls last pc) (at_ : pc.between = true) : retries last = true := by
  cases leads with
  | between again _ => exact again
  | trying => rfl
  | transport | onward | failed | panicked | closing => cases at_

theorem Leads.attempted (leads : Leads tls last pc) (at_ : pc.trying = true) : ∃ port, last = .attempt port := by
  cases leads with
  | trying => exact ⟨_,rfl⟩
  | between again other => cases pc <;> simp_all [Pc.between,Pc.trying]
  | transport | onward | failed | panicked | closing => cases at_

-- A call is entered from the attempt or from the call before it.
theorem Leads.calls (leads : Leads tls last (.exchange call)) (outcome : Outcome) :
    follows tls last (.finished call outcome) = true := by
  cases leads with
  | transport => cases tls <;> rfl
  | onward next => exact follow_next next outcome
  | between _ at_ | trying at_ => cases at_

theorem Leads.tears (leads : Leads tls last (.disconnect .close)) : follows tls last .disconnect = true := by
  cases leads with
  | failed next => exact follow_failed next
  | between _ at_ | trying at_ => cases at_
  | closing begun => exact absurd rfl begun

theorem Leads.torn (leads : Leads tls last (.disconnect pc)) (begun : pc ≠ .close) : last = .disconnect := by
  cases leads with
  | closing => rfl
  | failed => exact absurd rfl begun
  | between _ at_ | trying at_ => cases at_

theorem follow_leads (next : follow call outcome = some pc) : Leads tls (.finished call outcome) pc := by
  cases follow_followed next with
  | unopened | refused => exact .between (follow_retries next) rfl
  | invalid | failed => exact .failed next
  | split => exact .panicked next
  | opened | connected | subscribing | polling | subscribed | polled | received | published | oversized =>
    exact .onward next

-- What a step means for the log: nothing, or one entry that may stand there.
inductive Noted (tls : Bool) (pc : Pc) : List Entry → Pc → Prop where
  | silent (leads : ∀ last, Leads tls last pc → Leads tls last next) (live : next.live = pc.live)
      (owing : next.owing = pc.owing) : Noted tls pc [] next
  | entered (entry : Entry) (follows : ∀ last, Leads tls last pc → follows tls last entry = true)
      (leads : Leads tls entry next)
      (live : pc.live.toNat + entry.opens.toNat = next.live.toNat + entry.closes.toNat)
      (owing : pc.owing.toNat + entry.answerable.toNat = next.owing.toNat + entry.answers.toNat) : Noted tls pc [entry] next

theorem between_idle {pc : Pc} (at_ : pc.between = true) : pc.live = false ∧ pc.owing = false := by
  cases pc <;> first | exact ⟨rfl,rfl⟩ | cases at_

theorem trying_idle {pc : Pc} (at_ : pc.trying = true) : pc.live = false ∧ pc.owing = false := by
  cases pc <;> first | exact ⟨rfl,rfl⟩ | cases at_

theorem noted_same (tls : Bool) (pc : Pc) : Noted tls pc [] pc := .silent (fun _ leads => leads) rfl rfl

theorem noted_between {pc next : Pc} (at_ : pc.between = true) (after : next.between = true) : Noted tls pc [] next := by
  obtain ⟨live,owing⟩ := between_idle at_
  obtain ⟨live',owing'⟩ := between_idle after
  refine .silent ?_ (live'.trans live.symm) (owing'.trans owing.symm)
  intro last leads
  exact .between (leads.retries at_) after

theorem noted_trying {pc next : Pc} (at_ : pc.trying = true) (after : next.trying = true) : Noted tls pc [] next := by
  obtain ⟨live,owing⟩ := trying_idle at_
  obtain ⟨live',owing'⟩ := trying_idle after
  refine .silent ?_ (live'.trans live.symm) (owing'.trans owing.symm)
  intro last leads
  obtain ⟨port,equal⟩ := leads.attempted at_
  subst equal
  exact .trying after

theorem noted_refused {pc : Pc} (at_ : pc.trying = true) : Noted tls pc [] .attempt := by
  obtain ⟨live,owing⟩ := trying_idle at_
  refine .silent ?_ live.symm owing.symm
  intro last leads
  obtain ⟨port,equal⟩ := leads.attempted at_
  subst equal
  exact .between rfl rfl

theorem noted_connected (tls : Bool) : Noted tls .connectWait [] (.exchange (if tls then .tlsOpen else .connect)) := by
  refine .silent ?_ (by cases tls <;> rfl) (by cases tls <;> rfl)
  intro last leads
  obtain ⟨port,equal⟩ := leads.attempted rfl
  subst equal
  exact .transport

theorem noted_record (tls : Bool) (port : UInt16) : Noted tls .record [.attempt port] (.setTimeout port) :=
  .entered _ (fun _ leads => retries_follows (leads.retries rfl) port) (.trying rfl) rfl rfl

theorem noted_call (tls : Bool) (next : follow call outcome = some pc) :
    Noted tls (.exchange call) [.finished call outcome] pc := by
  obtain ⟨live,owing⟩ := follow_balance next
  exact .entered _ (fun _ leads => leads.calls outcome) (follow_leads next) live owing

theorem torn_idle {pc : Disconnect.Pc} (begun : pc ≠ .close) :
    (Pc.disconnect pc).live = false ∧ (Pc.disconnect pc).owing = false := by
  cases pc with
  | close => exact absurd rfl begun
  | check | register | suspended | done => exact ⟨rfl,rfl⟩

theorem noted_closing {pc next : Disconnect.Pc} (begun : pc ≠ .close) (after : next ≠ .close) :
    Noted tls (.disconnect pc) [] (.disconnect next) := by
  obtain ⟨live,owing⟩ := torn_idle begun
  obtain ⟨live',owing'⟩ := torn_idle after
  refine .silent ?_ (live'.trans live.symm) (owing'.trans owing.symm)
  intro last leads
  have equal := leads.torn begun
  subst equal
  exact .closing after

-- The teardown is entered in the log with the section that closes.
theorem noted_teardown (tls : Bool) (cx : Waker) {m : Machine} (at_ : m.pc = .disconnect pc) :
    Noted tls m.pc (note m .run) (teardown cx m pc).pc := by
  simp only [note,at_]
  cases pc with
  | close => exact .entered _ (fun _ leads => leads.tears) (.closing nofun) rfl rfl
  | check began => exact noted_closing nofun (by split <;> nofun)
  | register began | suspended began => exact noted_closing nofun nofun
  | done =>
    refine .silent ?_ rfl rfl
    intro last leads
    have equal := leads.torn nofun
    subst equal
    exact .between rfl rfl

-- A `connect` in progress: `unreachable!()` is for the states it cannot be in.
def Waiting (m : Machine) : Prop := m.pc = .connectWait → Handshake.Connecting ⟨m.socket,true⟩

theorem connectWait_reached (valid : Handshake.Connecting ⟨s,handshaken⟩)
    (wait : TcpSocket.connectWait cx s = (.panicked,next)) : False := by
  have opening : Handshake.Opening s.state = true := valid.opening
  unfold TcpSocket.connectWait at wait
  cases state : s.state <;> simp_all [Handshake.Opening]

theorem connectTransport_noted (waiting : Waiting m) (ran : connectTransport board cx m = some next) :
    Noted board.tls m.pc (note m .run) next.pc := by
  unfold connectTransport at ran
  split at ran
  case h_1 at_ =>
    rw [note,at_]
    split at ran
    · cases Option.some.inj ran
      exact noted_between rfl (by split <;> rfl)
    · cases Option.some.inj ran
      exact noted_between rfl rfl
  case h_2 at_ =>
    rw [note,at_]
    split at ran
    · cases ran
    · cases Option.some.inj ran
      exact noted_between rfl rfl
  case h_3 at_ =>
    rw [note,at_]
    cases Option.some.inj ran
    exact noted_record _ _
  case h_6 at_ =>
    rw [note,at_]
    cases Option.some.inj ran
    exact noted_trying rfl (by split <;> rfl)
  case h_8 at_ =>
    rw [note,at_]
    split at ran
    · cases Option.some.inj ran
      exact noted_trying rfl rfl
    · cases Option.some.inj ran
      exact noted_refused rfl
  case h_9 at_ =>
    rw [note,at_]
    split at ran
    · cases Option.some.inj ran
      exact noted_trying rfl (by rw [at_]; rfl)
    · cases Option.some.inj ran
      exact noted_connected _
    · cases Option.some.inj ran
      exact noted_refused rfl
    · rename_i wait
      exact (connectWait_reached (waiting at_) wait).elim
  all_goals rename_i at_; rw [note,at_]
  all_goals cases ran
  all_goals exact noted_trying rfl rfl

theorem step_noted {net : Bool → Socket → Socket → Prop} (waiting : Waiting m) (step : Step net board cx m event next) :
    Noted board.tls m.pc (note m event) next.pc := by
  obtain ⟨_,ran⟩ := step
  cases event with
  | run =>
    simp only [advance] at ran
    split at ran
    · rename_i at_
      cases Option.some.inj ran
      exact noted_teardown _ _ at_
    · exact connectTransport_noted waiting ran
  | io memory f =>
    simp only [advance] at ran
    split at ran
    · cases Option.some.inj ran
      exact noted_same _ _
    · cases ran
  | finish outcome =>
    simp only [advance] at ran
    split at ran
    · rename_i at_
      obtain ⟨pc,onward,equal⟩ := Option.map_eq_some_iff.mp ran
      subst equal
      simp only [note,at_]
      exact noted_call _ onward
    · cases ran
  | tick now =>
    cases Option.some.inj ran
    exact noted_same _ _
  | net reached socket =>
    cases Option.some.inj ran
    exact noted_same _ _

theorem waiting_taken {net : Bool → Socket → Socket → Prop} (laws : ∀ reached, TcpLaws (net reached))
    (listens : ∀ reached, Handshake.ListenLaws (net reached)) (waiting : Waiting m)
    (taken : Taken net board cx m next) : Waiting next := by
  intro at_
  cases taken with
  | issued _ connect =>
    have valid := Handshake.issued_connecting connect
    exact ⟨valid.unlistened,valid.opening,fun _ => rfl⟩
  | waiting before wait =>
    have valid := waiting before
    have registers := Handshake.connectWait_registers cx m.socket
    rw [wait] at registers
    rcases registers with same | registered
    · subst same; exact valid
    · subst registered; exact ⟨valid.unlistened,valid.opening,fun _ => rfl⟩
  | net reached taken => exact Handshake.connecting_network (laws reached) (listens reached) (waiting at_) taken
  | tick => exact waiting at_
  | io before => rw [show _ = m.pc from rfl,before] at at_; cases at_
  | teardown before =>
    rename_i pc
    have outside := teardown_outside cx m pc
    rw [at_] at outside
    cases outside
  | finish _ _ onward =>
    rename_i pc _ _
    have equal : pc = .connectWait := at_
    subst equal
    cases follow_outside onward
  | first | early | late | delayed | record | setTimeout | setKeepAlive | stillOpen | shut | abort | refused | connected |
    reset | unreachable => cases at_

-- The log as it stands, the loop at the place its last entry leads to.
structure Protocol (tls : Bool) (l : Logged) : Prop where
  waiting : Waiting l.machine
  chain : (Entry.disconnect :: l.log).IsChain (fun earlier later => follows tls earlier later = true)
  leads : ∃ earlier last, Entry.disconnect :: l.log = earlier ++ [last] ∧ Leads tls last l.machine.pc
  live : l.log.countP Entry.opens = l.log.countP Entry.closes + l.machine.pc.live.toNat
  owing : l.log.countP Entry.answerable = l.log.countP Entry.answers + l.machine.pc.owing.toNat

theorem countP_one (counts : Entry → Bool) (entry : Entry) : [entry].countP counts = (counts entry).toNat := by
  cases value : counts entry <;> simp [value]

theorem protocol_step {net : Bool → Socket → Socket → Prop} (laws : ∀ reached, TcpLaws (net reached))
    (listens : ∀ reached, Handshake.ListenLaws (net reached)) (valid : Protocol board.tls l)
    (step : LoggedStep net board cx l event next) : Protocol board.tls next := by
  obtain ⟨step,grown⟩ := step
  have waiting := waiting_taken laws listens valid.waiting step.taken
  have noted := step_noted valid.waiting step
  obtain ⟨earlier,last,whole,leads⟩ := valid.leads
  have live := valid.live
  have owing := valid.owing
  generalize note l.machine event = entries at noted grown
  cases noted with
  | silent onward sameLive sameOwing =>
    rw [List.append_nil] at grown
    refine ⟨waiting,?_,⟨earlier,last,?_,onward last leads⟩,?_,?_⟩
    · rw [grown]; exact valid.chain
    · rw [grown]; exact whole
    · rw [grown,sameLive]; exact live
    · rw [grown,sameOwing]; exact owing
  | entered entry allowed onward balance answered =>
    refine ⟨waiting,?_,⟨Entry.disconnect :: l.log,entry,?_,onward⟩,?_,?_⟩
    · rw [grown,← List.cons_append,List.isChain_append]
      refine ⟨valid.chain,.singleton _,?_⟩
      intro before final after newest
      rw [whole,List.getLast?_concat] at final
      cases final
      cases newest
      exact allowed _ leads
    · rw [grown]; rfl
    · rw [grown,List.countP_append,List.countP_append,countP_one,countP_one]
      omega
    · rw [grown,List.countP_append,List.countP_append,countP_one,countP_one]
      omega

theorem protocol_start (tls : Bool) (now : Instant) (s : Socket) : Protocol tls ⟨start now s,[]⟩ where
  waiting := nofun
  chain := .singleton _
  leads := ⟨[],.disconnect,rfl,.between rfl rfl⟩
  live := rfl
  owing := rfl

-- The slice of the echo is the only panic left.
theorem panicked_split (panics : echo payload = .panicked) : ¬ Unsplit payload := by
  intro unsplit
  cases decoded : String.fromUTF8? payload with
  | none => simp [echo,decoded] at panics
  | some text =>
    have exact := echo_boundary decoded ((boundary_unsplit decoded).mpr unsplit)
    unfold Exact at exact
    rw [decoded] at exact
    obtain ⟨_,_,_,published⟩ := exact
    rw [panics] at published
    cases published

theorem Protocol.panics (valid : Protocol tls l) (at_ : l.machine.pc = .panicked) :
    ∃ earlier payload, l.log = earlier ++ [.finished .recv (.message payload)] ∧ ¬ Unsplit payload := by
  obtain ⟨earlier,last,whole,leads⟩ := valid.leads
  rw [at_] at leads
  cases leads with
  | panicked next =>
    obtain ⟨payload,call,outcome,panics⟩ := follow_panicked next
    subst call outcome
    cases earlier with
    | nil => cases whole
    | cons first earlier =>
      exact ⟨earlier,payload,(List.cons.inj whole).2,panicked_split panics⟩
  | between _ other | trying other => cases other

theorem session_protocol {net : Bool → Socket → Socket → Prop} (laws : ∀ reached, TcpLaws (net reached))
    (listens : ∀ reached, Handshake.ListenLaws (net reached)) (now : Instant) (s : Socket)
    (path : Runs (LoggedStep net board cx) ⟨start now s,[]⟩ events l) :
    (Entry.disconnect :: l.log).IsChain (fun earlier later => follows board.tls earlier later = true) ∧
    l.log.countP Entry.opens = l.log.countP Entry.closes + l.machine.pc.live.toNat ∧
    l.log.countP Entry.answerable = l.log.countP Entry.answers + l.machine.pc.owing.toNat ∧
    (l.machine.pc = .panicked →
      ∃ earlier payload, l.log = earlier ++ [.finished .recv (.message payload)] ∧ ¬ Unsplit payload) := by
  have valid : Protocol board.tls l :=
    path.invariant (fun _ _ _ valid step => protocol_step laws listens valid step) (protocol_start _ now s)
  exact ⟨valid.chain,valid.live,valid.owing,valid.panics⟩

def record (board : Board) (cx : Waker) (l : Logged) (event : Event) : Option Logged :=
  (guarded admits (advance board cx) l.machine event).map (fun next => ⟨next,l.log ++ note l.machine event⟩)

theorem play_logged (played : run (fun l choice => record board cx l (choose l.machine choice)) l choices = some next) :
    ∃ events, Runs (LoggedStep Polls board cx) l events next := by
  refine run_sound ?_ played
  intro l choice next ran
  obtain ⟨machine,guards,equal⟩ := Option.map_eq_some_iff.mp ran
  obtain ⟨allowed,advanced⟩ := guarded_some guards
  subst equal
  exact ⟨⟨admits_admitted allowed,advanced⟩,rfl⟩

theorem polls_listen (reached : Bool) : Handshake.ListenLaws (Polls reached) where
  relisten := fun s next taken => Handshake.processed_listen.relisten s next taken.1
  endpoint := fun s next taken => Handshake.processed_listen.endpoint s next taken.1
  peer := fun s next taken => Handshake.processed_listen.peer s next taken.1

namespace Controls
-- A session whose subscription fails, up to the close of its connection.
def unsubscribed : List Choice :=
  attempt 5 ++ [.run,.net true .synAck,.run,.finish .ok,.finish .error,.run]
end Controls

theorem unsubscribed_session_torn_down : ∃ events l,
    Runs (LoggedStep Polls Controls.board 7) ⟨start ⟨5⟩ (.fresh 4 4),[]⟩ events l ∧ l.log.length = 4 ∧
      l.log.countP Entry.closes = 1 ∧ l.log.countP Entry.opens = 1 + l.machine.pc.live.toNat := by
  have played : (run (fun l choice => record Controls.board 7 l (choose l.machine choice)) ⟨start ⟨5⟩ (.fresh 4 4),[]⟩
      Controls.unsubscribed).map (fun l => (l.log.length,l.log.countP Entry.closes)) = some (4,1) := by decide +kernel
  obtain ⟨l,ran,counted⟩ := Option.map_eq_some_iff.mp played
  obtain ⟨length,closes⟩ := Prod.mk.inj counted
  obtain ⟨events,path⟩ := play_logged ran
  have protocol := session_protocol polls_tcp polls_listen _ _ path
  exact ⟨events,l,path,length,closes,by rw [← closes]; exact protocol.2.1⟩

end Ra6m3Rtic.Mqtt
