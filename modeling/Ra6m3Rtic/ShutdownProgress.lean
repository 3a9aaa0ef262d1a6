import Ra6m3Rtic.Shutdown

namespace Ra6m3Rtic.Shutdown
open Smoltcp LabelledRuns

-- Sections run after the timer of their `run_with_timeout` has expired.
def ExpiredStep (net : Socket → Socket → Prop) (cx : Waker) (buf : List UInt8) (m : Machine) (event : Event)
    (next : Machine) : Prop := Step net cx buf m event next ∧ event ≠ .run false

def Event.own : Event → Nat
  | .run _ => 1
  | .net _ => 0

-- Sections left at each place, not counting reads that find octets.
def Pc.remaining : Pc → Nat
  | .close => 4
  | .read _ => 3
  | .readTimer _ => 1
  | .txFlush => 5
  | .suspended _ => 4
  | .abort => 3
  | .flush => 2
  | .flushTimer => 1
  | .flushSuspended => 3
  | .done _ => 0

def Machine.measure (m : Machine) : Nat := m.pc.remaining + m.socket.rx.data.length

-- The timer is looked at only when the read is Pending; until then every read
-- takes an octet at least.
theorem Resumed.remaining (spec : Resumed cx s true pc out) :
    1 + out.1.remaining + out.2.rx.data.length ≤ pc.remaining + s.rx.data.length := by
  cases spec with
  | close =>
    rw [(close_kept s).1]
    simp only [Pc.remaining]
    omega
  | octets n some within =>
    simp only [Pc.remaining,RingBuffer.data_dequeue,List.length_drop]
    omega
  | wait | finished | reset | readTimeout | sending | sent | repoll | abort | flushing | flushed | writeTimeout |
    flushRepoll => simp [Pc.remaining,Socket.registerRecvWaker,Socket.registerSendWaker,Socket.abort,Socket.setState,
      Socket.wakeRx,Socket.wakeTx]

theorem expired_paid {net : Socket → Socket → Prop} (some : buf ≠ []) (m : Machine) (event : Event) (next : Machine)
    (step : ExpiredStep net cx buf m event next) :
    event.own + next.measure + m.arrived.length ≤ m.measure + next.arrived.length := by
  obtain ⟨⟨_,ran⟩,expired⟩ := step
  unfold advance at ran
  split at ran
  · cases ran
  · rename_i late live _
    cases late with
    | false => exact absurd rfl expired
    | true =>
      cases Option.some.inj ran
      have spec := (resume_spec some m.socket live : Resumed cx m.socket true m.pc (resume cx buf true m.socket m.pc)).remaining
      simp only [Event.own,Machine.measure,Machine.ran]
      omega
  · cases Option.some.inj ran
    simp only [Event.own,Machine.measure,Machine.network,List.length_append,List.length_drop]
    omega

theorem advance_live {m : Machine} (live : ∀ result, m.pc ≠ .done result) (expired : Bool) (next : Socket) :
    advance cx buf m (.run expired) = some (m.ran (resume cx buf expired m.socket m.pc)) ∧
    advance cx buf m (.net next) = some (m.network next) := by
  obtain ⟨pc,socket,arrived,drained,fin,aborted⟩ := m
  cases pc with
  | done result => exact absurd rfl (live result)
  | close | read | readTimer | txFlush | suspended | abort | flush | flushTimer | flushSuspended => exact ⟨rfl,rfl⟩

theorem expired_enabled {net : Socket → Socket → Prop} {m : Machine} (live : ∀ result, m.pc ≠ .done result) :
    ExpiredStep net cx buf m (.run true) (m.ran (resume cx buf true m.socket m.pc)) :=
  ⟨⟨True.intro,(advance_live live true m.socket).1⟩,nofun⟩

theorem shutdown_returns_once_expired {net : Socket → Socket → Prop} (some : buf ≠ []) (m : Machine)
    (path : Runs (ExpiredStep net cx buf) m events next) :
    (events.map Event.own).sum + m.arrived.length ≤ 5 + m.socket.rx.data.length + next.arrived.length ∧
    ((∀ result, next.pc ≠ .done result) → ∃ after, ExpiredStep net cx buf next (.run true) after) := by
  have spent := path.accounted Event.own Machine.measure (fun m => m.arrived.length) (expired_paid some)
  have most : m.pc.remaining ≤ 5 := by cases m.pc <;> simp [Pc.remaining]
  simp only [Machine.measure] at spent
  exact ⟨by omega,fun live => ⟨_,expired_enabled live⟩⟩

namespace Controls
-- A peer that neither sends nor closes: the close, a read and the expired timer.
def silent : Machine := start .close (Smoltcp.Controls.connected .established)
end Controls

theorem silent_peer_times_out : ∃ m, Runs (ExpiredStep Processed 7 [0]) Controls.silent [.run true,.run true,.run true] m ∧
    m.pc = .done (.error .readTimeout) ∧ 3 ≤ 5 + m.arrived.length := by
  have closes : ExpiredStep Processed 7 [0] Controls.silent (.run true) _ := expired_enabled nofun
  have reads : ExpiredStep Processed 7 [0] (Controls.silent.ran (resume 7 [0] true Controls.silent.socket .close)) (.run true) _ :=
    expired_enabled nofun
  have path := ((Runs.one closes).step reads).step (expired_enabled nofun)
  exact ⟨_,path,rfl,(shutdown_returns_once_expired (by decide) _ path).1⟩

-- A sender that never lets the read run dry.
structure Fed (m : Machine) : Prop where
  at_ : m.pc = .read false
  state : m.socket.state = .finWait1
  fin : m.socket.rxFinReceived = false
  dry : m.socket.rx.data = []
  room : 0 < m.socket.rx.capacity

theorem Fed.live (fed : Fed m) : ∀ result, m.pc ≠ .done result := by
  intro result done
  rw [fed.at_] at done
  cases done

-- One octet arrives; the read that takes it is not Pending, so the expired timer
-- is not looked at.
theorem fed_arrival {s : Socket} (state : s.state = .finWait1) (fin : s.rxFinReceived = false) (dry : s.rx.data = [])
    (room : 0 < s.rx.capacity) : process s (.octets [0]) = ({s with rx := s.rx.enqueue [0]} : Socket).wakeRx ∧
      (process s (.octets [0])).rx.data = [0] := by
  have socket : process s (.octets [0]) = ({s with rx := s.rx.enqueue [0]} : Socket).wakeRx := by
    simp [process,state,fin]
  refine ⟨socket,?_⟩
  rw [socket]
  simp only [Socket.wakeRx,RingBuffer.data_enqueue,RingBuffer.window,dry,List.nil_append]
  exact List.take_of_length_le room

theorem fed_read (cx : Waker) (some : buf ≠ []) {s : Socket} (state : s.state = .finWait1) (one : s.rx.data = [0]) :
    ∃ n, resume cx buf true s (.read false) = (.read false,{s with rx := s.rx.dequeue n}) ∧ s.rx.data.drop n = [] := by
  have spec : Resumed cx s true (.read false) (resume cx buf true s (.read false)) := resume_spec some s nofun
  generalize resume cx buf true s (.read false) = out at spec
  have receiving : s.mayRecv = true := by simp [Socket.mayRecv,state]
  cases spec with
  | wait _ dry => rw [one] at dry; cases dry
  | octets n positive _ =>
    refine ⟨n,rfl,?_⟩
    rw [one]
    exact List.drop_of_length_le positive
  | finished ended | reset ended => rw [receiving] at ended; cases ended

theorem Fed.round {m : Machine} (fed : Fed m) (cx : Waker) (some : buf ≠ []) :
    ∃ next, Runs (ExpiredStep Processed cx buf) m [.net (process m.socket (.octets [0])),.run true] next ∧ Fed next := by
  obtain ⟨socket,one⟩ := fed_arrival fed.state fed.fin fed.dry fed.room
  have arrives : ExpiredStep Processed cx buf m (.net (process m.socket (.octets [0])))
      (m.network (process m.socket (.octets [0]))) :=
    ⟨⟨⟨.octets [0],rfl⟩,(advance_live fed.live true _).2⟩,nofun⟩
  have state : (process m.socket (.octets [0])).state = .finWait1 := by rw [socket]; exact fed.state
  obtain ⟨n,read,dry⟩ := fed_read cx some state one
  refine ⟨_,(Runs.one arrives).step (expired_enabled fed.live),?_⟩
  simp only [Machine.network,fed.at_]
  rw [read]
  refine ⟨rfl,state,?_,dry,?_⟩
  · simp only [Machine.ran,socket]; exact fed.fin
  · simp only [Machine.ran,socket]; exact fed.room

theorem steady_sender_outruns_timeout (some : buf ≠ []) (s : Socket) (established : s.state = .established)
    (fin : s.rxFinReceived = false) (dry : s.rx.data = []) (room : 0 < s.rx.capacity) (n : Nat) :
    ∃ events m, Runs (ExpiredStep Processed cx buf) (start .close s) events m ∧ (events.map Event.own).sum = n + 1 ∧
      ∀ result, m.pc ≠ .done result := by
  have closes : ExpiredStep Processed cx buf (start .close s) (.run true) ((start .close s).ran (.read false,s.close)) :=
    expired_enabled nofun
  suffices fed : ∃ events m, Runs (ExpiredStep Processed cx buf) (start .close s) events m ∧
      (events.map Event.own).sum = n + 1 ∧ Fed m by
    obtain ⟨events,m,path,count,fed⟩ := fed
    exact ⟨events,m,path,count,fed.live⟩
  induction n with
  | zero =>
    refine ⟨_,_,.one closes,rfl,rfl,?_,?_,?_,?_⟩
    all_goals simp [Machine.ran,Socket.close,established,Socket.setState,Socket.wakeRx,Socket.wakeTx,fin,dry,room]
  | succ n ih =>
    obtain ⟨events,m,path,count,fed⟩ := ih
    obtain ⟨next,round,fed⟩ := fed.round cx some
    refine ⟨_,next,path.append round,?_,fed⟩
    simp [count,Event.own]

theorem thousand_sections_in_vain : ∃ events m,
    Runs (ExpiredStep Processed 7 [0]) Controls.silent events m ∧ (events.map Event.own).sum = 1000 ∧
      ∀ result, m.pc ≠ .done result :=
  steady_sender_outruns_timeout (by decide) _ rfl rfl rfl (by decide) 999

end Ra6m3Rtic.Shutdown
