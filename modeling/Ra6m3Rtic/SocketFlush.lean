import Ra6m3Rtic.SocketStreams

namespace Ra6m3Rtic.Flush
open Smoltcp LabelledRuns

-- One connection that is never aborted locally. `accepted` is what `write` and
-- `write_with` have reported as taken, `acked` what the remote has acknowledged.
structure Machine where
  socket : Socket
  accepted : List UInt8
  acked : List UInt8

-- The run may begin anywhere in the connection: what the ring holds then was
-- accepted earlier.
def start (s : Socket) : Machine := ⟨s,s.tx.data,[]⟩

inductive Event (ρ : Type) where
  | io (memory : Memory) (f : Future ρ)
  | close
  | net (next : Socket) (acked : List UInt8)

def advance (cx : Waker) (m : Machine) : Event ρ → Machine
  | .io memory f =>
    {m with
      socket := (f.poll cx memory m.socket).socket
      accepted := m.accepted ++ f.accepted (f.poll cx memory m.socket)}
  | .close => {m with socket := m.socket.close}
  | .net next acked => {m with socket := next,acked := m.acked ++ acked}

-- `send_queue` counts the accepted octets that are not acknowledged: an octet
-- leaves the ring by its acknowledgement and in no other way.
def Admitted (net : Socket → Socket → Prop) (m : Machine) : Event ρ → Prop
  | .net next acked => net m.socket next ∧ m.socket.tx.data = acked ++ next.tx.data
  | .io _ _ | .close => True

def Step (net : Socket → Socket → Prop) (cx : Waker) (m : Machine) (event : Event ρ) (next : Machine) : Prop :=
  Admitted net m event ∧ next = advance cx m event

-- A closed socket takes no acknowledgement any more.
structure EndedLaws (net : Socket → Socket → Prop) : Prop where
  closed : ∀ s next, net s next → s.state = .closed → next.state = .closed
  silent : ∀ s next, net s next → s.state = .closed → next.tx.data = s.tx.data

-- What a poll of `flush` has to answer: Ok means delivery, and a connection that
-- ended with octets outstanding is reported as reset.
def Delivers (cx : Waker) (m : Machine) : Prop :=
  ((SocketInner.flush cx m.socket).1 = .ready (.ok ()) → m.accepted = m.acked) ∧
  (m.socket.state = .closed → m.accepted ≠ m.acked →
    (SocketInner.flush cx m.socket).1 = .ready (.error .connectionReset))

-- The connection has ended with octets outstanding.
def Lost (m : Machine) : Prop := m.socket.state = .closed ∧ 0 < m.socket.sendQueue

-- Conservation: what was accepted is acknowledged or still queued.
def Accounted (m : Machine) : Prop := m.accepted = m.acked ++ m.socket.tx.data

theorem close_tx (s : Socket) : s.close.tx = s.tx := by
  unfold Socket.close
  split <;> rfl

theorem accounted_step {net : Socket → Socket → Prop} (m : Machine) (event : Event ρ) (next : Machine)
    (valid : Accounted m) (step : Step net cx m event next) : Accounted next := by
  obtain ⟨admitted,equal⟩ := step
  subst equal
  cases event with
  | io memory f =>
    have kept := (poll_moves f cx memory m.socket).kept
    change m.accepted ++ _ = m.acked ++ (f.poll cx memory m.socket).socket.tx.data
    rw [← kept,← List.append_assoc,valid]
  | close =>
    change m.accepted = m.acked ++ m.socket.close.tx.data
    rw [close_tx]
    exact valid
  | net socket acked =>
    change m.accepted = m.acked ++ acked ++ socket.tx.data
    rw [List.append_assoc,← admitted.2]
    exact valid

theorem outstanding_iff {m : Machine} (valid : Accounted m) : m.accepted ≠ m.acked ↔ 0 < m.socket.sendQueue := by
  unfold Accounted at valid
  rw [valid,Socket.sendQueue,List.length_pos_iff]
  simp

-- `flush` has no error to give, and its Ok means an empty queue only while the
-- connection lives.
theorem flush_answer {s : Socket} (answered : (SocketInner.flush cx s).1 = .ready result) :
    result = .ok () ∧ (0 < s.sendQueue → s.state = .closed) := by
  have spec := SocketInner.flush_spec cx s
  generalize SocketInner.flush cx s = out at spec answered
  cases spec with
  | wait => cases answered
  | flushed idle =>
    cases answered
    refine ⟨rfl,?_⟩
    intro queued
    simp only [Bool.or_eq_false_iff,SocketInner.dataPending,queued,decide_true,Bool.true_and] at idle
    simpa using idle.1.1

theorem delivers_iff {m : Machine} (valid : Accounted m) : Delivers cx m ↔ ¬ Lost m := by
  have outstanding := outstanding_iff valid
  constructor
  · intro delivers lost
    obtain ⟨closed,queued⟩ := lost
    have reported := delivers.2 closed (outstanding.mpr queued)
    cases (flush_answer reported).1
  · intro kept
    refine ⟨?_,?_⟩
    · intro answered
      by_contra unequal
      have queued := outstanding.mp unequal
      exact kept ⟨(flush_answer answered).2 queued,queued⟩
    · intro closed unequal
      exact absurd ⟨closed,outstanding.mp unequal⟩ kept

-- A connection that has ended with octets outstanding stays so.
theorem lost_step {net : Socket → Socket → Prop} (laws : EndedLaws net) (m : Machine) (event : Event ρ)
    (next : Machine) (valid : Accounted m ∧ Lost m) (step : Step net cx m event next) : Accounted next ∧ Lost next := by
  obtain ⟨accounted,closed,queued⟩ := valid
  refine ⟨accounted_step m event next accounted step,?_⟩
  obtain ⟨admitted,equal⟩ := step
  subst equal
  cases event with
  | io memory f =>
    have longer := (poll_rings f cx memory m.socket).2
    exact ⟨(f.poll_touched cx memory m.socket).state.trans closed,Nat.lt_of_lt_of_le queued longer⟩
  | close =>
    have same : m.socket.close = m.socket := by simp [Socket.close,closed]
    change m.socket.close.state = .closed ∧ 0 < m.socket.close.sendQueue
    rw [same]
    exact ⟨closed,queued⟩
  | net socket acked =>
    refine ⟨laws.closed _ _ admitted.1 closed,?_⟩
    change 0 < socket.tx.data.length
    rw [laws.silent _ _ admitted.1 closed]
    exact queued

-- The exact condition for one poll. Where it fails it fails for good: from then on
-- the octets stay outstanding and no poll of `flush` reports a reset.
theorem flush_delivers_exactly_unless_lost {net : Socket → Socket → Prop} (laws : EndedLaws net) (s : Socket)
    {events : List (Event ρ)} (path : Runs (Step net cx) (start s) events m) :
    (Delivers cx m ↔ ¬ Lost m) ∧
    (m.socket.state = .closed → m.accepted ≠ m.acked →
      ∀ (later : List (Event ρ)) last, Runs (Step net cx) m later last →
        last.accepted ≠ last.acked ∧ ∀ result, (SocketInner.flush cx last.socket).1 = .ready result → result = .ok ()) := by
  have begins : Accounted (start s) := rfl
  have accounted : Accounted m := path.invariant accounted_step begins
  refine ⟨delivers_iff accounted,?_⟩
  intro closed unequal later last onward
  have lost : Lost m := ⟨closed,(outstanding_iff accounted).mp unequal⟩
  obtain ⟨still,_,queued⟩ := onward.invariant (lost_step laws) ⟨accounted,lost⟩
  exact ⟨(outstanding_iff still).mpr queued,fun _ answered => (flush_answer answered).1⟩

-- The concrete network, with the acknowledgements a closed socket would ignore left out.
def Acknowledged (s next : Socket) : Prop := Processed s next ∧ (s.state = .closed → next.tx.data = s.tx.data)

theorem acknowledged_ended : EndedLaws Acknowledged where
  closed := fun s next taken => processed_tcp.closedLaws.closed s next taken.1
  silent := fun _ _ taken => taken.2

namespace Controls
def sending : Socket := {Smoltcp.Controls.connected .established with tx := ⟨[5],4,by decide⟩}
def written : Machine := ⟨sending,[5],[]⟩
def acknowledged : Machine := ⟨process sending (.acknowledge 1),[5],[5]⟩
def reset : Machine := ⟨process sending .rst,[5],[]⟩

theorem one_octet_written : Runs (Step Acknowledged 7) (start (Smoltcp.Controls.connected .established))
    [(.io .blank (.write [5]) : Event Unit)] written := .one ⟨True.intro,rfl⟩
end Controls

theorem acknowledged_delivers : Delivers 7 Controls.acknowledged ∧
    (SocketInner.flush 7 Controls.acknowledged.socket).1 = .ready (.ok ()) := by
  have arrives : Acknowledged Controls.sending Controls.acknowledged.socket :=
    ⟨⟨.acknowledge 1,rfl⟩,fun closed => by cases closed⟩
  have acknowledged : Step Acknowledged 7 Controls.written (.net Controls.acknowledged.socket [5] : Event Unit)
      Controls.acknowledged := ⟨⟨arrives,rfl⟩,rfl⟩
  have path := Controls.one_octet_written.step acknowledged
  refine ⟨(flush_delivers_exactly_unless_lost acknowledged_ended _ path).1.mpr ?_,rfl⟩
  intro lost
  cases lost.1

-- The peer resets the connection before it has acknowledged the octet.
theorem reset_flush_not_delivered : ¬ ∀ (s : Socket) (events : List (Event Unit)) (m : Machine),
    Runs (Step Acknowledged 7) (start s) events m → Delivers 7 m := by
  intro claimed
  have arrives : Acknowledged Controls.sending Controls.reset.socket := ⟨⟨.rst,rfl⟩,fun closed => by cases closed⟩
  have reset : Step Acknowledged 7 Controls.written (.net Controls.reset.socket [] : Event Unit) Controls.reset :=
    ⟨⟨arrives,rfl⟩,rfl⟩
  have delivered := (claimed _ _ _ (Controls.one_octet_written.step reset)).1 rfl
  cases delivered

end Ra6m3Rtic.Flush
