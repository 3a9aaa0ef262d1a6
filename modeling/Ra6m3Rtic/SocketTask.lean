import Mathlib.Logic.Relation
import Ra6m3Rtic.Disconnect
import Ra6m3Rtic.SocketWakeups

namespace Ra6m3Rtic.SocketTask
open Smoltcp OneShot
open Relation (ReflTransGen)

-- A future a task awaits, and the socket as its last poll left it, when that poll
-- returned Pending.
structure Await (ρ : Type) where
  future : Future ρ
  since : Option Socket

-- What a task awaits of its socket: futures of one section each, several at a time
-- under `or`, or a `disconnect`, which is awaited alone.
inductive Context (ρ : Type) where
  | awaits (futures : List (Await ρ))
  | disconnect (pc : Disconnect.Pc)

-- The sections of a task that are not polls of a future: the first halves of
-- `connect` and `accept`, and the setters.
inductive Operation where
  | connect (source : IpAddress → Option IpAddress) (remote : IpEndpoint) (port : UInt16)
  | accept (endpoint : IpListenEndpoint)
  | close
  | abort
  | setTimeout (duration : Option Nat)
  | setKeepAlive (interval : Option Nat)

def Operation.apply (s : Socket) : Operation → Socket
  | .connect source remote port => (TcpSocket.connect source remote port s).2
  | .accept endpoint => (TcpSocket.accept endpoint s).2
  | .close => s.close
  | .abort => s.abort
  | .setTimeout duration => s.setTimeout duration
  | .setKeepAlive interval => s.setKeepAlive interval

-- A timeout, or the other side of an `or`, drops a future that has not returned.
inductive Move (ρ : Type) where
  | await (f : Future ρ)
  | drop (index : Nat)
  | future (index : Nat) (memory : Memory)
  | operate (operation : Operation)
  | disconnect
  | run

-- What a move does under the lock of the Net: nothing, a look (`with`), or a change
-- that leaves the socket as given (`with_mut`).
inductive Section where
  | outside
  | reads
  | writes (socket : Socket)

def Section.socket (before : Socket) : Section → Socket
  | .outside | .reads => before
  | .writes socket => socket

def disconnectSection (after : Socket) : Disconnect.Pc → Section
  | .close | .register _ => .writes after
  | .check _ => .reads
  | .suspended _ | .done => .outside

-- A future that has returned is dropped by its task; a panic halts the core.
def advance (cx : Waker) (s : Socket) : Context ρ → Move ρ → Option (Context ρ × Section)
  | .awaits futures,.await f => some (.awaits (futures ++ [⟨f,none⟩]),.outside)
  | .awaits futures,.drop index => some (.awaits (futures.eraseIdx index),.outside)
  | .awaits futures,.future index memory =>
    match futures[index]? with
    | none => none
    | some a =>
      let out := a.future.poll cx memory s
      match out.poll with
      | .pending => some (.awaits (futures.set index ⟨out.future,some out.socket⟩),.writes out.socket)
      | .ready _ => some (.awaits (futures.eraseIdx index),.writes out.socket)
      | .panicked => none
  | .awaits [],.operate operation => some (.awaits [],.writes (operation.apply s))
  | .awaits [],.disconnect => some (.disconnect .close,.outside)
  | .disconnect pc,.run =>
    match Disconnect.advance cx ⟨pc,s⟩ .run with
    | some next => some (.disconnect next.pc,disconnectSection next.socket pc)
    | none => some (.awaits [],.outside)
  | _,_ => none

def Move.Live : Move ρ → Prop
  | .await f => f.Live
  | _ => True

-- An activation ends only once every future it awaits has been polled.
def Context.parked : Context ρ → Bool
  | .awaits futures => futures.all fun a => a.since.isSome
  | .disconnect (.suspended _) => true
  | .disconnect _ => false

-- The task has been woken since one of its futures last returned Pending.
def Context.Woken (cx : Waker) : Context ρ → Socket → Prop
  | .awaits futures,s => ∃ a ∈ futures, ∃ last, a.since = some last ∧ WokenSince cx last s
  | .disconnect pc,s => ∃ began, pc = .suspended began ∧ WokenSince cx began s

-- Polling again would find every future Pending.
def Context.Blocked (cx : Waker) : Context ρ → Socket → Prop
  | .awaits futures,s => ∀ a ∈ futures, a.future.Blocked s ∧ ∀ memory, (a.future.poll cx memory s).poll = .pending
  | .disconnect pc,s => (∃ began, pc = .suspended began) ∧ s.isOpen = true

-- What the network may do. Only a `disconnect` between its two sections asks more
-- of it than its laws: not to close the socket unless a wake is still bound to come.
def Context.covers (cx : Waker) : Context ρ → Socket → Socket → Bool
  | .awaits _,_,_ => true
  | .disconnect pc,s,next => Disconnect.covered cx ⟨pc,s⟩ (.net next)

def Context.Polled (net : Socket → Socket → Prop) (cx : Waker) (context : Context ρ) : Socket → Socket → Prop :=
  ReflTransGen fun s next => net s next ∧ context.covers cx s next = true

def Await.waiter (a : Await ρ) (s : Socket) : Waiter ρ := ⟨a.future,s,a.since⟩

-- What a task relies on while it waits.
def Context.Safe (cx : Waker) : Context ρ → Socket → Prop
  | .awaits futures,s => ∀ a ∈ futures, (a.waiter s).Safe cx
  | .disconnect pc,s => Disconnect.Invariant cx ⟨pc,s⟩

section
variable {net : Socket → Socket → Prop}

theorem disconnectSection_socket (ran : Disconnect.advance cx ⟨pc,s⟩ .run = some next) :
    (disconnectSection next.socket pc).socket s = next.socket := by
  cases pc with
  | close | register => rfl
  | check | suspended => cases Option.some.inj ran; rfl
  | done => cases ran

theorem unpolled_safe {f : Future ρ} (live : f.Live) (s : Socket) : (Await.waiter ⟨f,none⟩ s).Safe cx :=
  ⟨live,fun last since => by cases since⟩

theorem other_safe (laws : WakeLaws net) {a : Await ρ} (safe : (a.waiter s).Safe cx) (g : Future ρ) (memory : Memory) :
    (a.waiter (g.poll cx memory s).socket).Safe cx :=
  waiter_step laws _ _ _ safe (.other : WaiterStep net cx _ (.other g memory) _)

theorem pending_safe (laws : WakeLaws net) {a : Await ρ} (safe : (a.waiter s).Safe cx)
    (answer : (a.future.poll cx memory s).poll = .pending) :
    (Await.waiter ⟨(a.future.poll cx memory s).future,some (a.future.poll cx memory s).socket⟩
      (a.future.poll cx memory s).socket).Safe cx :=
  waiter_step laws _ _ _ safe (.poll answer : WaiterStep net cx (a.waiter s) (.poll memory) _)

theorem polled_safe (laws : WakeLaws net) {futures : List (Await ρ)} (safe : (Context.awaits futures).Safe cx s)
    (at_ : futures[index]? = some a) (answer : (a.future.poll cx memory s).poll = .pending) :
    (Context.awaits (futures.set index
      ⟨(a.future.poll cx memory s).future,some (a.future.poll cx memory s).socket⟩)).Safe cx
      (a.future.poll cx memory s).socket := by
  intro b member
  rcases List.mem_or_eq_of_mem_set member with kept | equal
  · exact other_safe laws (safe b kept) a.future memory
  · subst equal
    exact pending_safe laws (safe a (List.mem_of_getElem? at_)) answer

theorem advance_safe (laws : WakeLaws net) {context next : Context ρ} (safe : context.Safe cx s) (live : move.Live)
    (ran : advance cx s context move = some (next,entered)) : next.Safe cx (entered.socket s) := by
  unfold advance at ran
  split at ran
  case h_1 futures f =>
    cases Option.some.inj ran
    intro a member
    rcases List.mem_append.mp member with kept | new
    · exact safe a kept
    · cases List.mem_singleton.mp new
      exact unpolled_safe live s
  case h_2 futures index =>
    cases Option.some.inj ran
    intro a member
    exact safe a (List.mem_of_mem_eraseIdx member)
  case h_3 futures index memory =>
    split at ran
    · cases ran
    · rename_i a at_
      dsimp only at ran
      split at ran
      · rename_i answer
        cases Option.some.inj ran
        exact polled_safe laws safe at_ answer
      · cases Option.some.inj ran
        intro b member
        exact other_safe laws (safe b (List.mem_of_mem_eraseIdx member)) a.future memory
      · cases ran
  case h_4 =>
    cases Option.some.inj ran
    intro a member
    cases member
  case h_5 =>
    cases Option.some.inj ran
    exact Disconnect.start_invariant cx s
  case h_6 pc =>
    split at ran
    · rename_i after closing
      cases Option.some.inj ran
      rw [disconnectSection_socket closing]
      exact Disconnect.run_invariant safe closing
    · cases Option.some.inj ran
      intro a member
      cases member
  case h_7 => cases ran

theorem network_safe (laws : WakeLaws net) {context : Context ρ} (safe : context.Safe cx s)
    (polled : context.Polled net cx s next) : context.Safe cx next := by
  induction polled with
  | refl => exact safe
  | tail _ step ih =>
    obtain ⟨step,covered⟩ := step
    cases context with
    | awaits futures =>
      intro a member
      exact waiter_step laws _ _ _ (ih a member) (.net step)
    | disconnect pc => exact Disconnect.net_invariant laws ih step covered

-- A task that is parked and not woken can only wait.
theorem Context.Safe.blocked {context : Context ρ} (safe : context.Safe cx s) (parked : context.parked = true)
    (unwoken : ¬ context.Woken cx s) : context.Blocked cx s := by
  cases context with
  | awaits futures =>
    intro a member
    obtain ⟨last,since⟩ := Option.isSome_iff_exists.mp (List.all_eq_true.mp parked a member)
    have blocked : a.future.Blocked s := by
      rcases (safe a member).2 last since with woken | ⟨_,unready⟩
      · exact absurd ⟨a,member,last,since,woken⟩ unwoken
      · exact Classical.not_not.mp unready
    refine ⟨blocked,?_⟩
    intro memory
    rw [poll_blocked blocked]
  | disconnect pc =>
    cases pc with
    | suspended began =>
      refine ⟨⟨began,rfl⟩,?_⟩
      rcases (safe.suspended began rfl).2 with woken | ⟨_,unready⟩
      · exact absurd ⟨began,rfl,woken⟩ unwoken
      · exact Bool.not_eq_false _ ▸ unready
    | close | check | register | done => cases parked

end
end Ra6m3Rtic.SocketTask
