import Ra6m3Rtic.Clock
import Ra6m3Rtic.Lib.Runs

namespace Ra6m3Rtic.Network
open LabelledRuns

-- `request_network_poll` stores the flag and then wakes the poller: whoever
-- calls it stands before the store or between the store and the wake.
inductive Midway where
  | before
  | stored
  deriving DecidableEq, Repr

-- The fields of `ether::InterruptCause` the callback looks at.
structure Cause where
  receive : Bool
  transmits : Bool
  wentUp : Bool
  deriving DecidableEq, Repr

def Cause.requests (cause : Cause) : Bool := cause.receive || cause.transmits || cause.wentUp

-- What asks for a poll: a `with_mut` section of a client, or the NIC callback.
inductive Request (Client : Type) where
  | withMut (client : Client)
  | callback (cause : Cause)
  deriving DecidableEq, Repr

-- The poller between two atomic steps. `arm` holds what `poll_network` returned.
inductive Pc where
  | swap
  | timer
  | suspended
  | isUp
  | poll
  | pollAt
  | arm (deadline : Option Instant)
  deriving DecidableEq, Repr

-- `lock` is the client inside the net lock, `callback` the NIC callback inside
-- the device lock. From `found` on these are observations: the last answer of
-- `is_up`, the last call of `poll_at`, and the requests since the last
-- `iface.poll` and since the last `is_up`, newest first.
structure Machine (Client Net : Type) where
  net : Net
  lock : Option (Client × Midway)
  callback : Option Midway
  linkUp : Bool
  wentUpDue : Bool
  request : Bool
  wakePending : Bool
  pc : Pc
  nextPollAt : Option Instant
  now : Instant
  found : Option Bool
  asked : Option (Instant × Net)
  sincePoll : List (Request Client)
  sinceCheck : List (Request Client)
  deriving DecidableEq

def start (net : Net) (linkUp : Bool) (now : Instant) : Machine Client Net :=
  ⟨net,none,none,linkUp,linkUp,false,false,.swap,none,now,none,none,[],[]⟩

inductive Event (Client Net : Type) where
  | withMut (client : Client) (next : Net)
  | store
  | wake
  | callback (cause : Cause)
  | callbackStore
  | callbackWake
  | link (up : Bool)
  | tick (now : Instant)
  | expire
  | run
  | poll (next : Net)

section
variable {Client Net : Type} (pollAt : Int64 → Net → Option Int64)

def Machine.asking (m : Machine Client Net) (request : Request Client) : Machine Client Net :=
  {m with sincePoll := request :: m.sincePoll,sinceCheck := request :: m.sinceCheck}

-- One atomic step of `network_poller_task`. `future::or` polls the request
-- first; a request that is there leaves the timer unpolled.
def runPoller (m : Machine Client Net) : Option (Machine Client Net) :=
  match m.pc with
  | .swap => if m.request then some {m with request := false,pc := .isUp} else some {m with pc := .timer}
  | .timer =>
    match m.nextPollAt with
    | some at_ =>
      if m.now.lt at_ then some {m with pc := .suspended} else some {m with nextPollAt := none,pc := .isUp}
    | none => some {m with pc := .suspended}
  | .suspended => if m.wakePending then some {m with wakePending := false,pc := .swap} else none
  | .isUp =>
    if m.callback.isSome then none
    else if m.linkUp then some {m with pc := .poll,found := some true,sinceCheck := []}
    else some {m with pc := .arm none,found := some false,sinceCheck := []}
  | .poll => none
  | .pollAt =>
    if m.lock.isSome then none
    else some {m with pc := .arm ((pollAt (smolNow m.now) m.net).map pollDeadline),asked := some (m.now,m.net)}
  | .arm deadline => some {m with nextPollAt := deadline,pc := .swap}

def advance (m : Machine Client Net) : Event Client Net → Option (Machine Client Net)
  | .withMut client next =>
    if m.lock.isSome then none
    else some {m.asking (.withMut client) with net := next,lock := some (client,.before)}
  | .store =>
    match m.lock with
    | some (client,.before) => some {m with lock := some (client,.stored),request := true}
    | _ => none
  | .wake =>
    match m.lock with
    | some (_,.stored) => some {m with lock := none,wakePending := true}
    | _ => none
  | .callback cause =>
    if m.callback.isSome then none
    else if cause.requests then
      some {m.asking (.callback cause) with callback := some .before,wentUpDue := m.wentUpDue && !cause.wentUp}
    else some m
  | .callbackStore =>
    match m.callback with
    | some .before => some {m with callback := some .stored,request := true}
    | _ => none
  | .callbackWake =>
    match m.callback with
    | some .stored => some {m with callback := none,wakePending := true}
    | _ => none
  | .link up =>
    if m.callback.isSome then none
    else some {m with linkUp := up,wentUpDue := m.wentUpDue || (up && !m.linkUp)}
  | .tick now => some {m with now := now}
  | .expire =>
    match m.pc,m.nextPollAt with
    | .suspended,some at_ => if m.now.lt at_ then none else some {m with wakePending := true}
    | _,_ => none
  | .run => runPoller pollAt m
  | .poll next =>
    if m.pc = .poll ∧ m.lock = none ∧ m.callback = none then some {m with net := next,pc := .pollAt,sincePoll := []}
    else none

def Step (m : Machine Client Net) (event : Event Client Net) (next : Machine Client Net) : Prop :=
  advance pollAt m event = some next

-- The poller's own steps, each with the test it has passed.
inductive Own (m : Machine Client Net) : Machine Client Net → Prop where
  | requested (at_ : m.pc = .swap) (request : m.request = true) : Own m {m with request := false,pc := .isUp}
  | unrequested (at_ : m.pc = .swap) (request : m.request = false) : Own m {m with pc := .timer}
  | expired (at_ : m.pc = .timer) (armed : m.nextPollAt = some deadline) (due : m.now.lt deadline = false) :
      Own m {m with nextPollAt := none,pc := .isUp}
  | suspend (at_ : m.pc = .timer) (early : ∀ deadline, m.nextPollAt = some deadline → m.now.lt deadline = true) :
      Own m {m with pc := .suspended}
  | resume (at_ : m.pc = .suspended) (woken : m.wakePending = true) : Own m {m with wakePending := false,pc := .swap}
  | up (at_ : m.pc = .isUp) (up : m.linkUp = true) : Own m {m with pc := .poll,found := some true,sinceCheck := []}
  | down (at_ : m.pc = .isUp) (down : m.linkUp = false) :
      Own m {m with pc := .arm none,found := some false,sinceCheck := []}
  | poll (at_ : m.pc = .poll) (next : Net) : Own m {m with net := next,pc := .pollAt,sincePoll := []}
  | pollAt (at_ : m.pc = .pollAt) :
      Own m {m with pc := .arm ((pollAt (smolNow m.now) m.net).map pollDeadline),asked := some (m.now,m.net)}
  | arm (at_ : m.pc = .arm deadline) : Own m {m with nextPollAt := deadline,pc := .swap}

-- Every atomic step, with the test it has passed.
inductive Taken (m : Machine Client Net) : Machine Client Net → Prop where
  | withMut (client : Client) (next : Net) (free : m.lock = none) :
      Taken m {m.asking (.withMut client) with net := next,lock := some (client,.before)}
  | store (holder : m.lock = some (client,.before)) :
      Taken m {m with lock := some (client,.stored),request := true}
  | wake (holder : m.lock = some (client,.stored)) : Taken m {m with lock := none,wakePending := true}
  | callback (cause : Cause) (free : m.callback = none) :
      Taken m {m.asking (.callback cause) with
        callback := some .before
        wentUpDue := m.wentUpDue && !cause.wentUp}
  | ignored : Taken m m
  | callbackStore (holder : m.callback = some .before) :
      Taken m {m with callback := some .stored,request := true}
  | callbackWake (holder : m.callback = some .stored) : Taken m {m with callback := none,wakePending := true}
  | link (up : Bool) : Taken m {m with linkUp := up,wentUpDue := m.wentUpDue || (up && !m.linkUp)}
  | tick (now : Instant) : Taken m {m with now := now}
  | expire : Taken m {m with wakePending := true}
  | requested (at_ : m.pc = .swap) (request : m.request = true) : Taken m {m with request := false,pc := .isUp}
  | unrequested (at_ : m.pc = .swap) (request : m.request = false) : Taken m {m with pc := .timer}
  | expired (at_ : m.pc = .timer) : Taken m {m with nextPollAt := none,pc := .isUp}
  | suspend (at_ : m.pc = .timer) : Taken m {m with pc := .suspended}
  | resume (at_ : m.pc = .suspended) (woken : m.wakePending = true) :
      Taken m {m with wakePending := false,pc := .swap}
  | up (at_ : m.pc = .isUp) (up : m.linkUp = true) : Taken m {m with pc := .poll,found := some true,sinceCheck := []}
  | down (at_ : m.pc = .isUp) (down : m.linkUp = false) :
      Taken m {m with pc := .arm none,found := some false,sinceCheck := []}
  | poll (at_ : m.pc = .poll) (next : Net) : Taken m {m with net := next,pc := .pollAt,sincePoll := []}
  | pollAt (at_ : m.pc = .pollAt) :
      Taken m {m with pc := .arm ((pollAt (smolNow m.now) m.net).map pollDeadline),asked := some (m.now,m.net)}
  | arm (at_ : m.pc = .arm deadline) : Taken m {m with nextPollAt := deadline,pc := .swap}

variable {pollAt} {m next : Machine Client Net}

theorem runPoller_own (ran : runPoller pollAt m = some next) : Own pollAt m next := by
  unfold runPoller at ran
  split at ran
  case h_1 at_ =>
    split at ran
    · rename_i request
      cases Option.some.inj ran
      exact .requested at_ request
    · rename_i request
      cases Option.some.inj ran
      exact .unrequested at_ (by simpa using request)
  case h_2 at_ =>
    split at ran
    · rename_i armed
      split at ran
      · rename_i early
        cases Option.some.inj ran
        refine .suspend at_ ?_
        intro deadline same
        rw [armed] at same
        cases Option.some.inj same
        exact early
      · rename_i due
        cases Option.some.inj ran
        exact .expired at_ armed (by simpa using due)
    · rename_i unarmed
      cases Option.some.inj ran
      refine .suspend at_ ?_
      intro deadline armed
      rw [unarmed] at armed
      cases armed
  case h_3 at_ =>
    split at ran
    · rename_i woken
      cases Option.some.inj ran
      exact .resume at_ woken
    · cases ran
  case h_4 at_ =>
    split at ran
    · cases ran
    · split at ran
      · rename_i up
        cases Option.some.inj ran
        exact .up at_ up
      · rename_i down
        cases Option.some.inj ran
        exact .down at_ (by simpa using down)
  case h_5 => cases ran
  case h_6 at_ =>
    split at ran
    · cases ran
    · cases Option.some.inj ran
      exact .pollAt at_
  case h_7 at_ =>
    cases Option.some.inj ran
    exact .arm at_

theorem Own.taken (own : Own pollAt m next) : Taken pollAt m next := by
  cases own with
  | requested at_ request => exact .requested at_ request
  | unrequested at_ request => exact .unrequested at_ request
  | expired at_ => exact .expired at_
  | suspend at_ => exact .suspend at_
  | resume at_ woken => exact .resume at_ woken
  | up at_ up => exact .up at_ up
  | down at_ down => exact .down at_ down
  | poll at_ net => exact .poll at_ net
  | pollAt at_ => exact .pollAt at_
  | arm at_ => exact .arm at_

theorem Step.taken {event : Event Client Net} (step : Step pollAt m event next) : Taken pollAt m next := by
  unfold Step at step
  cases event with
  | withMut client net =>
    simp only [advance] at step
    split at step
    · cases step
    · rename_i free
      cases Option.some.inj step
      exact .withMut client net (by simpa using free)
  | store =>
    simp only [advance] at step
    split at step
    · rename_i holder
      cases Option.some.inj step
      exact .store holder
    · cases step
  | wake =>
    simp only [advance] at step
    split at step
    · rename_i holder
      cases Option.some.inj step
      exact .wake holder
    · cases step
  | callback cause =>
    simp only [advance] at step
    split at step
    · cases step
    · rename_i free
      split at step
      · cases Option.some.inj step
        exact .callback cause (by simpa using free)
      · cases Option.some.inj step
        exact .ignored
  | callbackStore =>
    simp only [advance] at step
    split at step
    · rename_i holder
      cases Option.some.inj step
      exact .callbackStore holder
    · cases step
  | callbackWake =>
    simp only [advance] at step
    split at step
    · rename_i holder
      cases Option.some.inj step
      exact .callbackWake holder
    · cases step
  | link up =>
    simp only [advance] at step
    split at step
    · cases step
    · cases Option.some.inj step
      exact .link up
  | tick now =>
    cases Option.some.inj step
    exact .tick now
  | expire =>
    simp only [advance] at step
    split at step
    · split at step
      · cases step
      · cases Option.some.inj step
        exact .expire
    · cases step
  | run => exact (runPoller_own step).taken
  | poll net =>
    simp only [advance] at step
    split at step
    · rename_i ready
      cases Option.some.inj step
      exact .poll ready.1 net
    · cases step

-- A store, or a wake, that is still to come.
def StoreDue (m : Machine Client Net) : Prop := (∃ client, m.lock = some (client,.before)) ∨ m.callback = some .before
def WakeDue (m : Machine Client Net) : Prop := (∃ client, m.lock = some (client,.stored)) ∨ m.callback = some .stored

-- The places from which the poller reaches the swap without being woken.
def Pc.returns : Pc → Bool
  | .timer | .suspended => false
  | _ => true

-- The places from which a poll, or the check that finds the link down, is next.
def Pc.serving : Pc → Bool
  | .isUp | .poll => true
  | _ => false

-- The deadline in force, once there is one.
def Machine.armed (m : Machine Client Net) : Option (Option Instant) :=
  match m.pc with
  | .isUp | .poll | .pollAt => none
  | .arm deadline => some deadline
  | .swap | .timer | .suspended => some m.nextPollAt

def Current (pollAt : Int64 → Net → Option Int64) (m : Machine Client Net) (deadline : Option Instant) : Prop :=
  ∃ t, m.asked = some (t,m.net) ∧ deadline = (pollAt (smolNow t) m.net).map pollDeadline

-- A request the last round has not taken into account.
def Unserved (m : Machine Client Net) : Prop :=
  (m.found = some true ∧ m.sincePoll ≠ []) ∨ (m.found = some false ∧ m.sinceCheck ≠ [])

structure Invariant (pollAt : Int64 → Net → Option Int64) (m : Machine Client Net) : Prop where
  noticed : m.request = true → m.wakePending = true ∨ m.pc.returns = true ∨ WakeDue m
  up : m.pc = .poll ∨ m.pc = .pollAt → m.found = some true
  answered : Unserved m → m.pc.serving = false → m.request = true ∨ StoreDue m
  current : m.found = some true → m.sincePoll = [] → ∀ deadline, m.armed = some deadline → Current pollAt m deadline
  unarmed : m.found = some false → ∀ deadline, m.armed = some deadline → deadline = none
  link : m.found = some false → m.linkUp = true → m.wentUpDue = true ∨ m.sinceCheck ≠ []

-- A request that was stored is not slept through: either the poller is on its
-- way to the swap or a wake is there or about to come.
theorem noticed_taken (valid : Invariant pollAt m) (taken : Taken pollAt m next) :
    next.request = true → next.wakePending = true ∨ next.pc.returns = true ∨ WakeDue next := by
  intro request
  cases taken with
  | store holder => exact .inr (.inr (.inl ⟨_,rfl⟩))
  | callbackStore holder => exact .inr (.inr (.inr rfl))
  | wake | callbackWake | expire => exact .inl rfl
  | requested | expired | resume | up | down | poll | pollAt | arm => exact .inr (.inl rfl)
  | unrequested at_ none =>
    rw [show m.request = true from request] at none
    cases none
  | suspend at_ =>
    rcases valid.noticed request with woken | returns | due
    · exact .inl woken
    · rw [at_] at returns; cases returns
    · exact .inr (.inr due)
  | withMut client net free =>
    rcases valid.noticed request with woken | returns | due
    · exact .inl woken
    · exact .inr (.inl returns)
    · rcases due with ⟨_,holder⟩ | due
      · rw [free] at holder; cases holder
      · exact .inr (.inr (.inr due))
  | callback cause free =>
    rcases valid.noticed request with woken | returns | due
    · exact .inl woken
    · exact .inr (.inl returns)
    · rcases due with due | holder
      · exact .inr (.inr (.inl due))
      · rw [free] at holder; cases holder
  | ignored | link | tick => exact valid.noticed request

theorem up_taken (valid : Invariant pollAt m) (taken : Taken pollAt m next) :
    next.pc = .poll ∨ next.pc = .pollAt → next.found = some true := by
  intro at_
  cases taken with
  | up => rfl
  | poll was => exact valid.up (.inl was)
  | requested | unrequested | expired | suspend | resume | down | pollAt | arm =>
    rcases at_ with other | other <;> cases other
  | withMut | store | wake | callback | ignored | callbackStore | callbackWake | link | tick | expire =>
    exact valid.up at_

-- The store that answers for an unserved request is done, and not yet swapped
-- away, or due.
theorem answered_taken (valid : Invariant pollAt m) (taken : Taken pollAt m next) :
    Unserved next → next.pc.serving = false → next.request = true ∨ StoreDue next := by
  intro unserved outside
  cases taken with
  | withMut => exact .inr (.inl ⟨_,rfl⟩)
  | callback => exact .inr (.inr rfl)
  | store | callbackStore => exact .inl rfl
  | requested | expired | up => cases outside
  | down =>
    rcases unserved with ⟨found,_⟩ | ⟨_,asked⟩
    · cases found
    · exact absurd rfl asked
  | poll at_ =>
    have up := valid.up (.inl at_)
    rcases unserved with ⟨_,asked⟩ | ⟨found,_⟩
    · exact absurd rfl asked
    · rw [show m.found = some false from found] at up
      cases up
  | wake holder =>
    rcases valid.answered unserved outside with request | ⟨_,due⟩ | due
    · exact .inl request
    · rw [holder] at due; cases due
    · exact .inr (.inr due)
  | callbackWake holder =>
    rcases valid.answered unserved outside with request | due | due
    · exact .inl request
    · exact .inr (.inl due)
    · rw [holder] at due; cases due
  | unrequested at_ | suspend at_ | resume at_ | pollAt at_ | arm at_ =>
    exact valid.answered unserved (by rw [at_]; rfl)
  | ignored | link | tick | expire => exact valid.answered unserved outside

-- A deadline is computed on the Net it will be armed for; whoever changes the
-- Net afterwards leaves a request behind.
theorem current_taken (valid : Invariant pollAt m) (taken : Taken pollAt m next) :
    next.found = some true → next.sincePoll = [] → ∀ deadline, next.armed = some deadline → Current pollAt next deadline := by
  intro found quiet deadline armed
  cases taken with
  | withMut | callback => cases quiet
  | requested | expired | up | poll => cases armed
  | down => cases found
  | pollAt at_ => exact ⟨m.now,rfl,(Option.some.inj armed).symm⟩
  | unrequested at_ | suspend at_ | resume at_ | arm at_ =>
    exact valid.current found quiet deadline (by simpa [Machine.armed,at_] using armed)
  | store | wake | ignored | callbackStore | callbackWake | link | tick | expire =>
    exact valid.current found quiet deadline armed

theorem unarmed_taken (valid : Invariant pollAt m) (taken : Taken pollAt m next) :
    next.found = some false → ∀ deadline, next.armed = some deadline → deadline = none := by
  intro found deadline armed
  cases taken with
  | requested | expired | poll => cases armed
  | up => cases found
  | down => exact (Option.some.inj armed).symm
  | pollAt at_ =>
    have up := valid.up (.inr at_)
    rw [show m.found = some false from found] at up
    cases up
  | unrequested at_ | suspend at_ | resume at_ | arm at_ =>
    exact valid.unarmed found deadline (by simpa [Machine.armed,at_] using armed)
  | withMut | store | wake | callback | ignored | callbackStore | callbackWake | link | tick | expire =>
    exact valid.unarmed found deadline armed

theorem link_taken (valid : Invariant pollAt m) (taken : Taken pollAt m next) :
    next.found = some false → next.linkUp = true → next.wentUpDue = true ∨ next.sinceCheck ≠ [] := by
  intro found up
  cases taken with
  | withMut | callback => exact .inr (by simp [Machine.asking])
  | link now =>
    cases before : m.linkUp with
    | false => exact .inl (by simp [show now = true from up])
    | true =>
      rcases valid.link found before with due | asked
      · exact .inl (by simp [due])
      · exact .inr asked
  | up => cases found
  | down at_ down =>
    rw [show m.linkUp = true from up] at down
    cases down
  | store | wake | ignored | callbackStore | callbackWake | tick | expire => exact valid.link found up
  | requested | unrequested | expired | suspend | resume | poll | pollAt | arm => exact valid.link found up

theorem invariant_taken (valid : Invariant pollAt m) (taken : Taken pollAt m next) : Invariant pollAt next :=
  ⟨noticed_taken valid taken,up_taken valid taken,answered_taken valid taken,current_taken valid taken,
    unarmed_taken valid taken,link_taken valid taken⟩

theorem start_invariant (net : Net) (linkUp : Bool) (now : Instant) :
    Invariant pollAt (start net linkUp now : Machine Client Net) := by
  refine ⟨?_,?_,?_,?_,?_,?_⟩
  · intro request; cases request
  · intro at_; rcases at_ with other | other <;> cases other
  · intro unserved; rcases unserved with ⟨found,_⟩ | ⟨found,_⟩ <;> cases found
  · intro found; cases found
  · intro found; cases found
  · intro found; cases found

-- The poller sleeps, nothing is about to wake it, and nobody is inside
-- `request_network_poll`.
structure Quiescent (m : Machine Client Net) : Prop where
  suspended : m.pc = .suspended
  unwoken : m.wakePending = false
  unlocked : m.lock = none
  returned : m.callback = none

theorem Quiescent.served (valid : Invariant pollAt m) (quiescent : Quiescent m) : m.request = false ∧ ¬ Unserved m := by
  obtain ⟨suspended,unwoken,unlocked,returned⟩ := quiescent
  have request : m.request = false := by
    by_contra stored
    rcases valid.noticed (by simpa using stored) with woken | returns | ⟨_,holder⟩ | holder
    · rw [unwoken] at woken; cases woken
    · rw [suspended] at returns; cases returns
    · rw [unlocked] at holder; cases holder
    · rw [returned] at holder; cases holder
  refine ⟨request,?_⟩
  intro unserved
  rcases valid.answered unserved (by rw [suspended]; rfl) with stored | ⟨_,holder⟩ | holder
  · rw [request] at stored; cases stored
  · rw [unlocked] at holder; cases holder
  · rw [returned] at holder; cases holder

-- The requests are served and the timer is set as smoltcp asked.
theorem Quiescent.settled (valid : Invariant pollAt m) (quiescent : Quiescent m) :
    m.request = false ∧
    (m.found = some true → m.sincePoll = [] ∧
      ∃ t, m.asked = some (t,m.net) ∧ m.nextPollAt = (pollAt (smolNow t) m.net).map pollDeadline) ∧
    (m.found = some false → m.sinceCheck = [] ∧ m.nextPollAt = none ∧ (m.linkUp = true → m.wentUpDue = true)) := by
  obtain ⟨request,served⟩ := quiescent.served valid
  have armed : m.armed = some m.nextPollAt := by simp [Machine.armed,quiescent.suspended]
  refine ⟨request,?_,?_⟩
  · intro found
    have quiet : m.sincePoll = [] := by
      by_contra asked
      exact served (.inl ⟨found,asked⟩)
    exact ⟨quiet,valid.current found quiet _ armed⟩
  · intro found
    have quiet : m.sinceCheck = [] := by
      by_contra asked
      exact served (.inr ⟨found,asked⟩)
    refine ⟨quiet,valid.unarmed found _ armed,?_⟩
    intro up
    rcases valid.link found up with due | asked
    · exact due
    · exact absurd quiet asked

theorem no_lost_request_no_stale_deadline {net : Net} {linkUp : Bool} {now : Instant}
    (path : Runs (Step pollAt) (start net linkUp now : Machine Client Net) events m) (quiescent : Quiescent m) :
    m.request = false ∧
    (m.found = some true → m.sincePoll = [] ∧
      ∃ t, m.asked = some (t,m.net) ∧ m.nextPollAt = (pollAt (smolNow t) m.net).map pollDeadline) ∧
    (m.found = some false → m.sinceCheck = [] ∧ m.nextPollAt = none ∧ (m.linkUp = true → m.wentUpDue = true)) :=
  quiescent.settled
    (path.invariant (fun _ _ _ valid step => invariant_taken valid step.taken) (start_invariant net linkUp now))

end

theorem play_sound {pollAt : Int64 → Net → Option Int64} {m next : Machine Client Net}
    (played : run (advance pollAt) m events = some next) : Runs (Step pollAt) m events next :=
  run_runs (fun _ _ _ ran => ran) played

namespace Controls
-- A Net that is only the number of octets to send, with one retransmission timer.
def deadline (_ : Int64) (octets : Nat) : Option Int64 := if octets = 0 then none else some 1000

-- One client queues octets while the poller sleeps, on an up link and on a link
-- that comes up later.
def sending : List (Event Unit Nat) :=
  [.run,.run,.withMut () 3,.store,.wake,.run,.run,.run,.poll 2,.run,.run,.run,.run]
def unplugged : List (Event Unit Nat) :=
  [.run,.run,.withMut () 3,.store,.wake,.run,.run,.run,.run,.run,.run,.link true]

def sent : Machine Unit Nat :=
  ⟨2,none,none,true,true,false,false,.suspended,some ⟨30000⟩,⟨0⟩,some true,some (⟨0⟩,2),[],[]⟩
def waiting : Machine Unit Nat :=
  ⟨3,none,none,true,true,false,false,.suspended,none,⟨0⟩,some false,none,[.withMut ()],[]⟩
end Controls

theorem sent_or_waiting_for_the_link :
    (Controls.sent.request = false ∧ Controls.sent.sincePoll = []) ∧
    (Controls.waiting.request = false ∧ Controls.waiting.nextPollAt = none ∧ Controls.waiting.wentUpDue = true) := by
  have up : Runs (Step Controls.deadline) (start 0 true ⟨0⟩) Controls.sending Controls.sent :=
    play_sound (by decide +kernel)
  have down : Runs (Step Controls.deadline) (start 0 false ⟨0⟩) Controls.unplugged Controls.waiting :=
    play_sound (by decide +kernel)
  have sent := no_lost_request_no_stale_deadline up ⟨rfl,rfl,rfl,rfl⟩
  have waiting := no_lost_request_no_stale_deadline down ⟨rfl,rfl,rfl,rfl⟩
  exact ⟨⟨sent.1,(sent.2.1 rfl).1⟩,waiting.1,(waiting.2.2 rfl).2.1,(waiting.2.2 rfl).2.2 rfl⟩

-- `wait_until` returns when the timer has not to be waited for any more.
theorem wait_until_returns {pollAt : Int64 → Net → Option Int64} {m : Machine Client Net} (at_ : m.pc = .timer)
    (armed : m.nextPollAt = some deadline) :
    (runPoller pollAt m).map Machine.pc = some .isUp ↔ m.now.lt deadline = false := by
  simp only [runPoller,at_,armed]
  cases m.now.lt deadline <;> simp

-- A deadline smoltcp asks for is armed on the very tick from which `smol_now`
-- has reached it: no poll after the wait comes too early and none was due before.
theorem poll_deadline_adjoint (pollAt : Int64 → Net → Option Int64) {at_ : Int64} (after : 0 ≤ at_)
    (bounded : at_.toInt ≤ (2 ^ 64 - 1) / 30) :
    (pollDeadline at_).ticks.toNat = 30 * at_.toInt.toNat ∧
    (∀ t : Instant, t.ticks.toNat < (pollDeadline at_).ticks.toNat + 2 ^ 63 →
      (pollDeadline at_).ticks.toNat < t.ticks.toNat + 2 ^ 63 →
      (t.lt (pollDeadline at_) = false ↔ at_ ≤ smolNow t) ∧
      (∀ m : Machine Client Net, m.pc = .timer → m.nextPollAt = some (pollDeadline at_) → m.now = t →
        (runPoller pollAt m).map Machine.pc = some .isUp →
        ∀ later : Instant, t.ticks ≤ later.ticks → at_ ≤ smolNow later)) ∧
    smolNow (pollDeadline at_) = at_ ∧
    ∀ t : Instant, at_ ≤ smolNow t → (pollDeadline at_).ticks ≤ t.ticks := by
  have ticks := pollDeadline_ticks after bounded
  have reached := le_smolNow_iff after bounded
  refine ⟨ticks,?_,?_,?_⟩
  · intro t above below
    have adjoint : t.lt (pollDeadline at_) = false ↔ at_ ≤ smolNow t := by
      rw [reached,Bool.eq_false_iff,ne_eq,Instant.lt_iff above below]
      omega
    refine ⟨adjoint,?_⟩
    intro m timer armed now returned later ordered
    have expired := (wait_until_returns timer armed).mp returned
    rw [now,adjoint,reached] at expired
    exact (reached later).mpr (Nat.le_trans expired (UInt64.le_iff_toNat_le.mp ordered))
  · apply Int64.toInt.inj
    have positive : 0 ≤ at_.toInt := Int64.le_iff_toInt_le.mp after
    rw [smolNow_toInt,ticks]
    omega
  · intro t acts
    exact UInt64.le_iff_toNat_le.mpr ((reached t).mp acts)

-- The tick of the deadline is due, the tick before it is not.
theorem deadline_due_on_its_tick : (1000 : Int64) ≤ smolNow ⟨30000⟩ ∧ ¬ (1000 : Int64) ≤ smolNow ⟨29999⟩ ∧
    (1000 : Int64) ≤ smolNow ⟨45000⟩ := by
  have after : (0 : Int64) ≤ 1000 := by decide
  obtain ⟨_,adjoint,_,_⟩ := poll_deadline_adjoint Controls.deadline after (by decide)
  obtain ⟨due,returned⟩ := adjoint ⟨30000⟩ (by decide) (by decide)
  obtain ⟨early,_⟩ := adjoint ⟨29999⟩ (by decide) (by decide)
  have later := returned {Controls.sent with pc := .timer,now := ⟨30000⟩} rfl rfl rfl rfl ⟨45000⟩ (by decide)
  refine ⟨due.mp rfl,?_,later⟩
  intro reached
  cases early.mpr reached

end Ra6m3Rtic.Network
