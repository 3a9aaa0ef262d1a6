import Ra6m3Rtic.Network
import Ra6m3Rtic.Lib.Ceiling

namespace Ra6m3Rtic.App
open LabelledRuns
open Network (Machine Midway Cause Pc runPoller)

inductive Task where
  | mqttTask
  | httpTask
  | ethernetIsr
  | networkPoller
  | networkLinkPoll
  | blinky
  | gpt8CycleEnd
  | gpt8CompareA
  | gpt8CompareB
  | gpt9CycleEnd
  | gpt9CompareA
  | gpt9CompareB
  deriving DecidableEq, Repr

inductive Resource where
  | net
  | device
  deriving DecidableEq, Repr

def Task.all : List Task :=
  [.mqttTask,.httpTask,.ethernetIsr,.networkPoller,.networkLinkPoll,.blinky,
    .gpt8CycleEnd,.gpt8CompareA,.gpt8CompareB,.gpt9CycleEnd,.gpt9CompareA,.gpt9CompareB]

-- `priority = ..` and `shared = [..]` of the task attributes.
def Task.priority : Task → Nat
  | .mqttTask | .httpTask | .networkLinkPoll => 1
  | .blinky => 2
  | .ethernetIsr | .networkPoller => 4
  | .gpt8CycleEnd | .gpt8CompareA | .gpt8CompareB => 5
  | .gpt9CycleEnd | .gpt9CompareA | .gpt9CompareB => 5

def Task.shared : Task → List Resource
  | .mqttTask | .httpTask => [.net]
  | .ethernetIsr | .networkLinkPoll => [.device]
  | .networkPoller => [.net,.device]
  | _ => []

-- RTIC gives a resource the highest priority among the tasks that share it.
def Resource.ceiling (resource : Resource) : Nat :=
  ((Task.all.filter fun task => task.shared.contains resource).map Task.priority).foldr max 0

def system : Ceiling.System Task Resource where
  priority := Task.priority
  uses task resource := task.shared.contains resource
  ceiling := Resource.ceiling
  covers := by
    intro task resource shares
    cases resource <;> cases task <;> first | decide | cases shares

-- Where an activation is: in its code, with the Net changed or a cause to report
-- (`request_network_poll` about to store), between the store and the wake, or past
-- what it locked for and about to unlock.
inductive Point where
  | code
  | changed
  | stored
  | left
  deriving DecidableEq, Repr

abbrev Frame := Ceiling.Frame Task Resource Point

-- The core runs the activation on top of the stack; an empty stack is `idle`. The
-- lock and callback of the machine stay unused: who is inside is on the stack.
structure Firmware (Net : Type) where
  stack : List Frame
  core : Machine Task Net
  deriving DecidableEq

inductive Action (Net : Type) where
  | preempt (task : Task)
  | lock (resource : Resource)
  | unlock
  | withMut (next : Net)
  | store
  | wake
  | callback (cause : Cause)
  | link (up : Bool)
  | expire
  | run
  | poll (next : Net)
  | finish
  | tick (now : Instant)

-- The tasks that hold a `TokenProvider`, those that enter the driver, and those
-- that run the queue of the monotonic.
def Task.client : Task → Bool
  | .mqttTask | .httpTask => true
  | _ => false

def Task.driver : Task → Bool
  | .ethernetIsr | .networkLinkPoll => true
  | _ => false

def Task.alarm : Task → Bool
  | .gpt9CycleEnd | .gpt9CompareA | .gpt9CompareB => true
  | _ => false

-- What `poll_network` has locked at each of its steps, newest first.
def needs : Pc → List Resource
  | .isUp => [.device]
  | .poll => [.device,.net]
  | .pollAt => [.net]
  | _ => []

section
variable {Net : Type}

-- The poller is spawned by `init` and later polled when it was woken.
def ready (core : Machine Task Net) : Task → Bool
  | .networkPoller => core.pc == .swap || (core.pc == .suspended && core.wakePending)
  | _ => true

def woken (core : Machine Task Net) (task : Task) : Machine Task Net :=
  if task = .networkPoller ∧ core.pc = .suspended then {core with wakePending := false,pc := .swap} else core

def locks (top : Frame) (pc : Pc) (resource : Resource) : Bool :=
  top.point == .code &&
    match top.task with
    | .networkPoller => (resource :: top.held).isSuffixOf (needs pc)
    | _ => top.held.isEmpty

variable (pollAt : Int64 → Net → Option Int64)

-- What the activation on top does: to the stack, and to what the tasks share. No
-- test looks at another activation.
def perform (top : Frame) (core : Machine Task Net) :
    Action Net → Option (Ceiling.Action Task Resource Point × Machine Task Net)
  | .lock resource => if locks top core.pc resource then some (.lock resource,core) else none
  | .unlock =>
    if top.point = .left ∨ (top.point = .code ∧ top.task ≠ .networkPoller) then
      some (.unlock (if top.held.length ≤ 1 then .code else top.point),core)
    else none
  | .withMut next =>
    if top.task.client ∧ top.point = .code ∧ top.held = [.net] then
      some (.work .changed,{core.asking (.withMut top.task) with net := next})
    else none
  | .store => if top.point = .changed then some (.work .stored,{core with request := true}) else none
  | .wake =>
    if top.point = .stored then
      some (.work (if top.task.client then .left else .code),{core with wakePending := true})
    else none
  | .callback cause =>
    if top.task.driver ∧ top.point = .code ∧ top.held = [.device] then
      if cause.requests then
        some (.work .changed,{core.asking (.callback cause) with wentUpDue := core.wentUpDue && !cause.wentUp})
      else some (.work .code,core)
    else none
  | .link up =>
    if top.task.driver ∧ top.point = .code ∧ top.held = [.device] then
      some (.work .code,{core with linkUp := up,wentUpDue := core.wentUpDue || (up && !core.linkUp)})
    else none
  | .expire =>
    if top.task.alarm then
      match core.pc,core.nextPollAt with
      | .suspended,some at_ => if core.now.lt at_ then none else some (.work top.point,{core with wakePending := true})
      | _,_ => none
    else none
  | .run =>
    if top.task = .networkPoller ∧ top.point = .code ∧ core.pc ≠ .suspended ∧ top.held = needs core.pc then
      (runPoller pollAt core).map fun next => (.work (if top.held = [] then .code else .left),next)
    else none
  | .poll next =>
    if top.task = .networkPoller ∧ top.point = .code ∧ core.pc = .poll ∧ top.held = needs core.pc then
      some (.work .left,{core with net := next,pc := .pollAt,sincePoll := []})
    else none
  | .finish =>
    if top.point = .code ∧ (top.task ≠ .networkPoller ∨ core.pc = .suspended) then some (.finish,core) else none
  | .preempt _ | .tick _ => none

def advance (f : Firmware Net) : Action Net → Option (Firmware Net)
  | .tick now => some ⟨f.stack,{f.core with now := now}⟩
  | .preempt task =>
    if ready f.core task then (system.act f.stack (.preempt task .code)).map (⟨·,woken f.core task⟩) else none
  | action =>
    match f.stack with
    | [] => none
    | top :: below =>
      (perform pollAt top f.core action).bind fun done =>
        (system.act (top :: below) done.1).map (⟨·,done.2⟩)

def Step (f : Firmware Net) (action : Action Net) (next : Firmware Net) : Prop := advance pollAt f action = some next

-- After `init` nothing runs yet.
def start (net : Net) (linkUp : Bool) (now : Instant) : Firmware Net := ⟨[],Network.start net linkUp now⟩

-- Every step, with the tests it has passed.
inductive Taken : Firmware Net → Firmware Net → Prop where
  | tick (now : Instant) : Taken ⟨stack,core⟩ ⟨stack,{core with now := now}⟩
  | preempt (task : Task) (above : system.current stack < task.priority) :
      Taken ⟨stack,core⟩ ⟨⟨task,[],.code⟩ :: stack,core⟩
  | resume (above : system.current stack < Task.priority .networkPoller) (at_ : core.pc = .suspended)
      (pending : core.wakePending = true) :
      Taken ⟨stack,core⟩ ⟨⟨.networkPoller,[],.code⟩ :: stack,{core with wakePending := false,pc := .swap}⟩
  | lock (shares : system.uses top.task resource = true) (at_ : top.point = .code) :
      Taken ⟨top :: below,core⟩ ⟨{top with held := resource :: top.held} :: below,core⟩
  | unlock (newest : top.held = resource :: older) (at_ : top.point = .code ∨ top.point = .left)
      (onto : point = .code ∨ point = .left) : Taken ⟨top :: below,core⟩ ⟨⟨top.task,older,point⟩ :: below,core⟩
  | withMut (next : Net) (client : top.task.client = true) (at_ : top.point = .code) (held : top.held = [.net]) :
      Taken ⟨top :: below,core⟩
        ⟨{top with point := .changed} :: below,{core.asking (.withMut top.task) with net := next}⟩
  | store (at_ : top.point = .changed) :
      Taken ⟨top :: below,core⟩ ⟨{top with point := .stored} :: below,{core with request := true}⟩
  | wake (at_ : top.point = .stored) (onto : point = .code ∨ point = .left) :
      Taken ⟨top :: below,core⟩ ⟨{top with point := point} :: below,{core with wakePending := true}⟩
  | callback (cause : Cause) (driver : top.task.driver = true) (at_ : top.point = .code) (held : top.held = [.device])
      (requests : cause.requests = true) :
      Taken ⟨top :: below,core⟩ ⟨{top with point := .changed} :: below,
        {core.asking (.callback cause) with wentUpDue := core.wentUpDue && !cause.wentUp}⟩
  | ignored (at_ : top.point = .code) : Taken ⟨top :: below,core⟩ ⟨{top with point := .code} :: below,core⟩
  | link (up : Bool) (driver : top.task.driver = true) (at_ : top.point = .code) (held : top.held = [.device]) :
      Taken ⟨top :: below,core⟩ ⟨{top with point := .code} :: below,
        {core with linkUp := up,wentUpDue := core.wentUpDue || (up && !core.linkUp)}⟩
  | expire (at_ : core.pc = .suspended) (armed : core.nextPollAt = some deadline) (due : core.now.lt deadline = false) :
      Taken ⟨top :: below,core⟩ ⟨{top with point := top.point} :: below,{core with wakePending := true}⟩
  | run (poller : top.task = .networkPoller) (at_ : top.point = .code) (awake : core.pc ≠ .suspended)
      (held : top.held = needs core.pc) (ran : runPoller pollAt core = some next) (onto : point = .code ∨ point = .left) :
      Taken ⟨top :: below,core⟩ ⟨{top with point := point} :: below,next⟩
  | poll (next : Net) (poller : top.task = .networkPoller) (at_ : top.point = .code) (polls : core.pc = .poll)
      (held : top.held = needs core.pc) :
      Taken ⟨top :: below,core⟩
        ⟨{top with point := .left} :: below,{core with net := next,pc := .pollAt,sincePoll := []}⟩
  | finish (at_ : top.point = .code) (free : top.held = []) (rests : top.task ≠ .networkPoller ∨ core.pc = .suspended) :
      Taken ⟨top :: below,core⟩ ⟨below,core⟩

-- The tests of `perform`, one case for each way through them.
inductive Performed (top : Frame) (core : Machine Task Net) :
    Action Net → Ceiling.Action Task Resource Point → Machine Task Net → Prop where
  | lock (at_ : top.point = .code) : Performed top core (.lock resource) (.lock resource) core
  | unlock (at_ : top.point = .code ∨ top.point = .left) (onto : point = .code ∨ point = .left) :
      Performed top core .unlock (.unlock point) core
  | withMut (client : top.task.client = true) (at_ : top.point = .code) (held : top.held = [.net]) :
      Performed top core (.withMut net) (.work .changed) {core.asking (.withMut top.task) with net := net}
  | store (at_ : top.point = .changed) :
      Performed top core .store (.work .stored) {core with request := true}
  | wake (at_ : top.point = .stored) (onto : point = .code ∨ point = .left) :
      Performed top core .wake (.work point) {core with wakePending := true}
  | callback (driver : top.task.driver = true) (at_ : top.point = .code) (held : top.held = [.device])
      (requests : cause.requests = true) :
      Performed top core (.callback cause) (.work .changed)
        {core.asking (.callback cause) with wentUpDue := core.wentUpDue && !cause.wentUp}
  | ignored (at_ : top.point = .code) : Performed top core (.callback cause) (.work .code) core
  | link (driver : top.task.driver = true) (at_ : top.point = .code) (held : top.held = [.device]) :
      Performed top core (.link up) (.work .code)
        {core with linkUp := up,wentUpDue := core.wentUpDue || (up && !core.linkUp)}
  | expire (at_ : core.pc = .suspended) (armed : core.nextPollAt = some deadline) (due : core.now.lt deadline = false) :
      Performed top core .expire (.work top.point) {core with wakePending := true}
  | run (poller : top.task = .networkPoller) (at_ : top.point = .code) (awake : core.pc ≠ .suspended)
      (held : top.held = needs core.pc) (ran : runPoller pollAt core = some after) (onto : point = .code ∨ point = .left) :
      Performed top core .run (.work point) after
  | poll (poller : top.task = .networkPoller) (at_ : top.point = .code) (polls : core.pc = .poll)
      (held : top.held = needs core.pc) :
      Performed top core (.poll net) (.work .left) {core with net := net,pc := .pollAt,sincePoll := []}
  | finish (at_ : top.point = .code) (rests : top.task ≠ .networkPoller ∨ core.pc = .suspended) :
      Performed top core .finish .finish core

inductive Stepped (f : Firmware Net) : Action Net → Firmware Net → Prop where
  | tick : Stepped f (.tick now) ⟨f.stack,{f.core with now := now}⟩
  | preempt (is_ready : ready f.core task = true) (acted : system.act f.stack (.preempt task .code) = some stack) :
      Stepped f (.preempt task) ⟨stack,woken f.core task⟩
  | perform (running : f.stack = top :: below) (performed : Performed pollAt top f.core action effect core)
      (acted : system.act (top :: below) effect = some stack) : Stepped f action ⟨stack,core⟩

variable {pollAt} {f next : Firmware Net}

theorem preempt_taken {core : Machine Task Net} (is_ready : ready core task = true)
    (above : system.current stack < task.priority) :
    Taken pollAt ⟨stack,core⟩ ⟨⟨task,[],.code⟩ :: stack,woken core task⟩ := by
  unfold woken
  split
  · rename_i poller
    obtain ⟨equal,at_⟩ := poller
    subst equal
    exact .resume above at_ (by simpa [ready,at_] using is_ready)
  · exact .preempt task above

theorem perform_performed {core core' : Machine Task Net} {action : Action Net}
    (performed : perform pollAt top core action = some (effect,core')) : Performed pollAt top core action effect core' := by
  cases action with
  | preempt | tick => cases performed
  | lock resource =>
    simp only [perform] at performed
    split at performed
    · rename_i allowed
      cases Option.some.inj performed
      unfold locks at allowed
      simp only [Bool.and_eq_true] at allowed
      exact .lock (beq_iff_eq.mp allowed.1)
    · cases performed
  | unlock =>
    simp only [perform] at performed
    split at performed
    · rename_i allowed
      cases Option.some.inj performed
      have outside : top.point = .code ∨ top.point = .left := by
        rcases allowed with left | ⟨code,_⟩
        · exact .inr left
        · exact .inl code
      refine .unlock outside ?_
      split
      · exact .inl rfl
      · exact outside
    · cases performed
  | withMut net =>
    simp only [perform] at performed
    split at performed
    · rename_i allowed
      cases Option.some.inj performed
      exact .withMut allowed.1 allowed.2.1 allowed.2.2
    · cases performed
  | store =>
    simp only [perform] at performed
    split at performed
    · rename_i at_
      cases Option.some.inj performed
      exact .store at_
    · cases performed
  | wake =>
    simp only [perform] at performed
    split at performed
    · rename_i at_
      cases Option.some.inj performed
      refine .wake at_ ?_
      split
      · exact .inr rfl
      · exact .inl rfl
    · cases performed
  | callback cause =>
    simp only [perform] at performed
    split at performed
    · rename_i allowed
      obtain ⟨driver,at_,held⟩ := allowed
      split at performed
      · rename_i requests
        cases Option.some.inj performed
        exact .callback driver at_ held requests
      · cases Option.some.inj performed
        exact .ignored at_
    · cases performed
  | link up =>
    simp only [perform] at performed
    split at performed
    · rename_i allowed
      cases Option.some.inj performed
      exact .link allowed.1 allowed.2.1 allowed.2.2
    · cases performed
  | expire =>
    simp only [perform] at performed
    split at performed
    · split at performed
      · rename_i deadline at_ armed
        split at performed
        · cases performed
        · rename_i due
          cases Option.some.inj performed
          exact .expire at_ armed (by simpa using due)
      · cases performed
    · cases performed
  | run =>
    simp only [perform] at performed
    split at performed
    · rename_i allowed
      obtain ⟨poller,at_,awake,held⟩ := allowed
      obtain ⟨next,ran,equal⟩ := Option.map_eq_some_iff.mp performed
      cases equal
      refine .run poller at_ awake held ran ?_
      split
      · exact .inl rfl
      · exact .inr rfl
    · cases performed
  | poll net =>
    simp only [perform] at performed
    split at performed
    · rename_i allowed
      obtain ⟨poller,at_,polls,held⟩ := allowed
      cases Option.some.inj performed
      exact .poll poller at_ polls held
    · cases performed
  | finish =>
    simp only [perform] at performed
    split at performed
    · rename_i allowed
      cases Option.some.inj performed
      exact .finish allowed.1 allowed.2
    · cases performed

theorem Performed.taken {core core' : Machine Task Net} {action : Action Net} {stack : List Frame}
    (performed : Performed pollAt top core action effect core') (acted : system.act (top :: below) effect = some stack) :
    Taken pollAt ⟨top :: below,core⟩ ⟨stack,core'⟩ := by
  have scheduled : system.Taken (top :: below) effect stack := Ceiling.System.Step.taken acted
  cases performed with
  | lock at_ => cases scheduled with | lock shares => exact .lock shares at_
  | unlock at_ onto => cases scheduled with | unlock _ newest => exact .unlock newest at_ onto
  | finish at_ rests => cases scheduled with | finish free => exact .finish at_ free rests
  | withMut client at_ held => cases scheduled; exact .withMut _ client at_ held
  | store at_ => cases scheduled; exact .store at_
  | wake at_ onto => cases scheduled; exact .wake at_ onto
  | callback driver at_ held requests => cases scheduled; exact .callback _ driver at_ held requests
  | ignored at_ => cases scheduled; exact .ignored at_
  | link driver at_ held => cases scheduled; exact .link _ driver at_ held
  | expire at_ armed due => cases scheduled; exact .expire at_ armed due
  | run poller at_ awake held ran onto => cases scheduled; exact .run poller at_ awake held ran onto
  | poll poller at_ polls held => cases scheduled; exact .poll _ poller at_ polls held

theorem Step.stepped {action : Action Net} (step : Step pollAt f action next) : Stepped pollAt f action next := by
  unfold Step advance at step
  split at step
  · cases Option.some.inj step
    exact .tick
  · split at step
    · rename_i is_ready
      obtain ⟨stack,acted,equal⟩ := Option.map_eq_some_iff.mp step
      subst equal
      exact .preempt is_ready acted
    · cases step
  · split at step
    · cases step
    · rename_i running
      obtain ⟨⟨effect,core⟩,performed,step⟩ := Option.bind_eq_some_iff.mp step
      obtain ⟨stack,acted,equal⟩ := Option.map_eq_some_iff.mp step
      subst equal
      exact .perform running (perform_performed performed) acted

theorem Step.taken {action : Action Net} (step : Step pollAt f action next) : Taken pollAt f next := by
  obtain ⟨stack,core⟩ := f
  cases step.stepped with
  | tick => exact .tick _
  | preempt is_ready acted =>
    cases Ceiling.System.Step.taken acted with
    | preempt _ _ above => exact preempt_taken is_ready above
  | perform running performed acted =>
    subst running
    exact performed.taken acted

-- The tests of `perform` are about one activation; on the stack each step is one
-- of the scheduler's, the clock's apart.
theorem Step.scheduled {action : Action Net} (step : Step pollAt f action next) :
    next.stack = f.stack ∨ ∃ effect, system.Step f.stack effect next.stack ∧
      ((∃ point, effect = .unlock point) → action = .unlock) := by
  cases step.stepped with
  | tick => exact .inl rfl
  | preempt _ acted => exact .inr ⟨_,acted,nofun⟩
  | perform running performed acted =>
    refine .inr ⟨_,by rw [running]; exact acted,?_⟩
    intro unlocks
    obtain ⟨point,equal⟩ := unlocks
    subst equal
    cases performed
    rfl

theorem Step.keeps {action : Action Net} (step : Step pollAt f action next) (member : frame ∈ f.stack) :
    (∃ kept ∈ next.stack, kept.task = frame.task) ∨ (action = .finish ∧ f.stack.head? = some frame) := by
  cases step.stepped with
  | tick => exact .inl ⟨frame,member,rfl⟩
  | preempt _ acted => exact (Ceiling.System.Step.taken acted).keeps member |>.imp id (fun finish => by cases finish.1)
  | perform running performed acted =>
    rw [running] at member ⊢
    rcases (Ceiling.System.Step.taken acted).keeps member with kept | ⟨finish,top⟩
    · exact .inl kept
    · subst finish
      cases performed
      exact .inr ⟨rfl,top⟩

-- The Net is changed inside `with_mut` and by `iface.poll` only.
def Action.leaves (net : Net) : Action Net → Net
  | .withMut next | .poll next => next
  | _ => net

theorem runPoller_net {core after : Machine Task Net} (ran : runPoller pollAt core = some after) :
    after.net = core.net := by
  cases Network.runPoller_own ran with
  | poll at_ =>
    rw [runPoller,at_] at ran
    cases ran
  | requested | unrequested | expired | suspend | resume | up | down | pollAt | arm => rfl

theorem Performed.net {core core' : Machine Task Net} {action : Action Net}
    (performed : Performed pollAt top core action effect core') : core'.net = action.leaves core.net := by
  cases performed with
  | run _ _ _ _ ran => exact runPoller_net ran
  | lock | unlock | withMut | store | wake | callback | ignored | link | expire | poll | finish => rfl

theorem Step.net {action : Action Net} (step : Step pollAt f action next) :
    next.core.net = action.leaves f.core.net := by
  cases step.stepped with
  | tick => rfl
  | preempt =>
    unfold woken
    split <;> rfl
  | perform _ performed => exact performed.net

-- What an activation is in the middle of, as the poller and the requests see it.
def midway : Point → Option Midway
  | .changed => some .before
  | .stored => some .stored
  | .code | .left => none

def inSection (frame : Frame) : Option (Task × Midway) :=
  if frame.task.client then (midway frame.point).map (frame.task,·) else none

def inCallback (frame : Frame) : Option Midway :=
  if frame.task.driver then midway frame.point else none

def view (f : Firmware Net) : Machine Task Net :=
  {f.core with lock := f.stack.findSome? inSection,callback := f.stack.findSome? inCallback}

theorem outside_none (outside : point = .code ∨ point = .left) : midway point = none := by
  rcases outside with equal | equal <;> rw [equal] <;> rfl

theorem inSection_none (outside : midway frame.point = none) : inSection frame = none := by
  unfold inSection
  split
  · rw [outside]; rfl
  · rfl

theorem inCallback_none (outside : midway frame.point = none) : inCallback frame = none := by
  unfold inCallback
  split
  · exact outside
  · rfl

theorem not_driver (client : Task.client task = true) : Task.driver task = false := by
  cases task <;> first | rfl | cases client

-- In the middle of a request are only those that change the Net, under its lock,
-- and those called back by the driver, under that of the device.
def Placed (frame : Frame) : Prop :=
  midway frame.point = none ∨ (frame.task.client = true ∧ .net ∈ frame.held) ∨
    (frame.task.driver = true ∧ .device ∈ frame.held)

theorem Placed.net (placed : Placed frame) (inside : inSection frame ≠ none) : .net ∈ frame.held := by
  rcases placed with outside | ⟨_,held⟩ | ⟨driver,_⟩
  · exact absurd (inSection_none outside) inside
  · exact held
  · cases client : frame.task.client with
    | true => rw [not_driver client] at driver; cases driver
    | false => exact absurd (by simp [inSection,client]) inside

theorem Placed.device (placed : Placed frame) (inside : inCallback frame ≠ none) : .device ∈ frame.held := by
  rcases placed with outside | ⟨client,_⟩ | ⟨_,held⟩
  · exact absurd (inCallback_none outside) inside
  · exact absurd (by simp [inCallback,not_driver client]) inside
  · exact held

-- When the poller is not on the stack it is suspended, or not yet started.
structure Valid (f : Firmware Net) : Prop where
  ordered : system.Ordered f.stack
  placed : ∀ frame ∈ f.stack, Placed frame
  resting : (∀ frame ∈ f.stack, frame.task ≠ .networkPoller) → f.core.pc = .swap ∨ f.core.pc = .suspended
  unlocked : f.core.lock = none
  returned : f.core.callback = none

theorem Placed.store (placed : Placed frame) (at_ : frame.point = .changed) : Placed {frame with point := .stored} := by
  rcases placed with outside | inside
  · rw [at_] at outside; cases outside
  · exact .inr inside

theorem placed_retop (placed : ∀ frame ∈ top :: below, Placed frame) (here : Placed frame) :
    ∀ lower ∈ frame :: below, Placed lower := by
  intro lower member
  rcases List.mem_cons.mp member with equal | member
  · rw [equal]; exact here
  · exact placed lower (List.mem_cons_of_mem _ member)

theorem placed_taken (placed : ∀ frame ∈ f.stack, Placed frame) (taken : Taken pollAt f next) :
    ∀ frame ∈ next.stack, Placed frame := by
  cases taken with
  | tick => exact placed
  | preempt | resume =>
    intro frame member
    rcases List.mem_cons.mp member with equal | member
    · rw [equal]; exact .inl rfl
    · exact placed frame member
  | lock _ at_ => exact placed_retop placed (.inl (by simp [at_,midway]))
  | unlock _ _ onto => exact placed_retop placed (.inl (outside_none onto))
  | withMut _ client _ held => exact placed_retop placed (.inr (.inl ⟨client,by simp [held]⟩))
  | store at_ => exact placed_retop placed ((placed _ (by simp)).store at_)
  | wake _ onto => exact placed_retop placed (.inl (outside_none onto))
  | callback _ driver _ held => exact placed_retop placed (.inr (.inr ⟨driver,by simp [held]⟩))
  | ignored | link => exact placed_retop placed (.inl rfl)
  | expire => exact placed
  | run _ _ _ _ _ onto => exact placed_retop placed (.inl (outside_none onto))
  | poll => exact placed_retop placed (.inl rfl)
  | finish =>
    intro frame member
    exact placed frame (List.mem_cons_of_mem _ member)

-- A step of the poller needs nobody inside the locks it has taken, and leaves the
-- others as they are.
theorem runPoller_frame {core after : Machine Task Net} (ran : runPoller pollAt core = some after)
    {lock : Option (Task × Midway)} {callback : Option Midway} (net : .net ∈ needs core.pc → lock = none)
    (device : .device ∈ needs core.pc → callback = none) :
    runPoller pollAt {core with lock := lock,callback := callback} =
      some {after with lock := lock,callback := callback} := by
  cases Network.runPoller_own ran with
  | requested at_ request | unrequested at_ request => simp [runPoller,at_,request]
  | expired at_ armed due => simp [runPoller,at_,armed,due]
  | suspend at_ early =>
    cases armed : core.nextPollAt with
    | none => simp [runPoller,at_]
    | some deadline => simp [runPoller,at_,early deadline armed]
  | resume at_ woken => simp [runPoller,at_,woken]
  | up at_ up =>
    have free := device (by simp [at_,needs])
    simp [runPoller,at_,free,up]
  | down at_ down =>
    have free := device (by simp [at_,needs])
    simp [runPoller,at_,free,down]
  | poll at_ =>
    rw [runPoller,at_] at ran
    cases ran
  | pollAt at_ =>
    have free := net (by simp [at_,needs])
    simp [runPoller,at_,free]
  | arm at_ => simp [runPoller,at_]

theorem runPoller_free {core after : Machine Task Net} (ran : runPoller pollAt core = some after)
    (unlocked : core.lock = none) (returned : core.callback = none) : after.lock = none ∧ after.callback = none := by
  have same := runPoller_frame ran (fun _ => unlocked) (fun _ => returned)
  rw [show ({core with lock := core.lock,callback := core.callback} : Machine Task Net) = core from rfl,ran] at same
  have equal := Option.some.inj same
  exact ⟨by rw [equal]; exact unlocked,by rw [equal]; exact returned⟩

theorem resting_retop {frame top : Frame} (absent : ∀ lower ∈ frame :: below, lower.task ≠ .networkPoller)
    (same : frame.task = top.task) :
    ∀ lower ∈ top :: below, lower.task ≠ Task.networkPoller := by
  intro lower member
  rcases List.mem_cons.mp member with equal | member
  · rw [equal,← same]
    exact absent frame (by simp)
  · exact absent lower (List.mem_cons_of_mem _ member)

theorem resting_taken (valid : Valid f) (taken : Taken pollAt f next) :
    (∀ frame ∈ next.stack, frame.task ≠ .networkPoller) → next.core.pc = .swap ∨ next.core.pc = .suspended := by
  intro absent
  cases taken with
  | tick => exact valid.resting absent
  | preempt => exact valid.resting fun frame member => absent frame (List.mem_cons_of_mem _ member)
  | resume => exact .inl rfl
  | lock | unlock | withMut | store | wake | callback | ignored | link | expire =>
    exact valid.resting (resting_retop absent rfl)
  | run poller | poll _ poller =>
    have other := absent _ List.mem_cons_self
    exact absurd poller other
  | finish _ _ rests =>
    rcases rests with other | suspended
    · apply valid.resting
      intro frame member
      rcases List.mem_cons.mp member with equal | member
      · rw [equal]; exact other
      · exact absent frame member
    · exact .inr suspended

theorem free_taken (valid : Valid f) (taken : Taken pollAt f next) :
    next.core.lock = none ∧ next.core.callback = none := by
  cases taken with
  | run _ _ _ _ ran => exact runPoller_free ran valid.unlocked valid.returned
  | tick | preempt | resume | lock | unlock | withMut | store | wake => exact ⟨valid.unlocked,valid.returned⟩
  | callback | ignored | link | expire | poll | finish => exact ⟨valid.unlocked,valid.returned⟩

theorem valid_step {action : Action Net} (valid : Valid f) (step : Step pollAt f action next) : Valid next := by
  have free := free_taken valid step.taken
  refine ⟨?_,placed_taken valid.placed step.taken,resting_taken valid step.taken,free.1,free.2⟩
  rcases step.scheduled with same | ⟨effect,scheduled,_⟩
  · rw [same]; exact valid.ordered
  · exact valid.ordered.taken scheduled.taken

section
variable {top : Frame} {below : List Frame} {core : Machine Task Net}

-- Whoever has locked a resource finds nobody below in the middle of a request
-- made under it.
theorem Valid.lock_free (valid : Valid ⟨top :: below,core⟩) (held : .net ∈ top.held) :
    below.findSome? inSection = none := by
  apply List.findSome?_eq_none_iff.mpr
  intro lower member
  by_contra inside
  have exclusive := (List.pairwise_cons.mp valid.ordered.exclusive).1 lower member .net held
  exact exclusive ((valid.placed lower (List.mem_cons_of_mem _ member)).net inside)

theorem Valid.callback_free (valid : Valid ⟨top :: below,core⟩) (held : .device ∈ top.held) :
    below.findSome? inCallback = none := by
  apply List.findSome?_eq_none_iff.mpr
  intro lower member
  by_contra inside
  have exclusive := (List.pairwise_cons.mp valid.ordered.exclusive).1 lower member .device held
  exact exclusive ((valid.placed lower (List.mem_cons_of_mem _ member)).device inside)

-- An activation in no request is not seen.
theorem view_outside (outside : midway top.point = none) : view ⟨top :: below,core⟩ = view ⟨below,core⟩ := by
  simp [view,inSection_none outside,inCallback_none outside]

theorem view_client (client : Task.client task = true) (inside : midway point = some place) :
    view ⟨⟨task,held,point⟩ :: below,core⟩ = {view ⟨below,core⟩ with lock := some (task,place)} := by
  simp [view,inSection,inCallback,client,not_driver client,inside]

theorem view_driver (driver : Task.driver task = true) (inside : midway point = some place) :
    view ⟨⟨task,held,point⟩ :: below,core⟩ = {view ⟨below,core⟩ with callback := some place} := by
  have other : task.client = false := by
    cases client : task.client with
    | true => rw [not_driver client] at driver; cases driver
    | false => rfl
  simp [view,inSection,inCallback,driver,other,inside]
end

-- Every step is one of the machine of the poller, or none: the locks give the
-- atomicity that machine has by definition.
theorem view_taken (valid : Valid f) (taken : Taken pollAt f next) :
    view next = view f ∨ ∃ event, Network.Step pollAt (view f) event (view next) := by
  cases taken with
  | tick now => exact .inr ⟨.tick now,rfl⟩
  | preempt => exact .inl (view_outside rfl)
  | resume _ at_ pending =>
    refine .inr ⟨.run,?_⟩
    rw [view_outside rfl]
    simp [Network.Step,Network.advance,runPoller,view,at_,pending]
  | lock _ at_ =>
    have outside := outside_none (.inl at_)
    exact .inl ((view_outside outside).trans (view_outside outside).symm)
  | unlock _ at_ onto => exact .inl ((view_outside (outside_none onto)).trans (view_outside (outside_none at_)).symm)
  | @withMut top below core net client at_ held =>
    have free := valid.lock_free (by simp [held])
    refine .inr ⟨.withMut top.task net,?_⟩
    rw [view_outside (outside_none (.inl at_)),view_client client rfl]
    simp [Network.Step,Network.advance,view,free,Machine.asking]
  | @store top below core at_ =>
    have inside : midway top.point = some .before := by rw [at_]; rfl
    rcases valid.placed top List.mem_cons_self with outside | ⟨client,_⟩ | ⟨driver,_⟩
    · rw [inside] at outside; cases outside
    · refine .inr ⟨.store,?_⟩
      rw [view_client client inside,view_client client rfl]
      rfl
    · refine .inr ⟨.callbackStore,?_⟩
      rw [view_driver driver inside,view_driver driver rfl]
      rfl
  | @wake point top below core at_ onto =>
    have inside : midway top.point = some .stored := by rw [at_]; rfl
    rw [view_outside (outside_none onto)]
    rcases valid.placed top List.mem_cons_self with outside | ⟨client,held⟩ | ⟨driver,held⟩
    · rw [inside] at outside; cases outside
    · refine .inr ⟨.wake,?_⟩
      rw [view_client client inside]
      simp [Network.Step,Network.advance,view,valid.lock_free held]
    · refine .inr ⟨.callbackWake,?_⟩
      rw [view_driver driver inside]
      simp [Network.Step,Network.advance,view,valid.callback_free held]
  | @callback top below core cause driver at_ held requests =>
    have free := valid.callback_free (by simp [held])
    refine .inr ⟨.callback cause,?_⟩
    rw [view_outside (outside_none (.inl at_)),view_driver driver rfl]
    simp [Network.Step,Network.advance,view,free,requests,Machine.asking]
  | ignored at_ => exact .inl ((view_outside rfl).trans (view_outside (outside_none (.inl at_))).symm)
  | @link top below core up driver at_ held =>
    have free := valid.callback_free (by simp [held])
    refine .inr ⟨.link up,?_⟩
    rw [view_outside (outside_none (.inl at_)),view_outside rfl]
    simp [Network.Step,Network.advance,view,free]
  | expire at_ armed due =>
    refine .inr ⟨.expire,?_⟩
    simp [Network.Step,Network.advance,view,at_,armed,due]
  | run _ at_ _ held ran onto =>
    refine .inr ⟨.run,?_⟩
    rw [view_outside (outside_none (.inl at_)),view_outside (outside_none onto)]
    refine runPoller_frame ran ?_ ?_
    · intro needed
      exact valid.lock_free (held ▸ needed)
    · intro needed
      exact valid.callback_free (held ▸ needed)
  | @poll top below core net _ at_ polls held =>
    rw [polls] at held
    have unlocked := valid.lock_free (by simp [held,needs])
    have returned := valid.callback_free (by simp [held,needs])
    refine .inr ⟨.poll net,?_⟩
    rw [view_outside (outside_none (.inl at_)),view_outside rfl]
    simp [Network.Step,Network.advance,view,polls,unlocked,returned]
  | finish at_ => exact .inl (view_outside (outside_none (.inl at_))).symm

theorem start_valid (net : Net) (linkUp : Bool) (now : Instant) : Valid (start net linkUp now) := by
  refine ⟨Ceiling.System.Ordered.nil,?_,?_,rfl,rfl⟩
  · intro frame member
    cases member
  · intro _
    exact .inl rfl

variable {net : Net} {linkUp : Bool} {now : Instant}

theorem reached_valid (path : Runs (Step pollAt) (start net linkUp now) actions f) : Valid f :=
  path.invariant (fun _ _ _ valid step => valid_step valid step) (start_valid net linkUp now)

-- What the machine of the poller keeps true is true of what is seen.
theorem reached_inner (path : Runs (Step pollAt) (start net linkUp now) actions f) :
    Network.Invariant pollAt (view f) := by
  induction path with
  | nil => exact Network.start_invariant net linkUp now
  | step prior step ih =>
    rcases view_taken (reached_valid prior) step.taken with same | ⟨event,seen⟩
    · rw [same]; exact ih
    · exact Network.invariant_taken ih seen.taken

-- The priorities in use, and so the deepest nesting of activations.
theorem Task.priority_mem (task : Task) : task.priority ∈ [1,2,4,5] := by
  cases task <;> decide

-- The core idles when the stack is empty and nothing is there to run.
structure Idle (f : Firmware Net) : Prop where
  empty : f.stack = []
  rests : ready f.core .networkPoller = false

theorem Idle.quiescent (valid : Valid f) (idle : Idle f) : Network.Quiescent (view f) := by
  have suspended : f.core.pc = .suspended := by
    rcases valid.resting (by rw [idle.empty]; intro frame member; cases member) with swap | suspended
    · have rests := idle.rests
      simp [ready,swap] at rests
    · exact suspended
  have unwoken : f.core.wakePending = false := by
    have rests := idle.rests
    simpa [ready,suspended] using rests
  exact ⟨suspended,unwoken,by simp [view,idle.empty],by simp [view,idle.empty]⟩

theorem Idle.settled (valid : Valid f) (inner : Network.Invariant pollAt (view f)) (idle : Idle f) :
    f.core.request = false ∧
    (f.core.found = some true → f.core.sincePoll = [] ∧
      ∃ t, f.core.asked = some (t,f.core.net) ∧
        f.core.nextPollAt = (pollAt (smolNow t) f.core.net).map pollDeadline) ∧
    (f.core.found = some false → f.core.sinceCheck = [] ∧ f.core.nextPollAt = none ∧
      (f.core.linkUp = true → f.core.wentUpDue = true)) := by
  have settled := (idle.quiescent valid).settled inner
  exact settled

end

theorem play_sound {pollAt : Int64 → Net → Option Int64} {f next : Firmware Net}
    (played : run (advance pollAt) f actions = some next) : Runs (Step pollAt) f actions next :=
  run_runs (fun _ _ _ ran => ran) played

namespace Controls
-- The poller goes to sleep; the MQTT task queues octets, with an alarm between the
-- store and the wake; the poller sends them as soon as the lock is released.
def opening : List (Action Nat) :=
  [.preempt .networkPoller,.run,.run,.finish,.preempt .mqttTask,.lock .net,.withMut 3,.store,
    .preempt .gpt9CompareB]
def closing : List (Action Nat) :=
  [.finish,.wake,.unlock,.preempt .networkPoller,.run,.lock .device,.run,.unlock,.lock .net,.lock .device,.poll 2,
    .unlock,.unlock,.lock .net,.run,.unlock,.run,.run,.run,.finish,.finish]

def alarmed : Firmware Nat :=
  ⟨[⟨.gpt9CompareB,[],.code⟩,⟨.mqttTask,[.net],.stored⟩],
    ⟨3,none,none,true,true,true,false,.suspended,none,⟨0⟩,none,none,[.withMut .mqttTask],[.withMut .mqttTask]⟩⟩
def unlocked : Firmware Nat := ⟨[⟨.mqttTask,[],.code⟩],{alarmed.core with wakePending := true}⟩
def idle : Firmware Nat :=
  ⟨[],⟨2,none,none,true,true,false,false,.suspended,some ⟨30000⟩,⟨0⟩,some true,some (⟨0⟩,2),[],[]⟩⟩
end Controls

theorem opening_runs : Runs (Step Network.Controls.deadline) (start 0 true ⟨0⟩) Controls.opening Controls.alarmed :=
  play_sound (by decide +kernel)

theorem closing_runs : Runs (Step Network.Controls.deadline) Controls.alarmed Controls.closing Controls.idle :=
  play_sound (by decide +kernel)

section
variable {Net : Type} {pollAt : Int64 → Net → Option Int64} {f next : Firmware Net}
  {net : Net} {linkUp : Bool} {now : Instant}

theorem app_refines_poller (path : Runs (Step pollAt) (start net linkUp now) actions f) :
    ∃ events, Runs (Network.Step pollAt) (Network.start net linkUp now) events (view f) := by
  refine path.simulates view Valid (fun _ _ _ valid step => valid_step valid step) ?_ (start_valid net linkUp now)
  intro s action next valid step
  rcases view_taken valid step.taken with same | ⟨event,seen⟩
  · exact ⟨[],same ▸ .nil⟩
  · exact ⟨[event],.one seen⟩

theorem alarm_seen_in_a_section :
    ∃ events, Runs (Network.Step Network.Controls.deadline) (Network.start 0 true ⟨0⟩) events
      {Controls.alarmed.core with lock := some (.mqttTask,.stored)} :=
  app_refines_poller opening_runs

theorem resources_exclusive (path : Runs (Step pollAt) (start net linkUp now) actions f) :
    f.stack.Pairwise (fun upper lower => ∀ resource ∈ upper.held, resource ∉ lower.held) ∧
    f.stack.Pairwise (fun upper lower => lower.task.priority < upper.task.priority) ∧
    f.stack.length ≤ 4 ∧
    ∀ top below, f.stack = top :: below → ∀ resource ∈ top.task.shared, ∀ lower ∈ below, resource ∉ lower.held := by
  have ordered := (reached_valid path).ordered
  refine ⟨ordered.exclusive,ordered.increasing,?_,?_⟩
  · exact ordered.depth fun frame _ => frame.task.priority_mem
  · intro top below running resource shares
    rw [running] at ordered
    exact ordered.available (by simpa [system] using shares)

theorem alarm_over_a_section :
    Controls.alarmed.stack.Pairwise (fun upper lower => ∀ resource ∈ upper.held, resource ∉ lower.held) ∧
    Controls.alarmed.stack.length ≤ 4 := by
  have reached := resources_exclusive opening_runs
  exact ⟨reached.1,reached.2.2.1⟩

theorem idle_core_has_served (path : Runs (Step pollAt) (start net linkUp now) actions f) (idle : Idle f) :
    f.core.request = false ∧
    (f.core.found = some true → f.core.sincePoll = [] ∧
      ∃ t, f.core.asked = some (t,f.core.net) ∧
        f.core.nextPollAt = (pollAt (smolNow t) f.core.net).map pollDeadline) ∧
    (f.core.found = some false → f.core.sinceCheck = [] ∧ f.core.nextPollAt = none ∧
      (f.core.linkUp = true → f.core.wentUpDue = true)) :=
  idle.settled (reached_valid path) (reached_inner path)

theorem idle_after_sending : Controls.idle.core.request = false ∧ Controls.idle.core.sincePoll = [] := by
  have served := idle_core_has_served (opening_runs.append closing_runs) ⟨rfl,rfl⟩
  exact ⟨served.1,(served.2.1 rfl).1⟩

end
end Ra6m3Rtic.App
