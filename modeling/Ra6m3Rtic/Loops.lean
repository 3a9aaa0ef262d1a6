import Mathlib.Logic.Function.Basic
import Ra6m3Rtic.Http
import Ra6m3Rtic.Mqtt
import Ra6m3Rtic.System

namespace Ra6m3Rtic.Loops
open Smoltcp LabelledRuns
open Ra6m3Rtic.System (Handle Net)

-- What a step of a task's program does with the socket: nothing, a look at it
-- (`with`), or a section that changes it (`with_mut`).
inductive Access where
  | none
  | read
  | write
  deriving DecidableEq, Repr

-- The program of a task around its one socket, as the machine `step` of the task
-- alone has it: there a section is one step and the socket is at hand.
structure Client where
  State : Type
  Event : Type
  Label : Type
  socket : State → Socket
  put : Socket → State → State
  access : State → Event → Access
  advance : State → Event → Option State
  network : State → Bool → Socket → State
  clock : Instant → State → State
  allows : State → Instant → Prop
  net : Bool → Socket → Socket → Prop
  step : State → Label → State → Prop
  put_self : ∀ m, put (socket m) m = m
  socket_put : ∀ s m, socket (put s m) = s
  access_put : ∀ s m event, access (put s m) event = access m event
  socket_kept : ∀ m event next, access m event ≠ .write → advance m event = some next → socket next = socket m
  own_step : ∀ m event next, advance m event = some next → ∃ label, step m label next
  network_step : ∀ m reached next, net reached (socket m) next → ∃ label, step m label (network m reached next)
  network_socket : ∀ m reached next, socket (network m reached next) = next
  clock_step : ∀ m now, allows m now → ∃ labels, Runs step m labels (clock now m)
  clock_put : ∀ s m now, clock now (put s m) = put s (clock now m)
  allows_put : ∀ s m now, allows m now → allows (put s m) now

def taskOf : Handle → App.Task
  | .mqtt => .mqttTask
  | .http => .httpTask

-- The tasks on the core. `seen` is the Net as its holder found it when it locked:
-- a section computes from that and puts its result in the place of the Net, and
-- may be preempted at any point between.
structure State (clients : Handle → Client) where
  app : App.Firmware Net
  programs : (handle : Handle) → (clients handle).State
  seen : App.Task → Option Net

inductive Event (clients : Handle → Client) where
  | app (action : App.Action Net)
  | tick (now : Instant)
  | own (handle : Handle) (event : (clients handle).Event)
  | poll (steps : Handle → List (Bool × Socket))

def plain : App.Action Net → Bool
  | .withMut _ | .poll _ | .tick _ => false
  | _ => true

section
variable {clients : Handle → Client} (pollAt : Int64 → Net → Option Int64)

def State.running (s : State clients) : Option App.Task := s.app.stack.head?.map (·.task)

-- What a task alone would see: its program with the socket as it is now.
def State.view (s : State clients) (handle : Handle) : (clients handle).State :=
  (clients handle).put (s.app.core.net.get handle) (s.programs handle)

def State.look (s : State clients) : App.Action Net → App.Task → Option Net
  | .lock .net =>
    match s.running with
    | some task => Function.update s.seen task (some s.app.core.net)
    | none => s.seen
  | .unlock =>
    match s.running with
    | some task => Function.update s.seen task none
    | none => s.seen
  | _ => s.seen

-- The steps of one `iface.poll` on one socket.
def Client.absorb (client : Client) (m : client.State) (steps : List (Bool × Socket)) : client.State :=
  steps.foldl (fun m step => client.network m step.1 step.2) m

def advance (s : State clients) : Event clients → Option (State clients)
  | .app action =>
    if plain action then (App.advance pollAt s.app action).map fun app => {s with app := app,seen := s.look action}
    else none
  | .tick now =>
    (App.advance pollAt s.app (.tick now)).map fun app =>
      {s with app := app,programs := fun handle => (clients handle).clock now (s.programs handle)}
  | .own handle event =>
    if s.running = some (taskOf handle) then
      match (clients handle).access (s.programs handle) event,s.seen (taskOf handle) with
      | .none,_ =>
        ((clients handle).advance (s.view handle) event).map fun m =>
          {s with programs := Function.update s.programs handle m}
      | .read,some net =>
        ((clients handle).advance ((clients handle).put (net.get handle) (s.programs handle)) event).map fun m =>
          {s with programs := Function.update s.programs handle m,seen := Function.update s.seen (taskOf handle) none}
      | .write,some net =>
        ((clients handle).advance ((clients handle).put (net.get handle) (s.programs handle)) event).bind fun m =>
          (App.advance pollAt s.app (.withMut (net.set ((clients handle).socket m) handle))).map fun app =>
            ⟨app,Function.update s.programs handle m,Function.update s.seen (taskOf handle) none⟩
      | _,none => none
    else none
  | .poll steps =>
    match s.seen .networkPoller with
    | some net =>
      let absorbed (handle : Handle) : (clients handle).State :=
        (clients handle).absorb ((clients handle).put (net.get handle) (s.programs handle)) (steps handle)
      (App.advance pollAt s.app
        (.poll ⟨(clients .mqtt).socket (absorbed .mqtt),(clients .http).socket (absorbed .http)⟩)).map fun app =>
          ⟨app,absorbed,Function.update s.seen .networkPoller none⟩
    | none => none

-- `iface.poll` too starts from the Net its task found.
def Through (net : Bool → Socket → Socket → Prop) : Socket → List (Bool × Socket) → Prop
  | _,[] => True
  | s,(reached,next) :: rest => net reached s next ∧ Through net next rest

def Admitted (s : State clients) : Event clients → Prop
  | .tick now => ∀ handle, (clients handle).allows (s.programs handle) now
  | .poll steps => ∀ net, s.seen .networkPoller = some net →
      ∀ handle, Through (clients handle).net (net.get handle) (steps handle)
  | .app _ | .own _ _ => True

def Step (s : State clients) (event : Event clients) (next : State clients) : Prop :=
  Admitted s event ∧ advance pollAt s event = some next

-- Every step, with what it rests on.
inductive Taken (s : State clients) : State clients → Prop where
  | app (step : App.Step pollAt s.app action app) (outside : plain action = true) :
      Taken s {s with app := app,seen := s.look action}
  | tick (allowed : ∀ handle, (clients handle).allows (s.programs handle) now) :
      Taken s {s with
        app := {s.app with core := {s.app.core with now := now}}
        programs := fun handle => (clients handle).clock now (s.programs handle)}
  | quiet (handle : Handle) (event : (clients handle).Event) (m : (clients handle).State)
      (access : (clients handle).access (s.programs handle) event = .none)
      (ran : (clients handle).advance (s.view handle) event = some m) :
      Taken s {s with programs := Function.update s.programs handle m}
  | read (handle : Handle) (event : (clients handle).Event) (m : (clients handle).State)
      (access : (clients handle).access (s.programs handle) event = .read)
      (looked : s.seen (taskOf handle) = some net)
      (ran : (clients handle).advance ((clients handle).put (net.get handle) (s.programs handle)) event = some m) :
      Taken s {s with programs := Function.update s.programs handle m,seen := Function.update s.seen (taskOf handle) none}
  | write (handle : Handle) (event : (clients handle).Event) (m : (clients handle).State)
      (running : s.running = some (taskOf handle)) (looked : s.seen (taskOf handle) = some net)
      (ran : (clients handle).advance ((clients handle).put (net.get handle) (s.programs handle)) event = some m)
      (step : App.Step pollAt s.app (.withMut (net.set ((clients handle).socket m) handle)) app) :
      Taken s ⟨app,Function.update s.programs handle m,Function.update s.seen (taskOf handle) none⟩
  | poll (steps : Handle → List (Bool × Socket)) (programs : (handle : Handle) → (clients handle).State)
      (looked : s.seen .networkPoller = some net)
      (through : ∀ handle, Through (clients handle).net (net.get handle) (steps handle))
      (absorbed : ∀ handle, programs handle =
        (clients handle).absorb ((clients handle).put (net.get handle) (s.programs handle)) (steps handle))
      (step : App.Step pollAt s.app
        (.poll ⟨(clients .mqtt).socket (programs .mqtt),(clients .http).socket (programs .http)⟩) app) :
      Taken s ⟨app,programs,Function.update s.seen .networkPoller none⟩

variable {pollAt} {s next : State clients}

theorem Step.taken (step : Step pollAt s event next) : Taken pollAt s next := by
  obtain ⟨admitted,ran⟩ := step
  cases event with
  | app action =>
    simp only [advance] at ran
    split at ran
    · rename_i outside
      obtain ⟨app,step,equal⟩ := Option.map_eq_some_iff.mp ran
      subst equal
      exact .app step outside
    · cases ran
  | tick now =>
    cases Option.some.inj ran
    exact .tick admitted
  | own handle event =>
    simp only [advance] at ran
    split at ran
    · rename_i running
      split at ran
      · rename_i access
        obtain ⟨m,advanced,equal⟩ := Option.map_eq_some_iff.mp ran
        subst equal
        exact .quiet handle event m access advanced
      · rename_i net access looked
        obtain ⟨m,advanced,equal⟩ := Option.map_eq_some_iff.mp ran
        subst equal
        exact .read handle event m access looked advanced
      · rename_i net access looked
        obtain ⟨m,advanced,wrote⟩ := Option.bind_eq_some_iff.mp ran
        obtain ⟨app,step,equal⟩ := Option.map_eq_some_iff.mp wrote
        subst equal
        exact .write handle event m running looked advanced step
      · cases ran
    · cases ran
  | poll steps =>
    simp only [advance] at ran
    split at ran
    · rename_i net looked
      obtain ⟨app,step,equal⟩ := Option.map_eq_some_iff.mp ran
      subst equal
      exact .poll steps _ looked (admitted net looked) (fun _ => rfl) step
    · cases ran

theorem running_cons (stack : s.app.stack = top :: below) : s.running = some top.task := by
  simp [State.running,stack]

-- Both ways to change the Net are sections under its lock.
theorem changes_under_lock {f app : App.Firmware Net} (step : App.Step pollAt f action app)
    (changes : action = .withMut net ∨ action = .poll net) :
    ∃ top below, f.stack = top :: below ∧ .net ∈ top.held ∧ (action = .poll net → top.task = .networkPoller) := by
  rcases changes with equal | equal
  · subst equal
    cases step.stepped with
    | @perform top below _ _ _ _ running performed =>
      cases performed with
      | withMut _ _ held =>
        refine ⟨top,below,running,by simp [held],?_⟩
        intro other
        cases other
  · subst equal
    cases step.stepped with
    | @perform top below _ _ _ _ running performed =>
      cases performed with
      | poll poller _ polls held => exact ⟨top,below,running,by simp [held,polls,App.needs],fun _ => poller⟩

theorem lock_pushes {f app : App.Firmware Net} (step : App.Step pollAt f (.lock resource) app) :
    ∃ top below, f.stack = top :: below ∧ app.stack = {top with held := resource :: top.held} :: below := by
  cases step.stepped with
  | @perform top below _ _ _ _ running performed acted =>
    cases performed
    cases Ceiling.System.Step.taken acted
    exact ⟨top,below,running,rfl⟩

theorem unlock_runs {f app : App.Firmware Net} (step : App.Step pollAt f .unlock app) :
    ∃ top below, f.stack = top :: below := by
  cases step.stepped with
  | perform running => exact ⟨_,_,running⟩

theorem update_none_some {seen : App.Task → Option Net} (found : Function.update seen task none other = some net) :
    other ≠ task ∧ seen other = some net := by
  by_cases own : other = task
  · subst own
    rw [Function.update_self] at found
    cases found
  · rw [Function.update_of_ne own] at found
    exact ⟨own,found⟩

-- Whoever has looked at the Net still holds it, and finds it as it was.
def Fresh (s : State clients) : Prop :=
  ∀ task net, s.seen task = some net →
    net = s.app.core.net ∧ ∃ frame ∈ s.app.stack, frame.task = task ∧ .net ∈ frame.held

theorem holder_kept {f app : App.Firmware Net} (step : App.Step pollAt f action app) (member : frame ∈ f.stack)
    (held : .net ∈ frame.held) (kept : action = .unlock → ∃ top below, f.stack = top :: below ∧ frame.task ≠ top.task) :
    ∃ after ∈ app.stack, after.task = frame.task ∧ .net ∈ after.held := by
  rcases step.scheduled with same | ⟨effect,scheduled,unlocks⟩
  · rw [same]; exact ⟨frame,member,rfl,held⟩
  · exact scheduled.holds member held fun effects => kept (unlocks effects)

theorem plain_net {f app : App.Firmware Net} (step : App.Step pollAt f action app) (outside : plain action = true) :
    app.core.net = f.core.net := by
  rw [App.Step.net step]
  cases action <;> first | rfl | cases outside

theorem fresh_app {app : App.Firmware Net} (fresh : Fresh s) (step : App.Step pollAt s.app action app)
    (outside : plain action = true) : Fresh {s with app := app,seen := s.look action} := by
  have same := plain_net step outside
  have kept : action ≠ .unlock → ∀ task net, s.seen task = some net →
      net = app.core.net ∧ ∃ frame ∈ app.stack, frame.task = task ∧ .net ∈ frame.held := by
    intro other task net seen
    obtain ⟨equal,frame,member,owner,held⟩ := fresh task net seen
    obtain ⟨after,later,sameTask,still⟩ := holder_kept step member held fun unlocks => absurd unlocks other
    exact ⟨equal.trans same.symm,after,later,sameTask.trans owner,still⟩
  intro task net seen
  cases action with
  | lock resource =>
    cases resource with
    | device => exact kept nofun task net seen
    | net =>
      obtain ⟨top,below,stack,after⟩ := lock_pushes step
      simp only [State.look,running_cons stack] at seen
      by_cases here : task = top.task
      · subst here
        rw [Function.update_self] at seen
        cases seen
        exact ⟨same.symm,{top with held := .net :: top.held},by rw [after]; exact List.mem_cons_self,rfl,List.mem_cons_self⟩
      · rw [Function.update_of_ne here] at seen
        exact kept nofun task net seen
  | unlock =>
    obtain ⟨top,below,stack⟩ := unlock_runs step
    simp only [State.look,running_cons stack] at seen
    obtain ⟨elsewhere,found⟩ := update_none_some seen
    obtain ⟨equal,frame,member,owner,held⟩ := fresh task net found
    obtain ⟨after,later,sameTask,still⟩ := holder_kept step member held fun _ => ⟨top,below,stack,owner ▸ elsewhere⟩
    exact ⟨equal.trans same.symm,after,later,sameTask.trans owner,still⟩
  | preempt | withMut | store | wake | callback | link | expire | run | poll | finish | tick => exact kept nofun task net seen

-- A section that changes the Net: nobody else is looking at it.
theorem fresh_changed {app : App.Firmware Net} (valid : App.Valid s.app) (fresh : Fresh s)
    (step : App.Step pollAt s.app action app) (changes : action = .withMut net ∨ action = .poll net)
    (runs : s.running = some task) (programs : (handle : Handle) → (clients handle).State) :
    Fresh ⟨app,programs,Function.update s.seen task none⟩ := by
  obtain ⟨top,below,stack,holds,_⟩ := changes_under_lock step changes
  have here : top.task = task := Option.some.inj ((running_cons stack).symm.trans runs)
  intro other found seen
  obtain ⟨elsewhere,seen⟩ := update_none_some seen
  obtain ⟨_,frame,member,owner,held⟩ := fresh other found seen
  have ordered := valid.ordered
  rw [stack] at ordered member
  have equal := ordered.lone_holder holds member held
  subst equal
  exact absurd (owner.symm.trans here) elsewhere

theorem unseen_fresh {f : App.Firmware Net} {programs : (handle : Handle) → (clients handle).State} :
    Fresh ⟨f,programs,fun _ => none⟩ := by
  intro task net found
  cases found

theorem fresh_forget (fresh : Fresh s) (task : App.Task) (programs : (handle : Handle) → (clients handle).State) :
    Fresh ⟨s.app,programs,Function.update s.seen task none⟩ := by
  intro other net seen
  exact fresh other net (update_none_some seen).2

theorem fresh_taken (valid : App.Valid s.app) (fresh : Fresh s) (taken : Taken pollAt s next) : Fresh next := by
  cases taken with
  | app step outside => exact fresh_app fresh step outside
  | tick | quiet => exact fresh
  | read => exact fresh_forget fresh _ _
  | write handle event m running looked ran step => exact fresh_changed valid fresh step (.inl rfl) running _
  | poll steps programs looked through absorbed step =>
    obtain ⟨top,below,stack,_,poller⟩ := changes_under_lock step (.inr rfl)
    exact fresh_changed valid fresh step (.inr rfl) (by rw [running_cons stack,poller rfl]) _

theorem Taken.app_step (taken : Taken pollAt s next) : next.app = s.app ∨ ∃ action, App.Step pollAt s.app action next.app := by
  cases taken with
  | quiet | read => exact .inl rfl
  | tick => exact .inr ⟨.tick _,rfl⟩
  | app step | write _ _ _ _ _ _ step | poll _ _ _ _ _ step => exact .inr ⟨_,step⟩

theorem absorb_runs (client : Client) (m : client.State) (steps : List (Bool × Socket))
    (through : Through client.net (client.socket m) steps) : ∃ labels, Runs client.step m labels (client.absorb m steps) := by
  induction steps generalizing m with
  | nil => exact ⟨[],.nil⟩
  | cons step rest ih =>
    obtain ⟨reached,next⟩ := step
    obtain ⟨taken,others⟩ := through
    obtain ⟨label,first⟩ := client.network_step m reached next taken
    obtain ⟨labels,path⟩ := ih (client.network m reached next) (by rw [client.network_socket]; exact others)
    exact ⟨_,(Runs.one first).append path⟩

-- A program that has left its socket alone is as its task sees it.
theorem Client.settled (client : Client) {m : client.State} {socket : Socket} (same : client.socket m = socket) :
    client.put socket m = m := by
  rw [← same]
  exact client.put_self m

theorem view_taken (fresh : Fresh s) (taken : Taken pollAt s next) (handle : Handle) :
    ∃ labels, Runs (clients handle).step (s.view handle) labels (next.view handle) := by
  cases taken with
  | app step outside =>
    refine ⟨[],?_⟩
    simp only [State.view,plain_net step outside]
    exact .nil
  | tick allowed =>
    rename_i now
    obtain ⟨labels,path⟩ := (clients handle).clock_step (s.view handle) now ((clients handle).allows_put _ _ _ (allowed handle))
    rw [State.view,(clients handle).clock_put] at path
    exact ⟨labels,path⟩
  | quiet target event m access ran =>
    by_cases here : handle = target
    · subst here
      obtain ⟨label,step⟩ := (clients handle).own_step _ _ _ ran
      have kept := (clients handle).socket_kept _ _ _ (by rw [State.view,(clients handle).access_put,access]; nofun) ran
      rw [State.view,(clients handle).socket_put] at kept
      refine ⟨[label],?_⟩
      simp only [State.view,Function.update_self]
      rw [(clients handle).settled kept]
      exact .one step
    · refine ⟨[],?_⟩
      simp only [State.view,Function.update_of_ne here]
      exact .nil
  | read target event m access looked ran =>
    have found := (fresh _ _ looked).1
    subst found
    by_cases here : handle = target
    · subst here
      obtain ⟨label,step⟩ := (clients handle).own_step _ _ _ ran
      have kept := (clients handle).socket_kept _ _ _ (by rw [(clients handle).access_put,access]; nofun) ran
      rw [(clients handle).socket_put] at kept
      refine ⟨[label],?_⟩
      simp only [State.view,Function.update_self]
      rw [(clients handle).settled kept]
      exact .one step
    · refine ⟨[],?_⟩
      simp only [State.view,Function.update_of_ne here]
      exact .nil
  | write target event m running looked ran step =>
    have found := (fresh _ _ looked).1
    subst found
    have after := App.Step.net step
    by_cases here : handle = target
    · subst here
      obtain ⟨label,taken⟩ := (clients handle).own_step _ _ _ ran
      refine ⟨[label],?_⟩
      simp only [State.view,Function.update_self,after,App.Action.leaves,System.Pair.get_set,(clients handle).put_self]
      exact .one taken
    · refine ⟨[],?_⟩
      simp only [State.view,Function.update_of_ne here,after,App.Action.leaves,System.Pair.get_set_of_ne here]
      exact .nil
  | poll steps programs looked through absorbed step =>
    rename_i app
    have found := (fresh _ _ looked).1
    subst found
    have after := App.Step.net step
    have own : app.core.net.get handle = (clients handle).socket (programs handle) := by
      rw [after]
      cases handle <;> rfl
    obtain ⟨labels,path⟩ := absorb_runs (clients handle) (s.view handle) (steps handle)
      (by rw [State.view,(clients handle).socket_put]; exact through handle)
    refine ⟨labels,?_⟩
    simp only [State.view]
    rw [own,(clients handle).put_self,absorbed handle]
    exact path

theorem reached_app {f : App.Firmware Net} (path : Runs (Step pollAt) ⟨f,programs,seen⟩ events s) :
    ∃ actions, Runs (App.Step pollAt) f actions s.app := by
  refine path.simulates State.app (fun _ => True) (fun _ _ _ _ _ => trivial) ?_ trivial
  intro s event next _ step
  rcases step.taken.app_step with same | ⟨action,step⟩
  · exact ⟨[],same ▸ .nil⟩
  · exact ⟨[action],.one step⟩

-- Sections that read, compute and write while others run are those of the task
-- alone: the ceilings keep everybody else from the Net in between.
theorem reached_view {f : App.Firmware Net} (valid : App.Valid f)
    (path : Runs (Step pollAt) ⟨f,programs,fun _ => none⟩ events s) (handle : Handle) :
    ∃ labels, Runs (clients handle).step
      ((clients handle).put (f.core.net.get handle) (programs handle)) labels (s.view handle) := by
  refine path.simulates (fun s => s.view handle) (fun s => App.Valid s.app ∧ Fresh s) ?_ ?_ ⟨valid,unseen_fresh⟩
  · intro s event next holds step
    refine ⟨?_,fresh_taken holds.1 holds.2 step.taken⟩
    rcases step.taken.app_step with same | ⟨action,step⟩
    · rw [same]; exact holds.1
    · exact App.valid_step holds.1 step
  · intro s event next holds step
    exact view_taken holds.2 step.taken handle

end

-- Where the MQTT task is when it takes a step, and what it then does with the
-- socket: `is_open` only looks.
def mqttAccess (pc : Mqtt.Pc) : Mqtt.Event → Access
  | .run =>
    match pc with
    | .setTimeout _ | .setKeepAlive _ | .abort _ | .connect _ | .connectWait => .write
    | .disconnect .close | .disconnect (.register _) => .write
    | .isOpen _ | .disconnect (.check _) => .read
    | _ => .none
  | .io _ _ => .write
  | .finish _ | .tick _ | .net _ _ => .none

def mqttAdvance (board : Mqtt.Board) (m : Mqtt.Machine) (event : Mqtt.Event) : Option Mqtt.Machine :=
  match event with
  | .run | .io _ _ | .finish _ => Mqtt.advance board (System.waker .mqtt) m event
  | .tick _ | .net _ _ => none

theorem mqtt_socket_kept (board : Mqtt.Board) (m : Mqtt.Machine) (event : Mqtt.Event) (next : Mqtt.Machine)
    (other : mqttAccess m.pc event ≠ .write) (ran : mqttAdvance board m event = some next) : next.socket = m.socket := by
  cases event with
  | tick | net => cases ran
  | io => exact absurd rfl other
  | finish outcome =>
    simp only [mqttAdvance,Mqtt.advance] at ran
    split at ran
    · obtain ⟨_,_,equal⟩ := Option.map_eq_some_iff.mp ran
      rw [← equal]
    · cases ran
  | run =>
    simp only [mqttAdvance,Mqtt.advance] at ran
    split at ran
    · rename_i pc at_
      cases Option.some.inj ran
      cases pc with
      | close | register => simp [mqttAccess,at_] at other
      | check | suspended | done => rfl
    · unfold Mqtt.connectTransport at ran
      split at ran
      case h_1 => split at ran <;> cases Option.some.inj ran <;> rfl
      case h_2 => split at ran <;> cases ran; rfl
      case h_3 | h_6 => cases Option.some.inj ran; rfl
      case h_4 at_ | h_5 at_ | h_7 at_ | h_8 at_ | h_9 at_ => simp [mqttAccess,at_] at other
      all_goals cases ran

def mqttClient (net : Bool → Socket → Socket → Prop) (board : Mqtt.Board) : Client where
  State := Mqtt.Machine
  Event := Mqtt.Event
  Label := Mqtt.Event
  socket m := m.socket
  put s m := {m with socket := s}
  access m event := mqttAccess m.pc event
  advance := mqttAdvance board
  network m reached next := {m with socket := next,owed := if reached then false else m.owed || Mqtt.lapsed m.socket next}
  clock now m := {m with now := now}
  allows m now := m.now.ticks ≤ now.ticks ∧ now.ticks.toNat < 2 ^ 63
  net := net
  step := Mqtt.Step net board (System.waker .mqtt)
  put_self _ := rfl
  socket_put _ _ := rfl
  access_put _ _ _ := rfl
  socket_kept := mqtt_socket_kept board
  own_step := by
    intro m event next ran
    refine ⟨event,?_,?_⟩
    · cases event <;> first | exact True.intro | cases ran
    · cases event <;> first | exact ran | cases ran
  network_step m reached next taken := ⟨.net reached next,taken,rfl⟩
  network_socket _ _ _ := rfl
  clock_step m now allowed := ⟨[.tick now],.one ⟨allowed,rfl⟩⟩
  clock_put _ _ _ := rfl
  allows_put _ _ _ allowed := allowed

def httpAccess (pc : Http.Pc) : Http.Event → Access
  | .run _ =>
    match pc with
    | .accept | .acceptWait => .write
    | .ending .close | .ending (.read _) | .ending .txFlush | .ending .abort | .ending .flush => .write
    | _ => .none
  | .io _ _ => .write
  | .finish _ | .net _ => .none

def httpAdvance (buf : List UInt8) (m : Http.Machine) (event : Http.Event) : Option Http.Machine :=
  match event with
  | .run _ | .io _ _ | .finish _ => Http.advance (System.waker .http) buf m event
  | .net _ => none

theorem http_socket_kept (buf : List UInt8) (m : Http.Machine) (event : Http.Event) (next : Http.Machine)
    (other : httpAccess m.pc event ≠ .write) (ran : httpAdvance buf m event = some next) : next.socket = m.socket := by
  obtain ⟨pc,socket⟩ := m
  cases event with
  | net => cases ran
  | io => exact absurd rfl other
  | finish gracefully =>
    simp only [httpAdvance,Http.advance] at ran
    split at ran
    · cases Option.some.inj ran; rfl
    · cases ran
  | run expired =>
    cases pc with
    | accept | acceptWait => exact absurd rfl other
    | serve | panicked => cases ran
    | ending pc =>
      cases pc with
      | close | read | txFlush | abort | flush => exact absurd rfl other
      | suspended | flushSuspended | done => cases Option.some.inj ran; rfl
      | readTimer flushed =>
        cases Option.some.inj ran
        simp only [Shutdown.resume]
        split
        · rfl
        · split <;> rfl
      | flushTimer =>
        cases Option.some.inj ran
        simp only [Shutdown.resume]
        split <;> rfl

def httpClient (net : Bool → Socket → Socket → Prop) (buf : List UInt8) : Client where
  State := Http.Machine
  Event := Http.Event
  Label := Http.Event
  socket m := m.socket
  put s m := {m with socket := s}
  access m event := httpAccess m.pc event
  advance := httpAdvance buf
  network m _ next := {m with socket := next}
  clock _ m := m
  allows _ _ := True
  net := net
  step := Http.Step (fun s next => ∃ reached, net reached s next) (System.waker .http) buf
  put_self _ := rfl
  socket_put _ _ := rfl
  access_put _ _ _ := rfl
  socket_kept := http_socket_kept buf
  own_step := by
    intro m event next ran
    refine ⟨event,?_,?_⟩
    · cases event <;> first | exact True.intro | cases ran
    · cases event <;> first | exact ran | cases ran
  network_step m reached next taken := ⟨.net next,⟨reached,taken⟩,rfl⟩
  network_socket _ _ _ := rfl
  clock_step _ _ _ := ⟨[],.nil⟩
  clock_put _ _ _ := rfl
  allows_put _ _ _ allowed := allowed

def clients (net : Bool → Socket → Socket → Prop) (board : Mqtt.Board) (buf : List UInt8) : Handle → Client
  | .mqtt => mqttClient net board
  | .http => httpClient net buf

section
variable (net : Bool → Socket → Socket → Prop) (board : Mqtt.Board) (buf : List UInt8) (rxCapacity txCapacity : Nat)
  (linkUp : Bool) (now : Instant)

-- `init` has added the sockets and spawned the tasks.
def sockets : Net := ⟨.fresh rxCapacity txCapacity,.fresh rxCapacity txCapacity⟩

def begun : (handle : Handle) → (clients net board buf handle).State
  | .mqtt => Mqtt.start now (.fresh rxCapacity txCapacity)
  | .http => Http.start rxCapacity txCapacity

def start : State (clients net board buf) :=
  ⟨App.start (sockets rxCapacity txCapacity) linkUp now,begun net board buf rxCapacity txCapacity now,fun _ => none⟩

-- Steps that are always admitted.
def Event.quiet {clients : Handle → Client} : Event clients → Bool
  | .app _ | .own _ _ => true
  | .tick _ | .poll _ => false

theorem play_sound {clients : Handle → Client} {pollAt : Int64 → Net → Option Int64} {s next : State clients}
    {events : List (Event clients)}
    (played : run (guarded (fun _ event => event.quiet) (advance pollAt)) s events = some next) :
    Runs (Step pollAt) s events next := by
  refine run_runs ?_ played
  intro s event next ran
  obtain ⟨quiet,ran⟩ := guarded_some ran
  refine ⟨?_,ran⟩
  cases event with
  | app | own => exact True.intro
  | tick | poll => cases quiet

end

namespace Controls
-- The MQTT task locks for `set_timeout` and is preempted by an alarm before it has
-- changed anything; then it goes on from what it had read.
def interrupted : List (Event (clients Mqtt.Polls Mqtt.Controls.board [0])) :=
  [.app (.preempt .mqttTask),.own .mqtt .run,.own .mqtt .run,.app (.lock .net),.app (.preempt .gpt9CompareB),
    .app .finish,.own .mqtt .run,.app .store,.app .wake,.app .unlock,.app .finish]
end Controls

section
variable {net : Bool → Socket → Socket → Prop} {board : Mqtt.Board} {buf : List UInt8} {rxCapacity txCapacity : Nat}
  {linkUp : Bool} {now : Instant}

theorem firmware_refines_loops {pollAt : Int64 → Net → Option Int64} {s : State (clients net board buf)}
    (path : Runs (Step pollAt) (start net board buf rxCapacity txCapacity linkUp now) events s) :
    (∃ labels, Runs (Mqtt.Step net board (System.waker .mqtt)) (Mqtt.start now (.fresh rxCapacity txCapacity)) labels
      (s.view .mqtt)) ∧
    (∃ labels, Runs (Http.Step (fun s next => ∃ reached, net reached s next) (System.waker .http) buf)
      (Http.start rxCapacity txCapacity) labels (s.view .http)) ∧
    ∃ actions, Runs (App.Step pollAt) (App.start (sockets rxCapacity txCapacity) linkUp now) actions s.app := by
  have valid := App.start_valid (sockets rxCapacity txCapacity) linkUp now
  exact ⟨reached_view valid path .mqtt,reached_view valid path .http,reached_app path⟩

theorem interrupted_section_is_one_step : ∃ labels m,
    Runs (Mqtt.Step Mqtt.Polls Mqtt.Controls.board 1) (Mqtt.start ⟨5⟩ (.fresh 4 4)) labels m ∧
      m.pc = .setKeepAlive 58026 ∧ m.socket.timeout = some 3600000000 := by
  have played : ∃ s, run (guarded (fun _ event => event.quiet) (advance System.Controls.never))
      (start Mqtt.Polls Mqtt.Controls.board [0] 4 4 true ⟨5⟩) Controls.interrupted = some s ∧
        (s.view .mqtt : Mqtt.Machine).pc = .setKeepAlive 58026 ∧
        (s.view .mqtt : Mqtt.Machine).socket.timeout = some 3600000000 := ⟨_,rfl,rfl,rfl⟩
  obtain ⟨s,ran,pc,timeout⟩ := played
  obtain ⟨labels,path⟩ := (firmware_refines_loops (play_sound ran)).1
  exact ⟨labels,s.view .mqtt,path,pc,timeout⟩

end

end Ra6m3Rtic.Loops
