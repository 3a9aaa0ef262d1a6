import Ra6m3Rtic.App
import Ra6m3Rtic.SocketTask

namespace Ra6m3Rtic.System
open Smoltcp LabelledRuns OneShot SocketTask

-- `init_network` adds two sockets and hands out their handles in this order.
inductive Handle where
  | mqtt
  | http
  deriving DecidableEq, Repr

structure Pair (α : Type) where
  mqtt : α
  http : α

namespace Pair
def get (p : Pair α) : Handle → α
  | .mqtt => p.mqtt
  | .http => p.http

def set (p : Pair α) (value : α) : Handle → Pair α
  | .mqtt => {p with mqtt := value}
  | .http => {p with http := value}

@[simp] theorem get_set (p : Pair α) (value : α) (handle : Handle) : (p.set value handle).get handle = value := by
  cases handle <;> rfl

@[simp] theorem set_get (p : Pair α) (handle : Handle) : p.set (p.get handle) handle = p := by
  cases handle <;> rfl

theorem get_set_of_ne {p : Pair α} {value : α} (other : handle ≠ target) :
    (p.set value target).get handle = p.get handle := by
  cases handle <;> cases target <;> first | rfl | exact absurd rfl other
end Pair

-- The sockets of `Net`, by their handles.
abbrev Net := Pair Socket

def handleOf : App.Task → Option Handle
  | .mqttTask => some .mqtt
  | .httpTask => some .http
  | _ => none

-- Each task is polled with its own waker.
def waker : Handle → Waker
  | .mqtt => 1
  | .http => 2

structure State (ρ : Type) where
  app : App.Firmware Net
  tasks : Pair (Context ρ)

-- The task of the activation on top, by its socket.
def State.running (s : State ρ) : Option Handle := s.app.stack.head?.bind fun top => handleOf top.task

def State.socket (s : State ρ) (handle : Handle) : Socket := s.app.core.net.get handle

def start (net : Net) (linkUp : Bool) (now : Instant) : State ρ :=
  ⟨App.start net linkUp now,⟨.awaits [],.awaits []⟩⟩

inductive Event (ρ : Type) where
  | app (action : App.Action Net)
  | task (handle : Handle) (move : Move ρ)
  | poll (next : Net)

def plain : App.Action Net → Bool
  | .withMut _ | .poll _ => false
  | _ => true

-- The activation on top ends only where its task may suspend.
def suspends (s : State ρ) : App.Action Net → Bool
  | .finish => s.running.all fun handle => (s.tasks.get handle).parked
  | _ => true

section
variable (pollAt : Int64 → Net → Option Int64)

-- A move of the task on top, on its own socket.
def enter (s : State ρ) (handle : Handle) : Section → Option (App.Firmware Net)
  | .outside => some s.app
  | .reads => if s.app.stack.head?.any fun top => top.point == .code && top.held == [.net] then some s.app else none
  | .writes socket => App.advance pollAt s.app (.withMut (s.app.core.net.set socket handle))

def advance (s : State ρ) : Event ρ → Option (State ρ)
  | .app action =>
    if plain action && suspends s action then (App.advance pollAt s.app action).map (⟨·,s.tasks⟩) else none
  | .task handle move =>
    if s.running = some handle then
      (SocketTask.advance (waker handle) (s.socket handle) (s.tasks.get handle) move).bind fun moved =>
        (enter pollAt s handle moved.2).map (⟨·,s.tasks.set moved.1 handle⟩)
    else none
  | .poll next => (App.advance pollAt s.app (.poll next)).map (⟨·,s.tasks⟩)

-- `iface.poll` takes every socket through steps of the network.
def Admitted (net : Socket → Socket → Prop) (s : State ρ) : Event ρ → Prop
  | .task _ move => move.Live
  | .poll next => ∀ handle, (s.tasks.get handle).Polled net (waker handle) (s.socket handle) (next.get handle)
  | .app _ => True

def Step (net : Socket → Socket → Prop) (s : State ρ) (event : Event ρ) (next : State ρ) : Prop :=
  Admitted net s event ∧ advance pollAt s event = some next

-- Every step: what it is to the app, and what it does to the sockets and to the
-- tasks.
inductive Taken (net : Socket → Socket → Prop) (s : State ρ) : State ρ → Prop where
  | app (step : App.Step pollAt s.app action app) (same : app.core.net = s.app.core.net)
      (suspended : suspends s action = true) : Taken net s ⟨app,s.tasks⟩
  | task (handle : Handle) (running : s.running = some handle) (live : Move.Live move)
      (moved : SocketTask.advance (waker handle) (s.socket handle) (s.tasks.get handle) move = some (context,entered))
      (step : app = s.app ∨ ∃ net, App.Step pollAt s.app (.withMut net) app)
      (after : app.core.net = s.app.core.net.set (entered.socket (s.socket handle)) handle) :
      Taken net s ⟨app,s.tasks.set context handle⟩
  | poll (step : App.Step pollAt s.app (.poll sockets) app)
      (polled : ∀ handle,
        (s.tasks.get handle).Polled net (waker handle) (s.socket handle) (app.core.net.get handle)) : Taken net s ⟨app,s.tasks⟩

variable {pollAt} {net : Socket → Socket → Prop} {s next : State ρ}

theorem enter_step (ran : enter pollAt s handle entered = some app) :
    (app = s.app ∨ ∃ net, App.Step pollAt s.app (.withMut net) app) ∧
      app.core.net = s.app.core.net.set (entered.socket (s.socket handle)) handle := by
  cases entered with
  | outside =>
    cases Option.some.inj ran
    exact ⟨.inl rfl,(Pair.set_get _ handle).symm⟩
  | reads =>
    simp only [enter] at ran
    split at ran
    · cases Option.some.inj ran
      exact ⟨.inl rfl,(Pair.set_get _ handle).symm⟩
    · cases ran
  | writes socket =>
    have step : App.Step pollAt s.app (.withMut (s.app.core.net.set socket handle)) app := ran
    exact ⟨.inr ⟨_,step⟩,step.net⟩

theorem Step.taken {event : Event ρ} (step : Step pollAt net s event next) : Taken pollAt net s next := by
  obtain ⟨admitted,ran⟩ := step
  cases event with
  | app action =>
    simp only [advance] at ran
    split at ran
    · rename_i allowed
      obtain ⟨outside,suspended⟩ := Bool.and_eq_true_iff.mp allowed
      obtain ⟨app,step,equal⟩ := Option.map_eq_some_iff.mp ran
      subst equal
      refine .app step ?_ suspended
      rw [App.Step.net step]
      cases action <;> first | rfl | cases outside
    · cases ran
  | task handle move =>
    simp only [advance] at ran
    split at ran
    · rename_i running
      obtain ⟨⟨context,_⟩,moved,within⟩ := Option.bind_eq_some_iff.mp ran
      obtain ⟨app,entered,equal⟩ := Option.map_eq_some_iff.mp within
      subst equal
      obtain ⟨step,after⟩ := enter_step entered
      exact .task handle running admitted moved step after
    · cases ran
  | poll after =>
    obtain ⟨app,step,equal⟩ := Option.map_eq_some_iff.mp ran
    subst equal
    refine .poll step ?_
    intro handle
    rw [App.Step.net step]
    exact admitted handle

-- To the scheduler and the poller a step of the system is one of theirs, or none.
theorem Taken.app_step (taken : Taken pollAt net s next) :
    next.app = s.app ∨ ∃ action, App.Step pollAt s.app action next.app := by
  cases taken with
  | app step | poll step => exact .inr ⟨_,step⟩
  | task _ _ _ _ step => exact step.imp id (fun ⟨_,step⟩ => ⟨_,step⟩)

-- A task that cannot suspend where it is has an activation on the stack.
def Active (handle : Handle) (s : State ρ) : Prop :=
  (s.tasks.get handle).parked = true ∨ ∃ frame ∈ s.app.stack, handleOf frame.task = some handle

structure Valid (handle : Handle) (s : State ρ) : Prop where
  safe : (s.tasks.get handle).Safe (waker handle) (s.socket handle)
  active : Active handle s

-- An activation stays unless the step ends it, and then its task may suspend.
theorem active_kept (step : App.Step pollAt s.app action app) (suspended : suspends s action = true)
    (active : Active handle s) : Active handle ⟨app,s.tasks⟩ := by
  rcases active with parked | ⟨frame,member,owner⟩
  · exact .inl parked
  · rcases App.Step.keeps step member with ⟨kept,member,same⟩ | ⟨finish,top⟩
    · exact .inr ⟨kept,member,same ▸ owner⟩
    · subst finish
      left
      simpa [suspends,State.running,top,owner] using suspended

theorem section_kept (step : app = s.app ∨ ∃ net, App.Step pollAt s.app (.withMut net) app)
    (member : frame ∈ s.app.stack) : ∃ kept ∈ app.stack, kept.task = frame.task := by
  rcases step with same | ⟨net,step⟩
  · exact ⟨frame,same ▸ member,rfl⟩
  · rcases App.Step.keeps step member with kept | ⟨finish,_⟩
    · exact kept
    · cases finish

theorem section_active (running : s.running = some handle)
    (step : app = s.app ∨ ∃ net, App.Step pollAt s.app (.withMut net) app) :
    ∃ frame ∈ app.stack, handleOf frame.task = some handle := by
  obtain ⟨top,head,owner⟩ := Option.bind_eq_some_iff.mp running
  obtain ⟨kept,member,same⟩ := section_kept step (List.mem_of_head? head)
  exact ⟨kept,member,same ▸ owner⟩

theorem valid_taken (laws : WakeLaws net) (valid : Valid handle s) (taken : Taken pollAt net s next) :
    Valid handle next := by
  cases taken with
  | app step same suspended =>
    refine ⟨?_,active_kept step suspended valid.active⟩
    simp only [State.socket,same]
    exact valid.safe
  | poll step polled => exact ⟨network_safe laws valid.safe (polled handle),active_kept step rfl valid.active⟩
  | task target running live moved step after =>
    by_cases here : handle = target
    · subst here
      refine ⟨?_,.inr (section_active running step)⟩
      simp only [State.socket,after,Pair.get_set]
      exact advance_safe laws valid.safe live moved
    -- Another task's move touches neither the socket nor what is awaited of it.
    · refine ⟨?_,?_⟩
      · simp only [State.socket,after,Pair.get_set_of_ne here]
        exact valid.safe
      · simp only [Active,Pair.get_set_of_ne here]
        refine valid.active.imp id ?_
        rintro ⟨frame,member,owner⟩
        obtain ⟨kept,member,same⟩ := section_kept step member
        exact ⟨kept,member,same ▸ owner⟩

theorem reached_valid (laws : WakeLaws net) {sockets : Net} {linkUp : Bool} {now : Instant}
    (path : Runs (Step pollAt net) (start sockets linkUp now) events s) (handle : Handle) : Valid handle s := by
  refine path.invariant (fun _ _ _ valid step => valid_taken laws valid step.taken) ?_
  cases handle <;> exact ⟨(fun a member => by cases member),.inl rfl⟩

theorem reached_app {sockets : Net} {linkUp : Bool} {now : Instant}
    (path : Runs (Step pollAt net) (start sockets linkUp now : State ρ) events s) :
    ∃ actions, Runs (App.Step pollAt) (App.start sockets linkUp now) actions s.app := by
  refine path.simulates State.app (fun _ => True) (fun _ _ _ _ _ => trivial) ?_ trivial
  intro s event next _ step
  rcases step.taken.app_step with same | ⟨action,step⟩
  · exact ⟨[],same ▸ .nil⟩
  · exact ⟨[action],.one step⟩

-- Nothing runs, and nothing has been woken to run.
structure AtRest (s : State ρ) : Prop where
  idle : App.Idle s.app
  unwoken : ∀ handle, ¬ (s.tasks.get handle).Woken (waker handle) (s.socket handle)

-- Steps that leave the network out of it.
def Event.quiet : Event ρ → Bool
  | .task _ (.await (.readWith f)) | .task _ (.await (.writeWith f)) => f.isSome
  | .poll _ => false
  | _ => true

theorem play_sound (played : run (guarded (fun _ event => event.quiet) (advance pollAt)) s events = some next) :
    Runs (Step pollAt net) s events next := by
  refine run_runs ?_ played
  intro s event next ran
  obtain ⟨quiet,ran⟩ := guarded_some ran
  refine ⟨?_,ran⟩
  cases event with
  | app => exact True.intro
  | poll => cases quiet
  | task handle move =>
    cases move with
    | await f => cases f <;> first | exact quiet | exact True.intro
    | drop | future | operate | disconnect | run => exact True.intro

end

namespace Controls
def sockets : Net := ⟨Smoltcp.Controls.connected .established,Smoltcp.Controls.connected .established⟩
def never (_ : Int64) (_ : Net) : Option Int64 := none

def wakes : List (Event Unit) := [.app .store,.app .wake,.app .unlock]
def locked (move : Move Unit) (handle : Handle) : List (Event Unit) := .app (.lock .net) :: .task handle move :: wakes

-- With the link down: the poller goes to sleep, the HTTP task closes its socket
-- and waits for octets or for the flush, the MQTT task waits for the end of its
-- connection, and the poller finds nothing it can do.
def parking : List (Event Unit) :=
  [.app (.preempt .networkPoller),.app .run,.app .run,.app .finish,.app (.preempt .httpTask)] ++
  locked (.operate .close) .http ++ [.task .http (.await (.read [0])),.task .http (.await .flush)] ++
  locked (.future 0 .blank) .http ++ locked (.future 1 .blank) .http ++
  [.app .finish,.app (.preempt .mqttTask),.task .mqtt .disconnect] ++ locked .run .mqtt ++
  [.app (.lock .net),.task .mqtt .run,.app .unlock] ++ locked .run .mqtt ++
  [.app .finish,.app (.preempt .networkPoller),.app .run,.app (.lock .device),.app .run,.app .unlock,.app .run,.app .run,
    .app .run,.app .finish]

def closed : Socket := (Smoltcp.Controls.connected .established).close
def reading : Socket := closed.registerRecvWaker 2
def flushing : Socket := reading.registerSendWaker 2
def closing : Socket := closed.registerRecvWaker 1
def parked : State Unit :=
  ⟨⟨[],⟨⟨closing,flushing⟩,none,none,false,false,false,false,.suspended,none,⟨0⟩,some false,none,
    [.withMut .mqttTask,.withMut .mqttTask,.withMut .httpTask,.withMut .httpTask,.withMut .httpTask],[]⟩⟩,
    ⟨.disconnect (.suspended (Smoltcp.Controls.connected .established)),
      .awaits [⟨.read [0],some reading⟩,⟨.flush,some flushing⟩]⟩⟩
end Controls

theorem parking_runs : Runs (Step Controls.never Processed) (start Controls.sockets false ⟨0⟩) Controls.parking
    Controls.parked := play_sound rfl

section
variable {pollAt : Int64 → Net → Option Int64} {net : Socket → Socket → Prop} {s : State ρ}

theorem rests_only_when_blocked (laws : WakeLaws net) {sockets : Net} {linkUp : Bool} {now : Instant}
    (path : Runs (Step pollAt net) (start sockets linkUp now) events s) (rest : AtRest s) :
    (∀ handle, (s.tasks.get handle).Blocked (waker handle) (s.socket handle)) ∧
    s.app.core.request = false ∧
    (s.app.core.found = some true → s.app.core.sincePoll = [] ∧
      ∃ t, s.app.core.asked = some (t,s.app.core.net) ∧
        s.app.core.nextPollAt = (pollAt (smolNow t) s.app.core.net).map pollDeadline) ∧
    (s.app.core.found = some false → s.app.core.sinceCheck = [] ∧ s.app.core.nextPollAt = none ∧
      (s.app.core.linkUp = true → s.app.core.wentUpDue = true)) := by
  obtain ⟨actions,run⟩ := reached_app path
  refine ⟨?_,rest.idle.settled (App.reached_valid run) (App.reached_inner run)⟩
  intro handle
  have valid := reached_valid laws path handle
  have parked : (s.tasks.get handle).parked = true := by
    rcases valid.active with parked | ⟨frame,member,_⟩
    · exact parked
    · rw [rest.idle.empty] at member
      cases member
  exact valid.safe.blocked parked (rest.unwoken handle)

theorem parked_tasks_are_blocked :
    (Future.read [0] : Future Unit).Blocked (Controls.parked.socket .http) ∧
    (Future.flush : Future Unit).Blocked (Controls.parked.socket .http) ∧
    (Controls.parked.socket .mqtt).isOpen = true := by
  have rest : AtRest Controls.parked := by
    refine ⟨⟨rfl,rfl⟩,?_⟩
    intro handle woken
    cases handle with
    | mqtt =>
      obtain ⟨began,at_,woken⟩ := woken
      cases at_
      exact absurd woken (by decide)
    | http =>
      obtain ⟨a,member,last,since,woken⟩ := woken
      rcases List.mem_cons.mp member with equal | member
      · subst equal
        cases Option.some.inj since
        exact absurd woken (by decide)
      · cases List.mem_singleton.mp member
        cases Option.some.inj since
        exact absurd woken (by decide)
  have blocked := (rests_only_when_blocked processed_wakes parking_runs rest).1
  exact ⟨(blocked .http ⟨.read [0],some Controls.reading⟩ List.mem_cons_self).1,
    (blocked .http ⟨.flush,some Controls.flushing⟩ (List.mem_cons_of_mem _ List.mem_cons_self)).1,(blocked .mqtt).2⟩

end
end Ra6m3Rtic.System
