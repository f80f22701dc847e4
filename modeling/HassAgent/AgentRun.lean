import Mathlib.Order.Basic

/-!
# The goroutines of `Agent.Run` and `Agent.Register`

`agent.done` is closed by whichever trigger fires: the goroutine started by
`handleSignals` once a signal arrives, the registration goroutine (after a
failed `checkRegistration` under `Run`, after any under `Register`), and each
call of `Stop`. Nothing guards a second `close`, which panics. The setup
goroutine of `Run` waits on `regWait`, builds `controllerCtx` and starts the
worker goroutines; another goroutine cancels `controllerCtx` once `done` is closed.

In the state, `reg` is where the registration goroutine is: running
`checkRegistration`, about to close `done`, about to call `regWait.Done`, or
exited, with whether `checkRegistration` returned nil. `setup` holds the workers
(`runSensorWorkers`, `runMQTTWorkers`, `runNotificationsWorker`) the setup
goroutine has still to start, `spawned` those started and not yet running, and
`invoked` each worker that has run, with whether `controllerCtx` was still live.
A close of the closed `done` sets `crashed`: the runtime panics and the agent dies.
-/

set_option autoImplicit false

namespace HassAgent.AgentRun

inductive Mode where
  | run
  | register
  deriving DecidableEq, Repr

inductive Worker where
  | sensor
  | mqtt
  | notifications
  deriving DecidableEq, Repr

inductive RegPc where
  | checking
  | closing (ok : Bool)
  | returned (ok : Bool)
  | exited (ok : Bool)
  deriving DecidableEq, Repr

structure Sys where
  done : Bool
  crashed : Bool
  sigWaiting : Bool
  reg : RegPc
  setup : Option (List Worker)
  cancellerWaiting : Bool
  ctxCancelled : Bool
  spawned : List Worker
  invoked : List (Worker × Bool)
  deriving DecidableEq, Repr

def init (mode : Mode) : Sys :=
  { done := false, crashed := false, sigWaiting := mode = .run, reg := .checking,
    setup := none, cancellerWaiting := false, ctxCancelled := false, spawned := [], invoked := [] }

def Sys.closeDone (s : Sys) : Sys :=
  if s.done then { s with crashed := true } else { s with done := true }

def workers (hasMQTT : Bool) : List Worker :=
  .sensor :: ((if hasMQTT then [.mqtt] else []) ++ [.notifications])

inductive Event where
  | signal
  | stop
  | regReturn (ok : Bool)
  | regClose
  | regDone
  | setupCtx
  | spawn
  | cancel
  | invoke (w : Worker)
  deriving DecidableEq, Repr

def regReturned (mode : Mode) (ok : Bool) : RegPc :=
  match mode with
  | .run => if ok then .returned true else .closing false
  | .register => .closing ok

def step (mode : Mode) (hasMQTT : Bool) (s : Sys) : Event → Option Sys
  | .signal => if s.crashed = false ∧ s.sigWaiting then some { s with sigWaiting := false }.closeDone else none
  | .stop => if s.crashed = false then some s.closeDone else none
  | .regReturn ok =>
    if s.crashed = false ∧ s.reg = .checking then some { s with reg := regReturned mode ok } else none
  | .regClose =>
    match s.crashed, s.reg with
    | false, .closing ok => some { s.closeDone with reg := .returned ok }
    | _, _ => none
  | .regDone =>
    match s.crashed, s.reg with
    | false, .returned ok => some { s with reg := .exited ok }
    | _, _ => none
  | .setupCtx =>
    match s.crashed, mode, s.reg, s.setup with
    | false, .run, .exited _, none => some { s with setup := some (workers hasMQTT), cancellerWaiting := true }
    | _, _, _, _ => none
  | .spawn =>
    match s.crashed, s.setup with
    | false, some (w :: ws) => some { s with setup := some ws, spawned := s.spawned ++ [w] }
    | _, _ => none
  | .cancel =>
    if s.crashed = false ∧ s.cancellerWaiting ∧ s.done then
      some { s with cancellerWaiting := false, ctxCancelled := true }
    else none
  | .invoke w =>
    if s.crashed = false ∧ w ∈ s.spawned then
      some { s with spawned := s.spawned.erase w, invoked := s.invoked ++ [(w, !s.ctxCancelled)] }
    else none

def run (mode : Mode) (hasMQTT : Bool) : Sys → List Event → Option Sys
  | s, [] => some s
  | s, e :: es => (step mode hasMQTT s e).bind (run mode hasMQTT · es)

def Event.closes : Event → Bool
  | .signal | .stop | .regClose => true
  | _ => false

def Sys.closeCount (s : Sys) : Nat := if s.crashed then 2 else if s.done then 1 else 0

theorem step_live {mode : Mode} {hasMQTT : Bool} {s s' : Sys} {e : Event}
    (h : step mode hasMQTT s e = some s') : s.crashed = false := by
  cases hc : s.crashed <;> cases e <;> simp_all [step]

theorem step_flags {mode : Mode} {hasMQTT : Bool} {s s' : Sys} {e : Event}
    (h : step mode hasMQTT s e = some s') :
    s'.done = (s.done || e.closes) ∧ s'.crashed = (s.done && e.closes) := by
  have hc := step_live h
  cases e <;> simp only [step, hc] at h <;> (repeat' split at h) <;> simp at h <;> subst h <;>
    cases hd : s.done <;> simp_all [Event.closes, Sys.closeDone]

theorem step_closeCount {mode : Mode} {hasMQTT : Bool} {s s' : Sys} {e : Event}
    (h : step mode hasMQTT s e = some s') :
    s'.closeCount = s.closeCount + if e.closes then 1 else 0 := by
  obtain ⟨hd, hc⟩ := step_flags h
  simp only [Sys.closeCount, hd, hc, step_live h]
  cases s.done <;> cases e.closes <;> rfl

theorem run_closeCount {mode : Mode} {hasMQTT : Bool} {s s' : Sys} {es : List Event}
    (h : run mode hasMQTT s es = some s') :
    s'.closeCount = s.closeCount + es.countP Event.closes := by
  induction es generalizing s with
  | nil => cases h; rfl
  | cons e es ih =>
    simp only [run, Option.bind_eq_some] at h
    obtain ⟨t, ht, hr⟩ := h
    rw [ih hr, step_closeCount ht, List.countP_cons]
    omega

theorem run_crashed_done {mode : Mode} {hasMQTT : Bool} {s s' : Sys} {es : List Event}
    (h : run mode hasMQTT s es = some s') (hs : s.crashed = true → s.done = true) :
    s'.crashed = true → s'.done = true := by
  induction es generalizing s with
  | nil => cases h; exact hs
  | cons e es ih =>
    simp only [run, Option.bind_eq_some] at h
    obtain ⟨t, ht, hr⟩ := h
    refine ih hr fun hc => ?_
    obtain ⟨hd, hc'⟩ := step_flags ht
    simp_all

/-- Every trigger that fires closes `done`: a run closes it once per closing
event, and the second one is the crash. -/
theorem done_closed_per_trigger {mode : Mode} {hasMQTT : Bool} {es : List Event} {s : Sys}
    (h : run mode hasMQTT (init mode) es = some s) :
    (s.done = true ↔ 0 < es.countP Event.closes) ∧ (s.crashed = true ↔ es.countP Event.closes = 2) := by
  have hd := run_crashed_done h (by simp [init])
  have hn : s.closeCount = es.countP Event.closes := (run_closeCount h).trans (Nat.zero_add _)
  rw [← hn]
  unfold Sys.closeCount
  cases hc : s.crashed <;> cases hd' : s.done <;> simp_all

def signalledAfterFailure : Sys :=
  { (init .run) with done := true, crashed := true, sigWaiting := false, reg := .returned false }

theorem done_closed_per_trigger_signal :
    run .run false (init .run) [.regReturn false, .regClose, .signal] = some signalledAfterFailure ∧
    ((signalledAfterFailure.done = true ↔ 0 < [Event.regReturn false, .regClose, .signal].countP Event.closes) ∧
      (signalledAfterFailure.crashed = true ↔
        [Event.regReturn false, .regClose, .signal].countP Event.closes = 2)) :=
  ⟨rfl, done_closed_per_trigger (show run .run false (init .run) [.regReturn false, .regClose, .signal] =
    some signalledAfterFailure from rfl)⟩

/-- `checkRegistration` fails and a signal then arrives; under `Register`, `Stop`
is called after the registration goroutine closed `done`. Both close `done` twice. -/
theorem done_closed_twice :
    (run .run false (init .run) [.regReturn false, .regClose, .signal]).map Sys.crashed = some true ∧
    (run .register false (init .register) [.regReturn true, .regClose, .stop]).map Sys.crashed =
      some true := by
  decide

/-- `checkRegistration` fails, and the setup goroutine still starts the sensor
worker, which calls `StartAll` before the canceller has cancelled `controllerCtx`. -/
theorem failed_registration_starts_sensor_worker :
    (run .run false (init .run)
        [.regReturn false, .regClose, .regDone, .setupCtx, .spawn, .invoke .sensor]).map
      (fun s => (s.done, s.invoked)) = some (true, [(.sensor, true)]) := by
  decide

/-! ## Sorting the controllers -/

structure ControllerType where
  sensorController : Bool
  mqttController : Bool
  deriving DecidableEq, Repr

section controllers

variable {C : Type} (typeOf : C → ControllerType)

def sortController (sorted : List C × List C) (c : C) : List C × List C :=
  match typeOf c with
  | ⟨true, _⟩ => (sorted.1 ++ [c], sorted.2)
  | ⟨false, true⟩ => (sorted.1, sorted.2 ++ [c])
  | ⟨false, false⟩ => sorted

def sortControllers (controllers : List C) : List C × List C :=
  controllers.foldl (sortController typeOf) ([], [])

def hasMQTTControllers (controllers : List C) : Bool :=
  !(sortControllers typeOf controllers).2.isEmpty

theorem foldl_sortController (controllers : List C) (sorted : List C × List C) :
    controllers.foldl (sortController typeOf) sorted =
      (sorted.1 ++ controllers.filter fun c => (typeOf c).sensorController,
       sorted.2 ++ controllers.filter fun c => !(typeOf c).sensorController && (typeOf c).mqttController) := by
  induction controllers generalizing sorted with
  | nil => simp
  | cons c cs ih =>
    rw [List.foldl_cons, ih]
    rcases h : typeOf c with ⟨_ | _, _ | _⟩ <;> simp [sortController, List.filter_cons, h]

/-- `Run` gives the sensor workers every `SensorController` and the MQTT
workers only the `MQTTController`s that are not sensor controllers too, each in
the order `setupControllers` returned them: a controller implementing both
interfaces never has its MQTT side run. The MQTT workers are started exactly
when some controller is an MQTT controller and not a sensor controller. -/
theorem sortControllers_eq (controllers : List C) :
    sortControllers typeOf controllers =
      (controllers.filter fun c => (typeOf c).sensorController,
       controllers.filter fun c => !(typeOf c).sensorController && (typeOf c).mqttController) ∧
    (Worker.mqtt ∈ workers (hasMQTTControllers typeOf controllers) ↔
      ∃ c ∈ controllers, (typeOf c).sensorController = false ∧ (typeOf c).mqttController = true) := by
  have hs := foldl_sortController typeOf controllers ([], [])
  refine ⟨hs, ?_⟩
  simp only [hasMQTTControllers, sortControllers, hs, List.nil_append, workers]
  cases h : (controllers.filter fun c => !(typeOf c).sensorController && (typeOf c).mqttController).isEmpty
  · have hex : ∃ c ∈ controllers, (typeOf c).sensorController = false ∧ (typeOf c).mqttController = true := by
      simpa using h
    simp [hex]
  · have hno : ¬∃ c ∈ controllers, (typeOf c).sensorController = false ∧ (typeOf c).mqttController = true := by
      simpa using h
    simp [hno]

end controllers

end HassAgent.AgentRun
