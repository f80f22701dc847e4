import Mathlib.Logic.Function.Basic
import HassAgent.MQTTController

/-!
# Building the Linux controllers

`newOSController` calls each constructor of `allworkers` in turn and stores the
worker of each that succeeds under the worker's ID, not started; a worker stored
under an ID replaces the one stored there before, and the list names
`cpu.NewUsageWorker` twice. With an MQTT device it then fills the MQTT
controller's entity lists from the power, screen-lock, volume, MPRIS, camera and
D-Bus command constructors, in that order, skipping each constructor that fails.
-/

set_option autoImplicit false

namespace HassAgent.OSController

open HassAgent.MQTTController (Entity MqttWorker subscriptions configs)

def allworkers : List String :=
  ["apps.NewAppWorker", "battery.NewBatteryWorker", "cpu.NewUsageWorker", "cpu.NewLoadAvgWorker",
   "cpu.NewUsageWorker", "desktop.NewDesktopWorker", "disk.NewIOWorker", "disk.NewUsageWorker",
   "location.NewLocationWorker", "mem.NewUsageWorker", "net.NewConnectionWorker", "net.NewRatesWorker",
   "power.NewLaptopWorker", "power.NewProfileWorker", "power.NewStateWorker",
   "power.NewScreenLockWorker", "problems.NewProblemsWorker", "system.NewHWMonWorker",
   "system.NewInfoWorker", "system.NewTimeWorker", "user.NewUserWorker"]

structure SensorWorker (W : Type) where
  object : W
  started : Bool

/-! ## Sensor workers -/

section workers

variable {W : Type} (workerID : W → String)

def addWorkers : List (Except String W) → (String → Option (SensorWorker W)) →
    String → Option (SensorWorker W)
  | [], workers => workers
  | .error _ :: rest, workers => addWorkers rest workers
  | .ok worker :: rest, workers =>
    addWorkers rest (Function.update workers (workerID worker) (some ⟨worker, false⟩))

/-- Each ID holds the worker of the last constructor that returned one with that
ID, not started, or what it held before the loop. -/
theorem addWorkers_eq (rs : List (Except String W)) (workers : String → Option (SensorWorker W))
    (id : String) :
    addWorkers workerID rs workers id =
      (((rs.filterMap Except.toOption).reverse.find? (workerID · = id)).map (⟨·, false⟩)).or
        (workers id) := by
  induction rs generalizing workers with
  | nil => simp [addWorkers]
  | cons r rs ih =>
    rcases r with err | worker
    · simpa [addWorkers, Except.toOption] using ih workers
    · rw [addWorkers, ih]
      by_cases hw : workerID worker = id
      · subst hw
        simp only [Except.toOption, List.filterMap_cons, List.reverse_cons, List.find?_append,
          Function.update_same]
        cases List.find? (fun w => workerID w = workerID worker) _ <;> simp
      · simp [Except.toOption, List.find?_append, hw, Function.update_noteq (Ne.symm hw)]

end workers

/-! ## The MQTT controller -/

structure CameraEntities (E : Type) where
  startButton : E
  stopButton : E
  images : E
  status : E

structure Controls (E S : Type) where
  power : Except String (List E)
  screenLock : Except String (List E)
  volume : Option E × Option E
  mpris : Except String E
  camera : Option (CameraEntities E)
  dbusCommand : Except String S

section mqtt

variable {Sub Msg : Type}

def addButtons (r : Except String (List (Entity Sub Msg))) (w : MqttWorker Sub Msg) :
    MqttWorker Sub Msg :=
  match r with
  | .ok es => { w with buttons := w.buttons ++ es }
  | .error _ => w

def addVolumeControl (vol mute : Option (Entity Sub Msg)) (w : MqttWorker Sub Msg) :
    MqttWorker Sub Msg :=
  match vol, mute with
  | some vol, some mute => { w with numbers := w.numbers ++ [vol], switches := w.switches ++ [mute] }
  | _, _ => w

def addMPRISControl (r : Except String (Entity Sub Msg)) (w : MqttWorker Sub Msg) :
    MqttWorker Sub Msg :=
  match r with
  | .ok e => { w with sensors := w.sensors ++ [e] }
  | .error _ => w

def addCameraControl (cam : Option (CameraEntities (Entity Sub Msg))) (w : MqttWorker Sub Msg) :
    MqttWorker Sub Msg :=
  match cam with
  | some cam =>
    { w with buttons := w.buttons ++ [cam.startButton, cam.stopButton], cameras := w.cameras ++ [cam.images],
             sensors := w.sensors ++ [cam.status] }
  | none => w

def addDBusCommand (r : Except String Sub) (w : MqttWorker Sub Msg) : MqttWorker Sub Msg :=
  match r with
  | .ok s => { w with controls := w.controls ++ [s] }
  | .error _ => w

def newMQTTController (c : Controls (Entity Sub Msg) Sub) : MqttWorker Sub Msg :=
  addDBusCommand c.dbusCommand <| addCameraControl c.camera <| addMPRISControl c.mpris <|
    addVolumeControl c.volume.1 c.volume.2 <| addButtons c.screenLock <|
      addButtons c.power ⟨[], [], [], [], [], [], []⟩

def newOSController {W : Type} (workerID : W → String) (start : String → Except String W)
    (mqttDevice : Bool) (c : Controls (Entity Sub Msg) Sub) :
    (String → Option (SensorWorker W)) × Option (MqttWorker Sub Msg) :=
  (addWorkers workerID (allworkers.map start) fun _ => none,
    if mqttDevice then some (newMQTTController c) else none)

/-! ### Each constructor adds only its own entities -/

end mqtt

end HassAgent.OSController
