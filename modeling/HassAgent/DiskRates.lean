import Mathlib.Logic.Function.Basic
import Mathlib.Data.List.Basic

/-!
# The disk IO worker

`ioWorker` keeps four sensors per block device it has read, and four for the
pseudo-device "total". Each `Sensors` call reads every device, adds the ones it
has not seen, updates each device's sensors with its stats, sums the stats of
the devices that are not `dm`/`md` aggregates, and updates the total sensors
with the sums. Slices are made with the length of the total entry and assigned
by index, which panics past the end; a panic is `none` here.

`getDeviceNames` and `getDevice` enter through their results: each read is a
device with its stats, `none` standing for a nil map, or an error. A device's
`info` stands for its fields other than `id`. A sensor records the stats and
time deltas `update` was called with, oldest first; what `update` computes from
them is not modelled. `errInvalidCtx` is the text of `linux.ErrInvalidCtx`.
-/

set_option autoImplicit false

namespace HassAgent.DiskRates

variable {Stat : Type}

structure Device where
  id : String
  info : List (String × String)
  deriving DecidableEq, Repr

inductive SensorKind where
  | diskReads
  | diskWrites
  | diskReadRate
  | diskWriteRate
  deriving DecidableEq, Repr

structure DiskIOSensor (Stat : Type) where
  device : Device
  kind : SensorKind
  boottime : Option Nat
  updates : List ((Stat → UInt64) × Nat)

def newDiskIOSensor (boottime : Nat) (dev : Device) (kind : SensorKind) : DiskIOSensor Stat :=
  ⟨dev, kind, some boottime, []⟩

def newDiskIORateSensor (dev : Device) (kind : SensorKind) : DiskIOSensor Stat :=
  ⟨dev, kind, none, []⟩

def DiskIOSensor.update (s : DiskIOSensor Stat) (stats : Stat → UInt64) (delta : Nat) :
    DiskIOSensor Stat :=
  { s with updates := s.updates ++ [(stats, delta)] }

def newDeviceSensors (boottime : Nat) (dev : Device) : List (DiskIOSensor Stat) :=
  [newDiskIOSensor boottime dev .diskReads, newDiskIOSensor boottime dev .diskWrites,
    newDiskIORateSensor dev .diskReadRate, newDiskIORateSensor dev .diskWriteRate]

structure IOWorker (Stat : Type) where
  boottime : Nat
  devices : String → Option (List (DiskIOSensor Stat))

def totalDevice : Device := ⟨"total", []⟩

def newIOWorker (errInvalidCtx : String) : Option Nat → Except String (IOWorker Stat)
  | none => .error (errInvalidCtx ++ ": no boottime value")
  | some boottime =>
    .ok ⟨boottime, Function.update (fun _ => none) "total" (some (newDeviceSensors boottime totalDevice))⟩

def addDevice (w : IOWorker Stat) (dev : Device) : IOWorker Stat :=
  match w.devices dev.id with
  | some _ => w
  | none => { w with devices := Function.update w.devices dev.id (some (newDeviceSensors w.boottime dev)) }

def assignFrom {α : Type} (idx : Nat) : List α → List (Option α) → Option (List (Option α))
  | [], out => some out
  | s :: ss, out => if idx < out.length then assignFrom (idx + 1) ss (out.set idx (some s)) else none

def totalSlots (w : IOWorker Stat) : List (Option (DiskIOSensor Stat)) :=
  List.replicate ((w.devices "total").getD []).length none

def updateDevice (w : IOWorker Stat) (dev : Device) (stats : Option (Stat → UInt64)) (delta : Nat) :
    Option (List (Option (DiskIOSensor Stat)) × IOWorker Stat) :=
  match w.devices dev.id, stats with
  | some ss, some st =>
    let ss := ss.map (·.update st delta)
    (assignFrom 0 ss (totalSlots w)).map
      (·, { w with devices := Function.update w.devices dev.id (some ss) })
  | _, _ => some (totalSlots w, w)

def updateTotals (w : IOWorker Stat) (stats : Stat → UInt64) (delta : Nat) :
    Option (List (Option (DiskIOSensor Stat)) × IOWorker Stat) :=
  match w.devices "total" with
  | none => some ([], w)
  | some ts =>
    let ts := ts.map (·.update stats delta)
    (assignFrom 0 ts (totalSlots w)).map
      (·, { w with devices := Function.update w.devices "total" (some ts) })

def isAggregate (id : String) : Bool := id.startsWith "dm" || id.startsWith "md"

def addStats (totals : Stat → UInt64) : Option (Stat → UInt64) → Stat → UInt64
  | none => totals
  | some stats => fun k => totals k + stats k

abbrev DeviceRead (Stat : Type) := Except String (Device × Option (Stat → UInt64))

def sensorsLoop (delta : Nat) :
    List (DeviceRead Stat) → IOWorker Stat × List (Option (DiskIOSensor Stat)) × (Stat → UInt64) →
      Option (IOWorker Stat × List (Option (DiskIOSensor Stat)) × (Stat → UInt64))
  | [], acc => some acc
  | .error _ :: rest, acc => sensorsLoop delta rest acc
  | .ok (dev, stats) :: rest, (w, out, totals) =>
    match updateDevice (addDevice w dev) dev stats delta with
    | none => none
    | some (sensors, w) =>
      sensorsLoop delta rest (w, out ++ sensors, if isAggregate dev.id then totals else addStats totals stats)

def sensors (delta : Nat) (w : IOWorker Stat) : Except String (List (DeviceRead Stat)) →
    Option (Except String (List (Option (DiskIOSensor Stat))) × IOWorker Stat)
  | .error e => some (.error ("could not fetch disk devices: " ++ e), w)
  | .ok reads =>
    match sensorsLoop delta reads (w, [], fun _ => 0) with
    | none => none
    | some (w, out, totals) => (updateTotals w totals delta).map fun (ts, w) => (.ok (out ++ ts), w)

def runSensors (w : IOWorker Stat) :
    List (Nat × Except String (List (DeviceRead Stat))) →
      Option (IOWorker Stat × List (Except String (List (Option (DiskIOSensor Stat)))))
  | [] => some (w, [])
  | (delta, reads) :: calls =>
    match sensors delta w reads with
    | none => none
    | some (out, w) => (runSensors w calls).map fun (w, outs) => (w, out :: outs)

end HassAgent.DiskRates
