import HassAgent.DiskRates
import Mathlib

/-!
# What the disk IO worker tracks

The worker's map is determined by the devices it has read: for every id seen,
the four sensors `newDeviceSensors` built for the first device read with that
id (the pseudo-device for "total"), and nothing else. `Tracks` says so up to
the updates each sensor has had. Every `Sensors` call keeps it, and from it
every slice assignment is in range and the output is fixed up to those updates.
-/

set_option autoImplicit false

namespace HassAgent.DiskRatesInvariant
open HassAgent.DiskRates

variable {Stat : Type}

def built (s : DiskIOSensor Stat) : DiskIOSensor Stat := { s with updates := [] }

def readDevices : List (DeviceRead Stat) → List Device
  | [] => []
  | .ok (dev, _) :: rest => dev :: readDevices rest
  | .error _ :: rest => readDevices rest

def firstSeen (seen : List Device) (id : String) : Option Device :=
  if id = "total" then some totalDevice else seen.find? (·.id = id)

def Tracks (b : Nat) (seen : List Device) (w : IOWorker Stat) : Prop :=
  w.boottime = b ∧ ∀ id, (w.devices id).map (·.map built) = (firstSeen seen id).map (newDeviceSensors b)

@[simp] theorem built_update (s : DiskIOSensor Stat) (st : Stat → UInt64) (d : Nat) :
    built (s.update st d) = built s := rfl

@[simp] theorem map_built_newDeviceSensors (b : Nat) (dev : Device) :
    (newDeviceSensors b dev : List (DiskIOSensor Stat)).map built = newDeviceSensors b dev := rfl

@[simp] theorem length_newDeviceSensors (b : Nat) (dev : Device) :
    (newDeviceSensors b dev : List (DiskIOSensor Stat)).length = 4 := rfl

theorem firstSeen_append (seen devs : List Device) (id : String) :
    firstSeen (seen ++ devs) id = (firstSeen seen id).or (devs.find? (·.id = id)) := by
  unfold firstSeen; split <;> simp

theorem firstSeen_total (seen : List Device) : firstSeen seen "total" = some totalDevice := rfl

theorem tracks_newIOWorker (e : String) (b : Nat) :
    ∃ w, newIOWorker e (some b) = .ok w ∧ Tracks b [] (w : IOWorker Stat) := by
  refine ⟨_, rfl, rfl, fun id => ?_⟩
  by_cases h : id = "total"
  · subst h; simp [firstSeen]
  · simp [firstSeen, h, Function.update_noteq h]

theorem Tracks.length {b : Nat} {seen : List Device} {w : IOWorker Stat} (h : Tracks b seen w)
    {id : String} {ss : List (DiskIOSensor Stat)} (hs : w.devices id = some ss) : ss.length = 4 := by
  have := h.2 id
  rw [hs] at this
  obtain ⟨d, -, hd⟩ := Option.map_eq_some'.mp this.symm
  simpa using (congrArg List.length hd).symm

theorem Tracks.total {b : Nat} {seen : List Device} {w : IOWorker Stat} (h : Tracks b seen w) :
    ∃ ts, w.devices "total" = some ts ∧ ts.map built = newDeviceSensors b totalDevice := by
  have := h.2 "total"
  rw [firstSeen_total] at this
  obtain ⟨ts, hts, he⟩ := Option.map_eq_some'.mp this
  exact ⟨ts, hts, he⟩

theorem Tracks.slots {b : Nat} {seen : List Device} {w : IOWorker Stat} (h : Tracks b seen w) :
    totalSlots w = List.replicate 4 none := by
  obtain ⟨ts, hts, -⟩ := h.total
  simp [DiskRates.totalSlots, hts, h.length hts]

theorem assignFrom_replicate {α : Type} (xs : List (Option α)) (ss : List α) :
    assignFrom xs.length ss (xs ++ List.replicate ss.length none) = some (xs ++ ss.map some) := by
  induction ss generalizing xs with
  | nil => simp [assignFrom]
  | cons s ss ih =>
    have hs : (xs ++ List.replicate (ss.length + 1) none).set xs.length (some s) =
        (xs ++ [some s]) ++ List.replicate ss.length none := by
      simp [List.set_append_right, List.replicate_succ]
    simp only [assignFrom, List.length_cons, List.length_append, List.length_replicate]
    rw [if_pos (by omega), hs, show xs.length + 1 = (xs ++ [some s]).length by simp, ih]
    simp

theorem assignFrom_slots {α : Type} (ss : List α) :
    assignFrom 0 ss (List.replicate ss.length none) = some (ss.map some) :=
  assignFrom_replicate [] ss

theorem Tracks.addDevice {b : Nat} {seen : List Device} {w : IOWorker Stat} (h : Tracks b seen w)
    (dev : Device) : Tracks b (seen ++ [dev]) (DiskRates.addDevice w dev) := by
  have hf := h.2 dev.id
  refine ⟨by unfold DiskRates.addDevice; split <;> exact h.1, fun id => ?_⟩
  rw [firstSeen_append]
  unfold DiskRates.addDevice
  split <;> rename_i hs <;> rw [hs] at hf
  · by_cases hid : dev.id = id
    · subst hid
      obtain ⟨d, hd, -⟩ := Option.map_eq_some'.mp hf.symm
      simp_all
    · simp [hid, h.2 id]
  · have hn : firstSeen seen dev.id = none := by simpa using hf.symm
    by_cases hid : dev.id = id
    · subst hid
      simp [hn, h.1]
    · simp [hid, Function.update_noteq (Ne.symm hid), h.2 id]

theorem isSome_addDevice (w : IOWorker Stat) (dev : Device) :
    ((DiskRates.addDevice w dev).devices dev.id).isSome := by
  unfold DiskRates.addDevice
  split <;> simp_all

def entries (sensors : List (DiskIOSensor Stat)) : Option (Stat → UInt64) → List (Option (DiskIOSensor Stat))
  | none => List.replicate 4 none
  | some _ => sensors.map some

theorem Tracks.updateDevice {b : Nat} {seen : List Device} {w : IOWorker Stat} (h : Tracks b seen w)
    {dev : Device} {ss : List (DiskIOSensor Stat)} (hs : w.devices dev.id = some ss)
    (stats : Option (Stat → UInt64)) (delta : Nat) :
    ∃ out w', DiskRates.updateDevice w dev stats delta = some (out, w') ∧ Tracks b seen w' ∧
      out.map (Option.map built) = entries (ss.map built) stats := by
  cases stats with
  | none =>
    refine ⟨_, _, by simp [DiskRates.updateDevice, hs]; rfl, h, ?_⟩
    simp [entries, h.slots]
  | some st =>
    have hslots : DiskRates.totalSlots w = List.replicate (ss.map (·.update st delta)).length none := by
      simp [h.slots, h.length hs]
    refine ⟨_, { w with devices := Function.update w.devices dev.id (some (ss.map (·.update st delta))) },
      by simp only [DiskRates.updateDevice, hs, hslots, assignFrom_slots]; rfl, ⟨h.1, fun id => ?_⟩, ?_⟩
    · by_cases hid : id = dev.id
      · subst hid
        rw [← h.2]
        simp [hs, Function.comp_def]
      · simp [Function.update_noteq hid, h.2 id]
    · simp [entries, Function.comp_def]

theorem Tracks.updateTotals {b : Nat} {seen : List Device} {w : IOWorker Stat} (h : Tracks b seen w)
    (totals : Stat → UInt64) (delta : Nat) :
    ∃ ts w', DiskRates.updateTotals w totals delta = some (ts, w') ∧ Tracks b seen w' ∧
      ts.map (Option.map built) = (newDeviceSensors b totalDevice).map some := by
  obtain ⟨ts, hts, hb⟩ := h.total
  have hslots : DiskRates.totalSlots w = List.replicate (ts.map (·.update totals delta)).length none := by
    simp [h.slots, h.length hts]
  refine ⟨_, { w with devices := Function.update w.devices "total" (some (ts.map (·.update totals delta))) },
    by simp only [DiskRates.updateTotals, hts, hslots, assignFrom_slots]; rfl, ⟨h.1, fun id => ?_⟩, ?_⟩
  · by_cases hid : id = "total"
    · subst hid
      rw [← h.2]
      simp [hts, Function.comp_def]
    · simp [Function.update_noteq hid, h.2 id]
  · simp [← hb, Function.comp_def]

def readEntries (b : Nat) (seen : List Device) : List (DeviceRead Stat) → List (Option (DiskIOSensor Stat))
  | [] => []
  | .error _ :: rest => readEntries b seen rest
  | .ok (dev, stats) :: rest =>
    entries (newDeviceSensors b ((firstSeen seen dev.id).getD dev)) stats ++ readEntries b seen rest

theorem firstSeen_of_isSome {seen : List Device} {id : String} {d : Device}
    (h : firstSeen seen id = some d) (more : List Device) : firstSeen (seen ++ more) id = some d := by
  simp [firstSeen_append, h]

theorem Tracks.sensorsLoop {b : Nat} {seen : List Device} {w : IOWorker Stat} (h : Tracks b seen w)
    (delta : Nat) (reads : List (DeviceRead Stat)) (out : List (Option (DiskIOSensor Stat)))
    (totals : Stat → UInt64) :
    ∃ w' out' totals', DiskRates.sensorsLoop delta reads (w, out, totals) = some (w', out ++ out', totals') ∧
      Tracks b (seen ++ readDevices reads) w' ∧
      out'.map (Option.map built) = readEntries b (seen ++ readDevices reads) reads := by
  induction reads generalizing seen w out totals with
  | nil => exact ⟨w, [], totals, by simp [DiskRates.sensorsLoop], by simpa [readDevices] using h, rfl⟩
  | cons r rest ih =>
    rcases r with e | ⟨dev, stats⟩
    · simpa [DiskRates.sensorsLoop, readDevices, readEntries] using ih h out totals
    have h1 := h.addDevice dev
    obtain ⟨ss, hss⟩ := Option.isSome_iff_exists.mp (isSome_addDevice w dev)
    obtain ⟨d, hd, hb⟩ := Option.map_eq_some'.mp ((h1.2 dev.id).symm.trans (by rw [hss]; rfl))
    obtain ⟨sensors, w2, hu, h2, he⟩ := h1.updateDevice hss stats delta
    obtain ⟨w', out', totals', hl, h', he'⟩ := ih h2 (out ++ sensors)
      (if isAggregate dev.id then totals else addStats totals stats)
    have hf : firstSeen (seen ++ dev :: readDevices rest) dev.id = some d := by
      simpa using firstSeen_of_isSome hd (readDevices rest)
    refine ⟨w', sensors ++ out', totals', by simp [DiskRates.sensorsLoop, hu, hl], by
      simpa [readDevices] using h', ?_⟩
    simp only [readDevices, List.append_assoc, List.singleton_append] at he' ⊢
    rw [List.map_append, he, show ss.map built = newDeviceSensors b d from hb.symm, he', readEntries, hf]
    rfl

def namesDevices : Except String (List (DeviceRead Stat)) → List Device
  | .error _ => []
  | .ok reads => readDevices reads

def expectedOut (b : Nat) (seen : List Device) :
    Except String (List (DeviceRead Stat)) → Except String (List (Option (DiskIOSensor Stat)))
  | .error e => .error ("could not fetch disk devices: " ++ e)
  | .ok reads => .ok (readEntries b (seen ++ readDevices reads) reads ++ (newDeviceSensors b totalDevice).map some)

def forget (out : Except String (List (Option (DiskIOSensor Stat)))) :
    Except String (List (Option (DiskIOSensor Stat))) :=
  out.map (·.map (Option.map built))

theorem Tracks.sensors {b : Nat} {seen : List Device} {w : IOWorker Stat} (h : Tracks b seen w)
    (delta : Nat) (names : Except String (List (DeviceRead Stat))) :
    ∃ out w', DiskRates.sensors delta w names = some (out, w') ∧ Tracks b (seen ++ namesDevices names) w' ∧
      forget out = expectedOut b seen names := by
  cases names with
  | error e => exact ⟨_, w, rfl, by simpa [namesDevices] using h, rfl⟩
  | ok reads =>
    obtain ⟨w1, out1, totals, hl, h1, he⟩ := h.sensorsLoop delta reads [] (fun _ => 0)
    obtain ⟨ts, w2, ht, h2, hts⟩ := h1.updateTotals totals delta
    refine ⟨_, w2, by simp [DiskRates.sensors, hl, ht]; rfl, h2, ?_⟩
    simp [forget, expectedOut, Except.map, he, hts]

def expectedOuts (b : Nat) :
    List Device → List (Nat × Except String (List (DeviceRead Stat))) →
      List (Except String (List (Option (DiskIOSensor Stat))))
  | _, [] => []
  | seen, (_, names) :: calls =>
    expectedOut b seen names :: expectedOuts b (seen ++ namesDevices names) calls

def callDevices : List (Nat × Except String (List (DeviceRead Stat))) → List Device
  | [] => []
  | (_, names) :: calls => namesDevices names ++ callDevices calls

theorem Tracks.runSensors {b : Nat} {seen : List Device} {w : IOWorker Stat} (h : Tracks b seen w)
    (calls : List (Nat × Except String (List (DeviceRead Stat)))) :
    ∃ w' outs, DiskRates.runSensors w calls = some (w', outs) ∧ Tracks b (seen ++ callDevices calls) w' ∧
      outs.map forget = expectedOuts b seen calls := by
  induction calls generalizing seen w with
  | nil => exact ⟨w, [], rfl, by simpa [callDevices] using h, rfl⟩
  | cons c calls ih =>
    obtain ⟨delta, names⟩ := c
    obtain ⟨out, w1, hs, h1, ho⟩ := h.sensors delta names
    obtain ⟨w', outs, hr, h', hos⟩ := ih h1
    exact ⟨w', out :: outs, by simp [DiskRates.runSensors, hs, hr], by simpa [callDevices] using h',
      by simp [expectedOuts, ho, hos]⟩

/-- From `NewIOWorker`, over any sequence of `Sensors` calls: no slice assignment
panics, every tracked id holds the four sensors built for the device it was
first seen with (and "total" is tracked from the start), and each call returns
four entries per device read without error, in order, the device's own sensors
when its stats are non-nil, then the four total sensors. -/
theorem ioWorker_tracks_devices (errInvalidCtx : String) (b : Nat)
    (calls : List (Nat × Except String (List (DeviceRead Stat)))) :
    ∃ w₀ w outs, newIOWorker errInvalidCtx (some b) = .ok w₀ ∧ DiskRates.runSensors w₀ calls = some (w, outs) ∧
      Tracks b (callDevices calls) w ∧ outs.map forget = expectedOuts b [] calls := by
  obtain ⟨w₀, hw, h⟩ := @tracks_newIOWorker Stat errInvalidCtx b
  obtain ⟨w, outs, hr, h', ho⟩ := h.runSensors calls
  exact ⟨w₀, w, outs, hw, hr, h', ho⟩

def countedStats : List (DeviceRead Stat) → List (Stat → UInt64)
  | [] => []
  | .error _ :: rest => countedStats rest
  | .ok (dev, stats) :: rest =>
    if dev.id.startsWith "dm" || dev.id.startsWith "md" then countedStats rest
    else stats.toList ++ countedStats rest

theorem toNat_mod_size (a : UInt64) : a.toNat % UInt64.size = a.toNat := Nat.mod_eq_of_lt a.toNat_lt_size

theorem addStats_toNat (totals : Stat → UInt64) (stats : Option (Stat → UInt64)) (k : Stat) :
    (addStats totals stats k).toNat = ((totals k).toNat + (stats.toList.map fun st => (st k).toNat).sum) % UInt64.size := by
  cases stats with
  | none => simpa [addStats] using (toNat_mod_size _).symm
  | some st => simp [addStats]; rfl

theorem sensorsLoop_totals {delta : Nat} {reads : List (DeviceRead Stat)} {w w' : IOWorker Stat}
    {out out' : List (Option (DiskIOSensor Stat))} {totals totals' : Stat → UInt64}
    (h : DiskRates.sensorsLoop delta reads (w, out, totals) = some (w', out', totals')) (k : Stat) :
    (totals' k).toNat = ((totals k).toNat + ((countedStats reads).map fun st => (st k).toNat).sum) % UInt64.size := by
  induction reads generalizing w out totals with
  | nil =>
    cases h
    simpa [countedStats] using (toNat_mod_size _).symm
  | cons r rest ih =>
    rcases r with e | ⟨dev, stats⟩
    · exact ih h
    simp only [DiskRates.sensorsLoop] at h
    split at h
    · cases h
    rw [ih h, countedStats]
    by_cases hb : isAggregate dev.id = true
    · simp only [isAggregate] at hb ⊢
      simp [hb]
    · simp only [isAggregate, Bool.or_eq_true, not_or, Bool.not_eq_true] at hb ⊢
      simp only [hb, Bool.false_eq_true, or_self, if_false, addStats_toNat, List.map_append,
        List.sum_append, Nat.mod_add_mod, Nat.add_assoc]

inductive Reachable : IOWorker Stat → Prop
  | init (errInvalidCtx : String) (b : Nat) {w : IOWorker Stat} :
      newIOWorker errInvalidCtx (some b) = .ok w → Reachable w
  | step {w w' : IOWorker Stat} {delta : Nat} {names : Except String (List (DeviceRead Stat))}
      {out : Except String (List (Option (DiskIOSensor Stat)))} :
      Reachable w → DiskRates.sensors delta w names = some (out, w') → Reachable w'

theorem Reachable.tracks {w : IOWorker Stat} (h : Reachable w) : ∃ b seen, Tracks b seen w := by
  induction h with
  | init e b hw =>
    obtain ⟨w₀, hw₀, ht⟩ := @tracks_newIOWorker Stat e b
    rw [hw] at hw₀
    cases hw₀
    exact ⟨b, [], ht⟩
  | step _ hs ih =>
    obtain ⟨b, seen, ht⟩ := ih
    obtain ⟨out, w', hs', ht', -⟩ := ht.sensors _ _
    rw [hs] at hs'
    cases hs'
    exact ⟨b, _, ht'⟩

/-- In every reachable worker, the loop of `Sensors` finishes, and the totals it
hands to `updateTotals` hold, for each stat, the sum modulo 2^64 of that stat
over the counted reads. -/
theorem sensors_totals {w : IOWorker Stat} (hw : Reachable w) (delta : Nat)
    (reads : List (DeviceRead Stat)) :
    ∃ w' out totals, DiskRates.sensorsLoop delta reads (w, [], fun _ => 0) = some (w', out, totals) ∧
      DiskRates.sensors delta w (.ok reads) =
        (DiskRates.updateTotals w' totals delta).map (fun (ts, w) => (.ok (out ++ ts), w)) ∧
      ∀ k, (totals k).toNat = ((countedStats reads).map fun st => (st k).toNat).sum % UInt64.size := by
  obtain ⟨b, seen, ht⟩ := hw.tracks
  obtain ⟨w', out, totals, hl, -, -⟩ := ht.sensorsLoop delta reads [] (fun _ => 0)
  refine ⟨w', out, totals, by simpa using hl, by simp [DiskRates.sensors, hl], fun k => ?_⟩
  simpa using sensorsLoop_totals hl k

def bootWorker : IOWorker Nat :=
  ⟨0, Function.update (fun _ => none) "total" (some (newDeviceSensors 0 totalDevice))⟩

def sampleReads : List (DeviceRead Nat) :=
  [.ok (⟨"sda", []⟩, some fun _ => 5), .ok (⟨"dm-0", []⟩, some fun _ => 7), .error "no such device"]

theorem sensors_totals_at_boot :
    Reachable bootWorker ∧
    ∃ w' out totals, DiskRates.sensorsLoop 5 sampleReads (bootWorker, [], fun _ => 0) = some (w', out, totals) ∧
      DiskRates.sensors 5 bootWorker (.ok sampleReads) =
        (DiskRates.updateTotals w' totals 5).map (fun (ts, w) => (.ok (out ++ ts), w)) ∧
      ∀ k, (totals k).toNat = ((countedStats sampleReads).map fun st => (st k).toNat).sum % UInt64.size :=
  ⟨.init "invalid context" 0 rfl, sensors_totals (.init "invalid context" 0 rfl) 5 sampleReads⟩

end HassAgent.DiskRatesInvariant
