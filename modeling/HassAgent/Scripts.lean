import Mathlib.Data.List.Basic

/-!
# Scheduling script sensors

`runScripts` asks `FindScripts` for the scripts, gives up on an error or an
empty list, and otherwise walks the list: a script with a schedule is added to
the cron scheduler and its output channel kept for `trk.Process`. When
`AddJob` rejects a schedule the loop logs the script and `break`s, so no script
after it is scheduled. `accepts` is whether the cron parser of `AddJob` takes
a schedule, and `runScripts` gives `none` when it returns before making a
scheduler.
-/

set_option autoImplicit false

namespace HassAgent.Scripts

variable {Chan : Type}

structure Script (Chan : Type) where
  path : String
  schedule : String
  output : Chan
  deriving DecidableEq

structure Scheduled (Chan : Type) where
  jobs : List (Script Chan)
  outCh : List Chan
  deriving DecidableEq

variable (accepts : String → Bool)

def scheduleLoop : List (Script Chan) → Scheduled Chan → Scheduled Chan
  | [], acc => acc
  | script :: rest, acc =>
    if script.schedule ≠ "" then
      if accepts script.schedule then
        scheduleLoop rest ⟨acc.jobs ++ [script], acc.outCh ++ [script.output]⟩
      else acc
    else scheduleLoop rest acc

def runScripts (found : Except String (List (Script Chan))) : Option (Scheduled Chan) :=
  match found with
  | .error _ => none
  | .ok [] => none
  | .ok allScripts => some (scheduleLoop accepts allScripts ⟨[], []⟩)

def Schedulable (script : Script Chan) : Bool := script.schedule ≠ "" && accepts script.schedule

def Passes (script : Script Chan) : Bool := script.schedule = "" || accepts script.schedule

/-- The loop schedules the schedulable scripts before the first rejected
schedule, in order, and nothing after it. -/
theorem scheduleLoop_eq (scripts : List (Script Chan)) (acc : Scheduled Chan) :
    scheduleLoop accepts scripts acc =
      let kept := (scripts.takeWhile (Passes accepts)).filter (Schedulable accepts)
      ⟨acc.jobs ++ kept, acc.outCh ++ kept.map (·.output)⟩ := by
  induction scripts generalizing acc with
  | nil => simp [scheduleLoop]
  | cons script rest ih =>
    by_cases he : script.schedule = ""
    · simp [scheduleLoop, he, ih, Passes, Schedulable]
    · by_cases ha : accepts script.schedule
      · simp [scheduleLoop, he, ha, ih, Passes, Schedulable]
      · simp [scheduleLoop, he, ha, Passes]

/-- A rejected schedule followed by a good one: the second script is not
scheduled and its output never reaches `trk.Process`. -/
theorem rejected_schedule_blocks_later_scripts :
    runScripts (· = "@every 1m") (.ok [⟨"bad.sh", "not a schedule", 1⟩, ⟨"good.sh", "@every 1m", 2⟩]) =
      some ⟨[], []⟩ := by
  decide

end HassAgent.Scripts
