/-!
# The MQTT publish loop and the closing of `Msgs()`

The goroutine of `runMQTTWorker` selects between a receive on the controller's
`Msgs()` channel, whose value it hands to `client.Publish`, and `ctx.Done()`.
The goroutine of `newOSController` closes the channel once the context is done.
A receive from the closed channel is ready at once and yields nil, and when two
cases are ready `select` picks either. Entities send on the unbuffered channel,
so a send completes together with the loop's receive.

Two events panic, and a panic in any goroutine ends the process:
a send on the closed channel, and a `Publish` of the nil message that fails,
since the warning logged for a failed `Publish` reads `msg.Topic`. A failed
`Publish` of a real message only logs, so it changes nothing here.
-/

set_option autoImplicit false

namespace HassAgent.MQTTPublish

variable {Msg : Type}

structure Sys (Msg : Type) where
  ctxDone : Bool
  msgsClosed : Bool
  looping : Bool
  crashed : Bool
  -- what the loop handed to `client.Publish`, in order
  published : List (Option Msg)
  deriving DecidableEq

def init : Sys Msg := ⟨false, false, true, false, []⟩

inductive Event (Msg : Type) where
  -- an entity sends `m`; on the open channel the loop receives it at once
  | send (m : Msg)
  | cancel
  -- `newOSController`'s goroutine wakes on `ctx.Done()` and closes `msgs`
  | closeMsgs
  -- the loop takes the receive case on the closed channel and `Publish(nil)` returns nil
  | recvClosed
  -- the same, but `Publish(nil)` returns an error
  | recvClosedFails
  -- the loop takes the `ctx.Done()` case and returns
  | exit

def step (s : Sys Msg) (e : Event Msg) : Option (Sys Msg) :=
  if s.crashed then none else
  match e with
  | .send m =>
    if s.msgsClosed then some { s with crashed := true }
    else if s.looping then some { s with published := s.published ++ [some m] }
    else none
  | .cancel => some { s with ctxDone := true }
  | .closeMsgs => if s.ctxDone ∧ s.msgsClosed = false then some { s with msgsClosed := true } else none
  | .recvClosed => if s.looping ∧ s.msgsClosed then some { s with published := s.published ++ [none] } else none
  | .recvClosedFails =>
    if s.looping ∧ s.msgsClosed then some { s with published := s.published ++ [none], crashed := true }
    else none
  | .exit => if s.looping ∧ s.ctxDone then some { s with looping := false } else none

def run : Sys Msg → List (Event Msg) → Option (Sys Msg)
  | s, [] => some s
  | s, e :: es => (step s e).bind (run · es)

/-- The context is cancelled, the goroutine of `newOSController` closes `msgs`,
and the loop's `select` takes the receive: `client.Publish` gets nil. -/
theorem nil_published_after_close :
    (run (init : Sys String) [.cancel, .closeMsgs, .recvClosed]).map (·.published) = some [none] := by
  decide

end HassAgent.MQTTPublish
