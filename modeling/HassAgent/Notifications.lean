/-!
# The notifications websocket

`handleNotifications` answers Home Assistant on the notifications websocket. It
sends the long-lived token when the server asks for authentication, registers
the push notification channel under the webhook ID once authenticated, and
shows each event as a notification; nothing is kept from one response to the
next. Its `select` waits for a response or for cancellation. Its sends on
`request` stand outside the `select`, so while one waits for the websocket's
writer the handler sees neither responses nor cancellation. A receive from the
closed response channel gives nil, and reading the type of nil panics. A
failed `result` is only logged, its reconnect being commented out, and so is a
type the handler does not know.

What the handler is for is stated type by type, apart from the code's `switch`:
`requestsFor` gives the token for each `auth_required` and the push
notification channel under the webhook ID for each `auth_ok`, and
`notificationsFor` the title and message of each `event`. Every run is shown to
produce exactly these for the responses delivered in it.
-/

set_option autoImplicit false

namespace HassAgent.Notifications

structure WebsocketResponse where
  type : String
  title : String
  message : String
  deriving DecidableEq

structure Config where
  token : String
  webhookID : String
  deriving DecidableEq

inductive Request where
  | auth (type accessToken : String)
  | pushNotificationChannel (type : String) (id : Nat) (webhookID : String) (supportConfirm : Bool)
  deriving DecidableEq

structure Notification where
  title : String
  content : String
  deriving DecidableEq

inductive Reply where
  | send (req : Request)
  | notify (n : Notification)
  | ignore
  deriving DecidableEq

def reply (config : Config) (r : WebsocketResponse) : Reply :=
  match r.type with
  | "auth_required" => .send (.auth "auth" config.token)
  | "auth_ok" =>
    .send (.pushNotificationChannel "mobile_app/push_notification_channel" 1 config.webhookID false)
  | "result" => .ignore
  | "event" => .notify ⟨r.title, r.message⟩
  | _ => .ignore

def Reply.request? : Reply → Option Request
  | .send req => some req
  | .notify _ | .ignore => none

def Reply.notification? : Reply → Option Notification
  | .notify n => some n
  | .send _ | .ignore => none

/-! ## What the handler is for -/

def requestsFor (config : Config) (rs : List WebsocketResponse) : List Request :=
  rs.filterMap fun r =>
    if r.type = "auth_required" then some (.auth "auth" config.token)
    else if r.type = "auth_ok" then
      some (.pushNotificationChannel "mobile_app/push_notification_channel" 1 config.webhookID false)
    else none

def notificationsFor (rs : List WebsocketResponse) : List Notification :=
  (rs.filter (·.type = "event")).map fun r => ⟨r.title, r.message⟩

theorem request?_reply (config : Config) (r : WebsocketResponse) :
    (reply config r).request?.toList = requestsFor config [r] := by
  unfold reply requestsFor
  split <;> simp_all [Reply.request?]

theorem notification?_reply (config : Config) (r : WebsocketResponse) :
    (reply config r).notification?.toList = notificationsFor [r] := by
  unfold reply notificationsFor
  split <;> simp_all [Reply.notification?]

/-! ## The handler goroutine -/

inductive Pc where
  | selecting
  | sending (req : Request)
  | returned
  | panicked
  deriving DecidableEq

def Pc.pending : Pc → List Request
  | .sending req => [req]
  | .selecting | .returned | .panicked => []

structure Sys where
  ctxDone : Bool
  responseClosed : Bool
  pc : Pc
  written : List Request
  shown : List Notification
  deriving DecidableEq

def start (validConfig : Bool) : Sys :=
  ⟨false, false, if validConfig then .selecting else .returned, [], []⟩

inductive Event where
  -- the websocket's reader sends `r` and the `select` receives it
  | respond (r : WebsocketResponse)
  -- the websocket's writer receives the request the handler is sending
  | take
  | cancel
  -- the websocket's reader closes the response channel
  | closeResponses
  -- the `select` takes `ctx.Done()` and the handler returns
  | exit
  -- the `select` takes the receive on the closed channel: `r` is nil
  | recvClosed
  deriving DecidableEq

def Event.response? : Event → Option WebsocketResponse
  | .respond r => some r
  | .take | .cancel | .closeResponses | .exit | .recvClosed => none

def responses (es : List Event) : List WebsocketResponse := es.filterMap Event.response?

def handle (config : Config) (s : Sys) (r : WebsocketResponse) : Sys :=
  match reply config r with
  | .send req => { s with pc := .sending req }
  | .notify n => { s with shown := s.shown ++ [n] }
  | .ignore => s

def step (config : Config) (s : Sys) : Event → Option Sys
  | .respond r =>
    if s.pc = .selecting ∧ s.responseClosed = false then some (handle config s r) else none
  | .take =>
    match s.pc with
    | .sending req => some { s with pc := .selecting, written := s.written ++ [req] }
    | .selecting | .returned | .panicked => none
  | .cancel => some { s with ctxDone := true }
  | .closeResponses => if s.responseClosed = false then some { s with responseClosed := true } else none
  | .exit => if s.pc = .selecting ∧ s.ctxDone = true then some { s with pc := .returned } else none
  | .recvClosed =>
    if s.pc = .selecting ∧ s.responseClosed = true then some { s with pc := .panicked } else none

def run (config : Config) : Sys → List Event → Option Sys
  | s, [] => some s
  | s, e :: es => (step config s e).bind (run config · es)

/-! ## Every run answers the responses it received -/

theorem handle_output (config : Config) (s : Sys) (r : WebsocketResponse) (hs : s.pc = .selecting) :
    (handle config s r).written ++ (handle config s r).pc.pending =
      s.written ++ s.pc.pending ++ requestsFor config [r] ∧
    (handle config s r).shown = s.shown ++ notificationsFor [r] := by
  rw [← request?_reply, ← notification?_reply]
  cases h : reply config r <;> simp [handle, h, hs, Pc.pending, Reply.request?, Reply.notification?]

theorem step_output {config : Config} {s s' : Sys} {e : Event} (h : step config s e = some s') :
    s'.written ++ s'.pc.pending = s.written ++ s.pc.pending ++ requestsFor config e.response?.toList ∧
    s'.shown = s.shown ++ notificationsFor e.response?.toList := by
  cases e with
  | respond r =>
    simp only [step, Option.ite_none_right_eq_some, Option.some.injEq] at h
    obtain ⟨⟨hsel, -⟩, rfl⟩ := h
    exact handle_output config s r hsel
  | take =>
    simp only [step] at h
    split at h <;> cases h
    rename_i req hreq
    simp [hreq, Pc.pending, requestsFor, notificationsFor, Event.response?]
  | cancel => cases h; simp [requestsFor, notificationsFor, Event.response?]
  | closeResponses | exit | recvClosed =>
    simp only [step, Option.ite_none_right_eq_some, Option.some.injEq] at h
    obtain ⟨hg, rfl⟩ := h
    simp_all [Pc.pending, requestsFor, notificationsFor, Event.response?]

theorem run_output {config : Config} {s s' : Sys} {es : List Event} (h : run config s es = some s') :
    s'.written ++ s'.pc.pending = s.written ++ s.pc.pending ++ requestsFor config (responses es) ∧
    s'.shown = s.shown ++ notificationsFor (responses es) := by
  induction es generalizing s with
  | nil => cases h; simp [responses, requestsFor, notificationsFor]
  | cons e es ih =>
    simp only [run, Option.bind_eq_some] at h
    obtain ⟨t, ht, hr⟩ := h
    obtain ⟨hw, hs⟩ := step_output ht
    obtain ⟨hw', hs'⟩ := ih hr
    have hrs : responses (e :: es) = e.response?.toList ++ responses es := by
      cases e <;> rfl
    rw [hrs, requestsFor, notificationsFor, List.filterMap_append, List.filter_append, List.map_append]
    exact ⟨by rw [hw', hw, List.append_assoc]; rfl, by rw [hs', hs, List.append_assoc]; rfl⟩

structure Stopped (validConfig : Bool) (s : Sys) : Prop where
  returned : s.pc = .returned → s.ctxDone = true ∨ validConfig = false
  panicked : s.pc = .panicked → s.responseClosed = true

theorem stopped_step {config : Config} {validConfig : Bool} {s s' : Sys} {e : Event}
    (hs : Stopped validConfig s) (h : step config s e = some s') : Stopped validConfig s' := by
  obtain ⟨hr, hp⟩ := hs
  cases e with
  | respond r =>
    simp only [step, Option.ite_none_right_eq_some, Option.some.injEq] at h
    obtain ⟨⟨hsel, -⟩, rfl⟩ := h
    unfold handle
    split <;> exact ⟨by simp [hsel], by simp [hsel]⟩
  | take =>
    simp only [step] at h
    split at h <;> cases h
    exact ⟨by simp, by simp⟩
  | cancel => cases h; exact ⟨fun _ => .inl rfl, hp⟩
  | closeResponses =>
    simp only [step, Option.ite_none_right_eq_some, Option.some.injEq] at h
    obtain ⟨-, rfl⟩ := h
    exact ⟨hr, fun _ => rfl⟩
  | exit =>
    simp only [step, Option.ite_none_right_eq_some, Option.some.injEq] at h
    obtain ⟨⟨-, hd⟩, rfl⟩ := h
    exact ⟨fun _ => .inl hd, by simp⟩
  | recvClosed =>
    simp only [step, Option.ite_none_right_eq_some, Option.some.injEq] at h
    obtain ⟨⟨-, hc⟩, rfl⟩ := h
    exact ⟨by simp, fun _ => hc⟩

theorem stopped_run {config : Config} {validConfig : Bool} {s s' : Sys} {es : List Event}
    (hs : Stopped validConfig s) (h : run config s es = some s') : Stopped validConfig s' := by
  induction es generalizing s with
  | nil => cases h; exact hs
  | cons e es ih =>
    simp only [run, Option.bind_eq_some] at h
    obtain ⟨t, ht, hr⟩ := h
    exact ih (stopped_step hs ht) hr

theorem run_returned {config : Config} {s s' : Sys} {es : List Event} (hs : s.pc = .returned)
    (h : run config s es = some s') : s'.pc = .returned ∧ responses es = [] := by
  induction es generalizing s with
  | nil => cases h; exact ⟨hs, rfl⟩
  | cons e es ih =>
    simp only [run, Option.bind_eq_some] at h
    obtain ⟨t, ht, hr⟩ := h
    cases e with
    | respond r | exit | recvClosed => simp [step, hs] at ht
    | take => simp [step, hs] at ht
    | cancel => cases ht; exact ih (s := { s with ctxDone := true }) hs hr
    | closeResponses =>
      simp only [step, Option.ite_none_right_eq_some, Option.some.injEq] at ht
      obtain ⟨-, rfl⟩ := ht
      exact ih (s := { s with responseClosed := true }) hs hr

/-- In every run, whatever the order of responses, cancellation and the closing
of the response channel, the requests written, with the one being sent, are the
answers to the authentication messages among the responses delivered, in order,
and the notifications shown are the events among them, in order. The handler
returns only after cancellation, or at once without a config, in which case it
receives nothing; it panics only on a closed response channel. -/
theorem handleNotifications_refines (config : Config) (validConfig : Bool) (es : List Event) (s : Sys)
    (h : run config (start validConfig) es = some s) :
    s.written ++ s.pc.pending = requestsFor config (responses es) ∧
    s.shown = notificationsFor (responses es) ∧
    (s.pc = .returned → s.ctxDone = true ∨ validConfig = false) ∧
    (s.pc = .panicked → s.responseClosed = true) ∧
    (validConfig = false → s.pc = .returned ∧ responses es = []) := by
  have hstart : (start validConfig).written ++ (start validConfig).pc.pending = [] := by
    cases validConfig <;> rfl
  obtain ⟨hw, hs⟩ := run_output h
  have hst : Stopped validConfig (start validConfig) :=
    ⟨fun _ => .inr (by cases validConfig <;> simp_all [start]), fun hp => by cases validConfig <;> simp [start] at hp⟩
  obtain ⟨hr, hp⟩ := stopped_run hst h
  rw [hstart] at hw
  exact ⟨hw, hs, hr, hp, fun hv => run_returned (by simp [start, hv]) h⟩

def sampleConfig : Config := ⟨"long-lived-token", "webhook"⟩

def handshake : List Event :=
  [.respond ⟨"auth_required", "", ""⟩, .take, .respond ⟨"auth_ok", "", ""⟩, .take,
   .respond ⟨"event", "Hello", "from Home Assistant"⟩, .cancel, .exit]

def handshakeEnd : Sys :=
  ⟨true, false, .returned,
    [.auth "auth" "long-lived-token",
     .pushNotificationChannel "mobile_app/push_notification_channel" 1 "webhook" false],
    [⟨"Hello", "from Home Assistant"⟩]⟩

theorem handshake_translated :
    run sampleConfig (start true) handshake = some handshakeEnd ∧
    (handshakeEnd.written ++ handshakeEnd.pc.pending = requestsFor sampleConfig (responses handshake) ∧
      handshakeEnd.shown = notificationsFor (responses handshake) ∧
      (handshakeEnd.pc = .returned → handshakeEnd.ctxDone = true ∨ true = false) ∧
      (handshakeEnd.pc = .panicked → handshakeEnd.responseClosed = true) ∧
      (true = false → handshakeEnd.pc = .returned ∧ responses handshake = [])) :=
  ⟨rfl, handleNotifications_refines sampleConfig true handshake handshakeEnd rfl⟩

end HassAgent.Notifications
