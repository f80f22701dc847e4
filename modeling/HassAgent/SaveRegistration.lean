import HassAgent.NetUrl

/-!
# Saving a registration

`saveRegistration` points the agent's preferences at the `Hass` record of the
registration response, sets its `IgnoreHassURLs`, and then fills in the REST
and websocket URLs, marks the agent registered and saves, in that order. Each
failing step returns at once, and nothing that was written before it is undone.
The URL helpers use `net/url` through `UrlLib`; `goURL` is the model of
`HassAgent.NetUrl`.

`checkRegistration` returns its error, the preferences it leaves and what it
reset (`trk.Reset`, `registry.Reset`); `none` is the nil-pointer panic of
reading `IgnoreHassURLs` when the preferences hold no `Hass` block. Its
parameters stand for code outside this function: `isDefault` is
`Registration.IsDefault`, `displayRegistrationWindow` what the user enters in
the registration window, `registerDevice` the answer of `hass.RegisterDevice`,
and `save` is `Preferences.Save`.
-/

set_option autoImplicit false

namespace HassAgent.SaveRegistration

structure Hass where
  cloudhookURL : String
  remoteUIURL : String
  webhookID : String
  restAPIURL : String
  websocketURL : String
  ignoreHassURLs : Bool
  deriving DecidableEq, Repr

structure Registration where
  server : String
  token : String
  deriving DecidableEq, Repr

structure Preferences where
  registration : Registration
  hass : Option Hass
  registered : Bool
  deriving DecidableEq, Repr

structure UrlLib (U : Type) where
  parse : String → Except String U
  scheme : U → String
  withScheme : U → String → U
  joinPath : U → List String → U
  string : U → String

section

variable {U : Type} (L : UrlLib U) (webHookPath websocketPath : String)

def generateAPIURL (server : String) (prefs : Hass) : Except String String :=
  if prefs.cloudhookURL ≠ "" ∧ !prefs.ignoreHassURLs then .ok prefs.cloudhookURL
  else if prefs.remoteUIURL ≠ "" ∧ prefs.webhookID ≠ "" ∧ !prefs.ignoreHassURLs then
    .ok (prefs.remoteUIURL ++ webHookPath ++ prefs.webhookID)
  else
    match L.parse server with
    | .error e => .error ("unable to generate API URL: " ++ e)
    | .ok apiURL => .ok (L.string (L.joinPath apiURL [webHookPath, prefs.webhookID]))

def websocketScheme (scheme : String) : String :=
  if scheme = "https" then "wss"
  else if scheme = "http" then "ws"
  else if scheme = "wss" then "wss"
  else "ws"

def generateWebsocketURL (host : String) : Except String String :=
  match L.parse host with
  | .error e => .error ("unable to generate websocket URL: " ++ e)
  | .ok websocketURL =>
    let websocketURL := L.withScheme websocketURL (websocketScheme (L.scheme websocketURL))
    .ok (L.string (L.joinPath websocketURL [websocketPath]))

variable (save : Preferences → Except String Unit)

def saveRegistration (hassPrefs : Hass) (ignoreURLs : Bool) (prefs : Preferences) :
    Except String Unit × Preferences :=
  let hass := { hassPrefs with ignoreHassURLs := ignoreURLs }
  match generateAPIURL L webHookPath prefs.registration.server hass with
  | .error e => (.error ("unable to save registration: " ++ e), { prefs with hass := some { hass with restAPIURL := "" } })
  | .ok apiURL =>
    let hass := { hass with restAPIURL := apiURL }
    match generateWebsocketURL L websocketPath prefs.registration.server with
    | .error e =>
      (.error ("unable to save registration: " ++ e), { prefs with hass := some { hass with websocketURL := "" } })
    | .ok wsURL =>
      let prefs := { prefs with hass := some { hass with websocketURL := wsURL }, registered := true }
      match save prefs with
      | .error e => (.error ("unable to save preferences: " ++ e), prefs)
      | .ok () => (.ok (), prefs)

/-- The preferences `saveRegistration` leaves: `Hass` is the response's record
with `IgnoreHassURLs` set and whatever URLs were generated before a failure;
`Registered` is set once both URLs are generated, and `Save` decides the error. -/
theorem saveRegistration_outcome (hassPrefs : Hass) (ignoreURLs : Bool) (prefs : Preferences) :
    let hass := { hassPrefs with ignoreHassURLs := ignoreURLs }
    let server := prefs.registration.server
    let r := saveRegistration L webHookPath websocketPath save hassPrefs ignoreURLs prefs
    (∀ e, generateAPIURL L webHookPath server hass = .error e →
      r = (.error ("unable to save registration: " ++ e),
        { prefs with hass := some { hass with restAPIURL := "" } })) ∧
    (∀ apiURL e, generateAPIURL L webHookPath server hass = .ok apiURL →
      generateWebsocketURL L websocketPath server = .error e →
      r = (.error ("unable to save registration: " ++ e),
        { prefs with hass := some { hass with restAPIURL := apiURL, websocketURL := "" } })) ∧
    (∀ apiURL wsURL, generateAPIURL L webHookPath server hass = .ok apiURL →
      generateWebsocketURL L websocketPath server = .ok wsURL →
      r.2 = { prefs with
        hass := some { hass with restAPIURL := apiURL, websocketURL := wsURL }, registered := true } ∧
      (r.1 = .ok () ↔ save r.2 = .ok ())) := by
  refine ⟨fun e he => by simp [saveRegistration, he], fun a e ha he => by simp [saveRegistration, ha, he],
    fun a w ha hw => ?_⟩
  simp only [saveRegistration, ha, hw]
  split <;> simp_all

theorem saveRegistration_registered (hassPrefs : Hass) (ignoreURLs : Bool) (prefs : Preferences)
    (h : (saveRegistration L webHookPath websocketPath save hassPrefs ignoreURLs prefs).1 = .ok ()) :
    (saveRegistration L webHookPath websocketPath save hassPrefs ignoreURLs prefs).2.registered = true := by
  simp only [saveRegistration] at *
  cases ha : generateAPIURL L webHookPath prefs.registration.server { hassPrefs with ignoreHassURLs := ignoreURLs } <;>
    simp only [ha] at h ⊢
  · simp at h
  cases hw : generateWebsocketURL L websocketPath prefs.registration.server <;> simp only [hw] at h ⊢
  · simp at h
  split <;> rfl

structure Agent where
  prefs : Preferences
  headless : Bool
  forceRegister : Bool

inductive Effect where
  | trackerReset
  | registryReset
  deriving DecidableEq, Repr

def registrationPrefs (isDefault : Registration → Bool) (displayRegistrationWindow : Preferences → Preferences)
    (agent : Agent) : Preferences :=
  if !agent.headless ∧ isDefault agent.prefs.registration then displayRegistrationWindow agent.prefs
  else agent.prefs

def checkRegistration (isDefault : Registration → Bool) (displayRegistrationWindow : Preferences → Preferences)
    (registerDevice : Registration → Except String Hass) (agent : Agent) :
    Option (Except String Unit × Preferences × List Effect) :=
  if agent.prefs.registered ∧ !agent.forceRegister then some (.ok (), agent.prefs, [])
  else
    let prefs := registrationPrefs isDefault displayRegistrationWindow agent
    match registerDevice prefs.registration with
    | .error err => some (.error ("device registration failed: " ++ err), prefs, [])
    | .ok registrationDetails =>
      match prefs.hass with
      | none => none
      | some hass =>
        match saveRegistration L webHookPath websocketPath save registrationDetails hass.ignoreHassURLs prefs with
        | (.error err, prefs) => some (.error ("saving registration failed: " ++ err), prefs, [])
        | (.ok (), prefs) =>
          if agent.forceRegister then some (.ok (), prefs, [.trackerReset, .registryReset])
          else some (.ok (), prefs, [])

theorem checkRegistration_eq_ok (isDefault : Registration → Bool)
    (displayRegistrationWindow : Preferences → Preferences) (registerDevice : Registration → Except String Hass)
    (agent : Agent) (prefs : Preferences) (effects : List Effect)
    (h : checkRegistration L webHookPath websocketPath save isDefault displayRegistrationWindow registerDevice
      agent = some (.ok (), prefs, effects)) :
    (agent.prefs.registered = true ∧ agent.forceRegister = false ∧ prefs = agent.prefs ∧ effects = []) ∨
    ∃ (details : Hass) (hass : Hass), saveRegistration L webHookPath websocketPath save details hass.ignoreHassURLs
        (registrationPrefs isDefault displayRegistrationWindow agent) = (.ok (), prefs) ∧
      effects = if agent.forceRegister then [.trackerReset, .registryReset] else [] := by
  unfold checkRegistration at h
  split at h
  · rename_i hr
    cases h
    exact .inl ⟨hr.1, by simpa using hr.2, rfl, rfl⟩
  generalize registrationPrefs isDefault displayRegistrationWindow agent = p at h
  cases hreg : registerDevice p.registration with
  | error err => simp [hreg] at h
  | ok details =>
    cases hh : p.hass with
    | none => simp [hreg, hh] at h
    | some hass =>
      rcases hs : saveRegistration L webHookPath websocketPath save details hass.ignoreHassURLs p with
        ⟨_ | ⟨⟩, prefs'⟩ <;> simp only [hreg, hh, hs] at h
      · cases h
      · refine .inr ⟨details, hass, ?_⟩
        split at h <;> cases h <;> simp_all

theorem registered_of_checkRegistration (isDefault : Registration → Bool)
    (displayRegistrationWindow : Preferences → Preferences) (registerDevice : Registration → Except String Hass)
    (agent : Agent) (prefs : Preferences) (effects : List Effect)
    (h : checkRegistration L webHookPath websocketPath save isDefault displayRegistrationWindow registerDevice
      agent = some (.ok (), prefs, effects)) :
    prefs.registered = true := by
  rcases checkRegistration_eq_ok L webHookPath websocketPath save isDefault displayRegistrationWindow
    registerDevice agent prefs effects h with ⟨hr, -, rfl, -⟩ | ⟨details, hass, hs, -⟩
  · exact hr
  · have := saveRegistration_registered L webHookPath websocketPath save details hass.ignoreHassURLs _
      (congrArg Prod.fst hs)
    rwa [hs] at this

/-- When `checkRegistration` returns nil the agent is registered: it was already,
and not forced, or the new registration was saved; a forced registration resets
the tracker and the registry. -/
theorem checkRegistration_ok (isDefault : Registration → Bool)
    (displayRegistrationWindow : Preferences → Preferences) (registerDevice : Registration → Except String Hass)
    (agent : Agent) (prefs : Preferences) (effects : List Effect)
    (h : checkRegistration L webHookPath websocketPath save isDefault displayRegistrationWindow registerDevice
      agent = some (.ok (), prefs, effects)) :
    prefs.registered = true ∧ (agent.forceRegister = true ↔ effects = [.trackerReset, .registryReset]) := by
  refine ⟨registered_of_checkRegistration L webHookPath websocketPath save isDefault displayRegistrationWindow
    registerDevice agent prefs effects h, ?_⟩
  rcases checkRegistration_eq_ok L webHookPath websocketPath save isDefault displayRegistrationWindow
    registerDevice agent prefs effects h with ⟨-, hf, -, rfl⟩ | ⟨-, -, -, rfl⟩
  · simp [hf]
  · cases agent.forceRegister <;> simp

end

def goURL : UrlLib NetUrl.URL where
  parse := NetUrl.parse
  scheme u := u.scheme
  withScheme u scheme := { u with scheme }
  joinPath := NetUrl.URL.joinPath
  string := NetUrl.URL.string

def unregistered (server : String) : Preferences := ⟨⟨server, "token"⟩, none, false⟩

def responseHass : Hass := ⟨"", "", "webhook", "", "", false⟩

/-- A server address with a trailing newline fails `url.Parse`: the error comes
back with the response's `Hass` block already stored. With a good address and
a failing `Save`, the error comes back with the agent marked registered. -/
theorem saveRegistration_keeps_partial_writes :
    saveRegistration goURL "/api/webhook/" "/api/websocket" (fun _ => .ok ()) responseHass false
        (unregistered "http://hass.local:8123\n") =
      (.error "unable to save registration: unable to generate API URL: parse \"http://hass.local:8123\\n\": net/url: invalid control character in URL",
        ⟨⟨"http://hass.local:8123\n", "token"⟩, some responseHass, false⟩) ∧
    (saveRegistration goURL "/api/webhook/" "/api/websocket" (fun _ => .error "read-only file system")
        responseHass false (unregistered "http://hass.local:8123")).2.registered = true :=
  ⟨rfl, rfl⟩

def forcedAgent : Agent := ⟨⟨⟨"http://hass.local:8123", "token"⟩, some responseHass, true⟩, true, true⟩

def reregisteredPrefs : Preferences :=
  ⟨⟨"http://hass.local:8123", "token"⟩,
    some ⟨"", "", "webhook", "http://hass.local:8123/api/webhook/webhook",
      "ws://hass.local:8123/api/websocket", false⟩, true⟩

theorem checkRegistration_forced :
    checkRegistration goURL "/api/webhook/" "/api/websocket" (fun _ => .ok ()) (fun _ => false) id
        (fun _ => .ok responseHass) forcedAgent =
      some (.ok (), reregisteredPrefs, [.trackerReset, .registryReset]) ∧
    (reregisteredPrefs.registered = true ∧
      (forcedAgent.forceRegister = true ↔ [Effect.trackerReset, .registryReset] = [.trackerReset, .registryReset])) :=
  ⟨rfl, checkRegistration_ok goURL "/api/webhook/" "/api/websocket" (fun _ => .ok ()) (fun _ => false) id
    (fun _ => .ok responseHass) forcedAgent _ _ rfl⟩

end HassAgent.SaveRegistration
