import HassAgent.SaveRegistration

/-!
# Creating the agent and registering it

`NewAgent` loads the preferences, carries on when there are none yet, and
applies its options in order, each overwriting the fields it sets.
`WithRegistrationInfo` replaces the registration with the server and token it
is given and the whole `Hass` block with one holding only `IgnoreHassURLs`.
`Register` then runs `checkRegistration`, which reads that flag back and hands
it to `saveRegistration`. Once a registration is saved, an agent started later
without `ForceRegister` finds the preferences registered and does nothing.
`newAgent` takes what `preferences.Load` returned, an error other than
`ErrNoPreferences` being the error.
-/

set_option autoImplicit false

namespace HassAgent.Register

open HassAgent.SaveRegistration

inductive AgentOption where
  | headless (value : Bool)
  | withRegistrationInfo (server token : String) (ignoreURLs : Bool)
  | forceRegister (value : Bool)
  deriving DecidableEq

def AgentOption.apply : AgentOption → Agent → Agent
  | .headless value, a => { a with headless := value }
  | .withRegistrationInfo server token ignoreURLs, a =>
    { a with prefs := { a.prefs with registration := ⟨server, token⟩,
                                     hass := some ⟨"", "", "", "", "", ignoreURLs⟩ } }
  | .forceRegister value, a => { a with forceRegister := value }

def newAgent (load : Except String Preferences) (options : List AgentOption) : Except String Agent :=
  match load with
  | .error err => .error ("could not create agent: " ++ err)
  | .ok prefs => .ok (options.foldl (fun agent option => option.apply agent) ⟨prefs, false, false⟩)

def AgentOption.registrationInfo : AgentOption → Option (String × String × Bool)
  | .withRegistrationInfo server token ignoreURLs => some (server, token, ignoreURLs)
  | .headless _ | .forceRegister _ => none

theorem foldl_apply_prefs (post : List AgentOption) (a : Agent)
    (hpost : ∀ o ∈ post, o.registrationInfo = none) :
    (post.foldl (fun agent option => option.apply agent) a).prefs = a.prefs := by
  induction post generalizing a with
  | nil => rfl
  | cons o post ih =>
    rw [List.foldl_cons, ih _ fun o' ho' => hpost o' (List.mem_cons_of_mem _ ho')]
    have ho := hpost o (List.mem_cons_self _ _)
    cases o <;> first | rfl | simp [AgentOption.registrationInfo] at ho

theorem newAgent_prefs (load : Except String Preferences) (pre post : List AgentOption)
    (server token : String) (ignoreURLs : Bool) (agent : Agent)
    (hpost : ∀ o ∈ post, o.registrationInfo = none)
    (h : newAgent load (pre ++ .withRegistrationInfo server token ignoreURLs :: post) = .ok agent) :
    agent.prefs.registration = ⟨server, token⟩ ∧ agent.prefs.hass = some ⟨"", "", "", "", "", ignoreURLs⟩ := by
  cases load with
  | error err => cases h
  | ok prefs =>
    simp only [newAgent, Except.ok.injEq] at h
    subst h
    rw [List.foldl_append, List.foldl_cons, foldl_apply_prefs post _ hpost]
    exact ⟨rfl, rfl⟩

section

variable {U : Type} (L : UrlLib U) (webHookPath websocketPath : String)
  (save : Preferences → Except String Unit)

theorem saveRegistration_ignoreHassURLs (hassPrefs : Hass) (ignoreURLs : Bool) (prefs : Preferences) :
    ∃ hass, (saveRegistration L webHookPath websocketPath save hassPrefs ignoreURLs prefs).2.hass = some hass ∧
      hass.ignoreHassURLs = ignoreURLs := by
  dsimp only [saveRegistration]
  cases generateAPIURL L webHookPath prefs.registration.server { hassPrefs with ignoreHassURLs := ignoreURLs } with
  | error e => exact ⟨_, rfl, rfl⟩
  | ok apiURL =>
    cases generateWebsocketURL L websocketPath prefs.registration.server with
    | error e => exact ⟨_, rfl, rfl⟩
    | ok wsURL => dsimp only; split <;> exact ⟨_, rfl, rfl⟩

/-- The register command's agent: when the last registration option gives a
server and a token, and no registration window is shown, `checkRegistration`
never reaches the nil `Hass` panic, asks to register exactly that server and
token, and leaves preferences whose `Hass` block carries the URL choice of the
option, whatever Home Assistant answers. -/
theorem register_with_registration_info (isDefault : Registration → Bool)
    (displayRegistrationWindow : Preferences → Preferences) (registerDevice : Registration → Except String Hass)
    (load : Except String Preferences) (pre post : List AgentOption) (server token : String)
    (ignoreURLs : Bool) (agent : Agent)
    (hpost : ∀ o ∈ post, o.registrationInfo = none)
    (h : newAgent load (pre ++ .withRegistrationInfo server token ignoreURLs :: post) = .ok agent)
    (hwin : agent.headless = true ∨ isDefault ⟨server, token⟩ = false) :
    checkRegistration L webHookPath websocketPath save isDefault displayRegistrationWindow registerDevice agent =
      checkRegistration L webHookPath websocketPath save isDefault displayRegistrationWindow
        (fun _ => registerDevice ⟨server, token⟩) agent ∧
    ∃ r, checkRegistration L webHookPath websocketPath save isDefault displayRegistrationWindow registerDevice
        agent = some r ∧ ∃ hass, r.2.1.hass = some hass ∧ hass.ignoreHassURLs = ignoreURLs := by
  obtain ⟨hreg, hhass⟩ := newAgent_prefs load pre post server token ignoreURLs agent hpost h
  have hprefs : registrationPrefs isDefault displayRegistrationWindow agent = agent.prefs := by
    rw [registrationPrefs, if_neg (by rw [hreg]; rcases hwin with hw | hw <;> simp [hw])]
  unfold checkRegistration
  split
  · exact ⟨rfl, _, rfl, _, hhass, rfl⟩
  simp only [hprefs, hreg, true_and]
  cases registerDevice ⟨server, token⟩ with
  | error err => exact ⟨_, rfl, _, hhass, rfl⟩
  | ok details =>
    simp only [hhass]
    obtain ⟨hass, hh, hi⟩ := saveRegistration_ignoreHassURLs L webHookPath websocketPath save details
      ignoreURLs agent.prefs
    split <;> rename_i heq <;> rw [heq] at hh
    · exact ⟨_, rfl, hass, hh, hi⟩
    · split <;> exact ⟨_, rfl, hass, hh, hi⟩

/-- Registration happens once: when `checkRegistration` returns nil, an agent
started later on the preferences it left, and not forced, returns nil at once,
whatever its registration window and Home Assistant would do: it registers
nothing, resets nothing, and leaves the preferences as they are. -/
theorem checkRegistration_once (isDefault : Registration → Bool)
    (displayRegistrationWindow : Preferences → Preferences) (registerDevice : Registration → Except String Hass)
    (agent : Agent) (prefs : Preferences) (effects : List Effect)
    (h : checkRegistration L webHookPath websocketPath save isDefault displayRegistrationWindow registerDevice
      agent = some (.ok (), prefs, effects))
    (isDefault' : Registration → Bool) (displayRegistrationWindow' : Preferences → Preferences)
    (registerDevice' : Registration → Except String Hass) (headless : Bool) :
    checkRegistration L webHookPath websocketPath save isDefault' displayRegistrationWindow' registerDevice'
      ⟨prefs, headless, false⟩ = some (.ok (), prefs, []) := by
  have hr := registered_of_checkRegistration L webHookPath websocketPath save isDefault
    displayRegistrationWindow registerDevice agent prefs effects h
  simp [checkRegistration, hr]

end

def registerOptions : List AgentOption :=
  [.headless true, .withRegistrationInfo "http://hass.local:8123" "token" false, .forceRegister true]

def registerAgent : Agent :=
  ⟨⟨⟨"http://hass.local:8123", "token"⟩, some ⟨"", "", "", "", "", false⟩, false⟩, true, true⟩

theorem register_with_registration_info_forced :
    (∀ o ∈ [AgentOption.forceRegister true], o.registrationInfo = none) ∧
    newAgent (.ok (unregistered "")) registerOptions = .ok registerAgent ∧
    (registerAgent.headless = true ∨ (fun _ => false : Registration → Bool) ⟨"http://hass.local:8123", "token"⟩ = false) ∧
    (checkRegistration goURL "/api/webhook/" "/api/websocket" (fun _ => .ok ()) (fun _ => false) id
        (fun _ => .ok responseHass) registerAgent =
      checkRegistration goURL "/api/webhook/" "/api/websocket" (fun _ => .ok ()) (fun _ => false) id
        (fun _ => (fun _ => .ok responseHass : Registration → Except String Hass)
          ⟨"http://hass.local:8123", "token"⟩) registerAgent ∧
      ∃ r, checkRegistration goURL "/api/webhook/" "/api/websocket" (fun _ => .ok ()) (fun _ => false) id
          (fun _ => .ok responseHass) registerAgent = some r ∧
        ∃ hass, r.2.1.hass = some hass ∧ hass.ignoreHassURLs = false) :=
  ⟨by decide, rfl, .inl rfl,
    register_with_registration_info goURL "/api/webhook/" "/api/websocket" (fun _ => .ok ()) (fun _ => false) id
      (fun _ => .ok responseHass) (.ok (unregistered "")) [.headless true] [.forceRegister true]
      "http://hass.local:8123" "token" false registerAgent (by decide) rfl (.inl rfl)⟩

/-- After the forced registration, a later agent with a GUI whose Home
Assistant refuses the connection: it returns nil at once. -/
theorem checkRegistration_once_after_forced :
    checkRegistration goURL "/api/webhook/" "/api/websocket" (fun _ => .ok ()) (fun _ => false) id
        (fun _ => .ok responseHass) forcedAgent = some (.ok (), reregisteredPrefs, [.trackerReset, .registryReset]) ∧
    checkRegistration goURL "/api/webhook/" "/api/websocket" (fun _ => .ok ()) (fun _ => true) id
        (fun _ => .error "connection refused") ⟨reregisteredPrefs, false, false⟩ =
      some (.ok (), reregisteredPrefs, []) :=
  ⟨rfl, checkRegistration_once goURL "/api/webhook/" "/api/websocket" (fun _ => .ok ()) (fun _ => false) id
    (fun _ => .ok responseHass) forcedAgent _ _ rfl (fun _ => true) id (fun _ => .error "connection refused") false⟩

end HassAgent.Register
