import Mathlib.Data.List.Nodup
import HassAgent.SaveRegistration

/-!
# Loading, upgrading and validating the agent config

`New` opens the Viper config and, for a registered agent, runs `UpgradeConfig`
and then `ValidateConfig`. `ValidateConfig` reads four keys in turn and runs the
validator's rules on each, returning the error of the first check that fails.
`UpgradeConfig` reads the version that last wrote the config and, for versions
before v5.0.0, migrates the Fyne preferences to Viper with `viperToFyne`, whose
loop walks a Go map and so visits the preferences in no fixed order. The
`semver.Compare` of `golang.org/x/mod` and the validator's `url` check are
parameters; the key constants of the Viper config are not in the source, and are
parameters too.

Each function returns Go's result with what it did outside: `upgradeConfig` the
calls it made (`viperToFyne`, the rename of the old registry, the setting of the
version), `viperToFyne` its writes to the Viper config, taking as `order` the
order in which its loop visits the `prefs` map. The URL helpers drop the error
of `url.Parse`, and the `.error` they return is the nil-pointer panic of the
method they then call on the nil URL.
-/

set_option autoImplicit false

namespace HassAgent.Config

/-! ## `ValidateConfig` -/

inductive Tag where
  | required
  | url
  | ascii
  deriving DecidableEq, Repr

def varOk (isURL : String → Bool) (value : String) (rules : List Tag) : Bool :=
  rules.all fun
    | .required => value ≠ ""
    | .url => isURL value
    | .ascii => value.toList.all fun c => c.toNat < 128

structure Check where
  key : String
  rules : List Tag
  errMsg : String
  deriving DecidableEq, Repr

def validateKey {ε : Type} (retrieveErr : String → String → ε) (formatErr : String → ε)
    (isURL : String → Bool) (get : String → Except String String) (check : Check) :
    Except ε Unit :=
  match get check.key with
  | .error err => .error (retrieveErr check.key err)
  | .ok value => if varOk isURL value check.rules then .ok () else .error (formatErr check.errMsg)

inductive ConfigError where
  | fileNotFound (msg : String)
  | invalidFormat (msg : String)
  | upgrade (msg : String)
  deriving DecidableEq, Repr

section viper

-- The key constants of the Viper config.
variable (prefAPIURL prefWebsocketURL prefToken prefWebhookID : String)

def checks : List Check :=
  [⟨prefAPIURL, [.required, .url], "apiURL does not match either a URL, hostname or hostname:port"⟩,
   ⟨prefWebsocketURL, [.required, .url],
     "websocketURL does not match either a URL, hostname or hostname:port"⟩,
   ⟨prefToken, [.required, .ascii], "invalid long-lived token format"⟩,
   ⟨prefWebhookID, [.required, .ascii], "invalid webhookID format"⟩]

def validate (isURL : String → Bool) (get : String → Except String String) :
    Check → Except ConfigError Unit :=
  validateKey (fun key err => .invalidFormat ("unable to retrieve " ++ key ++ " from config: " ++ err))
    .invalidFormat isURL get

def validateConfig (isURL : String → Bool) (get : String → Except String String) :
    Except ConfigError Unit :=
  (checks prefAPIURL prefWebsocketURL prefToken prefWebhookID).forM (validate isURL get)

end viper

/-! ## `UpgradeConfig` and `New` -/

inductive Call where
  | viperToFyne
  | rename (oldReg : String)
  | setVersion (version : String)
  deriving DecidableEq, Repr

structure UpgradeEnv where
  fyneVersion : Except String String
  viperVersion : Except String String
  migrate : Except String Unit
  oldReg : Except String String
  oldRegExists : Bool
  rename : Except String Unit

section upgrade

variable (compare : String → String → Int) (appVersion : String)

def configVersion (env : UpgradeEnv) : Except String String :=
  if compare appVersion "v5.0.0" < 0 then env.fyneVersion else env.viperVersion

def upgradeConfig (env : UpgradeEnv) : Except ConfigError Unit × List Call :=
  match configVersion compare appVersion env with
  | .error err => (.error (.fileNotFound err), [])
  | .ok configVersion =>
    if compare configVersion "v3.0.0" < 0 then
      (.error (.upgrade
        "cannot upgrade versions < v3.0.0. Please remove the config directory and start fresh to continue"),
        [])
    else if compare configVersion "v5.0.0" < 0 then
      match env.migrate with
      | .error err => (.error (.upgrade ("failed to migrate Fyne config to Viper\n" ++ err)), [.viperToFyne])
      | .ok () =>
        match env.oldReg with
        | .error _ => (.ok (), [.viperToFyne])
        | .ok oldReg =>
          if env.oldRegExists then
            match env.rename with
            | .error _ => (.ok (), [.viperToFyne, .rename oldReg])
            | .ok () => (.ok (), [.viperToFyne, .rename oldReg, .setVersion appVersion])
          else (.ok (), [.viperToFyne, .setVersion appVersion])
    else (.ok (), [.setVersion appVersion])

end upgrade

section new

variable (compare : String → String → Int) (appVersion : String)
  (prefAPIURL prefWebsocketURL prefToken prefWebhookID : String) (isURL : String → Bool)

def new (opened : Except String Unit) (registered : Bool) (env : UpgradeEnv)
    (get : String → Except String String) : Except String Unit :=
  match opened with
  | .error err => .error err
  | .ok () =>
    if registered then
      match (upgradeConfig compare appVersion env).1 with
      | .error (.invalidFormat _) | .error (.upgrade _) => .error "could not upgrade config"
      | _ =>
        match validateConfig prefAPIURL prefWebsocketURL prefToken prefWebhookID isURL get with
        | .error _ => .error "could not validate config"
        | .ok () => .ok ()
    else .ok ()

end new

/-! ## `viperToFyne` -/

structure Pref where
  fyne : String
  viper : String
  deriving DecidableEq, Repr

def prefs : List (String × Pref) :=
  [("PrefAPIURL", ⟨"ApiURL", "hass.apiurl"⟩),
   ("PrefWebsocketURL", ⟨"WebSocketURL", "hass.websocketurl"⟩),
   ("PrefCloudhookURL", ⟨"CloudhookURL", "hass.cloudhookurl"⟩),
   ("PrefRemoteUIURL", ⟨"RemoteUIURL", "hass.remoteuiurl"⟩),
   ("PrefToken", ⟨"Token", "hass.token"⟩),
   ("PrefWebhookID", ⟨"WebhookID", "hass.webhookid"⟩),
   ("PrefSecret", ⟨"secret", "hass.secret"⟩),
   ("PrefHost", ⟨"Host", "hass.host"⟩),
   ("PrefVersion", ⟨"Version", "agent.version"⟩),
   ("PrefDeviceName", ⟨"DeviceName", "device.name"⟩),
   ("PrefDeviceID", ⟨"DeviceID", "device.id"⟩)]

inductive StatResult where
  | found
  | notExist
  | failed (err : String)

inductive Value where
  | string (s : String)
  | bool (b : Bool)
  deriving DecidableEq, Repr

section migrate

/- `fyneGet` is `fc.Get` of a string, giving its error and the value it leaves;
`viperSet` gives the error of `vc.Set`. -/
variable (fyneGet : String → Option String × String) (viperSet : String → Value → Option String)

def migratePrefs : List Pref → List (String × Value) → Except String Unit × List (String × Value)
  | [], written => (.ok (), written)
  | m :: rest, written =>
    match fyneGet m.fyne with
    | (some err, value) =>
      if value ≠ "NOTSET" then (.error ("fyne config error\n" ++ err), written)
      else migratePrefs rest written
    | (none, value) =>
      if value ≠ "NOTSET" then
        match viperSet m.viper (.string value) with
        | some err => (.error ("viper config error\n" ++ err), written)
        | none => migratePrefs rest (written ++ [(m.viper, .string value)])
      else migratePrefs rest written

def viperToFyne (stat : StatResult) (opened : Except String Unit) (order : List Pref) :
    Except String Unit × List (String × Value) :=
  match stat with
  | .found => (.ok (), [])
  | .failed err => (.error ("filesystem error\n" ++ err), [])
  | .notExist =>
    match opened with
    | .error _ => (.error "could not open viper config", [])
    | .ok () =>
      let (result, written) := migratePrefs fyneGet viperSet order []
      match result with
      | .error err => (.error err, written)
      | .ok () =>
        match viperSet "hass.registered" (.bool true) with
        | some err => (.error err, written)
        | none => (.ok (), written ++ [("hass.registered", .bool true)])

def write (m : Pref) : Option (String × Value) :=
  match fyneGet m.fyne with
  | (some _, _) => none
  | (none, value) => if value ≠ "NOTSET" then some (m.viper, .string value) else none

end migrate

section urls

open HassAgent.SaveRegistration (UrlLib)

variable {U : Type} (L : UrlLib U)

def nilURLPanic : String := "runtime error: invalid memory address or nil pointer dereference"

def generateWebsocketURL (host : String) : String :=
  match L.parse host with
  | .error _ => ""
  | .ok baseURL =>
    if L.scheme baseURL = "https" then L.string (L.joinPath (L.withScheme baseURL "wss") ["/api/websocket"])
    else if L.scheme baseURL = "http" then
      L.string (L.joinPath (L.withScheme baseURL "ws") ["/api/websocket"])
    else ""

def generateAPIURL (host cloudhookURL remoteUIURL webhookID : String) : Except String String :=
  if cloudhookURL ≠ "" then .ok cloudhookURL
  else if remoteUIURL ≠ "" ∧ webhookID ≠ "" then
    match L.parse remoteUIURL with
    | .error _ => .error nilURLPanic
    | .ok baseURL => .ok (L.string (L.joinPath baseURL ["/api/webhook/", webhookID]))
  else if webhookID ≠ "" ∧ host ≠ "" then
    match L.parse host with
    | .error _ => .error nilURLPanic
    | .ok baseURL => .ok (L.string (L.joinPath baseURL ["/api/webhook/", webhookID]))
  else .ok ""

end urls

end HassAgent.Config
