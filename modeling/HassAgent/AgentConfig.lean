import Mathlib.Logic.Function.Basic
import HassAgent.Config

/-!
# The Fyne-backed agent config

`agentConfig` reads and writes the Fyne preferences. `Get` reads a key with the
fallback "NOTSET" and reports the fallback as an unset key, so a value that is
itself "NOTSET" cannot be read back. `ValidateConfig` is the older copy of the
config package's check, over this `Get`. The URL helpers drop the error of
`url.Parse` and then call methods on the nil URL it returns, which panics.
-/

set_option autoImplicit false

namespace HassAgent.AgentConfig

open HassAgent.Config (Check validateKey nilURLPanic)
open HassAgent.SaveRegistration (UrlLib)

def prefApiURL : String := "ApiURL"
def prefWebsocketURL : String := "WebSocketURL"
def prefToken : String := "Token"
def prefWebhookID : String := "WebhookID"

def prefString (prefs : String → Option String) (key : String) : String := (prefs key).getD ""

def get (prefs : String → Option String) (key : String) : Except String String :=
  let value := (prefs key).getD "NOTSET"
  if value = "NOTSET" then .error "key not set" else .ok value

def set (prefs : String → Option String) (key value : String) : String → Option String :=
  Function.update prefs key (some value)

/-! ## `ValidateConfig` -/

def checks : List Check :=
  [⟨prefApiURL, [.required, .url], "apiURL does not match either a URL, hostname or hostname:port"⟩,
   ⟨prefWebsocketURL, [.required, .url],
     "websocketURL does not match either a URL, hostname or hostname:port"⟩,
   ⟨prefToken, [.required, .ascii], "invalid long-lived token format"⟩,
   ⟨prefWebhookID, [.required, .ascii], "invalid webhookID format"⟩]

def validate (isURL : String → Bool) (c : String → Except String String) :
    Check → Except String Unit :=
  validateKey (fun key _ => "unable to retrieve " ++ key ++ " from config") id isURL c

def validateConfig (isURL : String → Bool) (c : String → Except String String) :
    Except String Unit :=
  checks.forM (validate isURL c)

/-! ## The URL helpers -/

section urls

variable {U : Type} (L : UrlLib U)

def generateWebsocketURL (prefs : String → Option String) : Except String (String → Option String) :=
  match L.parse (prefString prefs "Host") with
  | .error _ => .error nilURLPanic
  | .ok url =>
    let url := L.withScheme url (if L.scheme url = "https" then "wss" else "ws")
    .ok (set prefs prefWebsocketURL (L.string (L.joinPath url ["/api/websocket"])))

def generateAPIURL (prefs : String → Option String) : Except String (String → Option String) :=
  let cloudhookURL := prefString prefs "CloudhookURL"
  let remoteUIURL := prefString prefs "RemoteUIURL"
  let webhookID := prefString prefs prefWebhookID
  let host := prefString prefs "Host"
  let apiURL : Except String String :=
    if cloudhookURL ≠ "" then .ok cloudhookURL
    else if remoteUIURL ≠ "" ∧ webhookID ≠ "" then .ok (remoteUIURL ++ "/api/webhook/" ++ webhookID)
    else if webhookID ≠ "" ∧ host ≠ "" then
      match L.parse host with
      | .error _ => .error nilURLPanic
      | .ok url => .ok (L.string (L.joinPath url ["/api/webhook/", webhookID]))
    else .ok ""
  apiURL.map fun apiURL => set prefs "ApiURL" apiURL

end urls

end HassAgent.AgentConfig
