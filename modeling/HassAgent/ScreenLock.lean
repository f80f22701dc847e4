/-!
# The screen-lock signal handlers

Two versions of `ScreenLockUpdater` register a D-Bus handler. The login1 one
reads `s.Body[1]` and asserts it to `map[string]dbus.Variant` with the two-value
form, logging a body of another type; the ScreenSaver one asserts `s.Body[0]`
to `bool` with the one-value form. Indexing past the end of the body, and a
failed one-value assertion, panic with the Go runtime's messages. A body
element is told apart by its dynamic type, named as Go prints it, and
`variantToValue` is `variantToValue[bool]`.
-/

set_option autoImplicit false

namespace HassAgent.ScreenLock

inductive Value where
  | bool (b : Bool)
  | string (s : String)
  | variantMap (props : List (String × Value))
  | other (typeName : String)

def Value.typeName : Value → String
  | .bool _ => "bool"
  | .string _ => "string"
  | .variantMap _ => "map[string]dbus.Variant"
  | .other typeName => typeName

inductive Outcome where
  | panic (msg : String)
  | warn (msg : String)
  | update (locked : Bool)
  | ignored
  deriving DecidableEq, Repr

def indexOutOfRange (i length : Nat) : String :=
  "runtime error: index out of range [" ++ toString i ++ "] with length " ++ toString length

def login1Handler (variantToValue : Value → Bool) (body : List Value) : Outcome :=
  match (body[1]? : Option Value) with
  | none => .panic (indexOutOfRange 1 body.length)
  | some (.variantMap props) =>
    match props.lookup "LockedHint" with
    | some v => .update (variantToValue v)
    | none => .ignored
  | some _ => .warn "Unexpected signal body"

def screenSaverHandler (body : List Value) : Outcome :=
  match (body[0]? : Option Value) with
  | none => .panic (indexOutOfRange 0 body.length)
  | some (.bool b) => .update b
  | some v => .panic ("interface conversion: interface {} is " ++ v.typeName ++ ", not bool")

/-- A one-element body on the login1 match and an empty or non-boolean body on
the ScreenSaver match make the handlers panic, with Go's runtime errors. -/
theorem short_body_panics :
    login1Handler (fun _ => true) [.string "org.freedesktop.login1.Session"] =
      .panic "runtime error: index out of range [1] with length 1" ∧
    screenSaverHandler [] = .panic "runtime error: index out of range [0] with length 0" ∧
    screenSaverHandler [.string "on"] = .panic "interface conversion: interface {} is string, not bool" :=
  ⟨rfl, rfl, rfl⟩

end HassAgent.ScreenLock
