import Mathlib.Logic.Function.Basic

/-!
# The sensor registry

`sensorRegistry` keeps one `registryValues` record per sensor id in a badger
store. `Get`, `Set` and `Update` are one badger transaction each; `Add` is two,
a `Get` and, when that found no key, a `Set` of the defaults. Here the
transactions run back to back; `RegistryRace` lets other goroutines commit
between the two halves of `Add`.

Marshalling two booleans cannot fail and unmarshals to the same record, so the
store keeps records decoded. A transaction on the closed store fails, and
`ErrKeyNotFound` is the one error `Add` tests for. The nested `Update` inside
`Set` commits the same single write as the outer one.
-/

set_option autoImplicit false

namespace HassAgent.Registry

structure RegistryValues where
  registered : Bool
  disabled : Bool
  deriving DecidableEq, Repr

def newRegistryValues : RegistryValues := ⟨false, false⟩

structure RegistryEntry where
  id : String
  values : RegistryValues
  deriving DecidableEq, Repr

def newRegistryEntry (id : String) : RegistryEntry := ⟨id, newRegistryValues⟩

namespace RegistryEntry

def isDisabled (e : RegistryEntry) : Bool := e.values.disabled

def setDisabled (e : RegistryEntry) (state : Bool) : RegistryEntry :=
  { e with values := { e.values with disabled := state } }

def isRegistered (e : RegistryEntry) : Bool := e.values.registered

def setRegistered (e : RegistryEntry) (state : Bool) : RegistryEntry :=
  { e with values := { e.values with registered := state } }

end RegistryEntry

inductive DbError where
  | keyNotFound
  | dbClosed
  deriving DecidableEq, Repr

instance decEqExcept {ε α : Type} [DecidableEq ε] [DecidableEq α] : DecidableEq (Except ε α)
  | .ok a, .ok b => decidable_of_iff (a = b) (by simp)
  | .error a, .error b => decidable_of_iff (a = b) (by simp)
  | .ok _, .error _ => isFalse (by simp)
  | .error _, .ok _ => isFalse (by simp)

structure Db where
  records : String → Option RegistryValues
  closed : Bool

def Db.empty : Db := ⟨fun _ => none, false⟩

def Db.close (db : Db) : Db := { db with closed := true }

def get (db : Db) (id : String) : Except DbError RegistryValues :=
  if db.closed then .error .dbClosed
  else match db.records id with
    | some v => .ok v
    | none => .error .keyNotFound

def set (db : Db) (id : String) (values : RegistryValues) : Except DbError Db :=
  if db.closed then .error .dbClosed
  else .ok { db with records := Function.update db.records id (some values) }

def update (db : Db) (entry : RegistryEntry) : Except DbError Db := set db entry.id entry.values

def setLogged (db : Db) (id : String) (values : RegistryValues) : Db :=
  match set db id values with
  | .ok db' => db'
  | .error _ => db

def addAfterGet (id : String) : Except DbError RegistryValues → RegistryEntry × Option RegistryValues
  | .ok values => (⟨id, values⟩, none)
  | .error .keyNotFound => (newRegistryEntry id, some newRegistryValues)
  | .error .dbClosed => (newRegistryEntry id, none)

def add (db : Db) (id : String) : RegistryEntry × Db :=
  match addAfterGet id (get db id) with
  | (entry, none) => (entry, db)
  | (entry, some values) => (entry, setLogged db id values)

def insertIfAbsent (m : String → Option RegistryValues) (id : String) :
    RegistryValues × (String → Option RegistryValues) :=
  match m id with
  | some v => (v, m)
  | none => (newRegistryValues, Function.update m id (some newRegistryValues))

end HassAgent.Registry
