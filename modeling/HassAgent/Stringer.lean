import Mathlib.Data.List.GetD

/-!
# The generated `String` methods

`stringer` writes, for an enumeration, the names of its constants joined into
one string and a table of the offsets at which each name starts. `String` slices
a constant's name out between two consecutive offsets and writes any other value
as the type name and the number. `connState` and `connIcon` are unsigned and
start at 0; `batteryProp` is signed and starts at 4, so its method shifts the
value first and checks it from below as well. The names are ASCII, so byte
offsets are character offsets.
-/

set_option autoImplicit false

namespace HassAgent.Stringer

def offsetsFrom (start : Nat) : List String → List Nat
  | [] => [start]
  | s :: ns => start :: offsetsFrom (start + s.length) ns

def slice (name : String) (index : List Nat) (i : Nat) : String :=
  String.mk ((name.toList.drop (index.getD i 0)).take (index.getD (i + 1) 0 - index.getD i 0))

def stringer (typeName name : String) (index : List Nat) (i : Nat) : String :=
  if i ≥ index.length - 1 then typeName ++ "(" ++ toString i ++ ")" else slice name index i

theorem length_offsetsFrom (start : Nat) (ns : List String) :
    (offsetsFrom start ns).length = ns.length + 1 := by
  induction ns generalizing start <;> simp [offsetsFrom, *]

theorem slice_offsetsFrom (pre : List Char) (ns : List String) (i : Nat) (hi : i < ns.length) :
    ((pre ++ (ns.map String.toList).flatten).drop ((offsetsFrom pre.length ns).getD i 0)).take
      ((offsetsFrom pre.length ns).getD (i + 1) 0 - (offsetsFrom pre.length ns).getD i 0) =
      ns[i].toList := by
  induction ns generalizing pre i with
  | nil => simp at hi
  | cons s ns ih =>
    cases i with
    | zero =>
      have h0 : ∀ rest : List Char, List.take (pre.length + s.length - pre.length)
          (List.drop pre.length (pre ++ (s.toList ++ rest))) = s.toList := fun rest => by
        rw [Nat.add_sub_cancel_left, List.drop_left]
        exact List.take_left' rfl
      cases ns <;> exact h0 _
    | succ i =>
      have h := ih (pre ++ s.toList) i (Nat.lt_of_succ_lt_succ hi)
      rw [List.length_append, List.append_assoc] at h
      exact h

theorem stringer_eq (typeName name : String) (names : List String) (i : Nat)
    (hname : name.toList = (names.map String.toList).flatten) :
    stringer typeName name (offsetsFrom 0 names) i =
      names.getD i (typeName ++ "(" ++ toString i ++ ")") := by
  unfold stringer
  rw [length_offsetsFrom, Nat.add_sub_cancel]
  split
  · rw [List.getD_eq_default _ _ (by omega)]
  · rename_i hi
    rw [List.getD_eq_getElem _ _ (by omega)]
    have h := slice_offsetsFrom [] names i (by omega)
    simp only [List.nil_append, List.length_nil] at h
    rw [slice, hname, h]
    rfl

def connStateName : String := "UnknownActivatingOnlineDeactivatingOffline"

def connStateIndex : List Nat := [0, 7, 17, 23, 35, 42]

def connStateString (i : Nat) : String := stringer "connState" connStateName connStateIndex i

def connIconName : String :=
  "mdi:help-networkmdi:plus-networkmdi:networkmdi:network-minusmdi:network-off"

def connIconIndex : List Nat := [0, 16, 32, 43, 60, 75]

def connIconString (i : Nat) : String := stringer "connIcon" connIconName connIconIndex i

def batteryPropName : String := "PercentageTemperatureEnergyRateVoltageEnergyStateNativePathType"

def batteryPropIndex : List Nat := [0, 10, 21, 31, 38, 44, 49, 59, 63]

def batteryPropString (i : Int) : String :=
  let i := i - 4
  if i < 0 ∨ i ≥ batteryPropIndex.length - 1 then "batteryProp(" ++ toString (i + 4) ++ ")"
  else slice batteryPropName batteryPropIndex i.toNat

def connStateNames : List String := ["Unknown", "Activating", "Online", "Deactivating", "Offline"]

def connIconNames : List String :=
  ["mdi:help-network", "mdi:plus-network", "mdi:network", "mdi:network-minus", "mdi:network-off"]

def batteryPropNames : List String :=
  ["Percentage", "Temperature", "EnergyRate", "Voltage", "Energy", "State", "NativePath", "Type"]

theorem connState_table :
    connStateName.toList = (connStateNames.map String.toList).flatten ∧
      connStateIndex = offsetsFrom 0 connStateNames := by
  decide

theorem connIcon_table :
    connIconName.toList = (connIconNames.map String.toList).flatten ∧
      connIconIndex = offsetsFrom 0 connIconNames := by
  decide

theorem batteryProp_table :
    batteryPropName.toList = (batteryPropNames.map String.toList).flatten ∧
      batteryPropIndex = offsetsFrom 0 batteryPropNames := by
  decide

/-- Each generated `String` gives every constant its name and any other value
the type name and the number: `connState` and `connIcon` from 0, and
`batteryProp`, whose constants start at 4, for values 4 to 11, printing any
value below 4 unshifted. -/
theorem string_methods (i : Nat) (j : Int) :
    connStateString i = connStateNames.getD i ("connState(" ++ toString i ++ ")") ∧
    connIconString i = connIconNames.getD i ("connIcon(" ++ toString i ++ ")") ∧
    batteryPropString j =
      if 4 ≤ j then batteryPropNames.getD (j - 4).toNat ("batteryProp(" ++ toString j ++ ")")
      else "batteryProp(" ++ toString j ++ ")" := by
  refine ⟨?_, ?_, ?_⟩
  · rw [connStateString, connState_table.2]
    exact stringer_eq _ _ _ _ connState_table.1
  · rw [connIconString, connIcon_table.2]
    exact stringer_eq _ _ _ _ connIcon_table.1
  · have hs := stringer_eq "batteryProp" _ _ (j - 4).toNat batteryProp_table.1
    rw [← batteryProp_table.2] at hs
    have hl : batteryPropIndex.length = 9 := rfl
    simp only [batteryPropString, stringer, hl, Int.sub_add_cancel] at hs ⊢
    by_cases h4 : 4 ≤ j
    · by_cases h12 : j - 4 ≥ 8
      · rw [if_pos (.inr (by omega)), if_pos h4, List.getD_eq_default _ _ (by simp [batteryPropNames]; omega)]
      · have hn : (j - 4).toNat < batteryPropNames.length := by simp [batteryPropNames]; omega
        rw [if_neg (by omega), List.getD_eq_getElem _ _ hn] at hs
        rw [if_neg (by omega), if_pos h4, List.getD_eq_getElem _ _ hn, hs]
    · rw [if_pos (.inl (by omega)), if_neg h4]

end HassAgent.Stringer
