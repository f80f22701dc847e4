/-!
# Subscriptions and configs of the Linux MQTT controller

`Subscriptions` and `Configs` walk the entity lists of the controller in a fixed
order and append what `generateSubscription` or `generateConfig` returns for
each entity. Those helpers log a failed marshal and return `nil`, and the nil
is appended like any other result. `runMQTTWorker` appends the lists of the
commands controller, when it could be built, and hands both to `NewClient`.
An entity is what its `MarshalSubscription` and `MarshalConfig` return.
-/

set_option autoImplicit false

namespace HassAgent.MQTTController

variable {Sub Msg : Type}

structure Entity (Sub Msg : Type) where
  marshalSubscription : Except String Sub
  marshalConfig : Except String Msg

structure MqttWorker (Sub Msg : Type) where
  sensors : List (Entity Sub Msg)
  buttons : List (Entity Sub Msg)
  numbers : List (Entity Sub Msg)
  switches : List (Entity Sub Msg)
  controls : List Sub
  binarySensors : List (Entity Sub Msg)
  cameras : List (Entity Sub Msg)

def generateSubscription (e : Entity Sub Msg) : Option Sub :=
  match e.marshalSubscription with
  | .ok sub => some sub
  | .error _ => none

def generateConfig (e : Entity Sub Msg) : Option Msg :=
  match e.marshalConfig with
  | .ok cfg => some cfg
  | .error _ => none

def subscriptions (c : MqttWorker Sub Msg) : List (Option Sub) :=
  c.buttons.map generateSubscription ++ c.numbers.map generateSubscription ++
    c.switches.map generateSubscription ++ c.controls.map some

def configs (c : MqttWorker Sub Msg) : List (Option Msg) :=
  c.sensors.map generateConfig ++ c.binarySensors.map generateConfig ++
    c.buttons.map generateConfig ++ c.numbers.map generateConfig ++
    c.switches.map generateConfig ++ c.cameras.map generateConfig

def clientLists (os : MqttWorker Sub Msg)
    (commands : Except String (List (Option Sub) × List (Option Msg))) :
    List (Option Sub) × List (Option Msg) :=
  match commands with
  | .ok (subs, cfgs) => (subscriptions os ++ subs, configs os ++ cfgs)
  | .error _ => (subscriptions os, configs os)

/-- A controller whose one button fails to marshal: `Subscriptions` and
`Configs` each return a one-element list holding nil, and `runMQTTWorker`
passes them on to `NewClient`. -/
theorem failed_button_leaves_nil :
    let c : MqttWorker String String :=
      ⟨[], [⟨.error "marshal", .error "marshal"⟩], [], [], [], [], []⟩
    subscriptions c = [none] ∧ configs c = [none] ∧
      clientLists c (.error "no commands file") = ([none], [none]) := by
  decide

end HassAgent.MQTTController
