import EventFramework.Core.Msg

/-!
# The network port

`port_net.h`: the bounds of MQTT data and the events that a network adapter hands to the runtime.
-/

namespace EventFramework
set_option autoImplicit false

variable {P : Type}

def netIngressRingCapacity : UInt32 := 16

def netIngressRingMask : UInt32 := netIngressRingCapacity - 1

def netMaxTopicBytes : Nat := 8

def netMaxInlinePayloadBytes : Nat := 8

def netMaxTopicStorageBytes : Nat := 64

def netMaxPayloadStorageBytes : Nat := 128

def netPayloadSlotCount : Nat := 4

inductive NetEventKind where
  | none
  | wifiUp
  | wifiDown
  | mqttUp
  | mqttDown
  | mqttMsgRx
  deriving DecidableEq, Repr

inductive NetPayloadStorage where
  | none
  | inline
  | lease
  deriving DecidableEq, Repr

structure NetMqttRxPayload where
  topicLen : UInt8 := 0
  payloadLen : UInt8 := 0
  qos : UInt8 := 0
  retain : UInt8 := 0
  topic : List UInt8 := List.replicate netMaxTopicStorageBytes 0
  payload : List UInt8 := List.replicate netMaxPayloadStorageBytes 0
  deriving DecidableEq, Repr

/-- `sizeof(ev_net_mqtt_rx_payload_t)`. -/
def netMqttRxPayloadSize : Nat := 4 + netMaxTopicStorageBytes + netMaxPayloadStorageBytes

/-- `ev_net_ingress_event_t`; its lease has the fields of an external payload. -/
structure NetIngressEvent (P : Type) where
  kind : NetEventKind := .none
  topicLen : UInt8 := 0
  payloadLen : UInt8 := 0
  payloadStorage : NetPayloadStorage := .none
  topic : List UInt8 := List.replicate netMaxTopicBytes 0
  payload : List UInt8 := List.replicate netMaxInlinePayloadBytes 0
  externalPayload : ExternalPayload P := {}
  deriving DecidableEq, Repr

end EventFramework
