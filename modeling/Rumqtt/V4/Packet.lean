/-
**MQTT 3.1.1 packets.**

The packets of `mqttbytes-v4`, the `dialect` that makes the shared packet types those of MQTT 3.1.1,
and the events the state machine buffers. There are no properties and no AUTH packet: `Unit` and
`Empty` stand for them.
-/

import Rumqtt.StateError

namespace Rumqtt.V4

structure PubAck where
  pkid : PacketId
  deriving DecidableEq, Repr

structure PubRec where
  pkid : PacketId
  deriving DecidableEq, Repr

structure PubRel where
  pkid : PacketId
  deriving DecidableEq, Repr

structure PubComp where
  pkid : PacketId
  deriving DecidableEq, Repr

structure SubscribeFilter where
  path : String
  qos : QoS
  deriving DecidableEq, Repr

inductive SubscribeReasonCode where
  | success (qos : QoS)
  | failure
  deriving DecidableEq, Repr

structure SubAck where
  pkid : PacketId
  returnCodes : List SubscribeReasonCode
  deriving DecidableEq, Repr

structure UnsubAck where
  pkid : PacketId
  deriving DecidableEq, Repr

/-- Return codes of a CONNACK, in the order of their bytes. -/
inductive ConnectReturnCode where
  | success
  | refusedProtocolVersion
  | badClientId
  | serviceUnavailable
  | badUserNamePassword
  | notAuthorized
  deriving DecidableEq, Repr

structure LastWill where
  topic : String
  message : Bytes
  qos : QoS
  retain : Bool
  deriving DecidableEq, Repr

inductive ConnectAuth where
  | none
  | username (username : String)
  | usernamePassword (username : String) (password : Bytes)
  deriving DecidableEq, Repr

structure Connect where
  keepAlive : UInt16
  clientId : String
  cleanSession : Bool
  lastWill : Option LastWill := none
  auth : ConnectAuth := .none
  deriving DecidableEq, Repr

structure ConnAck where
  sessionPresent : Bool
  code : ConnectReturnCode
  deriving DecidableEq, Repr

/-- **The packet types of MQTT 3.1.1.** -/
abbrev dialect : Dialect where
  PublishProperties := Unit
  SubscribeFilter := SubscribeFilter
  SubscribeProperties := Unit
  UnsubscribeProperties := Unit
  PubAck := PubAck
  PubRec := PubRec
  PubRel := PubRel
  PubComp := PubComp
  SubAck := SubAck
  UnsubAck := UnsubAck
  Auth := Empty
  Disconnect := Unit
  pubRel := fun pkid => { pkid }
  pubRelPkid := PubRel.pkid
  pubRelPkid_pubRel := fun _ => rfl
  releaseNoticeExpectation := "outgoing_rel pkid within notice vec bounds"

abbrev Publish := Rumqtt.Publish dialect
abbrev Subscribe := Rumqtt.Subscribe dialect
abbrev Unsubscribe := Rumqtt.Unsubscribe dialect
abbrev Request := Rumqtt.Request dialect
abbrev CleanRequest := Rumqtt.CleanRequest dialect

/-- Packets on the wire. -/
inductive Packet where
  | connect (connect : Connect)
  | connAck (connack : ConnAck)
  | publish (publish : Publish)
  | pubAck (puback : PubAck)
  | pubRec (pubrec : PubRec)
  | pubRel (pubrel : PubRel)
  | pubComp (pubcomp : PubComp)
  | subscribe (subscribe : Subscribe)
  | subAck (suback : SubAck)
  | unsubscribe (unsubscribe : Unsubscribe)
  | unsubAck (unsuback : UnsubAck)
  | pingReq
  | pingResp
  | disconnect
  deriving DecidableEq, Repr

/-- The results a publish notice can be completed with. -/
inductive PublishResult where
  | qos0Flushed
  | qos1 (puback : PubAck)
  | qos2Completed (pubcomp : PubComp)
  deriving DecidableEq, Repr

/-- A completion the event loop reports once the packet has been handled. -/
inductive DeferredNotice where
  | publish (notice : NoticeId) (result : PublishResult)
  | subscribe (notice : NoticeId) (suback : SubAck)
  | unsubscribe (notice : NoticeId) (unsuback : UnsubAck)
  deriving DecidableEq, Repr

/-- What an incoming packet asks for: a packet to write, and notices to complete. -/
structure IncomingPacketEffects where
  outgoing : Option Packet := none
  notices : List DeferredNotice := []

/-- Events that `poll` yields. -/
inductive Event where
  | incoming (packet : Packet)
  | outgoing (outgoing : Outgoing)

end Rumqtt.V4
