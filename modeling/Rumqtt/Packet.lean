/-
**Packets and requests shared by the MQTT 5 and the MQTT 3.1.1 client.**

The two clients keep separate packet types that agree in every field the outbound tracking reads. A
`Dialect` lists what differs: the property blocks, the filter type and the acknowledgement packets.
`Publish`, `Subscribe`, `Unsubscribe` and `Request` are the packets over a dialect; MQTT 3.1.1 has
no properties and no AUTH, so its dialect puts `Unit` and `Empty` there.
-/

import Rumqtt.Lib.Buffer

namespace Rumqtt

/-- A packet identifier, `u16`; zero is no identifier. -/
abbrev PacketId := UInt16

/-- A completion handle held by the client for one of its requests. -/
abbrev NoticeId := Nat

/-- Quality of service of a publish. -/
inductive QoS where
  | atMostOnce
  | atLeastOnce
  | exactlyOnce
  deriving DecidableEq, Repr

/-- The order of `QoS` is that of its wire value. -/
def QoS.toNat : QoS → Nat
  | .atMostOnce => 0
  | .atLeastOnce => 1
  | .exactlyOnce => 2

/-- Who answers incoming publishes: the client, or the application. -/
inductive AckMode where
  | automatic
  | manual
  deriving DecidableEq, Repr

/-- **What differs between the packet types of the two protocol versions.** -/
structure Dialect where
  PublishProperties : Type
  SubscribeFilter : Type
  SubscribeProperties : Type
  UnsubscribeProperties : Type
  PubAck : Type
  PubRec : Type
  PubRel : Type
  PubComp : Type
  SubAck : Type
  UnsubAck : Type
  Auth : Type
  Disconnect : Type
  /-- `PubRel::new` -/
  pubRel : PacketId → PubRel
  pubRelPkid : PubRel → PacketId
  pubRelPkid_pubRel : ∀ pkid, pubRelPkid (pubRel pkid) = pkid
  /-- What `clean` expects of the notice of an active release. -/
  releaseNoticeExpectation : String

@[ext] structure Publish (D : Dialect) where
  dup : Bool
  qos : QoS
  retain : Bool
  topic : Bytes
  pkid : PacketId
  payload : Bytes
  properties : D.PublishProperties

@[ext] structure Subscribe (D : Dialect) where
  pkid : PacketId
  filters : List D.SubscribeFilter
  properties : D.SubscribeProperties

@[ext] structure Unsubscribe (D : Dialect) where
  pkid : PacketId
  filters : List String
  properties : D.UnsubscribeProperties

section Instances

variable {D : Dialect}

instance [DecidableEq D.PublishProperties] : DecidableEq (Publish D) :=
  fun _ _ => decidable_of_iff _ Publish.ext_iff.symm

instance [DecidableEq D.SubscribeFilter] [DecidableEq D.SubscribeProperties] :
    DecidableEq (Subscribe D) := fun _ _ => decidable_of_iff _ Subscribe.ext_iff.symm

instance [DecidableEq D.UnsubscribeProperties] : DecidableEq (Unsubscribe D) :=
  fun _ _ => decidable_of_iff _ Unsubscribe.ext_iff.symm

instance [Repr D.PublishProperties] : Repr (Publish D) where
  reprPrec p := reprPrec (p.dup, p.qos, p.retain, p.topic, p.pkid, p.payload, p.properties)

instance [Repr D.SubscribeFilter] [Repr D.SubscribeProperties] : Repr (Subscribe D) where
  reprPrec p := reprPrec (p.pkid, p.filters, p.properties)

instance [Repr D.UnsubscribeProperties] : Repr (Unsubscribe D) where
  reprPrec p := reprPrec (p.pkid, p.filters, p.properties)

end Instances

/-- Requests by the client to the event loop. Timeouts are in milliseconds. -/
inductive Request (D : Dialect) where
  | publish (publish : Publish D)
  | pubAck (puback : D.PubAck)
  | pubRec (pubrec : D.PubRec)
  | pubComp (pubcomp : D.PubComp)
  | pubRel (pubrel : D.PubRel)
  | pingReq
  | pingResp
  | subscribe (subscribe : Subscribe D)
  | subAck (suback : D.SubAck)
  | unsubscribe (unsubscribe : Unsubscribe D)
  | unsubAck (unsuback : D.UnsubAck)
  | auth (auth : D.Auth)
  | disconnect (disconnect : D.Disconnect)
  | disconnectNow (disconnect : D.Disconnect)
  | disconnectWithTimeout (disconnect : D.Disconnect) (timeout : Nat)
  | disconnectAfterQueued (disconnect : D.Disconnect)
  | disconnectAfterQueuedWithTimeout (disconnect : D.Disconnect) (timeout : Nat)

/-- The completion handle of a request, by the kind of request it was created for. -/
inductive TrackedNotice where
  | publish (notice : NoticeId)
  | subscribe (notice : NoticeId)
  | unsubscribe (notice : NoticeId)
  | auth (notice : NoticeId)
  deriving DecidableEq, Repr

namespace TrackedNotice

/-- The handle, when it belongs to a publish. -/
def publish? : TrackedNotice → Option NoticeId
  | .publish notice => some notice
  | _ => none

/-- The handle, when it belongs to a subscribe. -/
def subscribe? : TrackedNotice → Option NoticeId
  | .subscribe notice => some notice
  | _ => none

/-- The handle, when it belongs to an unsubscribe. -/
def unsubscribe? : TrackedNotice → Option NoticeId
  | .unsubscribe notice => some notice
  | _ => none

/-- The handle, when it belongs to a reauthentication. -/
def auth? : TrackedNotice → Option NoticeId
  | .auth notice => some notice
  | _ => none

end TrackedNotice

/-- Current outgoing activity on the event loop. -/
inductive Outgoing where
  | publish (pkid : PacketId)
  | subscribe (pkid : PacketId)
  | unsubscribe (pkid : PacketId)
  | pubAck (pkid : PacketId)
  | pubRec (pkid : PacketId)
  | pubRel (pkid : PacketId)
  | pubComp (pkid : PacketId)
  | pingReq
  | pingResp
  | disconnect
  | awaitAck (pkid : PacketId)
  | auth
  deriving DecidableEq, Repr

/-- Whether a `PINGRESP` is outstanding, and how many pings a parked publish has seen. -/
inductive PingState where
  | idle (collisionCount : Nat)
  | awaitingResp (collisionCount : Nat)
  deriving DecidableEq, Repr

namespace PingState

def new : PingState := .idle 0

def awaitPingresp : PingState → Bool
  | .idle _ => false
  | .awaitingResp _ => true

def collisionCount : PingState → Nat
  | .idle count => count
  | .awaitingResp count => count

def incrementCollisionCount : PingState → Nat × PingState
  | .idle count => (count + 1, .idle (count + 1))
  | .awaitingResp count => (count + 1, .awaitingResp (count + 1))

def beginWaitingForResp (ping : PingState) : PingState := .awaitingResp ping.collisionCount

def finishWaitingForResp (ping : PingState) : PingState := .idle ping.collisionCount

def resetCollisionCount (ping : PingState) : PingState :=
  if ping.awaitPingresp then .awaitingResp 0 else .idle 0

end PingState

/-- A request returned by a clean-up, with the handle it was tracked under; `replay` says that its
packet identifier is still reserved for it. -/
structure CleanRequest (D : Dialect) where
  request : Request D
  notice : Option TrackedNotice
  replay : Bool

/-- **The packet identifier a request owns while it waits to be sent again.** -/
def Request.replayPkid {D : Dialect} : Request D → Option PacketId
  | .publish packet => if packet.qos = .atMostOnce then none else some packet.pkid
  | .pubRel packet => some (D.pubRelPkid packet)
  | .subscribe packet => some packet.pkid
  | .unsubscribe packet => some packet.pkid
  | _ => none

/-- The graceful disconnects, which the event loop handles without the state machine. -/
def Request.isLeftToEventLoop {D : Dialect} : Request D → Bool
  | .disconnect _ | .disconnectWithTimeout .. | .disconnectAfterQueued _
  | .disconnectAfterQueuedWithTimeout .. => true
  | _ => false

/-- The packet identifier of a PUBREL request. -/
def Request.pubRelPkid? {D : Dialect} : Request D → Option PacketId
  | .pubRel packet => some (D.pubRelPkid packet)
  | _ => none

end Rumqtt
