/-
**MQTT 5 packets.**

The packets with the fields of `mqttbytes`, the `dialect` that makes the shared packet types those of
MQTT 5, and the events the state machine buffers. Every field is kept, since the codec writes and
reads it and a replay must carry it unchanged.
-/

import Rumqtt.StateError

namespace Rumqtt.V5

abbrev UserProperties := List (String × String)

structure PublishProperties where
  payloadFormatIndicator : Option UInt8 := none
  messageExpiryInterval : Option UInt32 := none
  topicAlias : Option UInt16 := none
  responseTopic : Option String := none
  correlationData : Option Bytes := none
  userProperties : UserProperties := []
  subscriptionIdentifiers : List Nat := []
  contentType : Option String := none
  deriving DecidableEq, Repr

/-- The properties every acknowledgement carries. -/
structure AckProperties where
  reasonString : Option String := none
  userProperties : UserProperties := []
  deriving DecidableEq, Repr

/-- `PubAckReason` and `PubRecReason`, which list the same codes. -/
inductive PubAckReason where
  | success
  | noMatchingSubscribers
  | unspecifiedError
  | implementationSpecificError
  | notAuthorized
  | topicNameInvalid
  | packetIdentifierInUse
  | quotaExceeded
  | payloadFormatInvalid
  deriving DecidableEq, Repr

abbrev PubRecReason := PubAckReason

/-- The byte of a reason code; values from `0x80` on are failures. -/
def PubAckReason.code : PubAckReason → Nat
  | .success => 0x00
  | .noMatchingSubscribers => 0x10
  | .unspecifiedError => 0x80
  | .implementationSpecificError => 0x83
  | .notAuthorized => 0x87
  | .topicNameInvalid => 0x90
  | .packetIdentifierInUse => 0x91
  | .quotaExceeded => 0x97
  | .payloadFormatInvalid => 0x99

/-- `PubRelReason` and `PubCompReason`, which list the same codes. -/
inductive PubRelReason where
  | success
  | packetIdentifierNotFound
  deriving DecidableEq, Repr

abbrev PubCompReason := PubRelReason

structure PubAck where
  pkid : PacketId
  reason : PubAckReason := .success
  properties : Option AckProperties := none
  deriving DecidableEq, Repr

structure PubRec where
  pkid : PacketId
  reason : PubRecReason := .success
  properties : Option AckProperties := none
  deriving DecidableEq, Repr

structure PubRel where
  pkid : PacketId
  reason : PubRelReason := .success
  properties : Option AckProperties := none
  deriving DecidableEq, Repr

structure PubComp where
  pkid : PacketId
  reason : PubCompReason := .success
  properties : Option AckProperties := none
  deriving DecidableEq, Repr

inductive RetainForwardRule where
  | onEverySubscribe
  | onNewSubscribe
  | never
  deriving DecidableEq, Repr

structure SubscribeFilter where
  path : String
  qos : QoS
  nolocal : Bool
  preserveRetain : Bool
  retainForwardRule : RetainForwardRule
  deriving DecidableEq, Repr

structure SubscribeProperties where
  id : Option Nat
  userProperties : UserProperties
  deriving DecidableEq, Repr

structure UnsubscribeProperties where
  userProperties : UserProperties
  deriving DecidableEq, Repr

inductive SubscribeReasonCode where
  | success (qos : QoS)
  | failure
  | unspecified
  | implementationSpecific
  | notAuthorized
  | topicFilterInvalid
  | pkidInUse
  | quotaExceeded
  | sharedSubscriptionsNotSupported
  | subscriptionIdNotSupported
  | wildcardSubscriptionsNotSupported
  deriving DecidableEq, Repr

structure SubAck where
  pkid : PacketId
  returnCodes : List SubscribeReasonCode
  properties : Option AckProperties := none
  deriving DecidableEq, Repr

inductive UnsubAckReason where
  | success
  | noSubscriptionExisted
  | unspecifiedError
  | implementationSpecificError
  | notAuthorized
  | topicFilterInvalid
  | packetIdentifierInUse
  deriving DecidableEq, Repr

structure UnsubAck where
  pkid : PacketId
  reasons : List UnsubAckReason
  properties : Option AckProperties := none
  deriving DecidableEq, Repr

inductive AuthReasonCode where
  | success
  | continue
  | reAuthenticate
  deriving DecidableEq, Repr

structure AuthProperties where
  method : Option String := none
  data : Option Bytes := none
  reason : Option String := none
  userProperties : UserProperties := []
  deriving DecidableEq, Repr

structure Auth where
  code : AuthReasonCode
  properties : Option AuthProperties
  deriving DecidableEq, Repr

structure DisconnectProperties where
  sessionExpiryInterval : Option UInt32 := none
  reasonString : Option String := none
  userProperties : UserProperties := []
  serverReference : Option String := none
  deriving DecidableEq, Repr

structure Disconnect where
  reasonCode : DisconnectReasonCode
  properties : Option DisconnectProperties := none
  deriving DecidableEq, Repr

structure ConnAckProperties where
  sessionExpiryInterval : Option UInt32 := none
  receiveMax : Option UInt16 := none
  maxQos : Option UInt8 := none
  retainAvailable : Option UInt8 := none
  maxPacketSize : Option UInt32 := none
  assignedClientIdentifier : Option String := none
  topicAliasMax : Option UInt16 := none
  reasonString : Option String := none
  userProperties : UserProperties := []
  wildcardSubscriptionAvailable : Option UInt8 := none
  subscriptionIdentifiersAvailable : Option UInt8 := none
  sharedSubscriptionAvailable : Option UInt8 := none
  serverKeepAlive : Option UInt16 := none
  responseInformation : Option String := none
  serverReference : Option String := none
  authenticationMethod : Option String := none
  authenticationData : Option Bytes := none
  deriving DecidableEq, Repr

structure ConnAck where
  sessionPresent : Bool
  code : ConnectReturnCode
  properties : Option ConnAckProperties := none
  deriving DecidableEq, Repr

structure ConnectProperties where
  sessionExpiryInterval : Option UInt32 := none
  receiveMaximum : Option UInt16 := none
  maxPacketSize : Option UInt32 := none
  topicAliasMax : Option UInt16 := none
  requestResponseInfo : Option UInt8 := none
  requestProblemInfo : Option UInt8 := none
  userProperties : UserProperties := []
  authenticationMethod : Option String := none
  authenticationData : Option Bytes := none
  deriving DecidableEq, Repr

structure Connect where
  keepAlive : UInt16
  clientId : String
  cleanStart : Bool
  properties : Option ConnectProperties := none
  deriving DecidableEq, Repr

structure LastWillProperties where
  delayInterval : Option UInt32 := none
  payloadFormatIndicator : Option UInt8 := none
  messageExpiryInterval : Option UInt32 := none
  contentType : Option String := none
  responseTopic : Option String := none
  correlationData : Option Bytes := none
  userProperties : UserProperties := []
  deriving DecidableEq, Repr

structure LastWill where
  topic : Bytes
  message : Bytes
  qos : QoS
  retain : Bool
  properties : Option LastWillProperties := none
  deriving DecidableEq, Repr

inductive ConnectAuth where
  | none
  | username (username : String)
  | password (password : Bytes)
  | usernamePassword (username : String) (password : Bytes)
  deriving DecidableEq, Repr

/-- **The packet types of MQTT 5.** -/
abbrev dialect : Dialect where
  PublishProperties := Option PublishProperties
  SubscribeFilter := SubscribeFilter
  SubscribeProperties := Option SubscribeProperties
  UnsubscribeProperties := Option UnsubscribeProperties
  PubAck := PubAck
  PubRec := PubRec
  PubRel := PubRel
  PubComp := PubComp
  SubAck := SubAck
  UnsubAck := UnsubAck
  Auth := Auth
  Disconnect := Disconnect
  pubRel := fun pkid => { pkid }
  pubRelPkid := PubRel.pkid
  pubRelPkid_pubRel := fun _ => rfl
  releaseNoticeExpectation := "outgoing PUBREL identifier within notice storage"

abbrev Publish := Rumqtt.Publish dialect
abbrev Subscribe := Rumqtt.Subscribe dialect
abbrev Unsubscribe := Rumqtt.Unsubscribe dialect
abbrev Request := Rumqtt.Request dialect
abbrev CleanRequest := Rumqtt.CleanRequest dialect

/-- Packets on the wire. -/
inductive Packet where
  | auth (auth : Auth)
  | connect (connect : Connect) (lastWill : Option LastWill) (auth : ConnectAuth)
  | connAck (connack : ConnAck)
  | publish (publish : Publish)
  | pubAck (puback : PubAck)
  | pubRec (pubrec : PubRec)
  | pubRel (pubrel : PubRel)
  | pubComp (pubcomp : PubComp)
  | subscribe (subscribe : Subscribe)
  | subAck (suback : SubAck)
  | unsubscribe (unsubscribe : Unsubscribe)
  | unsubAck (unsuback : UnsubAck)
  | pingReq
  | pingResp
  | disconnect (disconnect : Disconnect)
  deriving DecidableEq, Repr

/-- The results a publish notice can be completed with. -/
inductive PublishResult where
  | qos0Flushed
  | qos1 (puback : PubAck)
  | qos2Completed (pubcomp : PubComp)
  | qos2Recovered (pubcomp : PubComp)
  | qos2PubRecRejected (pubrec : PubRec)
  deriving DecidableEq, Repr

/-- The errors a publish notice can be failed with before the packet is written. -/
inductive PublishNoticeError where
  | sessionReset
  | redirected
  | brokerOnlySessionResume
  | retainNotSupported
  | qoSNotSupported (requested maximum : QoS)
  | topicAliasReplayUnavailable (aliasId : UInt16)
  | topicAliasInvalid (aliasId maximum : UInt16)
  | topicAliasMappingUnavailable (aliasId : UInt16)
  | qos0NotFlushed
  deriving DecidableEq, Repr

/-- A completion the event loop reports once the packet has been handled. -/
inductive DeferredNotice where
  | publish (notice : NoticeId) (result : PublishResult)
  | subscribe (notice : NoticeId) (suback : SubAck)
  | unsubscribe (notice : NoticeId) (unsuback : UnsubAck)
  deriving DecidableEq, Repr

/-- What an incoming packet asks for: a packet to write, and notices to complete. -/
structure IncomingPacketEffects where
  outgoing : Option Packet := none
  notices : List DeferredNotice := []

inductive AuthExchangeKind where
  | initialConnect
  | reauthentication
  deriving DecidableEq, Repr

/-- `AuthNoticeError`, without the variants that only other parts of the client raise. -/
inductive AuthNoticeError where
  | brokerRejected (reason : ConnectReturnCode)
  | brokerDisconnected (reason : DisconnectReasonCode)
  | sessionReset
  | redirected
  | protocolError
  | authenticationFailed (message : String)
  | connectionClosed
  | overlappingReauth
  | missingAuthenticationMethod
  deriving DecidableEq, Repr

inductive AuthFailureReason where
  | brokerDisconnected (reason : DisconnectReasonCode)
  | sessionReset
  | redirected
  | protocolError
  | authenticationFailed (message : String)
  | connectionClosed
  | overlappingReauth
  | missingAuthenticationMethod
  deriving DecidableEq, Repr

/-- A rejected CONNECT is reported to the application as a closed connection. -/
def AuthFailureReason.fromNoticeError : AuthNoticeError → AuthFailureReason
  | .brokerRejected _ => .connectionClosed
  | .connectionClosed => .connectionClosed
  | .brokerDisconnected reason => .brokerDisconnected reason
  | .sessionReset => .sessionReset
  | .redirected => .redirected
  | .protocolError => .protocolError
  | .authenticationFailed message => .authenticationFailed message
  | .overlappingReauth => .overlappingReauth
  | .missingAuthenticationMethod => .missingAuthenticationMethod

inductive AuthEvent where
  | started (kind : AuthExchangeKind) (method : String)
  | continue (kind : AuthExchangeKind) (method : String)
  | succeeded (kind : AuthExchangeKind) (method : String)
  | failed (kind : AuthExchangeKind) (method : String) (reason : AuthFailureReason)
  deriving DecidableEq, Repr

/-- Events that `poll` yields. -/
inductive Event where
  | incoming (packet : Packet)
  | outgoing (outgoing : Outgoing)
  | auth (event : AuthEvent)

end Rumqtt.V5
