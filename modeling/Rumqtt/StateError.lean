/-
**Errors the protocol state machines return.**

One enumeration serves both protocol versions: the variants above the line of `invalidAlias` are
raised by both or by MQTT 3.1.1, the others by MQTT 5 only. Errors of the network layer are not
raised by the state machines and are left out; the only deserialization error a state machine raises
is `ProtocolError`.
-/

import Rumqtt.Packet

namespace Rumqtt

inductive PacketType where
  | connect
  | connAck
  | publish
  | pubAck
  | pubRec
  | pubRel
  | pubComp
  | subscribe
  | subAck
  | unsubscribe
  | unsubAck
  | pingReq
  | pingResp
  | disconnect
  | auth
  deriving DecidableEq, Repr

inductive ProtocolViolation where
  | duplicateConnAck
  | unexpectedIncomingPacket (type : PacketType)
  | subAckReturnCodeCountMismatch (pkid : PacketId) (expected actual : Nat)
  | unsubAckReasonCodeCountMismatch (pkid : PacketId) (expected actual : Nat)
  deriving DecidableEq, Repr

/-- Return codes of a CONNACK. -/
inductive ConnectReturnCode where
  | success
  | refusedProtocolVersion
  | badClientId
  | serviceUnavailable
  | unspecifiedError
  | malformedPacket
  | protocolError
  | implementationSpecificError
  | unsupportedProtocolVersion
  | clientIdentifierNotValid
  | badUserNamePassword
  | notAuthorized
  | serverUnavailable
  | serverBusy
  | banned
  | badAuthenticationMethod
  | topicNameInvalid
  | packetTooLarge
  | quotaExceeded
  | payloadFormatInvalid
  | retainNotSupported
  | qoSNotSupported
  | useAnotherServer
  | serverMoved
  | connectionRateExceeded
  deriving DecidableEq, Repr

/-- The name of a code as `Debug` prints it. -/
def ConnectReturnCode.debugName : ConnectReturnCode → String
  | .success => "Success"
  | .refusedProtocolVersion => "RefusedProtocolVersion"
  | .badClientId => "BadClientId"
  | .serviceUnavailable => "ServiceUnavailable"
  | .unspecifiedError => "UnspecifiedError"
  | .malformedPacket => "MalformedPacket"
  | .protocolError => "ProtocolError"
  | .implementationSpecificError => "ImplementationSpecificError"
  | .unsupportedProtocolVersion => "UnsupportedProtocolVersion"
  | .clientIdentifierNotValid => "ClientIdentifierNotValid"
  | .badUserNamePassword => "BadUserNamePassword"
  | .notAuthorized => "NotAuthorized"
  | .serverUnavailable => "ServerUnavailable"
  | .serverBusy => "ServerBusy"
  | .banned => "Banned"
  | .badAuthenticationMethod => "BadAuthenticationMethod"
  | .topicNameInvalid => "TopicNameInvalid"
  | .packetTooLarge => "PacketTooLarge"
  | .quotaExceeded => "QuotaExceeded"
  | .payloadFormatInvalid => "PayloadFormatInvalid"
  | .retainNotSupported => "RetainNotSupported"
  | .qoSNotSupported => "QoSNotSupported"
  | .useAnotherServer => "UseAnotherServer"
  | .serverMoved => "ServerMoved"
  | .connectionRateExceeded => "ConnectionRateExceeded"

/-- Reason codes of an MQTT 5 DISCONNECT. -/
inductive DisconnectReasonCode where
  | normalDisconnection
  | disconnectWithWillMessage
  | unspecifiedError
  | malformedPacket
  | protocolError
  | implementationSpecificError
  | notAuthorized
  | serverBusy
  | serverShuttingDown
  | keepAliveTimeout
  | sessionTakenOver
  | topicFilterInvalid
  | topicNameInvalid
  | receiveMaximumExceeded
  | topicAliasInvalid
  | packetTooLarge
  | messageRateTooHigh
  | quotaExceeded
  | administrativeAction
  | payloadFormatInvalid
  | retainNotSupported
  | qoSNotSupported
  | useAnotherServer
  | serverMoved
  | sharedSubscriptionNotSupported
  | connectionRateExceeded
  | maximumConnectTime
  | subscriptionIdentifiersNotSupported
  | wildcardSubscriptionsNotSupported
  deriving DecidableEq, Repr

/-- The name of a code as `Debug` prints it. -/
def DisconnectReasonCode.debugName : DisconnectReasonCode → String
  | .normalDisconnection => "NormalDisconnection"
  | .disconnectWithWillMessage => "DisconnectWithWillMessage"
  | .unspecifiedError => "UnspecifiedError"
  | .malformedPacket => "MalformedPacket"
  | .protocolError => "ProtocolError"
  | .implementationSpecificError => "ImplementationSpecificError"
  | .notAuthorized => "NotAuthorized"
  | .serverBusy => "ServerBusy"
  | .serverShuttingDown => "ServerShuttingDown"
  | .keepAliveTimeout => "KeepAliveTimeout"
  | .sessionTakenOver => "SessionTakenOver"
  | .topicFilterInvalid => "TopicFilterInvalid"
  | .topicNameInvalid => "TopicNameInvalid"
  | .receiveMaximumExceeded => "ReceiveMaximumExceeded"
  | .topicAliasInvalid => "TopicAliasInvalid"
  | .packetTooLarge => "PacketTooLarge"
  | .messageRateTooHigh => "MessageRateTooHigh"
  | .quotaExceeded => "QuotaExceeded"
  | .administrativeAction => "AdministrativeAction"
  | .payloadFormatInvalid => "PayloadFormatInvalid"
  | .retainNotSupported => "RetainNotSupported"
  | .qoSNotSupported => "QoSNotSupported"
  | .useAnotherServer => "UseAnotherServer"
  | .serverMoved => "ServerMoved"
  | .sharedSubscriptionNotSupported => "SharedSubscriptionNotSupported"
  | .connectionRateExceeded => "ConnectionRateExceeded"
  | .maximumConnectTime => "MaximumConnectTime"
  | .subscriptionIdentifiersNotSupported => "SubscriptionIdentifiersNotSupported"
  | .wildcardSubscriptionsNotSupported => "WildcardSubscriptionsNotSupported"

/-- The two reason codes by which a broker names another server. -/
inductive RedirectReason where
  | useAnotherServer
  | serverMoved
  deriving DecidableEq, Repr

/-- `RedirectSource` -/
inductive RedirectSource where
  | connAck
  | disconnect
  deriving DecidableEq, Repr

structure RedirectOutcome where
  reason : RedirectReason
  serverReference : Option String
  source : RedirectSource
  deriving DecidableEq, Repr

inductive StateError where
  | invalidState
  | outgoingPublishWindowFull (maxInflight : Nat)
  | unsolicited (pkid : PacketId)
  | awaitPingResp
  | collisionTimeout
  | emptySubscription
  | emptyUnsubscription
  | protocolViolation (violation : ProtocolViolation)
  | outgoingPublishQuotaExceeded (maximum : Nat)
  | invalidAlias (aliasId max : UInt16)
  | retainNotSupported
  | qoSNotSupported (requested maximum : QoS)
  | wildcardSubscriptionNotSupported
  | subscriptionIdentifiersNotSupported
  | sharedSubscriptionNotSupported
  | serverDisconnect (reasonCode : DisconnectReasonCode) (reasonString : Option String)
  | serverRedirect (outcome : RedirectOutcome)
  | connFail (reason : ConnectReturnCode)
  | deserializationProtocolError
  | authError (message : String)
  | authenticatorNotSet
  | authenticatorLockPoisoned
  deriving DecidableEq, Repr

end Rumqtt
