/-
**Commands of the native wrappers.**

The wrapper core stands between a host language and the two clients. A `Command` names no protocol
version: it becomes a packet of MQTT 3.1.1 or of MQTT 5, depending on the client behind it, and what
only MQTT 5 has travels in its protocol options, which the MQTT 3.1.1 backend refuses.

Only the commands that may be admitted later carry their contents here; the others are names.
-/

import Rumqtt.Mqttbytes.Primitives
import Rumqtt.V4.Packet
import Rumqtt.V5.Packet

namespace Rumqtt.Wrapper

/-! ### Errors -/

inductive ErrorKind where
  | configuration
  | admission
  | backpressure
  | network
  | tls
  | protocol
  | authentication
  | persistence
  | timeout
  | shutdown
  | internal
  deriving DecidableEq, Repr

/-- What an error says about the request it is about. -/
inductive DeliveryStatus where
  | notApplicable
  | notAdmitted
  | rejected
  | ambiguous
  deriving DecidableEq, Repr

structure Error where
  kind : ErrorKind
  message : String
  delivery : DeliveryStatus := .notApplicable
  deriving DecidableEq, Repr

/-- `option_error`; `protocol_option_error` and `invalid` have the same body. -/
def optionError (message : String) : Error :=
  { kind := .admission, message, delivery := .notAdmitted }

/-! ### Publishing -/

/-- A client sends no subscription identifiers in a publish. -/
structure V5OutgoingPublishProperties where
  responseTopic : Option String := none
  correlationData : Option Bytes := none
  contentType : Option String := none
  payloadFormatIndicator : Option UInt8 := none
  topicAlias : Option UInt16 := none
  messageExpiryInterval : Option UInt32 := none
  userProperties : V5.UserProperties := []
  deriving DecidableEq, Repr

inductive PublishProtocolOptions where
  | versionNeutral
  | v5 (properties : V5OutgoingPublishProperties)
  deriving DecidableEq, Repr

structure PublishCommand where
  topic : String
  payload : Bytes
  qos : QoS
  retain : Bool
  protocol : PublishProtocolOptions
  deriving DecidableEq, Repr

/-! ### Subscribing -/

structure V5SubscriptionOptions where
  noLocal : Bool
  retainAsPublished : Bool
  retainForwardRule : V5.RetainForwardRule
  deriving DecidableEq, Repr

inductive SubscriptionProtocolOptions where
  | versionNeutral
  | v5 (options : V5SubscriptionOptions)
  deriving DecidableEq, Repr

structure Subscription where
  filter : String
  qos : QoS
  protocol : SubscriptionProtocolOptions
  deriving DecidableEq, Repr

structure V5SubscribeProperties where
  subscriptionIdentifier : Option Nat
  userProperties : V5.UserProperties
  deriving DecidableEq, Repr

inductive SubscribeProtocolOptions where
  | versionNeutral
  | v5 (properties : V5SubscribeProperties)
  deriving DecidableEq, Repr

structure SubscribeCommand where
  filters : List Subscription
  protocol : SubscribeProtocolOptions
  deriving DecidableEq, Repr

structure V5UnsubscribeProperties where
  userProperties : V5.UserProperties
  deriving DecidableEq, Repr

inductive UnsubscribeProtocolOptions where
  | versionNeutral
  | v5 (properties : V5UnsubscribeProperties)
  deriving DecidableEq, Repr

structure UnsubscribeCommand where
  filters : List String
  protocol : UnsubscribeProtocolOptions
  deriving DecidableEq, Repr

/-! ### Acknowledging -/

/-- **The authority to acknowledge one incoming publish**: who received it, on which connection, and a
serial number. -/
structure AckToken where
  clientIdentity : Nat
  generation : Nat
  serial : Nat
  deriving DecidableEq, Repr

/-- The contents of a PUBACK or a PUBREC. -/
structure V5AcknowledgementOptions where
  reasonCode : UInt8 := 0
  reasonString : Option String := none
  userProperties : V5.UserProperties := []
  deriving DecidableEq, Repr

inductive AcknowledgementProtocolOptions where
  | versionNeutral
  | v5 (options : V5AcknowledgementOptions)
  deriving DecidableEq, Repr

/-! ### Commands -/

inductive Command where
  | publish (publish : PublishCommand)
  | subscribe (subscribe : SubscribeCommand)
  | unsubscribe (unsubscribe : UnsubscribeCommand)
  | acknowledge (token : AckToken)
  | acknowledgeWithOptions (token : AckToken) (protocol : AcknowledgementProtocolOptions)
  | reauthenticate
  | gracefulDisconnect
  | orderedDisconnect
  | orderedDisconnectWithOptions
  | immediateDisconnect
  | gracefulDisconnectWithOptions
  | immediateDisconnectWithOptions
  | recoverSession
  | diagnostics
  | updateConfiguration
  deriving DecidableEq, Repr

/-! ### Packets -/

/-- A publish of a command has no identifier yet, as every packet below. -/
def PublishCommand.toV4 (command : PublishCommand) : Except Error V4.Publish :=
  match command.protocol with
  | .v5 _ => .error (optionError "MQTT 5 publish properties require MQTT 5")
  | .versionNeutral => .ok
    { dup := false, qos := command.qos, retain := command.retain,
      topic := Mqttbytes.utf8 command.topic, pkid := 0, payload := command.payload, properties := () }

def V5OutgoingPublishProperties.toV5 (properties : V5OutgoingPublishProperties) :
    V5.PublishProperties where
  payloadFormatIndicator := properties.payloadFormatIndicator
  messageExpiryInterval := properties.messageExpiryInterval
  topicAlias := properties.topicAlias
  responseTopic := properties.responseTopic
  correlationData := properties.correlationData
  userProperties := properties.userProperties
  subscriptionIdentifiers := []
  contentType := properties.contentType

def PublishCommand.toV5 (command : PublishCommand) : V5.Publish where
  dup := false
  qos := command.qos
  retain := command.retain
  topic := Mqttbytes.utf8 command.topic
  pkid := 0
  payload := command.payload
  properties := match command.protocol with
    | .versionNeutral => none
    | .v5 properties => some properties.toV5

def SubscribeCommand.toV4 (command : SubscribeCommand) : Except Error V4.Subscribe :=
  if command.protocol ≠ .versionNeutral ∨
      ∃ filter ∈ command.filters, filter.protocol ≠ .versionNeutral then
    .error (optionError "MQTT 5 subscribe options require MQTT 5")
  else .ok
    { pkid := 0, filters := command.filters.map fun filter => ⟨filter.filter, filter.qos⟩,
      properties := () }

def Subscription.toV5 (filter : Subscription) : V5.SubscribeFilter :=
  match filter.protocol with
  | .versionNeutral => ⟨filter.filter, filter.qos, false, false, .onEverySubscribe⟩
  | .v5 options => ⟨filter.filter, filter.qos, options.noLocal, options.retainAsPublished,
      options.retainForwardRule⟩

def SubscribeCommand.toV5 (command : SubscribeCommand) : V5.Subscribe where
  pkid := 0
  filters := command.filters.map Subscription.toV5
  properties := match command.protocol with
    | .versionNeutral => none
    | .v5 properties => some ⟨properties.subscriptionIdentifier, properties.userProperties⟩

def UnsubscribeCommand.toV4 (command : UnsubscribeCommand) : Except Error V4.Unsubscribe :=
  match command.protocol with
  | .v5 _ => .error (optionError "MQTT 5 unsubscribe properties require MQTT 5")
  | .versionNeutral => .ok { pkid := 0, filters := command.filters, properties := () }

def UnsubscribeCommand.toV5 (command : UnsubscribeCommand) : V5.Unsubscribe where
  pkid := 0
  filters := command.filters
  properties := match command.protocol with
    | .versionNeutral => none
    | .v5 properties => some ⟨properties.userProperties⟩

end Rumqtt.Wrapper
