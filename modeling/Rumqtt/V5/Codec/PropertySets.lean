/-
**The property sets of the MQTT 5 packets.**

For each set: `len`, the number of bytes of its properties, summed up field by field; what its reader
expects and where it stores it; and the order in which its writer writes them.

Most readers take the last of several values of one type. The exceptions are the sets that expect a
type only once: SUBACK and UNSUBACK their reason string, CONNECT its two request flags, CONNACK its
flags and the assigned client identifier, AUTH everything but user properties. AUTH also cuts its block
out of the frame before it reads it, and so has a reader of its own.
-/

import Rumqtt.V5.Codec.Properties

namespace Rumqtt.V5

open Mqttbytes

/-- `_ => return Err(Error::InvalidPropertyType(prop))` -/
def unexpected {α : Type} (type : PropertyType) : Except Error α :=
  .error (.invalidPropertyType type.code)

/-- Refuses a type that was read before. -/
def once {α : Type} (error : Error) : Option α → Except Error Unit
  | none => .ok ()
  | some _ => .error error

/-- A flag of a CONNECT or a CONNACK is zero or one. -/
def flag (value : UInt8) : Except Error UInt8 :=
  if 1 < value then .error .protocolError else .ok value

/-! ### PUBLISH -/

namespace PublishProperties

def len (p : PublishProperties) : Nat :=
  optionalLen (fun _ => 1 + 1) p.payloadFormatIndicator +
  optionalLen (fun _ => 1 + 4) p.messageExpiryInterval +
  optionalLen (fun _ => 1 + 2) p.topicAlias +
  optionalLen (fun topic => 1 + 2 + (utf8 topic).length) p.responseTopic +
  optionalLen (fun data => 1 + 2 + data.length) p.correlationData +
  userPropertiesLen p.userProperties +
  repeatedLen (fun id => 1 + lenLen id) p.subscriptionIdentifiers +
  optionalLen (fun typ => 1 + 2 + (utf8 typ).length) p.contentType

def expects (_ : PublishProperties) : PropertyType → Except Error Unit
  | .payloadFormatIndicator => .ok ()
  | .messageExpiryInterval => .ok ()
  | .topicAlias => .ok ()
  | .responseTopic => .ok ()
  | .correlationData => .ok ()
  | .userProperty => .ok ()
  | .subscriptionIdentifier => .ok ()
  | .contentType => .ok ()
  | type => unexpected type

def store (p : PublishProperties) :
    (type : PropertyType) → type.kind.Carrier → Except Error PublishProperties
  | .payloadFormatIndicator, value => .ok { p with payloadFormatIndicator := some value }
  | .messageExpiryInterval, value => .ok { p with messageExpiryInterval := some value }
  | .topicAlias, aliasId =>
    if aliasId = (0 : UInt16) then .error (.protocolViolation .topicAliasInvalid)
    else .ok { p with topicAlias := some aliasId }
  | .responseTopic, topic => .ok { p with responseTopic := some topic }
  | .correlationData, data => .ok { p with correlationData := some data }
  | .userProperty, pair => .ok { p with userProperties := p.userProperties ++ [pair] }
  | .subscriptionIdentifier, id =>
    .ok { p with subscriptionIdentifiers := p.subscriptionIdentifiers ++ [id] }
  | .contentType, typ => .ok { p with contentType := some typ }
  | type, _ => unexpected type

def entries (p : PublishProperties) : List Property :=
  optional .payloadFormatIndicator p.payloadFormatIndicator ++
  optional .messageExpiryInterval p.messageExpiryInterval ++
  optional .topicAlias p.topicAlias ++
  optional .responseTopic p.responseTopic ++
  optional .correlationData p.correlationData ++
  repeated .userProperty p.userProperties ++
  repeated .subscriptionIdentifier p.subscriptionIdentifiers ++
  optional .contentType p.contentType

/-- The alias of a publish is checked before it is written. -/
def guard : Property → Except Error Unit
  | ⟨.topicAlias, aliasId⟩ =>
    if aliasId = (0 : UInt16) then .error (.protocolViolation .topicAliasInvalid) else .ok ()
  | _ => .ok ()

/-- **The properties of a PUBLISH.** The arm of a subscription identifier adds one more to the cursor
than the identifier takes: the type byte is counted twice. -/
def table : PropertyTable PublishProperties where
  empty := {}
  expects := expects
  store := store
  entries := entries
  guard := guard
  extra := fun type => if type = .subscriptionIdentifier then 1 else 0

def read : FrameReader (Option PublishProperties) := table.read

def write (p : PublishProperties) : FrameWriter Unit := table.write p.len p

end PublishProperties

/-! ### The acknowledgements -/

namespace AckProperties

/-- `PubAckProperties::len` and its likes. -/
def len (p : AckProperties) : Nat :=
  optionalLen (fun reason => 1 + 2 + (utf8 reason).length) p.reasonString +
  userPropertiesLen p.userProperties

def expects (_ : AckProperties) : PropertyType → Except Error Unit
  | .reasonString => .ok ()
  | .userProperty => .ok ()
  | type => unexpected type

/-- SUBACK and UNSUBACK refuse a second reason string. -/
def expectsOnce (p : AckProperties) : PropertyType → Except Error Unit
  | .reasonString => once .protocolError p.reasonString
  | .userProperty => .ok ()
  | type => unexpected type

def store (p : AckProperties) :
    (type : PropertyType) → type.kind.Carrier → Except Error AckProperties
  | .reasonString, reason => .ok { p with reasonString := some reason }
  | .userProperty, pair => .ok { p with userProperties := p.userProperties ++ [pair] }
  | type, _ => unexpected type

def entries (p : AckProperties) : List Property :=
  optional .reasonString p.reasonString ++
  repeated .userProperty p.userProperties

/-- The properties of PUBACK, PUBREC, PUBREL and PUBCOMP. -/
def table : PropertyTable AckProperties where
  empty := {}
  expects := expects
  store := store
  entries := entries

/-- The properties of SUBACK and UNSUBACK. -/
def subTable : PropertyTable AckProperties where
  empty := {}
  expects := expectsOnce
  store := store
  entries := entries

def write (p : AckProperties) : FrameWriter Unit := table.write p.len p

end AckProperties

/-! ### SUBSCRIBE and UNSUBSCRIBE -/

namespace SubscribeProperties

def len (p : SubscribeProperties) : Nat :=
  optionalLen (fun id => 1 + lenLen id) p.id +
  userPropertiesLen p.userProperties

def expects (_ : SubscribeProperties) : PropertyType → Except Error Unit
  | .subscriptionIdentifier => .ok ()
  | .userProperty => .ok ()
  | type => unexpected type

def store (p : SubscribeProperties) :
    (type : PropertyType) → type.kind.Carrier → Except Error SubscribeProperties
  | .subscriptionIdentifier, id =>
    if id = (0 : Nat) then .error .protocolError else .ok { p with id := some id }
  | .userProperty, pair => .ok { p with userProperties := p.userProperties ++ [pair] }
  | type, _ => unexpected type

def entries (p : SubscribeProperties) : List Property :=
  optional .subscriptionIdentifier p.id ++
  repeated .userProperty p.userProperties

def guard : Property → Except Error Unit
  | ⟨.subscriptionIdentifier, id⟩ => if id = (0 : Nat) then .error .protocolError else .ok ()
  | _ => .ok ()

def table : PropertyTable SubscribeProperties where
  empty := { id := none, userProperties := [] }
  expects := expects
  store := store
  entries := entries
  guard := guard

def read : FrameReader (Option SubscribeProperties) := table.read

def write (p : SubscribeProperties) : FrameWriter Unit := table.write p.len p

end SubscribeProperties

namespace UnsubscribeProperties

def len (p : UnsubscribeProperties) : Nat := userPropertiesLen p.userProperties

def expects (_ : UnsubscribeProperties) : PropertyType → Except Error Unit
  | .userProperty => .ok ()
  | type => unexpected type

def store (p : UnsubscribeProperties) :
    (type : PropertyType) → type.kind.Carrier → Except Error UnsubscribeProperties
  | .userProperty, pair => .ok { p with userProperties := p.userProperties ++ [pair] }
  | type, _ => unexpected type

def entries (p : UnsubscribeProperties) : List Property := repeated .userProperty p.userProperties

def table : PropertyTable UnsubscribeProperties where
  empty := { userProperties := [] }
  expects := expects
  store := store
  entries := entries

def read : FrameReader (Option UnsubscribeProperties) := table.read

def write (p : UnsubscribeProperties) : FrameWriter Unit := table.write p.len p

end UnsubscribeProperties

/-! ### CONNECT and its will -/

namespace ConnectProperties

section

variable (p : ConnectProperties)

def len : Nat :=
  optionalLen (fun _ => 1 + 4) p.sessionExpiryInterval +
  optionalLen (fun _ => 1 + 2) p.receiveMaximum +
  optionalLen (fun _ => 1 + 4) p.maxPacketSize +
  optionalLen (fun _ => 1 + 2) p.topicAliasMax +
  optionalLen (fun _ => 1 + 1) p.requestResponseInfo +
  optionalLen (fun _ => 1 + 1) p.requestProblemInfo +
  userPropertiesLen p.userProperties +
  optionalLen (fun method => 1 + 2 + (utf8 method).length) p.authenticationMethod +
  optionalLen (fun data => 1 + 2 + data.length) p.authenticationData

def expects : PropertyType → Except Error Unit
  | .sessionExpiryInterval => .ok ()
  | .receiveMaximum => .ok ()
  | .maximumPacketSize => .ok ()
  | .topicAliasMaximum => .ok ()
  | .requestResponseInformation => once .protocolError p.requestResponseInfo
  | .requestProblemInformation => once .protocolError p.requestProblemInfo
  | .userProperty => .ok ()
  | .authenticationMethod => .ok ()
  | .authenticationData => .ok ()
  | type => unexpected type

def store : (type : PropertyType) → type.kind.Carrier → Except Error ConnectProperties
  | .sessionExpiryInterval, value => .ok { p with sessionExpiryInterval := some value }
  | .receiveMaximum, receiveMax =>
    if receiveMax = (0 : UInt16) then .error .protocolError
    else .ok { p with receiveMaximum := some receiveMax }
  | .maximumPacketSize, value => .ok { p with maxPacketSize := some value }
  | .topicAliasMaximum, value => .ok { p with topicAliasMax := some value }
  | .requestResponseInformation, value => do
    return { p with requestResponseInfo := some (← flag value) }
  | .requestProblemInformation, value => do
    return { p with requestProblemInfo := some (← flag value) }
  | .userProperty, pair => .ok { p with userProperties := p.userProperties ++ [pair] }
  | .authenticationMethod, method => .ok { p with authenticationMethod := some method }
  | .authenticationData, data => .ok { p with authenticationData := some data }
  | type, _ => unexpected type

def entries : List Property :=
  optional .sessionExpiryInterval p.sessionExpiryInterval ++
  optional .receiveMaximum p.receiveMaximum ++
  optional .maximumPacketSize p.maxPacketSize ++
  optional .topicAliasMaximum p.topicAliasMax ++
  optional .requestResponseInformation p.requestResponseInfo ++
  optional .requestProblemInformation p.requestProblemInfo ++
  repeated .userProperty p.userProperties ++
  optional .authenticationMethod p.authenticationMethod ++
  optional .authenticationData p.authenticationData

end

/-- The two request flags are checked before they are written; the receive maximum is not. -/
def guard : Property → Except Error Unit
  | ⟨.requestResponseInformation, value⟩ => do
    let _ ← flag value
  | ⟨.requestProblemInformation, value⟩ => do
    let _ ← flag value
  | _ => .ok ()

def table : PropertyTable ConnectProperties where
  empty := {}
  expects := expects
  store := store
  entries := entries
  guard := guard

def read : FrameReader (Option ConnectProperties) := table.read

def write (p : ConnectProperties) : FrameWriter Unit := table.write p.len p

end ConnectProperties

namespace LastWillProperties

def len (p : LastWillProperties) : Nat :=
  optionalLen (fun _ => 1 + 4) p.delayInterval +
  optionalLen (fun _ => 1 + 1) p.payloadFormatIndicator +
  optionalLen (fun _ => 1 + 4) p.messageExpiryInterval +
  optionalLen (fun typ => 1 + 2 + (utf8 typ).length) p.contentType +
  optionalLen (fun topic => 1 + 2 + (utf8 topic).length) p.responseTopic +
  optionalLen (fun data => 1 + 2 + data.length) p.correlationData +
  userPropertiesLen p.userProperties

def expects (_ : LastWillProperties) : PropertyType → Except Error Unit
  | .willDelayInterval => .ok ()
  | .payloadFormatIndicator => .ok ()
  | .messageExpiryInterval => .ok ()
  | .contentType => .ok ()
  | .responseTopic => .ok ()
  | .correlationData => .ok ()
  | .userProperty => .ok ()
  | type => unexpected type

def store (p : LastWillProperties) :
    (type : PropertyType) → type.kind.Carrier → Except Error LastWillProperties
  | .willDelayInterval, value => .ok { p with delayInterval := some value }
  | .payloadFormatIndicator, value => .ok { p with payloadFormatIndicator := some value }
  | .messageExpiryInterval, value => .ok { p with messageExpiryInterval := some value }
  | .contentType, typ => .ok { p with contentType := some typ }
  | .responseTopic, topic => .ok { p with responseTopic := some topic }
  | .correlationData, data => .ok { p with correlationData := some data }
  | .userProperty, pair => .ok { p with userProperties := p.userProperties ++ [pair] }
  | type, _ => unexpected type

def entries (p : LastWillProperties) : List Property :=
  optional .willDelayInterval p.delayInterval ++
  optional .payloadFormatIndicator p.payloadFormatIndicator ++
  optional .messageExpiryInterval p.messageExpiryInterval ++
  optional .contentType p.contentType ++
  optional .responseTopic p.responseTopic ++
  optional .correlationData p.correlationData ++
  repeated .userProperty p.userProperties

def table : PropertyTable LastWillProperties where
  empty := {}
  expects := expects
  store := store
  entries := entries

def read : FrameReader (Option LastWillProperties) := table.read

def write (p : LastWillProperties) : FrameWriter Unit := table.write p.len p

end LastWillProperties

/-! ### CONNACK -/

namespace ConnAckProperties

section

variable (p : ConnAckProperties)

def len : Nat :=
  optionalLen (fun _ => 1 + 4) p.sessionExpiryInterval +
  optionalLen (fun _ => 1 + 2) p.receiveMax +
  optionalLen (fun _ => 1 + 1) p.maxQos +
  optionalLen (fun _ => 1 + 1) p.retainAvailable +
  optionalLen (fun _ => 1 + 4) p.maxPacketSize +
  optionalLen (fun id => 1 + 2 + (utf8 id).length) p.assignedClientIdentifier +
  optionalLen (fun _ => 1 + 2) p.topicAliasMax +
  optionalLen (fun reason => 1 + 2 + (utf8 reason).length) p.reasonString +
  userPropertiesLen p.userProperties +
  optionalLen (fun _ => 1 + 1) p.wildcardSubscriptionAvailable +
  optionalLen (fun _ => 1 + 1) p.subscriptionIdentifiersAvailable +
  optionalLen (fun _ => 1 + 1) p.sharedSubscriptionAvailable +
  optionalLen (fun _ => 1 + 2) p.serverKeepAlive +
  optionalLen (fun info => 1 + 2 + (utf8 info).length) p.responseInformation +
  optionalLen (fun reference => 1 + 2 + (utf8 reference).length) p.serverReference +
  optionalLen (fun method => 1 + 2 + (utf8 method).length) p.authenticationMethod +
  optionalLen (fun data => 1 + 2 + data.length) p.authenticationData

def expects : PropertyType → Except Error Unit
  | .sessionExpiryInterval => .ok ()
  | .receiveMaximum => .ok ()
  | .maximumQos => once .protocolError p.maxQos
  | .retainAvailable => once .protocolError p.retainAvailable
  | .assignedClientIdentifier => once .protocolError p.assignedClientIdentifier
  | .maximumPacketSize => .ok ()
  | .topicAliasMaximum => .ok ()
  | .reasonString => .ok ()
  | .userProperty => .ok ()
  | .wildcardSubscriptionAvailable => once .protocolError p.wildcardSubscriptionAvailable
  | .subscriptionIdentifierAvailable => once .protocolError p.subscriptionIdentifiersAvailable
  | .sharedSubscriptionAvailable => once .protocolError p.sharedSubscriptionAvailable
  | .serverKeepAlive => .ok ()
  | .responseInformation => .ok ()
  | .serverReference => .ok ()
  | .authenticationMethod => .ok ()
  | .authenticationData => .ok ()
  | type => unexpected type

/-- `read_connack_property` -/
def store : (type : PropertyType) → type.kind.Carrier → Except Error ConnAckProperties
  | .sessionExpiryInterval, value => .ok { p with sessionExpiryInterval := some value }
  | .receiveMaximum, receiveMax =>
    if receiveMax = (0 : UInt16) then .error .protocolError
    else .ok { p with receiveMax := some receiveMax }
  | .maximumQos, value => do return { p with maxQos := some (← flag value) }
  | .retainAvailable, value => do return { p with retainAvailable := some (← flag value) }
  | .assignedClientIdentifier, id => .ok { p with assignedClientIdentifier := some id }
  | .maximumPacketSize, value => .ok { p with maxPacketSize := some value }
  | .topicAliasMaximum, value => .ok { p with topicAliasMax := some value }
  | .reasonString, reason => .ok { p with reasonString := some reason }
  | .userProperty, pair => .ok { p with userProperties := p.userProperties ++ [pair] }
  | .wildcardSubscriptionAvailable, value => do
    return { p with wildcardSubscriptionAvailable := some (← flag value) }
  | .subscriptionIdentifierAvailable, value => do
    return { p with subscriptionIdentifiersAvailable := some (← flag value) }
  | .sharedSubscriptionAvailable, value => do
    return { p with sharedSubscriptionAvailable := some (← flag value) }
  | .serverKeepAlive, value => .ok { p with serverKeepAlive := some value }
  | .responseInformation, info => .ok { p with responseInformation := some info }
  | .serverReference, reference => .ok { p with serverReference := some reference }
  | .authenticationMethod, method => .ok { p with authenticationMethod := some method }
  | .authenticationData, data => .ok { p with authenticationData := some data }
  | type, _ => unexpected type

def entries : List Property :=
  optional .sessionExpiryInterval p.sessionExpiryInterval ++
  optional .receiveMaximum p.receiveMax ++
  optional .maximumQos p.maxQos ++
  optional .retainAvailable p.retainAvailable ++
  optional .maximumPacketSize p.maxPacketSize ++
  optional .assignedClientIdentifier p.assignedClientIdentifier ++
  optional .topicAliasMaximum p.topicAliasMax ++
  optional .reasonString p.reasonString ++
  repeated .userProperty p.userProperties ++
  optional .wildcardSubscriptionAvailable p.wildcardSubscriptionAvailable ++
  optional .subscriptionIdentifierAvailable p.subscriptionIdentifiersAvailable ++
  optional .sharedSubscriptionAvailable p.sharedSubscriptionAvailable ++
  optional .serverKeepAlive p.serverKeepAlive ++
  optional .responseInformation p.responseInformation ++
  optional .serverReference p.serverReference ++
  optional .authenticationMethod p.authenticationMethod ++
  optional .authenticationData p.authenticationData

end

def table : PropertyTable ConnAckProperties where
  empty := {}
  expects := expects
  store := store
  entries := entries

def read : FrameReader (Option ConnAckProperties) := table.read

/-- The flags of a CONNACK are checked before anything is written. -/
def flags (p : ConnAckProperties) : List UInt8 :=
  [p.maxQos, p.retainAvailable, p.wildcardSubscriptionAvailable,
    p.subscriptionIdentifiersAvailable, p.sharedSubscriptionAvailable].reduceOption

def writeInner (p : ConnAckProperties) : FrameWriter Unit := do
  Handler.failIf (∃ value ∈ p.flags, 1 < value) .protocolError
  table.writeInner p.len p

def write (p : ConnAckProperties) : FrameWriter Unit := Writer.transactional p.writeInner

end ConnAckProperties

/-! ### DISCONNECT -/

namespace DisconnectProperties

def len (p : DisconnectProperties) : Nat :=
  optionalLen (fun _ => 1 + 4) p.sessionExpiryInterval +
  optionalLen (fun reason => 1 + 2 + (utf8 reason).length) p.reasonString +
  userPropertiesLen p.userProperties +
  optionalLen (fun reference => 1 + 2 + (utf8 reference).length) p.serverReference

def expects (_ : DisconnectProperties) : PropertyType → Except Error Unit
  | .sessionExpiryInterval => .ok ()
  | .reasonString => .ok ()
  | .userProperty => .ok ()
  | .serverReference => .ok ()
  | type => unexpected type

def store (p : DisconnectProperties) :
    (type : PropertyType) → type.kind.Carrier → Except Error DisconnectProperties
  | .sessionExpiryInterval, value => .ok { p with sessionExpiryInterval := some value }
  | .reasonString, reason => .ok { p with reasonString := some reason }
  | .userProperty, pair => .ok { p with userProperties := p.userProperties ++ [pair] }
  | .serverReference, reference => .ok { p with serverReference := some reference }
  | type, _ => unexpected type

def entries (p : DisconnectProperties) : List Property :=
  optional .sessionExpiryInterval p.sessionExpiryInterval ++
  optional .reasonString p.reasonString ++
  repeated .userProperty p.userProperties ++
  optional .serverReference p.serverReference

def table : PropertyTable DisconnectProperties where
  empty := {}
  expects := expects
  store := store
  entries := entries

/-- `DisconnectProperties::extract` -/
def extract : FrameReader (Option DisconnectProperties) := table.read

def write (p : DisconnectProperties) : FrameWriter Unit := table.write p.len p

end DisconnectProperties

/-! ### AUTH -/

namespace AuthProperties

section

variable (p : AuthProperties)

def len : Nat :=
  optionalLen (fun method => 1 + 2 + (utf8 method).length) p.method +
  optionalLen (fun data => 1 + 2 + data.length) p.data +
  optionalLen (fun reason => 1 + 2 + (utf8 reason).length) p.reason +
  repeatedLen (fun (key, value) => 1 + 4 + ((utf8 key).length + (utf8 value).length))
    p.userProperties

def expects : PropertyType → Except Error Unit
  | .authenticationMethod => once .malformedPacket p.method
  | .authenticationData => once .malformedPacket p.data
  | .reasonString => once .malformedPacket p.reason
  | .userProperty => .ok ()
  | type => unexpected type

def store : (type : PropertyType) → type.kind.Carrier → Except Error AuthProperties
  | .authenticationMethod, method => .ok { p with method := some method }
  | .authenticationData, data => .ok { p with data := some data }
  | .reasonString, reason => .ok { p with reason := some reason }
  | .userProperty, pair => .ok { p with userProperties := p.userProperties ++ [pair] }
  | type, _ => unexpected type

def entries : List Property :=
  optional .authenticationMethod p.method ++
  optional .authenticationData p.data ++
  optional .reasonString p.reason ++
  repeated .userProperty p.userProperties

end

def table : PropertyTable AuthProperties where
  empty := {}
  expects := expects
  store := store
  entries := entries

/-- `while bytes.has_remaining()`, on the bytes of the block alone. -/
def loop : (rounds : Nat) → AuthProperties → FrameReader AuthProperties
  | 0, props => pure props
  | rounds + 1, props => do
    let bytes ← Reader.peek
    if bytes = [] then pure props
    else do
      let prop ← readU8
      let type ← Handler.ofExcept (property prop)
      Handler.ofExcept (expects props type)
      let (value, _) ← type.kind.read
      let props ← Handler.ofExcept (store props type value)
      loop rounds props

/-- **Reads the block of an AUTH**, which is cut out of the frame first. -/
def read : FrameReader (Option AuthProperties) := do
  let (propertiesLenLen, propertiesLen) ← peekLength
  Reader.advance propertiesLenLen
  let bytes ← Reader.peek
  Handler.failIf (bytes.length < propertiesLen) .malformedPacket
  if propertiesLen = 0 then do
    Reader.observe (· ++ [{ ahead := bytes, declared := 0, consumed := 0 }])
    return none
  else do
    let block ← Reader.splitTo propertiesLen
    let props ← Handler.on { unread := block, seen := [] } (loop propertiesLen {})
    Reader.observe (· ++ [{ ahead := bytes, declared := propertiesLen, consumed := propertiesLen }])
    return some props

def write (p : AuthProperties) : FrameWriter Unit := table.write p.len p

end AuthProperties

end Rumqtt.V5
