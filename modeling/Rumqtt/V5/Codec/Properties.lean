/-
**MQTT 5 properties on the wire.**

Every MQTT 5 packet has a set of properties of its own, and the codec has a reader and a writer for
each of them. They are all one loop over one list of property types: what differs is which types a set
expects, where it stores their values and in what order it writes them. A `PropertyTable` lists that,
and `PropertyTable.read` and `PropertyTable.write` are the loops.

The value of a property type is of one `Kind`; `Kind.read` and `Kind.write` are the reads and writes
of all the arms.

The reader keeps a cursor of its own beside the bytes it takes. `Block` is the record of an observer
that measures both: it is not read by any function.
-/

import Rumqtt.Mqttbytes.Primitives
import Rumqtt.V5.Packet

namespace Rumqtt.V5

open Mqttbytes

/-- Error during serialization and deserialization. -/
inductive Error where
  | invalidConnectReturnCode (code : UInt8)
  | invalidProtocol
  | invalidProtocolLevel (level : UInt8)
  | incorrectPacketFormat
  | invalidPacketType (num : UInt8)
  | invalidRetainForwardRule (rule : UInt8)
  | invalidQoS (num : UInt8)
  | invalidSubscribeReasonCode (code : UInt8)
  | packetIdZero
  | emptySubscription
  | emptyUnsubscription
  | protocolError
  | protocolViolation (reason : DisconnectReasonCode)
  | payloadTooLong
  | payloadSizeLimitExceeded (pktSize : Nat) (max : UInt32)
  | payloadRequired
  | topicNotUtf8
  | boundaryCrossed (length : Nat)
  | malformedPacket
  | malformedRemainingLength
  | invalidPropertyType (num : UInt8)
  | insufficientBytes (required : Nat)
  | outgoingPacketTooLarge (pktSize max : UInt32)
  deriving DecidableEq, Repr

instance : FromPrimitive Error where
  ofPrimitive
    | .payloadTooLong .. => .payloadTooLong
    | .boundaryCrossed len => .boundaryCrossed len
    | .malformedPacket => .malformedPacket
    | .malformedRemainingLength => .malformedRemainingLength
    | .topicNotUtf8 => .topicNotUtf8
    | .insufficientBytes required => .insufficientBytes required

/-- **A property block as an observer saw it**: the bytes ahead when it began, the length it declares
and the number of bytes its reader took. -/
structure Block where
  ahead : Bytes
  declared : Nat
  consumed : Nat
  deriving DecidableEq, Repr

/-- Code that reads a frame. -/
abbrev FrameReader := Reader Error (List Block)

abbrev FrameWriter := Writer Error

/-! ### Property types -/

inductive PropertyType where
  | payloadFormatIndicator
  | messageExpiryInterval
  | contentType
  | responseTopic
  | correlationData
  | subscriptionIdentifier
  | sessionExpiryInterval
  | assignedClientIdentifier
  | serverKeepAlive
  | authenticationMethod
  | authenticationData
  | requestProblemInformation
  | willDelayInterval
  | requestResponseInformation
  | responseInformation
  | serverReference
  | reasonString
  | receiveMaximum
  | topicAliasMaximum
  | topicAlias
  | maximumQos
  | retainAvailable
  | userProperty
  | maximumPacketSize
  | wildcardSubscriptionAvailable
  | subscriptionIdentifierAvailable
  | sharedSubscriptionAvailable
  deriving DecidableEq, Repr

namespace PropertyType

/-- `property_type as u8` -/
def code : PropertyType → UInt8
  | payloadFormatIndicator => 1
  | messageExpiryInterval => 2
  | contentType => 3
  | responseTopic => 8
  | correlationData => 9
  | subscriptionIdentifier => 11
  | sessionExpiryInterval => 17
  | assignedClientIdentifier => 18
  | serverKeepAlive => 19
  | authenticationMethod => 21
  | authenticationData => 22
  | requestProblemInformation => 23
  | willDelayInterval => 24
  | requestResponseInformation => 25
  | responseInformation => 26
  | serverReference => 28
  | reasonString => 31
  | receiveMaximum => 33
  | topicAliasMaximum => 34
  | topicAlias => 35
  | maximumQos => 36
  | retainAvailable => 37
  | userProperty => 38
  | maximumPacketSize => 39
  | wildcardSubscriptionAvailable => 40
  | subscriptionIdentifierAvailable => 41
  | sharedSubscriptionAvailable => 42

end PropertyType

def property (num : UInt8) : Except Error PropertyType :=
  match num with
  | 1 => .ok .payloadFormatIndicator
  | 2 => .ok .messageExpiryInterval
  | 3 => .ok .contentType
  | 8 => .ok .responseTopic
  | 9 => .ok .correlationData
  | 11 => .ok .subscriptionIdentifier
  | 17 => .ok .sessionExpiryInterval
  | 18 => .ok .assignedClientIdentifier
  | 19 => .ok .serverKeepAlive
  | 21 => .ok .authenticationMethod
  | 22 => .ok .authenticationData
  | 23 => .ok .requestProblemInformation
  | 24 => .ok .willDelayInterval
  | 25 => .ok .requestResponseInformation
  | 26 => .ok .responseInformation
  | 28 => .ok .serverReference
  | 31 => .ok .reasonString
  | 33 => .ok .receiveMaximum
  | 34 => .ok .topicAliasMaximum
  | 35 => .ok .topicAlias
  | 36 => .ok .maximumQos
  | 37 => .ok .retainAvailable
  | 38 => .ok .userProperty
  | 39 => .ok .maximumPacketSize
  | 40 => .ok .wildcardSubscriptionAvailable
  | 41 => .ok .subscriptionIdentifierAvailable
  | 42 => .ok .sharedSubscriptionAvailable
  | num => .error (.invalidPropertyType num)

@[simp] theorem property_code (type : PropertyType) : property type.code = .ok type := by
  cases type <;> rfl

theorem property_error {num : UInt8} {error : Error} (refused : property num = .error error) :
    error = .invalidPropertyType num := by
  unfold property at refused
  split at refused
  all_goals first
    | exact (Except.error.inj refused).symm
    | cases refused

/-! ### Values -/

/-- How the value of a property is laid out. -/
inductive Kind where
  | byte
  | twoByte
  | fourByte
  | varint
  | text
  | binary
  | pair
  deriving DecidableEq, Repr

namespace Kind

abbrev Carrier : Kind → Type
  | byte => UInt8
  | twoByte => UInt16
  | fourByte => UInt32
  | varint => Nat
  | text => String
  | binary => Bytes
  | pair => String × String

/-- Reads a value, and by how much its arm moves the cursor. -/
def read : (kind : Kind) → FrameReader (kind.Carrier × Nat)
  | byte => do
    let value ← readU8
    return (value, 1)
  | twoByte => do
    let value ← readU16
    return (value, 2)
  | fourByte => do
    let value ← readU32
    return (value, 4)
  | varint => do
    let (idLen, id) ← peekLength
    Reader.advance idLen
    return (id, idLen)
  | text => do
    let value ← readMqttString
    return (value, 2 + (utf8 value).length)
  | binary => do
    let value ← readMqttBytes
    return (value, 2 + value.length)
  | pair => do
    let key ← readMqttString
    let value ← readMqttString
    return ((key, value), 2 + (utf8 key).length + 2 + (utf8 value).length)

def write : (kind : Kind) → kind.Carrier → FrameWriter Unit
  | byte, value => Writer.putU8 value
  | twoByte, value => Writer.putU16 value
  | fourByte, value => Writer.putU32 value
  | varint, value => do
    let _ ← writeRemainingLength value
  | text, value => writeMqttString value
  | binary, value => writeMqttBytes value
  | pair, (key, value) => do
    writeMqttString key
    writeMqttString value

/-- The number of bytes that a value is written in. -/
def width : (kind : Kind) → kind.Carrier → Nat
  | byte, _ => 1
  | twoByte, _ => 2
  | fourByte, _ => 4
  | varint, value => lenLen value
  | text, value => 2 + (utf8 value).length
  | binary, value => 2 + value.length
  | pair, (key, value) => 2 + (utf8 key).length + 2 + (utf8 value).length

end Kind

/-- The layout of the value of a property type. -/
abbrev PropertyType.kind : PropertyType → Kind
  | payloadFormatIndicator => .byte
  | messageExpiryInterval => .fourByte
  | contentType => .text
  | responseTopic => .text
  | correlationData => .binary
  | subscriptionIdentifier => .varint
  | sessionExpiryInterval => .fourByte
  | assignedClientIdentifier => .text
  | serverKeepAlive => .twoByte
  | authenticationMethod => .text
  | authenticationData => .binary
  | requestProblemInformation => .byte
  | willDelayInterval => .fourByte
  | requestResponseInformation => .byte
  | responseInformation => .text
  | serverReference => .text
  | reasonString => .text
  | receiveMaximum => .twoByte
  | topicAliasMaximum => .twoByte
  | topicAlias => .twoByte
  | maximumQos => .byte
  | retainAvailable => .byte
  | userProperty => .pair
  | maximumPacketSize => .fourByte
  | wildcardSubscriptionAvailable => .byte
  | subscriptionIdentifierAvailable => .byte
  | sharedSubscriptionAvailable => .byte

/-- **A property**: a type and a value of the kind it has. -/
structure Property where
  type : PropertyType
  value : type.kind.Carrier

/-- The number of bytes that a property is written in. -/
def Property.len (property : Property) : Nat := 1 + property.type.kind.width property.value

/-! ### Property sets -/

/-- **What differs between the property sets.**

* `expects` is checked before a value is read: the types a set has, and those it takes only once.
* `store` puts a value that was read in its place, or refuses it.
* `entries` are the properties in the order they are written, and `guard` what is checked before
  each of them.
* `extra` is what a type's arm adds to the cursor beyond the bytes of the value. -/
structure PropertyTable (P : Type) where
  empty : P
  expects : P → PropertyType → Except Error Unit
  store : P → (type : PropertyType) → type.kind.Carrier → Except Error P
  entries : P → List Property
  guard : Property → Except Error Unit := fun _ => .ok ()
  extra : PropertyType → Nat := fun _ => 0

namespace PropertyTable

variable {P : Type} (table : PropertyTable P)

/-- `while cursor < properties_len`. A round moves the cursor, so that the rounds are bounded. -/
def loop (propertiesLen : Nat) : (rounds cursor : Nat) → P → FrameReader P
  | 0, _, properties => pure properties
  | rounds + 1, cursor, properties =>
    if cursor < propertiesLen then do
      let prop ← readU8
      let type ← Handler.ofExcept (property prop)
      Handler.ofExcept (table.expects properties type)
      let (value, width) ← type.kind.read
      let properties ← Handler.ofExcept (table.store properties type value)
      loop propertiesLen rounds (cursor + 1 + (width + table.extra type)) properties
    else pure properties

/-- **Reads a property block.** The lines about `ahead` and `behind` are the observer's. -/
def read : FrameReader (Option P) := do
  let (propertiesLenLen, propertiesLen) ← peekLength
  Reader.advance propertiesLenLen
  let ahead ← Reader.peek
  if propertiesLen = 0 then do
    Reader.observe (· ++ [{ ahead, declared := 0, consumed := 0 }])
    return none
  else do
    let properties ← table.loop propertiesLen propertiesLen 0 table.empty
    let behind ← Reader.peek
    Reader.observe
      (· ++ [{ ahead, declared := propertiesLen, consumed := ahead.length - behind.length }])
    return some properties

def writeProperty (property : Property) : FrameWriter Unit := do
  Handler.ofExcept (table.guard property)
  Writer.putU8 property.type.code
  property.type.kind.write property.value

def writeInner (len : Nat) (properties : P) : FrameWriter Unit := do
  let _ ← writeRemainingLength len
  Writer.each table.writeProperty (table.entries properties)

/-- **Writes a property block** of the given length. -/
def write (len : Nat) (properties : P) : FrameWriter Unit :=
  Writer.transactional (table.writeInner len properties)

end PropertyTable

/-- An optional property. -/
def optional (type : PropertyType) (value : Option type.kind.Carrier) : List Property :=
  value.toList.map fun value => ⟨type, value⟩

/-- A property that may be repeated. -/
def repeated (type : PropertyType) (values : List type.kind.Carrier) : List Property :=
  values.map fun value => ⟨type, value⟩

/-- The number of bytes of an optional property. -/
def optionalLen {α : Type} (len : α → Nat) (value : Option α) : Nat := value.elim 0 len

/-- The number of bytes of a repeated property. -/
def repeatedLen {α : Type} (len : α → Nat) (values : List α) : Nat := (values.map len).sum

/-- The number of bytes of `user_properties`. -/
def userPropertiesLen (userProperties : UserProperties) : Nat :=
  repeatedLen (fun (key, value) => 1 + 2 + (utf8 key).length + 2 + (utf8 value).length)
    userProperties

/-- A block that may be absent: it is then the one byte of a zero length. -/
def blockLen {P : Type} (len : P → Nat) : Option P → Nat
  | some properties => lenLen (len properties) + len properties
  | none => 1

/-- Writes a block, or the zero length that stands for its absence. -/
def writeBlock {P : Type} (write : P → FrameWriter Unit) : Option P → FrameWriter Unit
  | some properties => write properties
  | none => do
    let _ ← writeRemainingLength 0

end Rumqtt.V5
