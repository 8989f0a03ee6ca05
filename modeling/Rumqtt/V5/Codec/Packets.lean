/-
**The MQTT 5 codec: `size`, `read` and `write` of every packet.**

A packet is written as its type byte, the Remaining Length that `len` computes beforehand, and its
fields. `Packet.read` splits one frame off the stream once `check` has found it complete, and hands it
to the reader of its type; `Codec.decode` takes a report of missing bytes for a frame that has not
arrived yet.

PUBACK, PUBREC, PUBREL and PUBCOMP are one codec with four type bytes and two sets of reason codes
(`AckKind`), SUBACK and UNSUBACK one with two (`CodesKind`).
-/

import Rumqtt.Mqttbytes.Frames
import Rumqtt.V5.Codec.PropertySets

namespace Rumqtt.V5

open Mqttbytes Handler Reader Writer

/-! ### Framing -/

/-- `fixed_header.packet_type()` -/
def packetType (header : FixedHeader) : Except Error PacketType :=
  match header.byte1 >>> 4 with
  | 1 => .ok .connect
  | 2 => .ok .connAck
  | 3 => .ok .publish
  | 4 => .ok .pubAck
  | 5 => .ok .pubRec
  | 6 => .ok .pubRel
  | 7 => .ok .pubComp
  | 8 => .ok .subscribe
  | 9 => .ok .subAck
  | 10 => .ok .unsubscribe
  | 11 => .ok .unsubAck
  | 12 => .ok .pingReq
  | 13 => .ok .pingResp
  | 14 => .ok .disconnect
  | 15 => .ok .auth
  | num => .error (.invalidPacketType num)

/-- `packet_type as u8` -/
def packetTypeCode : PacketType → UInt8
  | .connect => 1
  | .connAck => 2
  | .publish => 3
  | .pubAck => 4
  | .pubRec => 5
  | .pubRel => 6
  | .pubComp => 7
  | .subscribe => 8
  | .subAck => 9
  | .unsubscribe => 10
  | .unsubAck => 11
  | .pingReq => 12
  | .pingResp => 13
  | .disconnect => 14
  | .auth => 15

/-- The limit that a size exceeds, if there is one and it does. -/
def exceeded (maxSize : Option UInt32) (size : Nat) : Option UInt32 :=
  maxSize.filter fun max => max.toNat < size

def check (stream : Bytes) (maxPacketSize : Option UInt32) : Except Error FixedHeader := do
  let header ← (parseFixedHeader stream).mapError ofPrimitive
  match exceeded maxPacketSize header.frameLength with
  | some max => .error (.payloadSizeLimitExceeded header.frameLength max)
  | none =>
    if stream.length < header.frameLength then
      .error (.insufficientBytes (header.frameLength - stream.length))
    else .ok header

def validateFixedHeaderFlags (type : PacketType) (byte1 : UInt8) : Except Error Unit :=
  let flags := byte1 &&& 0x0F
  let valid := match type with
    | .publish => true
    | .pubRel | .subscribe | .unsubscribe => flags = 2
    | _ => flags = 0
  if valid then .ok () else .error .incorrectPacketFormat

/-- `qos` with the error of this version. -/
def qosLevel (num : UInt8) : Except Error QoS :=
  match qos num with
  | some level => .ok level
  | none => .error (.invalidQoS num)

/-! ### PUBLISH -/

def validatePublishTopicName (topic : Bytes) : Except Error Unit := do
  let _ ← (validateMqttString topic).mapError ofPrimitive
  -- `+` and `#`
  if 0x2B ∈ topic ∨ 0x23 ∈ topic then .error .malformedPacket else .ok ()

namespace Publish

def len (publish : Publish) : Nat :=
  2 + publish.topic.length +
  (if publish.qos ≠ .atMostOnce ∧ publish.pkid ≠ 0 then 2 else 0) +
  blockLen PublishProperties.len publish.properties +
  publish.payload.length

def size (publish : Publish) : Nat := frameSize (len publish)

/-- The identifier, which a publish of QoS 0 does not have. -/
def readPkid (qos : QoS) : FrameReader PacketId :=
  match qos with
  | .atMostOnce => pure 0
  | .atLeastOnce | .exactlyOnce => readU16

def read (header : FixedHeader) : FrameReader Publish := do
  let qos ← ofExcept
    ((qosLevel ((header.byte1 &&& 0x06) >>> 1)).mapError fun _ => .malformedPacket)
  let dup := header.byte1 &&& 0x08 != 0
  let retain := header.byte1 &&& 0x01 != 0
  failIf (qos = .atMostOnce ∧ dup = true) .malformedPacket
  advance header.headerLen
  let topic ← readMqttBytes
  ofExcept (validatePublishTopicName topic)
  let pkid ← readPkid qos
  failIf (qos ≠ .atMostOnce ∧ pkid = 0) .packetIdZero
  let properties ← PublishProperties.read
  let payload ← takeAll
  return { dup, qos, retain, topic, pkid, payload, properties }

/-- `u8::from(bool)` -/
def bit (value : Bool) : UInt8 := if value then 1 else 0

/-- The type byte of a publish carries its flags. -/
def byte1 (publish : Publish) : UInt8 :=
  (0x30 : UInt8) ||| bit publish.retain ||| (qosCode publish.qos <<< 1) ||| (bit publish.dup <<< 3)

def writeInner (publish : Publish) : FrameWriter Nat := do
  failIf (publish.qos = .atMostOnce ∧ publish.dup = true) .malformedPacket
  let len := len publish
  putU8 (byte1 publish)
  let count ← writeRemainingLength len
  ofExcept (validatePublishTopicName publish.topic)
  writeMqttBytes publish.topic
  if publish.qos ≠ .atMostOnce then do
    failIf (publish.pkid = 0) .packetIdZero
    putU16 publish.pkid
  writeBlock PublishProperties.write publish.properties
  extend publish.payload
  return 1 + count + len

def write (publish : Publish) : FrameWriter Nat := transactional (writeInner publish)

end Publish

/-! ### PUBACK, PUBREC, PUBREL and PUBCOMP -/

/-- What differs between the four acknowledgements of a publish. -/
structure AckKind (Reason : Type) where
  byte1 : UInt8
  success : Reason
  code : Reason → UInt8
  reason : UInt8 → Except Error Reason

namespace AckKind

variable {Reason : Type} [DecidableEq Reason] (kind : AckKind Reason)

/-- Without properties, a success is not spelled out. -/
def len (reason : Reason) (properties : Option AckProperties) : Nat :=
  if reason = kind.success ∧ properties = none then 2
  else 2 + 1 + blockLen AckProperties.len properties

def size (reason : Reason) (properties : Option AckProperties) : Nat :=
  if reason = kind.success ∧ properties = none then 4 else frameSize (kind.len reason properties)

def read (header : FixedHeader) : FrameReader (PacketId × Reason × Option AckProperties) := do
  advance header.headerLen
  let pkid ← readU16
  failIf (pkid = 0) .packetIdZero
  if header.remainingLen = 2 then return (pkid, kind.success, none)
  else do
    let ackReason ← readU8
    if header.remainingLen < 4 then do
      let reason ← ofExcept (kind.reason ackReason)
      return (pkid, reason, none)
    else do
      let properties ← AckProperties.table.read
      let reason ← ofExcept (kind.reason ackReason)
      return (pkid, reason, properties)

section

variable (pkid : PacketId) (reason : Reason) (properties : Option AckProperties)

def writeInner : FrameWriter Nat := do
  failIf (pkid = 0) .packetIdZero
  let len := kind.len reason properties
  putU8 kind.byte1
  let count ← writeRemainingLength len
  putU16 pkid
  if reason = kind.success ∧ properties = none then return 4
  else do
    putU8 (kind.code reason)
    writeBlock AckProperties.write properties
    return 1 + count + len

def write :
    FrameWriter Nat := transactional (kind.writeInner pkid reason properties)

end

end AckKind

/-- `PubAckReason::try_from` and `PubRecReason::try_from` -/
def pubAckReason (value : UInt8) : Except Error PubAckReason :=
  match value with
  | 0 => .ok .success
  | 16 => .ok .noMatchingSubscribers
  | 128 => .ok .unspecifiedError
  | 131 => .ok .implementationSpecificError
  | 135 => .ok .notAuthorized
  | 144 => .ok .topicNameInvalid
  | 145 => .ok .packetIdentifierInUse
  | 151 => .ok .quotaExceeded
  | 153 => .ok .payloadFormatInvalid
  | value => .error (.invalidConnectReturnCode value)

/-- `PubRelReason::try_from` and `PubCompReason::try_from` -/
def pubRelReason (value : UInt8) : Except Error PubRelReason :=
  match value with
  | 0 => .ok .success
  | 146 => .ok .packetIdentifierNotFound
  | value => .error (.invalidConnectReturnCode value)

/-- `reason as u8` -/
def pubRelCode : PubRelReason → UInt8
  | .success => 0
  | .packetIdentifierNotFound => 146

def PubAck.kind : AckKind PubAckReason where
  byte1 := 0x40
  success := .success
  code := fun reason => UInt8.ofNat reason.code
  reason := pubAckReason

def PubRec.kind : AckKind PubRecReason := { PubAck.kind with byte1 := 0x50 }

def PubRel.kind : AckKind PubRelReason where
  byte1 := 0x62
  success := .success
  code := pubRelCode
  reason := pubRelReason

def PubComp.kind : AckKind PubCompReason := { PubRel.kind with byte1 := 0x70 }

namespace PubAck

def size (ack : PubAck) : Nat := kind.size ack.reason ack.properties

def read (header : FixedHeader) : FrameReader PubAck := do
  let (pkid, reason, properties) ← kind.read header
  return { pkid, reason, properties }

def write (ack : PubAck) : FrameWriter Nat := kind.write ack.pkid ack.reason ack.properties

end PubAck

namespace PubRec

/-- The size of a PUBREC is computed from its length in every case. -/
def size (pubrec : PubRec) : Nat := frameSize (kind.len pubrec.reason pubrec.properties)

def read (header : FixedHeader) : FrameReader PubRec := do
  let (pkid, reason, properties) ← kind.read header
  return { pkid, reason, properties }

def write (pubrec : PubRec) : FrameWriter Nat :=
  kind.write pubrec.pkid pubrec.reason pubrec.properties

end PubRec

namespace PubRel

def size (pubrel : PubRel) : Nat := kind.size pubrel.reason pubrel.properties

def read (header : FixedHeader) : FrameReader PubRel := do
  let (pkid, reason, properties) ← kind.read header
  return { pkid, reason, properties }

def write (pubrel : PubRel) : FrameWriter Nat :=
  kind.write pubrel.pkid pubrel.reason pubrel.properties

end PubRel

namespace PubComp

def size (pubcomp : PubComp) : Nat := kind.size pubcomp.reason pubcomp.properties

def read (header : FixedHeader) : FrameReader PubComp := do
  let (pkid, reason, properties) ← kind.read header
  return { pkid, reason, properties }

def write (pubcomp : PubComp) : FrameWriter Nat :=
  kind.write pubcomp.pkid pubcomp.reason pubcomp.properties

end PubComp

/-! ### SUBACK and UNSUBACK -/

/-- What differs between the acknowledgements of a subscription and of its end. -/
structure CodesKind (Code : Type) where
  byte1 : UInt8
  code : Code → UInt8
  reason : UInt8 → Except Error Code

namespace CodesKind

variable {Code : Type} (kind : CodesKind Code)

def len (codes : List Code) (properties : Option AckProperties) : Nat :=
  2 + codes.length + blockLen AckProperties.len properties

def readCode : FrameReader Code := do
  let returnCode ← readU8
  ofExcept (kind.reason returnCode)

def read (header : FixedHeader) : FrameReader (PacketId × List Code × Option AckProperties) := do
  advance header.headerLen
  let pkid ← readU16
  failIf (pkid = 0) .packetIdZero
  let properties ← AckProperties.subTable.read
  let bytes ← peek
  failIf (bytes = []) .malformedPacket
  let codes ← whileRemaining kind.readCode
  return (pkid, codes, properties)

section

variable (pkid : PacketId) (codes : List Code) (properties : Option AckProperties)

def writeInner : FrameWriter Nat := do
  failIf (pkid = 0) .packetIdZero
  failIf (codes.isEmpty = true) .payloadRequired
  putU8 kind.byte1
  let remainingLen := len codes properties
  let remainingLenBytes ← writeRemainingLength remainingLen
  putU16 pkid
  writeBlock AckProperties.write properties
  each (fun code => putU8 (kind.code code)) codes
  return 1 + remainingLenBytes + remainingLen

def write :
    FrameWriter Nat := transactional (kind.writeInner pkid codes properties)

end

end CodesKind

/-- `SubscribeReasonCode::try_from` -/
def subscribeReason (value : UInt8) : Except Error SubscribeReasonCode :=
  match value with
  | 0 => .ok (.success .atMostOnce)
  | 1 => .ok (.success .atLeastOnce)
  | 2 => .ok (.success .exactlyOnce)
  | 128 => .ok .unspecified
  | 131 => .ok .implementationSpecific
  | 135 => .ok .notAuthorized
  | 143 => .ok .topicFilterInvalid
  | 145 => .ok .pkidInUse
  | 151 => .ok .quotaExceeded
  | 158 => .ok .sharedSubscriptionsNotSupported
  | 161 => .ok .subscriptionIdNotSupported
  | 162 => .ok .wildcardSubscriptionsNotSupported
  | value => .error (.invalidSubscribeReasonCode value)

/-- The code of a subscription. `failure` and `unspecified` share one. -/
def subscribeCode : SubscribeReasonCode → UInt8
  | .success qos => qosCode qos
  | .failure | .unspecified => 0x80
  | .implementationSpecific => 131
  | .notAuthorized => 135
  | .topicFilterInvalid => 143
  | .pkidInUse => 145
  | .quotaExceeded => 151
  | .sharedSubscriptionsNotSupported => 158
  | .subscriptionIdNotSupported => 161
  | .wildcardSubscriptionsNotSupported => 162

/-- `UnsubAckReason::try_from` -/
def unsubAckReason (value : UInt8) : Except Error UnsubAckReason :=
  match value with
  | 0x00 => .ok .success
  | 0x11 => .ok .noSubscriptionExisted
  | 0x80 => .ok .unspecifiedError
  | 0x83 => .ok .implementationSpecificError
  | 0x87 => .ok .notAuthorized
  | 0x8F => .ok .topicFilterInvalid
  | 0x91 => .ok .packetIdentifierInUse
  | value => .error (.invalidSubscribeReasonCode value)

/-- `reason as u8` -/
def unsubAckCode : UnsubAckReason → UInt8
  | .success => 0x00
  | .noSubscriptionExisted => 0x11
  | .unspecifiedError => 0x80
  | .implementationSpecificError => 0x83
  | .notAuthorized => 0x87
  | .topicFilterInvalid => 0x8F
  | .packetIdentifierInUse => 0x91

namespace SubAck

def kind : CodesKind SubscribeReasonCode where
  byte1 := 0x90
  code := subscribeCode
  reason := subscribeReason

def size (suback : SubAck) : Nat := frameSize (CodesKind.len suback.returnCodes suback.properties)

def read (header : FixedHeader) : FrameReader SubAck := do
  let (pkid, returnCodes, properties) ← kind.read header
  return { pkid, returnCodes, properties }

def write (suback : SubAck) : FrameWriter Nat :=
  kind.write suback.pkid suback.returnCodes suback.properties

end SubAck

namespace UnsubAck

def kind : CodesKind UnsubAckReason where
  byte1 := 0xB0
  code := unsubAckCode
  reason := unsubAckReason

def size (unsuback : UnsubAck) : Nat := frameSize (CodesKind.len unsuback.reasons unsuback.properties)

def read (header : FixedHeader) : FrameReader UnsubAck := do
  let (pkid, reasons, properties) ← kind.read header
  return { pkid, reasons, properties }

def write (unsuback : UnsubAck) : FrameWriter Nat :=
  kind.write unsuback.pkid unsuback.reasons unsuback.properties

end UnsubAck

/-! ### SUBSCRIBE -/

def forwardRule (rule : UInt8) : Except Error RetainForwardRule :=
  match rule with
  | 0 => .ok .onEverySubscribe
  | 1 => .ok .onNewSubscribe
  | 2 => .ok .never
  | rule => .error (.invalidRetainForwardRule rule)

namespace SubscribeFilter

def len (filter : SubscribeFilter) : Nat := 2 + (utf8 filter.path).length + 1

/-- One round of `SubscribeFilter::read`. -/
def readOne : FrameReader SubscribeFilter := do
  let path ← readMqttString
  let options ← readU8
  failIf (options &&& 0xC0 ≠ 0) .incorrectPacketFormat
  let requestedQos := options &&& 0x03
  let nolocal := (options >>> 2) &&& 0x01 != 0
  let preserveRetain := (options >>> 3) &&& 0x01 != 0
  let retainForwardRule ← ofExcept (forwardRule ((options >>> 4) &&& 0x03))
  let qos ← ofExcept (qosLevel requestedQos)
  return { path, qos, nolocal, preserveRetain, retainForwardRule }

def read : FrameReader (List SubscribeFilter) := whileRemaining readOne

def options (filter : SubscribeFilter) : UInt8 :=
  qosCode filter.qos |||
  (if filter.nolocal then 0x04 else 0) |||
  (if filter.preserveRetain then 0x08 else 0) |||
  match filter.retainForwardRule with
  | .onEverySubscribe => 0x00
  | .onNewSubscribe => 0x10
  | .never => 0x20

def write (filter : SubscribeFilter) : FrameWriter Unit := do
  writeMqttString filter.path
  putU8 filter.options

end SubscribeFilter

namespace Subscribe

def len (subscribe : Subscribe) : Nat :=
  2 + (subscribe.filters.map SubscribeFilter.len).sum +
  blockLen SubscribeProperties.len subscribe.properties

def size (subscribe : Subscribe) : Nat := frameSize (len subscribe)

def read (header : FixedHeader) : FrameReader Subscribe := do
  advance header.headerLen
  let pkid ← readU16
  failIf (pkid = 0) .packetIdZero
  let properties ← SubscribeProperties.read
  let filters ← SubscribeFilter.read
  failIf (filters.isEmpty = true) .emptySubscription
  return { pkid, filters, properties }

def writeInner (subscribe : Subscribe) : FrameWriter Nat := do
  failIf (subscribe.pkid = 0) .packetIdZero
  failIf (subscribe.filters.isEmpty = true) .emptySubscription
  putU8 0x82
  let remainingLen := len subscribe
  let remainingLenBytes ← writeRemainingLength remainingLen
  putU16 subscribe.pkid
  writeBlock SubscribeProperties.write subscribe.properties
  each SubscribeFilter.write subscribe.filters
  return 1 + remainingLenBytes + remainingLen

def write (subscribe : Subscribe) : FrameWriter Nat := transactional (writeInner subscribe)

end Subscribe

/-! ### UNSUBSCRIBE -/

namespace Unsubscribe

def len (unsubscribe : Unsubscribe) : Nat :=
  2 + (unsubscribe.filters.map fun filter => 2 + (utf8 filter).length).sum +
  blockLen UnsubscribeProperties.len unsubscribe.properties

def size (unsubscribe : Unsubscribe) : Nat := frameSize (len unsubscribe)

def read (header : FixedHeader) : FrameReader Unsubscribe := do
  advance header.headerLen
  let pkid ← readU16
  failIf (pkid = 0) .packetIdZero
  let properties ← UnsubscribeProperties.read
  let filters ← whileRemaining readMqttString
  failIf (filters.isEmpty = true) .emptyUnsubscription
  return { pkid, filters, properties }

def writeInner (unsubscribe : Unsubscribe) : FrameWriter Nat := do
  failIf (unsubscribe.pkid = 0) .packetIdZero
  failIf (unsubscribe.filters.isEmpty = true) .emptyUnsubscription
  putU8 0xA2
  let remainingLen := len unsubscribe
  let remainingLenBytes ← writeRemainingLength remainingLen
  putU16 unsubscribe.pkid
  writeBlock UnsubscribeProperties.write unsubscribe.properties
  each writeMqttString unsubscribe.filters
  return 1 + remainingLenBytes + remainingLen

def write (unsubscribe : Unsubscribe) : FrameWriter Nat := transactional (writeInner unsubscribe)

end Unsubscribe

/-! ### CONNECT -/

namespace LastWill

def len (will : LastWill) : Nat :=
  blockLen LastWillProperties.len will.properties + (2 + will.topic.length + 2 + will.message.length)

def read (connectFlags : UInt8) : FrameReader (Option LastWill) :=
  if connectFlags &&& 0x04 = 0 then do
    failIf (connectFlags &&& 0x38 ≠ 0) .incorrectPacketFormat
    return none
  else do
    let properties ← LastWillProperties.read
    let topic ← readMqttBytes
    let _ ← ofExcept ((validateMqttString topic).mapError ofPrimitive)
    let message ← readMqttBytes
    let qos ← ofExcept (qosLevel ((connectFlags &&& 0x18) >>> 3))
    return some { topic, message, qos, retain := connectFlags &&& 0x20 != 0, properties }

/-- The connect flags of a will. -/
def flags (will : LastWill) : UInt8 :=
  (0x04 : UInt8) ||| (qosCode will.qos <<< 3) ||| (if will.retain then 0x20 else 0)

def writeInner (will : LastWill) : FrameWriter UInt8 := do
  writeBlock LastWillProperties.write will.properties
  let _ ← ofExcept ((validateMqttString will.topic).mapError ofPrimitive)
  writeMqttBytes will.topic
  writeMqttBytes will.message
  return will.flags

def write (will : LastWill) : FrameWriter UInt8 := transactional will.writeInner

/-- The will of a connect, if it has one. -/
def writeOptional : Option LastWill → FrameWriter UInt8
  | some will => will.write
  | none => pure 0

end LastWill

namespace ConnectAuth

def len : ConnectAuth → Nat
  | .none => 0
  | .username user => 2 + (utf8 user).length
  | .password pass => 2 + pass.length
  | .usernamePassword user pass => 2 + (utf8 user).length + 2 + pass.length

def read (connectFlags : UInt8) : FrameReader ConnectAuth :=
  match connectFlags &&& 0x80 != 0, connectFlags &&& 0x40 != 0 with
  | false, false => pure .none
  | true, false => do
    let user ← readMqttString
    return .username user
  | false, true => do
    let pass ← readMqttBytes
    return .password pass
  | true, true => do
    let user ← readMqttString
    let pass ← readMqttBytes
    return .usernamePassword user pass

def writeInner : ConnectAuth → FrameWriter UInt8
  | .none => pure 0
  | .username user => do
    writeMqttString user
    return 0x80
  | .password pass => do
    writeMqttBytes pass
    return 0x40
  | .usernamePassword user pass => do
    writeMqttString user
    writeMqttBytes pass
    return 0xC0

def write (auth : ConnectAuth) : FrameWriter UInt8 := transactional auth.writeInner

end ConnectAuth

namespace Connect

def len (connect : Connect) (will : Option LastWill) (auth : ConnectAuth) : Nat :=
  2 + 4 + 1 + 1 + 2 +
  blockLen ConnectProperties.len connect.properties +
  (2 + (utf8 connect.clientId).length) +
  optionalLen LastWill.len will +
  auth.len

def size (connect : Connect) (will : Option LastWill) (auth : ConnectAuth) : Nat :=
  frameSize (connect.len will auth)

def read (header : FixedHeader) : FrameReader (Connect × Option LastWill × ConnectAuth) := do
  advance header.headerLen
  let protocolName ← readMqttString
  let protocolLevel ← readU8
  failIf (protocolName ≠ "MQTT") .invalidProtocol
  failIf (protocolLevel ≠ 5) (.invalidProtocolLevel protocolLevel)
  let connectFlags ← readU8
  -- `validate_connect_flags`
  failIf (connectFlags &&& 0x01 ≠ 0) .incorrectPacketFormat
  let cleanStart := connectFlags &&& 0x02 != 0
  let keepAlive ← readU16
  let properties ← ConnectProperties.read
  let clientId ← readMqttString
  let will ← LastWill.read connectFlags
  let auth ← ConnectAuth.read connectFlags
  let bytes ← peek
  failIf (bytes ≠ []) .incorrectPacketFormat
  return ({ keepAlive, clientId, cleanStart, properties }, will, auth)

/-- The flags that are known before the will and the credentials are written. -/
def startFlags (connect : Connect) : UInt8 := if connect.cleanStart then 0x02 else 0

section

variable (connect : Connect) (will : Option LastWill) (auth : ConnectAuth)

/-- Writes what follows the connect flags, and returns their final value. -/
def writePayload :
    FrameWriter UInt8 := do
  putU16 connect.keepAlive
  writeBlock ConnectProperties.write connect.properties
  writeMqttString connect.clientId
  let willFlags ← LastWill.writeOptional will
  let authFlags ← auth.write
  return connect.startFlags ||| willFlags ||| authFlags

/-- Writes the connect flags, and fills them in when what follows is written. -/
def writeFlagged :
    FrameWriter UInt8 := do
  let flagsIndex ← position
  putU8 connect.startFlags
  let connectFlags ← connect.writePayload will auth
  setAt flagsIndex connectFlags
  return connectFlags

def writeInner : FrameWriter Nat := do
  let len := connect.len will auth
  putU8 0x10
  let count ← writeRemainingLength len
  writeMqttString "MQTT"
  putU8 0x05
  let _ ← connect.writeFlagged will auth
  return 1 + count + len

def write : FrameWriter Nat := transactional (connect.writeInner will auth)

end

end Connect

/-! ### CONNACK -/

/-- `connect_return` -/
def connectReturn (num : UInt8) : Except Error ConnectReturnCode :=
  match num with
  | 0 => .ok .success
  | 128 => .ok .unspecifiedError
  | 129 => .ok .malformedPacket
  | 130 => .ok .protocolError
  | 131 => .ok .implementationSpecificError
  | 132 => .ok .unsupportedProtocolVersion
  | 133 => .ok .clientIdentifierNotValid
  | 134 => .ok .badUserNamePassword
  | 135 => .ok .notAuthorized
  | 136 => .ok .serverUnavailable
  | 137 => .ok .serverBusy
  | 138 => .ok .banned
  | 140 => .ok .badAuthenticationMethod
  | 144 => .ok .topicNameInvalid
  | 149 => .ok .packetTooLarge
  | 151 => .ok .quotaExceeded
  | 153 => .ok .payloadFormatInvalid
  | 154 => .ok .retainNotSupported
  | 155 => .ok .qoSNotSupported
  | 156 => .ok .useAnotherServer
  | 157 => .ok .serverMoved
  | 159 => .ok .connectionRateExceeded
  | num => .error (.invalidConnectReturnCode num)

/-- `connect_code`. The codes of MQTT 3.1.1 in the enumeration have no byte in version 5. -/
def connectCode : ConnectReturnCode → Checked UInt8
  | .success => .ok 0
  | .unspecifiedError => .ok 128
  | .malformedPacket => .ok 129
  | .protocolError => .ok 130
  | .implementationSpecificError => .ok 131
  | .unsupportedProtocolVersion => .ok 132
  | .clientIdentifierNotValid => .ok 133
  | .badUserNamePassword => .ok 134
  | .notAuthorized => .ok 135
  | .serverUnavailable => .ok 136
  | .serverBusy => .ok 137
  | .banned => .ok 138
  | .badAuthenticationMethod => .ok 140
  | .topicNameInvalid => .ok 144
  | .packetTooLarge => .ok 149
  | .quotaExceeded => .ok 151
  | .payloadFormatInvalid => .ok 153
  | .retainNotSupported => .ok 154
  | .qoSNotSupported => .ok 155
  | .useAnotherServer => .ok 156
  | .serverMoved => .ok 157
  | .connectionRateExceeded => .ok 159
  | _ => .error (.unreachableCode "internal error: entered unreachable code")

namespace ConnAck

def len (connack : ConnAck) : Nat := 1 + 1 + blockLen ConnAckProperties.len connack.properties

def size (connack : ConnAck) : Nat := frameSize connack.len

def read (header : FixedHeader) : FrameReader ConnAck := do
  advance header.headerLen
  let flags ← readU8
  failIf (flags &&& 0xFE ≠ 0) .incorrectPacketFormat
  let returnCode ← readU8
  let sessionPresent := flags &&& 0x01 == 1
  let code ← ofExcept (connectReturn returnCode)
  failIf (code ≠ .success ∧ sessionPresent = true) .protocolError
  let properties ← ConnAckProperties.read
  return { sessionPresent, code, properties }

def writeInner (connack : ConnAck) : FrameWriter Nat := do
  failIf (connack.code ≠ .success ∧ connack.sessionPresent = true) .protocolError
  let len := connack.len
  putU8 0x20
  let count ← writeRemainingLength len
  putU8 (if connack.sessionPresent then 1 else 0)
  let code ← ofChecked (connectCode connack.code)
  putU8 code
  writeBlock ConnAckProperties.write connack.properties
  return 1 + count + len

def write (connack : ConnAck) : FrameWriter Nat := transactional connack.writeInner

end ConnAck

/-! ### DISCONNECT -/

/-- `reason_code as u8` -/
def disconnectCode : DisconnectReasonCode → UInt8
  | .normalDisconnection => 0x00
  | .disconnectWithWillMessage => 0x04
  | .unspecifiedError => 0x80
  | .malformedPacket => 0x81
  | .protocolError => 0x82
  | .implementationSpecificError => 0x83
  | .notAuthorized => 0x87
  | .serverBusy => 0x89
  | .serverShuttingDown => 0x8B
  | .keepAliveTimeout => 0x8D
  | .sessionTakenOver => 0x8E
  | .topicFilterInvalid => 0x8F
  | .topicNameInvalid => 0x90
  | .receiveMaximumExceeded => 0x93
  | .topicAliasInvalid => 0x94
  | .packetTooLarge => 0x95
  | .messageRateTooHigh => 0x96
  | .quotaExceeded => 0x97
  | .administrativeAction => 0x98
  | .payloadFormatInvalid => 0x99
  | .retainNotSupported => 0x9A
  | .qoSNotSupported => 0x9B
  | .useAnotherServer => 0x9C
  | .serverMoved => 0x9D
  | .sharedSubscriptionNotSupported => 0x9E
  | .connectionRateExceeded => 0x9F
  | .maximumConnectTime => 0xA0
  | .subscriptionIdentifiersNotSupported => 0xA1
  | .wildcardSubscriptionsNotSupported => 0xA2

/-- `DisconnectReasonCode::try_from` -/
def disconnectReason (value : UInt8) : Except Error DisconnectReasonCode :=
  match value with
  | 0x00 => .ok .normalDisconnection
  | 0x04 => .ok .disconnectWithWillMessage
  | 0x80 => .ok .unspecifiedError
  | 0x81 => .ok .malformedPacket
  | 0x82 => .ok .protocolError
  | 0x83 => .ok .implementationSpecificError
  | 0x87 => .ok .notAuthorized
  | 0x89 => .ok .serverBusy
  | 0x8B => .ok .serverShuttingDown
  | 0x8D => .ok .keepAliveTimeout
  | 0x8E => .ok .sessionTakenOver
  | 0x8F => .ok .topicFilterInvalid
  | 0x90 => .ok .topicNameInvalid
  | 0x93 => .ok .receiveMaximumExceeded
  | 0x94 => .ok .topicAliasInvalid
  | 0x95 => .ok .packetTooLarge
  | 0x96 => .ok .messageRateTooHigh
  | 0x97 => .ok .quotaExceeded
  | 0x98 => .ok .administrativeAction
  | 0x99 => .ok .payloadFormatInvalid
  | 0x9A => .ok .retainNotSupported
  | 0x9B => .ok .qoSNotSupported
  | 0x9C => .ok .useAnotherServer
  | 0x9D => .ok .serverMoved
  | 0x9E => .ok .sharedSubscriptionNotSupported
  | 0x9F => .ok .connectionRateExceeded
  | 0xA0 => .ok .maximumConnectTime
  | 0xA1 => .ok .subscriptionIdentifiersNotSupported
  | 0xA2 => .ok .wildcardSubscriptionsNotSupported
  | other => .error (.invalidConnectReturnCode other)

namespace Disconnect

/-- A normal disconnect without properties is written without a reason code. -/
abbrev CanUseCompactSuccessEncoding (disconnect : Disconnect) : Prop :=
  disconnect.reasonCode = .normalDisconnection ∧ disconnect.properties = none

def len (disconnect : Disconnect) : Nat :=
  if disconnect.CanUseCompactSuccessEncoding then 2
  else 1 + blockLen DisconnectProperties.len disconnect.properties

def size (disconnect : Disconnect) : Nat :=
  if disconnect.CanUseCompactSuccessEncoding then disconnect.len else frameSize disconnect.len

def read (header : FixedHeader) : FrameReader Disconnect := do
  let packetType ← ofExcept (packetType header)
  failIf (packetType ≠ .disconnect) (.invalidPacketType (packetTypeCode packetType))
  failIf (header.flags ≠ 0) .incorrectPacketFormat
  advance header.headerLen
  if header.remainingLen = 0 then
    return { reasonCode := .normalDisconnection, properties := none }
  else do
    let reasonCode ← readU8
    let reasonCode ← ofExcept (disconnectReason reasonCode)
    let properties ← DisconnectProperties.extract
    return { reasonCode, properties }

def writeInner (disconnect : Disconnect) : FrameWriter Nat := do
  putU8 0xE0
  let length := disconnect.len
  if disconnect.CanUseCompactSuccessEncoding then do
    putU8 0x00
    return length
  else do
    let lenLen ← writeRemainingLength length
    putU8 (disconnectCode disconnect.reasonCode)
    writeBlock DisconnectProperties.write disconnect.properties
    return 1 + lenLen + length

def write (disconnect : Disconnect) : FrameWriter Nat := transactional disconnect.writeInner

end Disconnect

/-! ### AUTH -/

/-- `AuthReasonCode::read` -/
def authReason (reasonCode : UInt8) : Except Error AuthReasonCode :=
  match reasonCode with
  | 0x00 => .ok .success
  | 0x18 => .ok .continue
  | 0x19 => .ok .reAuthenticate
  | _ => .error .malformedPacket

/-- `AuthReasonCode::write` -/
def authCode : AuthReasonCode → UInt8
  | .success => 0x00
  | .continue => 0x18
  | .reAuthenticate => 0x19

namespace Auth

def len (auth : Auth) : Nat := 1 + blockLen AuthProperties.len auth.properties

def size (auth : Auth) : Nat := frameSize auth.len

def read (header : FixedHeader) : FrameReader Auth := do
  advance header.headerLen
  let reasonCode ← readU8
  let code ← ofExcept (authReason reasonCode)
  let properties ← AuthProperties.read
  let bytes ← peek
  failIf (bytes ≠ []) .malformedPacket
  return { code, properties }

def writeInner (auth : Auth) : FrameWriter Nat := do
  putU8 0xF0
  let len := auth.len
  let count ← writeRemainingLength len
  putU8 (authCode auth.code)
  writeBlock AuthProperties.write auth.properties
  return 1 + count + len

def write (auth : Auth) : FrameWriter Nat := transactional auth.writeInner

end Auth

/-! ### Packets -/

/-- `PingReq::write` and `PingResp::write` -/
def writePing (byte1 : UInt8) : FrameWriter Nat := do
  extend [byte1, 0x00]
  return 2

namespace Packet

def size : Packet → Nat
  | .auth a => a.size
  | .publish p => p.size
  | .subscribe s => s.size
  | .unsubscribe u => u.size
  | .connAck ack => ack.size
  | .pubAck ack => ack.size
  | .subAck ack => ack.size
  | .unsubAck ack => ack.size
  | .pubRec ack => ack.size
  | .pubRel ack => ack.size
  | .pubComp ack => ack.size
  | .connect c will login => c.size will login
  | .pingReq => 2
  | .pingResp => 2
  | .disconnect d => d.size

/-- The body of a packet whose frame was split off the stream. -/
def readFrame (header : FixedHeader) (type : PacketType) : FrameReader Packet :=
  if header.remainingLen = 0 then
    match type with
    | .pingReq => pure .pingReq
    | .pingResp => pure .pingResp
    | .disconnect => do
      let packet ← Disconnect.read header
      return .disconnect packet
    | _ => fail .payloadRequired
  else
    match type with
    | .connect => do
      let (c, will, login) ← Connect.read header
      return .connect c will login
    | .publish => do
      let packet ← Publish.read header
      return .publish packet
    | .subscribe => do
      let packet ← Subscribe.read header
      return .subscribe packet
    | .unsubscribe => do
      let packet ← Unsubscribe.read header
      return .unsubscribe packet
    | .connAck => do
      let packet ← ConnAck.read header
      return .connAck packet
    | .pubAck => do
      let packet ← PubAck.read header
      return .pubAck packet
    | .pubRec => do
      let packet ← PubRec.read header
      return .pubRec packet
    | .pubRel => do
      let packet ← PubRel.read header
      return .pubRel packet
    | .pubComp => do
      let packet ← PubComp.read header
      return .pubComp packet
    | .subAck => do
      let packet ← SubAck.read header
      return .subAck packet
    | .unsubAck => do
      let packet ← UnsubAck.read header
      return .unsubAck packet
    | .pingReq => pure .pingReq
    | .pingResp => pure .pingResp
    | .disconnect => do
      let packet ← Disconnect.read header
      return .disconnect packet
    | .auth => do
      let packet ← Auth.read header
      return .auth packet

/-- **Reads the next packet from the buffered stream.** -/
def read (maxSize : Option UInt32) : Handler Error Bytes Packet := do
  let stream ← get
  let header ← ofExcept (check stream maxSize)
  let frame ← splitTo header.frameLength
  let type ← ofExcept (packetType header)
  ofExcept (validateFixedHeaderFlags type header.byte1)
  on { unread := frame, seen := [] } (readFrame header type)

def writePacket : Packet → FrameWriter Nat
  | .auth a => a.write
  | .publish p => p.write
  | .subscribe s => s.write
  | .unsubscribe u => u.write
  | .connAck ack => ack.write
  | .pubAck ack => ack.write
  | .subAck ack => ack.write
  | .unsubAck ack => ack.write
  | .pubRec ack => ack.write
  | .pubRel ack => ack.write
  | .pubComp ack => ack.write
  | .connect c will login => c.write will login
  | .pingReq => writePing 0xC0
  | .pingResp => writePing 0xD0
  | .disconnect d => d.write

/-- A size in the field of an error message. -/
def saturated (size : Nat) : UInt32 := if size < 2 ^ 32 then UInt32.ofNat size else 0xFFFFFFFF

/-- **Serializes a packet into the output buffer.** -/
def write (packet : Packet) (maxSize : Option UInt32) : FrameWriter Nat :=
  transactional
    (match exceeded maxSize packet.size with
    | some max => fail (.outgoingPacketTooLarge (saturated packet.size) max)
    | none => packet.writePacket)

end Packet

/-- **`Codec::decode`**: a packet, or nothing while bytes are missing. -/
def decode (maxIncomingSize : Option UInt32) : Handler Error Bytes (Option Packet) := fun src =>
  match (Packet.read maxIncomingSize).run src with
  | .ok (.ok packet, src) => .ok (.ok (some packet), src)
  | .ok (.error (.insufficientBytes _), src) => .ok (.ok none, src)
  | .ok (.error error, src) => .ok (.error error, src)
  | .error panic => .error panic

end Rumqtt.V5
