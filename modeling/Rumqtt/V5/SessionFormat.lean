/-
**The binary format of MQTT 5 session checkpoints.**

`PersistedSession.encode` writes a checkpoint into a buffer with a limit, and
`PersistedSession.decode` reads one back: a magic, the protocol and the codec version, the fields of the
checkpoint, its replay records and its incoming QoS 2 identifiers. Lengths are 32-bit words, tags and
flags single bytes, a missing value a zero flag.

The decoder owns what it returns. It is charged for every byte buffer and every collection before it
allocates it, against the budget of `decodeWithMemoryLimit`; `allocatedSize` counts the same storage in
the finished checkpoint, where vectors and strings are as large as their contents. The sizes of the
records come from the compiler: a `Layout` has those of the root and of a replay record.

The blocking file adapter stores an encoded checkpoint and derives a budget from its length when it
loads one.
-/

import Rumqtt.Lib.Cursor
import Rumqtt.Mqttbytes.Primitives
import Rumqtt.V5.Session

namespace Rumqtt.V5

open Mqttbytes (utf8 fromUtf8)

inductive SessionEncodeError where
  | fieldTooLarge (field : String) (len : Nat)
  deriving DecidableEq, Repr

inductive SessionDecodeError where
  | invalidMagic
  | wrongProtocol (actual : UInt8)
  | unsupportedCodecVersion (actual : UInt16)
  | truncated (field : String)
  | trailingBytes
  | invalidUtf8 (field : String)
  | invalidEnumTag (field : String) (tag : UInt8)
  | limitExceeded (field : String) (len : Nat)
  deriving DecidableEq, Repr

/-- `b"RMQSESS"` -/
def sessionMagic : Bytes := [0x52, 0x4D, 0x51, 0x53, 0x45, 0x53, 0x53]

def sessionProtocol : UInt8 := 5

def sessionCodecVersion : UInt16 := 2

def maxBinaryLen : Nat := 268435455

def maxCollectionLen : Nat := 1000000

/-- **The sizes of the records on a 64-bit target** that the source leaves to the compiler. -/
structure Layout where
  /-- `size_of::<PersistedSession>()` -/
  root : Nat
  /-- `size_of::<PersistedRequest>()` -/
  request : Nat
  request_le : request ≤ 1536

/-- `size_of::<PersistedIncomingQos2>()` -/
def incomingRecordSize : Nat := 2

/-- `size_of::<String>()` -/
def stringRecordSize : Nat := 24

/-- `size_of::<(String, String)>()` -/
def userPropertyRecordSize : Nat := 48

/-- `size_of::<usize>()` -/
def identifierRecordSize : Nat := 8

/-- `size_of::<PersistedFilter>()`: a string and four bytes, aligned. -/
def filterRecordSize : Nat := 32

/-! ### Tags -/

def encodeAckMode : AckMode → UInt8
  | .automatic => 1
  | .manual => 2

def decodeAckMode (tag : UInt8) : Except SessionDecodeError AckMode :=
  if tag = 1 then .ok .automatic
  else if tag = 2 then .ok .manual
  else .error (.invalidEnumTag "ack_mode" tag)

def encodeQos : QoS → UInt8
  | .atMostOnce => 0
  | .atLeastOnce => 1
  | .exactlyOnce => 2

def decodeQos (tag : UInt8) : Except SessionDecodeError QoS :=
  if tag = 0 then .ok .atMostOnce
  else if tag = 1 then .ok .atLeastOnce
  else if tag = 2 then .ok .exactlyOnce
  else .error (.invalidEnumTag "qos" tag)

def encodeRetainForwardRule : RetainForwardRule → UInt8
  | .onEverySubscribe => 1
  | .onNewSubscribe => 2
  | .never => 3

def decodeRetainForwardRule (tag : UInt8) : Except SessionDecodeError RetainForwardRule :=
  if tag = 1 then .ok .onEverySubscribe
  else if tag = 2 then .ok .onNewSubscribe
  else if tag = 3 then .ok .never
  else .error (.invalidEnumTag "retain_forward_rule" tag)

/-! ### The writer -/

abbrev SessionWriter := BoundedWriter SessionEncodeError Unit

namespace SessionWriter

open BoundedWriter

/-- The error of a checkpoint that does not fit. -/
def checkpointTooLarge (len : Nat) : SessionEncodeError := .fieldTooLarge "checkpoint" len

def u8 (value : UInt8) : SessionWriter := append (beBytes 1 value.toNat)

def u16 (value : UInt16) : SessionWriter := append (beBytes 2 value.toNat)

def u32 (value : UInt32) : SessionWriter := append (beBytes 4 value.toNat)

def u64 (value : UInt64) : SessionWriter := append (beBytes 8 value.toNat)

def bool (value : Bool) : SessionWriter := u8 value.toUInt8

/-- `usize as u64` -/
def usize (value : Nat) : SessionWriter := u64 (UInt64.ofNat value)

def bytes (field : String) (value : Bytes) : SessionWriter := do
  failIf (maxBinaryLen < value.length) (.fieldTooLarge field value.length)
  u32 (UInt32.ofNat value.length)
  append value
  stopOnExcess checkpointTooLarge

def string (field : String) (value : String) : SessionWriter := bytes field (utf8 value)

def vec {α : Type} (field : String) (write : α → SessionWriter) (values : List α) :
    SessionWriter := do
  failIf (maxCollectionLen < values.length) (.fieldTooLarge field values.length)
  u32 (UInt32.ofNat values.length)
  each (fun value => do write value; stopOnExcess checkpointTooLarge) values

def optionU8 : Option UInt8 → SessionWriter := BoundedWriter.optional bool u8

def optionU16 : Option UInt16 → SessionWriter := BoundedWriter.optional bool u16

def optionU32 : Option UInt32 → SessionWriter := BoundedWriter.optional bool u32

def optionUsize : Option Nat → SessionWriter := BoundedWriter.optional bool usize

def optionBytes (field : String) : Option Bytes → SessionWriter :=
  BoundedWriter.optional bool (bytes field)

def optionString (field : String) : Option String → SessionWriter :=
  BoundedWriter.optional bool (string field)

def userProperty (property : String × String) : SessionWriter := do
  string "user_property.key" property.1
  string "user_property.value" property.2

def userProperties (field : String) (properties : List (String × String)) : SessionWriter :=
  vec field userProperty properties

def filter (filter : SubscribeFilter) : SessionWriter := do
  string "subscribe.filter.path" filter.path
  u8 (encodeQos filter.qos)
  bool filter.nolocal
  bool filter.preserveRetain
  u8 (encodeRetainForwardRule filter.retainForwardRule)

/-- The body of `write_publish_properties` after the flag. -/
def publishPropertyFields (properties : PersistedPublishProperties) : SessionWriter := do
  optionU8 properties.payloadFormatIndicator
  optionU32 properties.messageExpiryInterval
  optionString "publish.properties.response_topic" properties.responseTopic
  optionBytes "publish.properties.correlation_data" properties.correlationData
  userProperties "publish.properties.user_properties" properties.userProperties
  vec "publish.properties.subscription_identifiers" usize properties.subscriptionIdentifiers
  optionString "publish.properties.content_type" properties.contentType

def publishProperties : Option PersistedPublishProperties → SessionWriter :=
  BoundedWriter.optional bool publishPropertyFields

def subscribePropertyFields (properties : SubscribeProperties) : SessionWriter := do
  optionUsize properties.id
  userProperties "subscribe.properties.user_properties" properties.userProperties

def subscribeProperties : Option SubscribeProperties → SessionWriter :=
  BoundedWriter.optional bool subscribePropertyFields

def unsubscribePropertyFields (properties : UnsubscribeProperties) : SessionWriter :=
  userProperties "unsubscribe.properties.user_properties" properties.userProperties

def unsubscribeProperties : Option UnsubscribeProperties → SessionWriter :=
  BoundedWriter.optional bool unsubscribePropertyFields

def publish (publish : PersistedPublish persistedForm) : SessionWriter := do
  bool publish.dup
  u8 (encodeQos publish.qos)
  bool publish.retain
  bytes "publish.topic" publish.topic
  u16 publish.pkid
  bytes "publish.payload" publish.payload
  publishProperties publish.properties

def subscribe (subscribe : Subscribe) : SessionWriter := do
  u16 subscribe.pkid
  vec "subscribe.filters" filter subscribe.filters
  subscribeProperties subscribe.properties

def unsubscribe (unsubscribe : Unsubscribe) : SessionWriter := do
  u16 unsubscribe.pkid
  vec "unsubscribe.filters" (string "unsubscribe.filter") unsubscribe.filters
  unsubscribeProperties unsubscribe.properties

/-- `write_request` -/
def request : PersistedRequest persistedForm → SessionWriter
  | .publish entry => do
    u8 1
    publish entry
  | .pubRel pkid => do
    u8 2
    u16 pkid
  | .subscribe entry => do
    u8 3
    subscribe entry
  | .unsubscribe entry => do
    u8 4
    unsubscribe entry

/-- The writes of `encode_with_limit`. -/
def session (session : PersistedSession) : SessionWriter := do
  append sessionMagic
  u8 sessionProtocol
  u16 sessionCodecVersion
  u16 session.formatVersion
  string "client_id" session.clientId
  bool session.cleanStart
  optionU32 session.sessionExpiryInterval
  optionU16 session.outgoingInflightUpperLimit
  u8 (encodeAckMode session.ackMode)
  vec "replay" request session.replay
  vec "incoming_qos2" u16 session.incomingQos2

/-- The end of `encode_with_limit`. -/
def finish (sink : Sink) : Except SessionEncodeError Bytes :=
  match sink.excess with
  | some len => .error (checkpointTooLarge len)
  | none => .ok sink.bytes

end SessionWriter

/-! ### The reader -/

abbrev SessionReader (α : Type) := BudgetReader SessionDecodeError α

namespace SessionReader

open BudgetReader (failIf accept items reserve remaining)

def take (field : String) (len : Nat) : SessionReader Bytes :=
  BudgetReader.take len (.limitExceeded field len) (.truncated field)

section

variable (field : String)

def reserveMemory (len : Nat) : SessionReader Unit := reserve len (.limitExceeded field len)

def u8 : SessionReader UInt8 := do
  let bytes ← take field 1
  return UInt8.ofNat (beNat bytes)

def u16 : SessionReader UInt16 := do
  let bytes ← take field 2
  return UInt16.ofNat (beNat bytes)

def u32 : SessionReader UInt32 := do
  let bytes ← take field 4
  return UInt32.ofNat (beNat bytes)

def u64 : SessionReader UInt64 := do
  let bytes ← take field 8
  return UInt64.ofNat (beNat bytes)

def boolOfTag (tag : UInt8) : Except SessionDecodeError Bool :=
  if tag = 0 then .ok false
  else if tag = 1 then .ok true
  else .error (.invalidEnumTag field tag)

def bool : SessionReader Bool := do
  let tag ← u8 field
  accept (boolOfTag field tag)

/-- `usize::try_from` -/
def usizeOfU64 (value : UInt64) : Except SessionDecodeError Nat :=
  if value.toNat ≤ usizeMax then .ok value.toNat else .error (.limitExceeded field usizeMax)

def usize : SessionReader Nat := do
  let value ← u64 field
  accept (usizeOfU64 field value)

def bytes : SessionReader Bytes := do
  let len ← u32 field
  failIf (maxBinaryLen < len.toNat) (.limitExceeded field len.toNat)
  reserveMemory field len.toNat
  take field len.toNat

/-- `String::from_utf8` -/
def stringOfBytes (bytes : Bytes) : Except SessionDecodeError String :=
  match fromUtf8 bytes with
  | some string => .ok string
  | none => .error (.invalidUtf8 field)

def string : SessionReader String := do
  let bytes ← bytes field
  accept (stringOfBytes field bytes)

end

/-- `size` is the size of an element. -/
def vec {α : Type} (field : String) (size : Nat) (read : SessionReader α) :
    SessionReader (List α) := do
  let len ← u32 field
  failIf (maxCollectionLen < len.toNat) (.limitExceeded field len.toNat)
  let left ← remaining
  failIf (left < len.toNat) (.truncated field)
  -- `checked_mul`
  failIf (usizeMax < len.toNat * size) (.limitExceeded field len.toNat)
  reserveMemory field (len.toNat * size)
  items read len.toNat

section

variable (field : String)

def optionU8 : SessionReader (Option UInt8) := BudgetReader.optional (bool field) (u8 field)

def optionU16 : SessionReader (Option UInt16) := BudgetReader.optional (bool field) (u16 field)

def optionU32 : SessionReader (Option UInt32) := BudgetReader.optional (bool field) (u32 field)

def optionUsize : SessionReader (Option Nat) := BudgetReader.optional (bool field) (usize field)

def optionBytes : SessionReader (Option Bytes) := BudgetReader.optional (bool field) (bytes field)

def optionString : SessionReader (Option String) :=
  BudgetReader.optional (bool field) (string field)

end

def userProperty : SessionReader (String × String) := do
  let key ← string "user_property.key"
  let value ← string "user_property.value"
  return (key, value)

def userProperties (field : String) : SessionReader (List (String × String)) :=
  vec field userPropertyRecordSize userProperty

def filter : SessionReader SubscribeFilter := do
  let path ← string "subscribe.filter.path"
  let qos ← (do let tag ← u8 "subscribe.filter.qos"; accept (decodeQos tag))
  let nolocal ← bool "subscribe.filter.nolocal"
  let preserveRetain ← bool "subscribe.filter.preserve_retain"
  let retainForwardRule ← (do
    let tag ← u8 "subscribe.filter.retain_forward_rule"
    accept (decodeRetainForwardRule tag))
  return { path, qos, nolocal, preserveRetain, retainForwardRule }

/-- The body of `read_publish_properties` after the flag. -/
def publishPropertyFields : SessionReader PersistedPublishProperties := do
  let payloadFormatIndicator ← optionU8 "publish.properties.payload_format_indicator"
  let messageExpiryInterval ← optionU32 "publish.properties.message_expiry_interval"
  let responseTopic ← optionString "publish.properties.response_topic"
  let correlationData ← optionBytes "publish.properties.correlation_data"
  let userProperties ← userProperties "publish.properties.user_properties"
  let subscriptionIdentifiers ← vec "publish.properties.subscription_identifiers" identifierRecordSize
    (usize "publish.properties.subscription_identifier")
  let contentType ← optionString "publish.properties.content_type"
  return { payloadFormatIndicator, messageExpiryInterval, responseTopic, correlationData,
           userProperties, subscriptionIdentifiers, contentType }

def publishProperties : SessionReader (Option PersistedPublishProperties) :=
  BudgetReader.optional (bool "publish.properties") publishPropertyFields

def subscribePropertyFields : SessionReader SubscribeProperties := do
  let id ← optionUsize "subscribe.properties.id"
  let userProperties ← userProperties "subscribe.properties.user_properties"
  return { id, userProperties }

def subscribeProperties : SessionReader (Option SubscribeProperties) :=
  BudgetReader.optional (bool "subscribe.properties") subscribePropertyFields

def unsubscribePropertyFields : SessionReader UnsubscribeProperties := do
  let userProperties ← userProperties "unsubscribe.properties.user_properties"
  return { userProperties }

def unsubscribeProperties : SessionReader (Option UnsubscribeProperties) :=
  BudgetReader.optional (bool "unsubscribe.properties") unsubscribePropertyFields

def publish : SessionReader (PersistedPublish persistedForm) := do
  let dup ← bool "publish.dup"
  let qos ← (do let tag ← u8 "publish.qos"; accept (decodeQos tag))
  let retain ← bool "publish.retain"
  let topic ← bytes "publish.topic"
  let pkid ← u16 "publish.pkid"
  let payload ← bytes "publish.payload"
  let properties ← publishProperties
  return { dup, qos, retain, topic, pkid, payload, properties }

def subscribe : SessionReader Subscribe := do
  let pkid ← u16 "subscribe.pkid"
  let filters ← vec "subscribe.filters" filterRecordSize filter
  let properties ← subscribeProperties
  return { pkid, filters, properties }

def unsubscribe : SessionReader Unsubscribe := do
  let pkid ← u16 "unsubscribe.pkid"
  let filters ← vec "unsubscribe.filters" stringRecordSize (string "unsubscribe.filter")
  let properties ← unsubscribeProperties
  return { pkid, filters, properties }

/-- The body of `read_request` after the tag. -/
def requestOfTag (tag : UInt8) : SessionReader (PersistedRequest persistedForm) :=
  if tag = 1 then do
    let entry ← publish
    return .publish entry
  else if tag = 2 then do
    let pkid ← u16 "pubrel.pkid"
    return .pubRel pkid
  else if tag = 3 then do
    let entry ← subscribe
    return .subscribe entry
  else if tag = 4 then do
    let entry ← unsubscribe
    return .unsubscribe entry
  else .fail (.invalidEnumTag "request.type" tag)

def request : SessionReader (PersistedRequest persistedForm) := do
  let tag ← u8 "request.type"
  requestOfTag tag

/-- The fields of a checkpoint, after its header. -/
def fields (layout : Layout) : SessionReader PersistedSession := do
  let formatVersion ← u16 "format_version"
  let clientId ← string "client_id"
  let cleanStart ← bool "clean_start"
  let sessionExpiryInterval ← optionU32 "session_expiry_interval"
  let outgoingInflightUpperLimit ← optionU16 "outgoing_inflight_upper_limit"
  let ackMode ← (do let tag ← u8 "ack_mode"; accept (decodeAckMode tag))
  let replay ← vec "replay" layout.request request
  let incomingQos2 ← vec "incoming_qos2" incomingRecordSize (u16 "incoming_qos2.pkid")
  return { formatVersion, clientId, cleanStart, sessionExpiryInterval, outgoingInflightUpperLimit,
           ackMode, replay, incomingQos2 }

/-- The reads of `decode_with_memory_limit`. -/
def session (layout : Layout) : SessionReader PersistedSession := do
  let magic ← take "magic" sessionMagic.length
  failIf (magic ≠ sessionMagic) .invalidMagic
  let protocol ← u8 "protocol"
  failIf (protocol ≠ sessionProtocol) (.wrongProtocol protocol)
  let codecVersion ← u16 "codec_version"
  failIf (codecVersion ≠ sessionCodecVersion) (.unsupportedCodecVersion codecVersion)
  fields layout

end SessionReader

namespace PersistedSession

def encodeWithLimit (session : PersistedSession) (limit : Nat) :
    Except SessionEncodeError Bytes := do
  let done ← SessionWriter.session session ⟨[], limit, none⟩
  SessionWriter.finish done.2

def encode (session : PersistedSession) : Except SessionEncodeError Bytes :=
  session.encodeWithLimit usizeMax

def decodeWithMemoryLimit (layout : Layout) (bytes : Bytes) (memoryLimit : Nat) :
    Except SessionDecodeError PersistedSession := do
  let (session, reader) ← SessionReader.session layout ⟨bytes, 0, memoryLimit⟩
  if reader.position = reader.bytes.length then return session else throw .trailingBytes

def decode (layout : Layout) (bytes : Bytes) : Except SessionDecodeError PersistedSession :=
  decodeWithMemoryLimit layout bytes usizeMax

end PersistedSession

/-! ### The storage of a checkpoint -/

/-- `usize::saturating_add` -/
def saturatingAdd (a b : Nat) : Nat := min (a + b) usizeMax

/-- `usize::saturating_mul` -/
def saturatingMul (a b : Nat) : Nat := min (a * b) usizeMax

namespace AllocatedSize

def vecSize {α : Type} (size : Nat) (values : List α) : Nat := saturatingMul values.length size

def string (value : String) : Nat := (utf8 value).length

def strings (values : List String) : Nat :=
  values.foldl (fun n value => saturatingAdd n (string value)) (vecSize stringRecordSize values)

def properties (values : List (String × String)) : Nat :=
  values.foldl (fun n property =>
    saturatingAdd (saturatingAdd n (string property.1)) (string property.2))
    (vecSize userPropertyRecordSize values)

def filters (values : List SubscribeFilter) : Nat :=
  values.foldl (fun n filter => saturatingAdd n (string filter.path)) (vecSize filterRecordSize values)

def publish (publish : PersistedPublish persistedForm) : Nat :=
  let size := saturatingAdd publish.topic.length publish.payload.length
  match publish.properties with
  | none => size
  | some p =>
    saturatingAdd (saturatingAdd (saturatingAdd (saturatingAdd (saturatingAdd size
      (p.responseTopic.elim 0 string)) (p.contentType.elim 0 string))
      (p.correlationData.elim 0 List.length)) (properties p.userProperties))
      (vecSize identifierRecordSize p.subscriptionIdentifiers)

def request : PersistedRequest persistedForm → Nat
  | .publish entry => publish entry
  | .pubRel _ => 0
  | .subscribe entry =>
    saturatingAdd (filters entry.filters) (entry.properties.elim 0 (properties ·.userProperties))
  | .unsubscribe entry =>
    saturatingAdd (strings entry.filters) (entry.properties.elim 0 (properties ·.userProperties))

end AllocatedSize

open AllocatedSize in
def PersistedSession.allocatedSize (layout : Layout) (session : PersistedSession) : Nat :=
  let size := saturatingAdd (saturatingAdd (saturatingAdd layout.root (string session.clientId))
    (vecSize layout.request session.replay)) (vecSize incomingRecordSize session.incomingQos2)
  session.replay.foldl (fun size entry => saturatingAdd size (request entry)) size

/-! ### The blocking file adapter -/

inductive AdapterError where
  | blobTooLarge (size maximum : Nat)
  | sessionEncode (error : SessionEncodeError)
  | sessionDecode (error : SessionDecodeError)
  deriving DecidableEq, Repr

/-- The adapter over what the blob store holds at one key. -/
structure BlockingAdapter where
  limit : Nat
  blob : Option Bytes

namespace BlockingAdapter

def save (adapter : BlockingAdapter) (session : PersistedSession) :
    Except AdapterError BlockingAdapter := do
  let bytes ← (session.encodeWithLimit adapter.limit).mapError .sessionEncode
  return { adapter with blob := some bytes }

/-- The blob goes through an output that refuses what is longer than its limit. -/
def loadWithLimits (layout : Layout) (adapter : BlockingAdapter) (bytes memory : Nat) :
    Except AdapterError (Option PersistedSession) :=
  let limit := min bytes adapter.limit
  match adapter.blob with
  | none => .ok none
  | some blob =>
    if limit < blob.length then .error (.blobTooLarge (saturatingAdd limit 1) limit)
    else
      ((PersistedSession.decodeWithMemoryLimit layout blob
        (min memory (saturatingAdd (saturatingMul blob.length 512) 1024))).map some).mapError
        .sessionDecode

def load (layout : Layout) (adapter : BlockingAdapter) :
    Except AdapterError (Option PersistedSession) :=
  adapter.loadWithLimits layout adapter.limit usizeMax

end BlockingAdapter

end Rumqtt.V5
