/-
**The wrapper predicts the sizes of packets.**

A deferred command is refused at registration if its packet could never be sent, long before a client
builds that packet. The wrapper therefore computes three sizes on its own: that of an acknowledgement
with options (`encodedSize`), the Remaining Length of a publish, subscribe or unsubscribe
(`remainingLength`), and the bytes a publish costs in the budget of its client (`commandCharge`, with a
surcharge for a publish that names its topic by an alias only).

* `encodedSize_ok` reads off what an accepted acknowledgement is: a reason code a client may send,
  strings the codec writes, and lengths it can express.
* `ManualAck.written`: the codec then writes exactly that many bytes.
* `remainingLength_built` and `charged_eq`: the other two sizes are those of the packet that is built;
* `validatePacketSize_iff`: a command is accepted exactly if its packet can be encoded.
-/

import Rumqtt.V5.Codec.PacketLaws
import Rumqtt.V5.PublishBudget
import Rumqtt.Wrapper.Command

namespace Rumqtt

open Mqttbytes List

/-! ### The lengths of the MQTT 3.1.1 codec -/

namespace V4

def Publish.len (publish : Publish) : Nat :=
  let len := 2 + publish.topic.length + publish.payload.length
  if publish.qos ≠ .atMostOnce ∧ publish.pkid ≠ 0 then len + 2 else len

def SubscribeFilter.len (filter : SubscribeFilter) : Nat := 2 + (utf8 filter.path).length + 1

def Subscribe.len (subscribe : Subscribe) : Nat :=
  2 + (subscribe.filters.map SubscribeFilter.len).sum

def Unsubscribe.len (unsubscribe : Unsubscribe) : Nat :=
  2 + (unsubscribe.filters.map fun topic => (utf8 topic).length + 2).sum

end V4

namespace Wrapper

variable {n : Nat} {options : V5AcknowledgementOptions} {reason : V5.PubAckReason}

/-! ### Sizes of acknowledgements -/

def validateMqttUtf8String (value name : String) : Except Error Unit :=
  if 65535 < value.utf8ByteSize then
    .error (optionError (name ++ " exceeds the MQTT UTF-8 string limit of 65535 bytes"))
  else if '\x00' ∈ value.toList then
    .error (optionError (name ++ " cannot contain the null character"))
  else .ok ()

def maxRemainingLength : Nat := 268435455

/-- `variable_integer_size`, and `width` of `validate_packet_size` -/
def variableIntegerSize (value : Nat) : Nat :=
  if value ≤ 127 then 1 else if value ≤ 16383 then 2 else if value ≤ 2097151 then 3 else 4

/-- A length within the limit of the protocol. -/
def limited (message : String) (length : Option Nat) : Except Error Nat :=
  match length.filter (· ≤ maxRemainingLength) with
  | some length => .ok length
  | none => .error (optionError message)

namespace V5AcknowledgementOptions

/-- The reason codes a client may send in a PUBACK or a PUBREC. -/
def clientReasonCodes : List UInt8 := [0x00, 0x80, 0x83, 0x87, 0x90, 0x91, 0x97, 0x99]

/-- The closure `add`. -/
def add (propertiesLen length : Nat) : Except Error Nat :=
  limited "acknowledgement properties exceed MQTT encoding limits"
    (V5.checkedAdd propertiesLen length)

def addReason (reasonString : Option String) : Except Error Nat :=
  match reasonString with
  | none => .ok 0
  | some reason => do
    validateMqttUtf8String reason "acknowledgement reason string"
    add 0 (3 + reason.utf8ByteSize)

def addProperty (propertiesLen : Nat) (property : String × String) : Except Error Nat := do
  validateMqttUtf8String property.1 "acknowledgement user-property name"
  validateMqttUtf8String property.2 "acknowledgement user-property value"
  add propertiesLen (5 + property.1.utf8ByteSize + property.2.utf8ByteSize)

/-- What is left once the length of the properties is known. -/
def packetSize (reasonCode : UInt8) (propertiesLen : Nat) : Except Error Nat :=
  if reasonCode = 0 ∧ propertiesLen = 0 then .ok 4
  else do
    let remainingLen ← limited "acknowledgement exceeds MQTT encoding limits"
      ((V5.checkedAdd 3 (variableIntegerSize propertiesLen)).bind (V5.checkedAdd · propertiesLen))
    return 1 + variableIntegerSize remainingLen + remainingLen

/-- **The size of an acknowledgement with these contents.** -/
def encodedSize (options : V5AcknowledgementOptions) : Except Error Nat :=
  if options.reasonCode ∉ clientReasonCodes then
    .error (optionError "invalid client-originated PUBACK/PUBREC reason code")
  else do
    let propertiesLen ← addReason options.reasonString
    let propertiesLen ← options.userProperties.foldlM addProperty propertiesLen
    packetSize options.reasonCode propertiesLen

/-- The properties of the packet, if there are any. -/
def properties (options : V5AcknowledgementOptions) : Option V5.AckProperties :=
  if options.reasonString.isSome ∨ options.userProperties ≠ [] then
    some { reasonString := options.reasonString, userProperties := options.userProperties }
  else none

end V5AcknowledgementOptions

/-- The contents of an acknowledgement; without options they are the default ones. -/
def AcknowledgementProtocolOptions.content :
    AcknowledgementProtocolOptions → V5AcknowledgementOptions
  | .versionNeutral => {}
  | .v5 options => options

/-- `rumqttc_v5::ManualAck` -/
inductive ManualAck where
  | pubAck (ack : V5.PubAck)
  | pubRec (rec : V5.PubRec)
  deriving DecidableEq, Repr

/-- An acknowledgement of either client; `rumqttc_v4::ManualAck` has an identifier only. -/
inductive PreparedAck where
  | v4PubAck (ack : V4.PubAck)
  | v4PubRec (rec : V4.PubRec)
  | v5 (ack : ManualAck)
  deriving DecidableEq, Repr

/-- The macro `reason!`, for PUBACK and PUBREC alike. -/
def ackReason (reasonCode : UInt8) : Checked V5.PubAckReason :=
  match reasonCode with
  | 0x00 => .ok .success
  | 0x80 => .ok .unspecifiedError
  | 0x83 => .ok .implementationSpecificError
  | 0x87 => .ok .notAuthorized
  | 0x90 => .ok .topicNameInvalid
  | 0x91 => .ok .packetIdentifierInUse
  | 0x97 => .ok .quotaExceeded
  | 0x99 => .ok .payloadFormatInvalid
  | _ => .error (.unreachableCode "validated client acknowledgement reason")

namespace ManualAck

def pkid : ManualAck → PacketId
  | pubAck ack => ack.pkid
  | pubRec rec => rec.pkid

def isPubAck : ManualAck → Bool
  | pubAck _ => true
  | pubRec _ => false

def withContents (reason : V5.PubAckReason) (properties : Option V5.AckProperties) :
    ManualAck → ManualAck
  | pubAck ack => pubAck { ack with reason, properties }
  | pubRec rec => pubRec { rec with reason, properties }

/-- What the MQTT 5 codec writes for the packet. -/
def write : ManualAck → V5.FrameWriter Nat
  | pubAck ack => ack.write
  | pubRec rec => rec.write

end ManualAck

/-- The second arm of `customize_ack`. -/
def customizeV5 (ack : ManualAck) (content : V5AcknowledgementOptions)
    (maximumPacketSize : Option UInt32) : Checked (Except Error PreparedAck) :=
  match content.encodedSize with
  | .error error => .ok (.error error)
  | .ok size =>
    if ∃ limit ∈ maximumPacketSize, limit.toNat < size then
      .ok (.error (optionError "acknowledgement exceeds the broker's Maximum Packet Size"))
    else do
      let reason ← ackReason content.reasonCode
      return .ok (.v5 (ack.withContents reason content.properties))

/-- **The acknowledgement that is sent** in the place of the prepared one. -/
def customizeAck (original : PreparedAck) (options : AcknowledgementProtocolOptions)
    (maximumPacketSize : Option UInt32) : Checked (Except Error PreparedAck) :=
  match original, options with
  | .v5 ack, options => customizeV5 ack options.content maximumPacketSize
  | _, .v5 _ => .ok (.error (optionError "MQTT 5 acknowledgement options require MQTT 5"))
  | original, .versionNeutral => .ok (.ok original)

/-! ### Sizes of commands -/

/-- `size_of::<Subscription>()`, on a 64-bit target. -/
def subscriptionSize : Nat := 32

/-- `size_of::<String>()`, on a 64-bit target. -/
def stringSize : Nat := 24

/-- The nested function `properties` of `command_charge`. -/
def propertiesCharge (values : V5.UserProperties) : Option Nat :=
  values.foldlM (fun n property => do
    let n ← V5.checkedAdd n V5.userPropertyRecordSize
    let n ← V5.checkedAdd n property.1.utf8ByteSize
    V5.checkedAdd n property.2.utf8ByteSize) 0

def addProperties (n : Option Nat) (values : V5.UserProperties) : Option Nat := do
  let n ← n
  let properties ← propertiesCharge values
  V5.checkedAdd n properties

def publishCommandCharge (p : PublishCommand) : Option Nat :=
  let n := V5.checkedAdd p.topic.utf8ByteSize p.payload.length
  match p.protocol with
  | .versionNeutral => n
  | .v5 p =>
    let n := n.bind (V5.checkedAdd · ((p.responseTopic.map String.utf8ByteSize).getD 0))
    let n := n.bind (V5.checkedAdd · ((p.correlationData.map List.length).getD 0))
    let n := n.bind (V5.checkedAdd · ((p.contentType.map String.utf8ByteSize).getD 0))
    addProperties n p.userProperties

def subscribeCommandCharge (p : SubscribeCommand) : Option Nat :=
  let n := p.filters.foldlM (fun n filter => do
    let n ← V5.checkedAdd n subscriptionSize
    V5.checkedAdd n filter.filter.utf8ByteSize) 0
  match p.protocol with
  | .versionNeutral => n
  | .v5 p => addProperties n p.userProperties

def unsubscribeCommandCharge (p : UnsubscribeCommand) : Option Nat :=
  let n := p.filters.foldlM (fun n filter => do
    let n ← V5.checkedAdd n stringSize
    V5.checkedAdd n filter.utf8ByteSize) 0
  match p.protocol with
  | .versionNeutral => n
  | .v5 p => addProperties n p.userProperties

/-- The options of an acknowledgement are held twice, by the command and by its reservation. -/
def acknowledgementCharge : AcknowledgementProtocolOptions → Option Nat
  | .versionNeutral => some 0
  | .v5 p => do
    let n ← propertiesCharge p.userProperties
    let n ← V5.checkedAdd n ((p.reasonString.map String.utf8ByteSize).getD 0)
    V5.checkedMul n 2

/-- The sum of `command_charge`, before it is known to be a `usize`. -/
def commandBytes : Command → Except Error (Option Nat)
  | .publish p => .ok (publishCommandCharge p)
  | .subscribe p => .ok (subscribeCommandCharge p)
  | .unsubscribe p => .ok (unsubscribeCommandCharge p)
  | .acknowledge _ => .ok (some 0)
  | .acknowledgeWithOptions _ protocol => .ok (acknowledgementCharge protocol)
  | _ => .error (optionError "command does not support deferred admission")

/-- **The bytes a command holds.** -/
def commandCharge (command : Command) : Except Error Nat := do
  let bytes ← commandBytes command
  bytes.elim (.error (optionError "pending command size overflow")) .ok

/-- The bytes that `validate_command` compares with the limit of the publish budget. -/
def charged (p : PublishCommand) : Except Error (Option Nat) := do
  let bytes ← commandCharge (.publish p)
  return V5.checkedAdd bytes (if p.topic.isEmpty then u16Max else 0)

/-- The nested function `users` of `validate_packet_size`. -/
def users (properties : V5.UserProperties) : Nat :=
  (properties.map fun property => 5 + property.1.utf8ByteSize + property.2.utf8ByteSize).sum

/-- The nested function `field` of `validate_packet_size`. -/
def field (length : Option Nat) : Nat := length.elim 0 (3 + ·)

def publishPropertiesLen : PublishProtocolOptions → Nat
  | .versionNeutral => 0
  | .v5 p => users p.userProperties +
      field (p.responseTopic.map String.utf8ByteSize) +
      field (p.correlationData.map List.length) +
      field (p.contentType.map String.utf8ByteSize) +
      (if p.payloadFormatIndicator.isSome then 1 else 0) * 2 +
      (if p.topicAlias.isSome then 1 else 0) * 3 +
      (if p.messageExpiryInterval.isSome then 1 else 0) * 5

def subscribePropertiesLen : SubscribeProtocolOptions → Nat
  | .versionNeutral => 0
  | .v5 p => users p.userProperties +
      p.subscriptionIdentifier.elim 0 fun id => 1 + variableIntegerSize id

def unsubscribePropertiesLen : UnsubscribeProtocolOptions → Nat
  | .versionNeutral => 0
  | .v5 p => users p.userProperties

/-- The property block, which MQTT 3.1.1 does not have. -/
def propertyBlock (v4 : Bool) (properties : Nat) : Nat :=
  if v4 then 0 else properties + variableIntegerSize properties

/-- **The Remaining Length of the packet of a command**, if it has one. -/
def remainingLength (command : Command) (v4 : Bool) : Option Nat :=
  match command with
  | .publish p => some (2 + p.topic.utf8ByteSize + p.payload.length +
      (if p.qos ≠ .atMostOnce then 1 else 0) * 2 +
      propertyBlock v4 (publishPropertiesLen p.protocol))
  | .subscribe p => some (2 + propertyBlock v4 (subscribePropertiesLen p.protocol) +
      (p.filters.map fun filter => 3 + filter.filter.utf8ByteSize).sum)
  | .unsubscribe p => some (2 + propertyBlock v4 (unsubscribePropertiesLen p.protocol) +
      (p.filters.map fun filter => 2 + filter.utf8ByteSize).sum)
  | _ => none

def validatePacketSize (command : Command) (v4 : Bool) : Except Error Unit :=
  match remainingLength command v4 with
  | none => .ok ()
  | some remaining =>
    if 268435455 < remaining then
      .error (optionError "command exceeds the MQTT remaining-length limit")
    else .ok ()

/-! ### The packets that are built -/

/-- A packet of either client. -/
inductive NativePacket where
  | v4Publish (publish : V4.Publish)
  | v4Subscribe (subscribe : V4.Subscribe)
  | v4Unsubscribe (unsubscribe : V4.Unsubscribe)
  | v5Publish (publish : V5.Publish)
  | v5Subscribe (subscribe : V5.Subscribe)
  | v5Unsubscribe (unsubscribe : V5.Unsubscribe)

/-- **The packet that the backend builds from a command**, unless it refuses its options. -/
def Command.packet (v4 : Bool) : Command → Option NativePacket
  | .publish p =>
    if v4 then p.toV4.toOption.map .v4Publish else some (.v5Publish p.toV5)
  | .subscribe p =>
    if v4 then p.toV4.toOption.map .v4Subscribe else some (.v5Subscribe p.toV5)
  | .unsubscribe p =>
    if v4 then p.toV4.toOption.map .v4Unsubscribe else some (.v5Unsubscribe p.toV5)
  | _ => none

namespace NativePacket

/-- The packet under the identifier that the client gives it; a publish of QoS 0 gets none. -/
def numbered (pkid : PacketId) : NativePacket → NativePacket
  | v4Publish publish =>
    v4Publish (if publish.qos = .atMostOnce then publish else { publish with pkid })
  | v4Subscribe subscribe => v4Subscribe { subscribe with pkid }
  | v4Unsubscribe unsubscribe => v4Unsubscribe { unsubscribe with pkid }
  | v5Publish publish =>
    v5Publish (if publish.qos = .atMostOnce then publish else { publish with pkid })
  | v5Subscribe subscribe => v5Subscribe { subscribe with pkid }
  | v5Unsubscribe unsubscribe => v5Unsubscribe { unsubscribe with pkid }

/-- The Remaining Length that the codec writes. -/
def len : NativePacket → Nat
  | v4Publish publish => publish.len
  | v4Subscribe subscribe => subscribe.len
  | v4Unsubscribe unsubscribe => unsubscribe.len
  | v5Publish publish => V5.Publish.len publish
  | v5Subscribe subscribe => V5.Subscribe.len subscribe
  | v5Unsubscribe unsubscribe => V5.Unsubscribe.len unsubscribe

end NativePacket

/-! ### Acknowledgements are written in the predicted size -/

theorem variableIntegerSize_eq (value : Nat) : variableIntegerSize value = lenLen value := by
  unfold variableIntegerSize lenLen
  split_ifs <;> omega

/-- A string that the codec writes. -/
def Writable (value : String) : Prop := value.utf8ByteSize ≤ 65535 ∧ '\x00' ∉ value.toList

theorem validateMqttUtf8String_ok {value name : String}
    (valid : validateMqttUtf8String value name = .ok ()) : Writable value := by
  unfold validateMqttUtf8String at valid
  split_ifs at valid with long null
  exact ⟨Nat.le_of_not_lt long, null⟩

theorem limited_ok {message : String} {length : Option Nat}
    (fits : limited message length = .ok n) : length = some n ∧ n ≤ maxRemainingLength := by
  unfold limited at fits
  split at fits
  · rename_i found
    cases fits
    exact Option.filter_eq_some_iff.mp found |>.imp_right of_decide_eq_true
  · cases fits

namespace V5AcknowledgementOptions

theorem add_ok {propertiesLen length n : Nat} (added : add propertiesLen length = .ok n) :
    n = propertiesLen + length ∧ n ≤ maxRemainingLength := by
  obtain ⟨sum, fits⟩ := limited_ok added
  exact ⟨(V5.toUsize_eq_some.mp sum).2.symm, fits⟩

theorem addReason_ok {reasonString : Option String} {n : Nat}
    (added : addReason reasonString = .ok n) :
    (∀ reason ∈ reasonString, Writable reason) ∧ n ≤ maxRemainingLength ∧
      n = V5.optionalLen (fun reason => 1 + 2 + (utf8 reason).length) reasonString := by
  cases reasonString with
  | none =>
    cases added
    exact ⟨nofun, Nat.zero_le _, rfl⟩
  | some reason =>
    obtain ⟨_, valid, added⟩ := bind_eq_ok.mp added
    obtain ⟨rfl, fits⟩ := add_ok added
    refine ⟨fun _ found => ?_, fits, Nat.zero_add _⟩
    cases found
    exact validateMqttUtf8String_ok valid

theorem addProperty_ok {property : String × String} {start n : Nat}
    (added : addProperty start property = .ok n) :
    Writable property.1 ∧ Writable property.2 ∧ n ≤ maxRemainingLength ∧
      n = start + (5 + property.1.utf8ByteSize + property.2.utf8ByteSize) := by
  obtain ⟨_, name, added⟩ := bind_eq_ok.mp added
  obtain ⟨_, value, added⟩ := bind_eq_ok.mp added
  obtain ⟨sum, fits⟩ := add_ok added
  exact ⟨validateMqttUtf8String_ok name, validateMqttUtf8String_ok value, fits, sum⟩

theorem users_cons (property : String × String) (rest : V5.UserProperties) :
    users (property :: rest) =
      5 + property.1.utf8ByteSize + property.2.utf8ByteSize + users rest := sum_cons

/-- Every user property is checked before its length is added. -/
theorem addProperties_ok {userProperties : V5.UserProperties} {start n : Nat}
    (small : start ≤ maxRemainingLength) (added : userProperties.foldlM addProperty start = .ok n) :
    (∀ property ∈ userProperties, Writable property.1 ∧ Writable property.2) ∧
      n ≤ maxRemainingLength ∧ n = start + users userProperties := by
  induction userProperties generalizing start with
  | nil =>
    cases added
    exact ⟨nofun, small, rfl⟩
  | cons property rest ih =>
    rw [foldlM_cons] at added
    obtain ⟨middle, here, added⟩ := bind_eq_ok.mp added
    obtain ⟨name, value, fits, sum⟩ := addProperty_ok here
    obtain ⟨others, within, total⟩ := ih fits added
    refine ⟨forall_mem_cons.mpr ⟨⟨name, value⟩, others⟩, within, ?_⟩
    rw [total, sum, users_cons]
    omega

theorem users_eq (userProperties : V5.UserProperties) :
    users userProperties = V5.userPropertiesLen userProperties := by
  unfold users V5.userPropertiesLen V5.repeatedLen
  refine congrArg List.sum (map_congr_left fun property _ => ?_)
  simp only [length_utf8]
  omega

/-- The contents as a set of properties. -/
def contents (options : V5AcknowledgementOptions) : V5.AckProperties :=
  { reasonString := options.reasonString, userProperties := options.userProperties }

/-- **What an accepted acknowledgement is**, and the size it is given. -/
theorem encodedSize_ok {options : V5AcknowledgementOptions} {n : Nat}
    (accepted : options.encodedSize = .ok n) :
    options.reasonCode ∈ clientReasonCodes ∧ (∀ reason ∈ options.reasonString, Writable reason) ∧
      (∀ property ∈ options.userProperties, Writable property.1 ∧ Writable property.2) ∧
      packetSize options.reasonCode options.contents.len = .ok n := by
  unfold encodedSize at accepted
  split_ifs at accepted with code
  obtain ⟨reason, addedReason, accepted⟩ := bind_eq_ok.mp accepted
  obtain ⟨total, added, accepted⟩ := bind_eq_ok.mp accepted
  obtain ⟨validReason, small, length⟩ := addReason_ok addedReason
  obtain ⟨validProperties, _, sum⟩ := addProperties_ok small added
  refine ⟨code, validReason, validProperties, ?_⟩
  have same : total = options.contents.len := by
    rw [sum, length, users_eq]
    rfl
  rwa [same] at accepted

/-- No properties are no bytes: each of them takes at least three. -/
theorem contents_len_eq_zero (options : V5AcknowledgementOptions) :
    options.contents.len = 0 ↔ options.properties = none := by
  obtain ⟨code, reasonString, userProperties⟩ := options
  unfold properties
  cases reasonString with
  | some reason =>
    have positive : 0 < (contents ⟨code, some reason, userProperties⟩).len :=
      Nat.add_pos_left (by show 0 < 1 + 2 + _; omega) _
    simp [Nat.ne_of_gt positive]
  | none =>
    cases userProperties with
    | nil => exact ⟨fun _ => rfl, fun _ => rfl⟩
    | cons property rest =>
      have positive : 0 < (contents ⟨code, none, property :: rest⟩).len := by
        show 0 < 0 + V5.userPropertiesLen (property :: rest)
        rw [← users_eq, users_cons]
        omega
      simp [Nat.ne_of_gt positive]

theorem properties_eq_some {options : V5AcknowledgementOptions}
    (some_ : options.properties ≠ none) : options.properties = some options.contents := by
  unfold properties at some_ ⊢
  split_ifs at some_ ⊢ with any
  · rfl
  · exact absurd rfl some_

theorem blockLen_properties (options : V5AcknowledgementOptions) :
    V5.blockLen V5.AckProperties.len options.properties =
      variableIntegerSize options.contents.len + options.contents.len := by
  by_cases empty : options.properties = none
  · rw [empty, (contents_len_eq_zero options).mpr empty]
    rfl
  · rw [properties_eq_some empty, variableIntegerSize_eq]
    rfl

end V5AcknowledgementOptions

open V5AcknowledgementOptions

/-- **A code that passed the check is a reason**, and the success is the code zero. -/
theorem ackReason_ok {code : UInt8} (member : code ∈ clientReasonCodes) :
    ∃ reason, ackReason code = .ok reason ∧ (reason = .success ↔ code = 0) := by
  simp only [clientReasonCodes, mem_cons, not_mem_nil, or_false] at member
  rcases member with rfl | rfl | rfl | rfl | rfl | rfl | rfl | rfl
  all_goals exact ⟨_, rfl, by decide⟩

theorem succeeds_ackProperties {properties : V5.AckProperties}
    (reason : ∀ reason ∈ properties.reasonString, Writable reason)
    (pairs : ∀ property ∈ properties.userProperties, Writable property.1 ∧ Writable property.2)
    (small : properties.len ≤ maxRemainingLength) : Succeeds properties.write := by
  refine .transactional ((succeeds_remainingLength small).bind fun _ => .each _ ?_)
  intro property member
  refine (Succeeds.ofExcept rfl).bind fun _ => (Succeeds.extend _).bind fun _ => ?_
  rcases mem_append.mp member with found | found
  · obtain ⟨text, present, rfl⟩ := mem_map.mp found
    have valid := reason text (Option.mem_toList.mp present)
    exact succeeds_mqttString valid.1 valid.2
  · obtain ⟨pair, present, rfl⟩ := mem_map.mp found
    obtain ⟨name, value⟩ := pairs pair present
    exact (succeeds_mqttString name.1 name.2).bind fun _ => succeeds_mqttString value.1 value.2

/-- **The predicted size is that of the frame**, for every acknowledgement whose success is spelled
zero. -/
theorem packetSize_ok
    (success : reason = .success ↔ options.reasonCode = 0) (kind : V5.AckKind V5.PubAckReason)
    (spelled : kind.success = .success)
    (sized : packetSize options.reasonCode options.contents.len = .ok n) :
    kind.len reason options.properties ≤ maxRemainingLength ∧
      n = frameSize (kind.len reason options.properties) := by
  have compact : (options.reasonCode = 0 ∧ options.contents.len = 0) ↔
      (reason = kind.success ∧ options.properties = none) := by
    rw [spelled, success, contents_len_eq_zero]
  unfold packetSize at sized
  unfold V5.AckKind.len
  by_cases short : options.reasonCode = 0 ∧ options.contents.len = 0
  · rw [if_pos short] at sized
    rw [if_pos (compact.mp short)]
    cases sized
    exact ⟨by decide, rfl⟩
  · rw [if_neg short] at sized
    rw [if_neg (mt compact.mpr short), blockLen_properties]
    obtain ⟨remaining, fits, sized⟩ := bind_eq_ok.mp sized
    cases sized
    obtain ⟨sum, within⟩ := limited_ok fits
    obtain ⟨start, first, second⟩ := Option.bind_eq_some_iff.mp sum
    obtain ⟨_, rfl⟩ := V5.toUsize_eq_some.mp first
    obtain ⟨_, rfl⟩ := V5.toUsize_eq_some.mp second
    have total : 2 + 1 + (variableIntegerSize options.contents.len + options.contents.len) =
        3 + variableIntegerSize options.contents.len + options.contents.len := by omega
    rw [total]
    refine ⟨within, ?_⟩
    unfold frameSize
    rw [← variableIntegerSize_eq]

/-- An acknowledgement with these contents is written, under every packet identifier. -/
theorem succeeds_ack (kind : V5.AckKind V5.PubAckReason) {pkid : PacketId} (positive : pkid ≠ 0)
    (validReason : ∀ reason ∈ options.reasonString, Writable reason)
    (validPairs : ∀ property ∈ options.userProperties, Writable property.1 ∧ Writable property.2)
    (small : kind.len reason options.properties ≤ maxRemainingLength) :
    Succeeds (kind.write pkid reason options.properties) := by
  refine .transactional ((Succeeds.failIf positive _).bind fun _ => ?_)
  refine (Succeeds.extend _).bind fun _ => (succeeds_remainingLength small).bind fun _ => ?_
  refine (Succeeds.extend _).bind fun _ => ?_
  by_cases compact : reason = kind.success ∧ options.properties = none
  · rw [if_pos compact]
    exact .pure 4
  · rw [if_neg compact]
    refine (Succeeds.extend _).bind fun _ => Succeeds.bind ?_ fun _ => .pure _
    by_cases empty : options.properties = none
    · rw [empty]
      exact (succeeds_remainingLength (Nat.zero_le _)).bind fun _ => .pure ()
    · have long : kind.len reason options.properties =
          2 + 1 + (variableIntegerSize options.contents.len + options.contents.len) :=
        (if_neg compact).trans (congrArg (2 + 1 + ·) (blockLen_properties options))
      rw [properties_eq_some empty]
      exact succeeds_ackProperties validReason validPairs (by omega)

/-- **The codec writes an acknowledgement in exactly as many bytes.** -/
theorem ManualAck.written (accepted : options.encodedSize = .ok n)
    (known : ackReason options.reasonCode = .ok reason) (ack : ManualAck) (positive : ack.pkid ≠ 0)
    (buffer : Bytes) :
    ∃ bytes, bytes.length = n ∧ (ack.withContents reason options.properties).write.run buffer =
      .ok (.ok n, buffer ++ bytes) := by
  obtain ⟨code, validReason, validPairs, sized⟩ := encodedSize_ok accepted
  obtain ⟨_, same, success⟩ := ackReason_ok code
  obtain rfl : reason = _ := Except.ok.inj (known.symm.trans same)
  have written : ∀ kind : V5.AckKind V5.PubAckReason, kind.success = .success →
      (∀ reason, kind.reason (kind.code reason) = .ok reason) → ∀ pkid : PacketId, pkid ≠ 0 →
      ∃ bytes, bytes.length = n ∧ (kind.write pkid reason options.properties).run buffer =
        .ok (.ok n, buffer ++ bytes) := by
    intro kind spelled inverse pkid positive
    obtain ⟨small, size⟩ := packetSize_ok success kind spelled sized
    obtain ⟨count, bytes, appends, counted, framed, _⟩ :=
      (V5.AckKind.writes inverse pkid reason options.properties).of_succeeds
        (succeeds_ack kind positive validReason validPairs small)
    obtain rfl : count = n := framed.trans size.symm
    exact ⟨bytes, counted.symm, appends buffer⟩
  cases ack with
  | pubAck ack => exact written V5.PubAck.kind rfl V5.pubAckReason_code ack.pkid positive
  | pubRec rec => exact written V5.PubRec.kind rfl V5.pubAckReason_code rec.pkid positive

/-- Zero is no packet identifier, and the codec refuses it. -/
theorem ManualAck.refused {ack : ManualAck} (zero : ack.pkid = 0) (buffer : Bytes) :
    ack.write.run buffer = .ok (.error .packetIdZero, buffer) := by
  have refused : ∀ (kind : V5.AckKind V5.PubAckReason) (reason : V5.PubAckReason)
      (properties : Option V5.AckProperties),
      (kind.write 0 reason properties).run buffer = .ok (.error .packetIdZero, buffer) := by
    intro kind reason properties
    have stopped : kind.writeInner 0 reason properties buffer =
        .ok (.error .packetIdZero, buffer) := rfl
    refine (Writer.transactional_error stopped).trans ?_
    rw [take_length]
  cases ack with
  | pubAck ack =>
    obtain ⟨pkid, reason, properties⟩ := ack
    cases zero
    exact refused V5.PubAck.kind reason properties
  | pubRec rec =>
    obtain ⟨pkid, reason, properties⟩ := rec
    cases zero
    exact refused V5.PubRec.kind reason properties

theorem customizeAck_accepted
    (accepted : options.encodedSize = .ok n) {maximumPacketSize : Option UInt32}
    (fits : ∀ limit ∈ maximumPacketSize, n ≤ limit.toNat) (ack : ManualAck) :
    ∃ reason, ackReason options.reasonCode = .ok reason ∧
      customizeAck (.v5 ack) (.v5 options) maximumPacketSize =
        .ok (.ok (.v5 (ack.withContents reason options.properties))) := by
  obtain ⟨reason, known, _⟩ := ackReason_ok (encodedSize_ok accepted).1
  refine ⟨reason, known, ?_⟩
  show customizeV5 ack options maximumPacketSize = _
  unfold customizeV5
  rw [accepted]
  dsimp only
  rw [if_neg fun ⟨limit, found, large⟩ => absurd (fits limit found) (Nat.not_le.mpr large), known]
  rfl

/-! ### Commands have the predicted lengths -/

theorem field_eq {α : Type} (size : α → Nat) (value : Option α) :
    field (value.map size) = V5.optionalLen (fun value => 1 + 2 + size value) value := by
  cases value with
  | none => rfl
  | some value => rfl

theorem fixed_eq {α : Type} (value : Option α) (size : Nat) :
    (if value.isSome then 1 else 0) * size = V5.optionalLen (fun _ => size) value := by
  cases value with
  | none => exact Nat.zero_mul size
  | some value => exact Nat.one_mul size

theorem len_publishProperties (properties : V5OutgoingPublishProperties) :
    properties.toV5.len = publishPropertiesLen (.v5 properties) := by
  dsimp only [publishPropertiesLen]
  rw [users_eq, field_eq, field_eq (α := Bytes), field_eq, fixed_eq, fixed_eq, fixed_eq]
  show V5.optionalLen (fun _ => 2) properties.payloadFormatIndicator +
    V5.optionalLen (fun _ => 5) properties.messageExpiryInterval +
    V5.optionalLen (fun _ => 3) properties.topicAlias +
    V5.optionalLen (fun topic => 1 + 2 + topic.utf8ByteSize) properties.responseTopic +
    V5.optionalLen (fun data => 1 + 2 + data.length) properties.correlationData +
    V5.userPropertiesLen properties.userProperties + 0 +
    V5.optionalLen (fun typ => 1 + 2 + typ.utf8ByteSize) properties.contentType = _
  omega

theorem len_subscribeProperties (properties : V5SubscribeProperties) :
    V5.SubscribeProperties.len ⟨properties.subscriptionIdentifier, properties.userProperties⟩ =
      subscribePropertiesLen (.v5 properties) := by
  dsimp only [V5.SubscribeProperties.len, subscribePropertiesLen, V5.optionalLen]
  rw [users_eq, Nat.add_comm]
  simp only [variableIntegerSize_eq]

/-- **A block of the predicted length**; a command without options has no properties. -/
theorem propertyBlock_eq {P : Type} (len : P → Nat) (properties : Option P) {predicted : Nat}
    (absent : properties = none → predicted = 0) (present : ∀ p ∈ properties, len p = predicted) :
    V5.blockLen len properties = propertyBlock false predicted := by
  unfold propertyBlock
  rw [variableIntegerSize_eq, if_neg Bool.false_ne_true]
  cases properties with
  | none =>
    rw [absent rfl]
    rfl
  | some p =>
    show lenLen (len p) + len p = _
    rw [present p rfl, Nat.add_comm]

theorem blockLen_publish (p : PublishCommand) :
    V5.blockLen V5.PublishProperties.len p.toV5.properties =
      propertyBlock false (publishPropertiesLen p.protocol) := by
  obtain ⟨topic, payload, qos, retain, protocol⟩ := p
  cases protocol with
  | versionNeutral => exact propertyBlock_eq _ none (fun _ => rfl) nofun
  | v5 properties =>
    refine propertyBlock_eq _ (some properties.toV5) nofun fun p found => ?_
    cases found
    exact len_publishProperties properties

theorem blockLen_subscribe (p : SubscribeCommand) :
    V5.blockLen V5.SubscribeProperties.len p.toV5.properties =
      propertyBlock false (subscribePropertiesLen p.protocol) := by
  obtain ⟨filters, protocol⟩ := p
  cases protocol with
  | versionNeutral => exact propertyBlock_eq _ none (fun _ => rfl) nofun
  | v5 properties =>
    refine propertyBlock_eq _ (some _) nofun fun p found => ?_
    cases found
    exact len_subscribeProperties properties

theorem blockLen_unsubscribe (p : UnsubscribeCommand) :
    V5.blockLen V5.UnsubscribeProperties.len p.toV5.properties =
      propertyBlock false (unsubscribePropertiesLen p.protocol) := by
  obtain ⟨filters, protocol⟩ := p
  cases protocol with
  | versionNeutral => exact propertyBlock_eq _ none (fun _ => rfl) nofun
  | v5 properties =>
    refine propertyBlock_eq _ (some _) nofun fun p found => ?_
    cases found
    exact (users_eq properties.userProperties).symm

theorem len_subscription (filter : Subscription) :
    V5.SubscribeFilter.len filter.toV5 = 3 + filter.filter.utf8ByteSize := by
  have path : filter.toV5.path = filter.filter := by
    unfold Subscription.toV5
    split <;> rfl
  unfold V5.SubscribeFilter.len
  rw [path, length_utf8]
  omega

/-- A publish takes two more bytes for its identifier, unless its quality of service is zero. -/
theorem numbered_publish {D : Dialect} (publish : Rumqtt.Publish D) {pkid : PacketId}
    (positive : pkid ≠ 0) {numbered : Rumqtt.Publish D}
    (same : numbered = if publish.qos = .atMostOnce then publish else { publish with pkid }) :
    numbered.topic = publish.topic ∧ numbered.payload = publish.payload ∧
      numbered.properties = publish.properties ∧
      (numbered.qos ≠ .atMostOnce ∧ numbered.pkid ≠ 0 ↔ publish.qos ≠ .atMostOnce) := by
  subst same
  split_ifs with level
  · exact ⟨rfl, rfl, rfl, fun both => both.1, fun other => absurd level other⟩
  · exact ⟨rfl, rfl, rfl, fun both => both.1, fun other => ⟨other, positive⟩⟩

theorem remainingLength_publish_v4 {p : PublishCommand} {publish : V4.Publish}
    (built : p.toV4 = .ok publish) {pkid : PacketId} (positive : pkid ≠ 0) :
    remainingLength (.publish p) true =
      some ((NativePacket.v4Publish publish).numbered pkid).len := by
  obtain ⟨topic, payload, qos, retain, protocol⟩ := p
  cases protocol with
  | v5 properties => cases built
  | versionNeutral =>
    cases built
    obtain ⟨sameTopic, samePayload, _, identified⟩ := numbered_publish _ positive rfl
    refine congrArg some ?_
    show _ = V4.Publish.len _
    unfold V4.Publish.len
    rw [sameTopic, samePayload]
    simp only [identified]
    show _ + _ = _
    rw [length_utf8]
    split_ifs <;> rfl

theorem remainingLength_publish_v5 (p : PublishCommand) {pkid : PacketId} (positive : pkid ≠ 0) :
    remainingLength (.publish p) false =
      some ((NativePacket.v5Publish p.toV5).numbered pkid).len := by
  obtain ⟨sameTopic, samePayload, sameProperties, identified⟩ :=
    numbered_publish p.toV5 positive rfl
  refine congrArg some ?_
  show _ = V5.Publish.len _
  unfold V5.Publish.len
  rw [sameTopic, samePayload, sameProperties, blockLen_publish]
  simp only [identified]
  show _ = 2 + (utf8 p.topic).length + (if p.qos ≠ .atMostOnce then 2 else 0) + _ + p.payload.length
  rw [length_utf8]
  split_ifs <;> omega

theorem remainingLength_subscribe_v4 {p : SubscribeCommand} {subscribe : V4.Subscribe}
    (built : p.toV4 = .ok subscribe) (pkid : PacketId) :
    remainingLength (.subscribe p) true =
      some ((NativePacket.v4Subscribe subscribe).numbered pkid).len := by
  unfold SubscribeCommand.toV4 at built
  split_ifs at built
  cases built
  refine congrArg some ?_
  show 2 + 0 + _ = 2 + (List.map _ (List.map _ p.filters)).sum
  rw [map_map]
  refine congrArg (2 + List.sum ·) (map_congr_left fun filter _ => ?_)
  show 3 + _ = 2 + (utf8 filter.filter).length + 1
  rw [length_utf8]
  omega

theorem remainingLength_subscribe_v5 (p : SubscribeCommand) (pkid : PacketId) :
    remainingLength (.subscribe p) false =
      some ((NativePacket.v5Subscribe p.toV5).numbered pkid).len := by
  refine congrArg some ?_
  show _ = 2 + (List.map _ (List.map _ p.filters)).sum +
    V5.blockLen V5.SubscribeProperties.len p.toV5.properties
  rw [blockLen_subscribe, map_map]
  have filters : (p.filters.map (V5.SubscribeFilter.len ∘ Subscription.toV5)) =
      p.filters.map fun filter => 3 + filter.filter.utf8ByteSize :=
    map_congr_left fun filter _ => len_subscription filter
  rw [filters]
  omega

theorem remainingLength_unsubscribe_v4 {p : UnsubscribeCommand} {unsubscribe : V4.Unsubscribe}
    (built : p.toV4 = .ok unsubscribe) (pkid : PacketId) :
    remainingLength (.unsubscribe p) true =
      some ((NativePacket.v4Unsubscribe unsubscribe).numbered pkid).len := by
  obtain ⟨filters, protocol⟩ := p
  cases protocol with
  | v5 properties => cases built
  | versionNeutral =>
    cases built
    refine congrArg some ?_
    show 2 + 0 + _ = 2 + _
    refine congrArg (2 + List.sum ·) (map_congr_left fun filter _ => ?_)
    rw [length_utf8, Nat.add_comm]

theorem remainingLength_unsubscribe_v5 (p : UnsubscribeCommand) (pkid : PacketId) :
    remainingLength (.unsubscribe p) false =
      some ((NativePacket.v5Unsubscribe p.toV5).numbered pkid).len := by
  refine congrArg some ?_
  show _ = 2 + (List.map _ p.filters).sum +
    V5.blockLen V5.UnsubscribeProperties.len p.toV5.properties
  rw [blockLen_unsubscribe]
  simp only [length_utf8]
  omega

/-- **The predicted Remaining Length is that of the packet**, under every packet identifier. -/
theorem remainingLength_built {command : Command} {v4 : Bool} {packet : NativePacket}
    (built : command.packet v4 = some packet) {pkid : PacketId} (positive : pkid ≠ 0) :
    remainingLength command v4 = some (packet.numbered pkid).len := by
  have accepted : ∀ {α : Type} {result : Except Error α} {wrap : α → NativePacket},
      result.toOption.map wrap = some packet → ∃ value, result = .ok value ∧ wrap value = packet := by
    intro α result wrap mapped
    cases result with
    | error error => cases mapped
    | ok value => exact ⟨value, rfl, Option.some.inj mapped⟩
  cases command with
  | publish p =>
    cases v4 with
    | true =>
      obtain ⟨publish, made, rfl⟩ := accepted built
      exact remainingLength_publish_v4 made positive
    | false =>
      cases built
      exact remainingLength_publish_v5 p positive
  | subscribe p =>
    cases v4 with
    | true =>
      obtain ⟨subscribe, made, rfl⟩ := accepted built
      exact remainingLength_subscribe_v4 made pkid
    | false =>
      cases built
      exact remainingLength_subscribe_v5 p pkid
  | unsubscribe p =>
    cases v4 with
    | true =>
      obtain ⟨unsubscribe, made, rfl⟩ := accepted built
      exact remainingLength_unsubscribe_v4 made pkid
    | false =>
      cases built
      exact remainingLength_unsubscribe_v5 p pkid
  | _ => cases built

/-! ### Publishes have the predicted cost -/

theorem toUsize_bind_add (a b : Nat) :
    (V5.toUsize a).bind (V5.checkedAdd · b) = V5.toUsize (a + b) := by
  have sum := V5.toUsize_bind_foldlM a [b]
  simp only [foldlM_cons, foldlM_nil, bind_pure, sum_singleton] at sum
  exact sum

/-- The bytes that `properties` charges. -/
def propertyBytes (values : V5.UserProperties) : Nat :=
  values.length * V5.userPropertyRecordSize +
    (values.flatMap fun property => [property.1.utf8ByteSize, property.2.utf8ByteSize]).sum

theorem propertiesCharge_eq (values : V5.UserProperties) :
    propertiesCharge values = V5.toUsize (propertyBytes values) := by
  have flat : ∀ start, values.foldlM (fun n property => do
      let n ← V5.checkedAdd n V5.userPropertyRecordSize
      let n ← V5.checkedAdd n property.1.utf8ByteSize
      V5.checkedAdd n property.2.utf8ByteSize) start = (values.flatMap fun property =>
          [V5.userPropertyRecordSize, property.1.utf8ByteSize, property.2.utf8ByteSize]).foldlM
          V5.checkedAdd start := by
    intro start
    induction values generalizing start with
    | nil => rfl
    | cons property rest ih =>
      rw [foldlM_cons, flatMap_cons, foldlM_append]
      simp only [ih, foldlM_cons, foldlM_nil, bind_assoc, bind_pure]
  have sum : ∀ values : V5.UserProperties, (values.flatMap fun property =>
      [V5.userPropertyRecordSize, property.1.utf8ByteSize, property.2.utf8ByteSize]).sum =
        propertyBytes values := by
    intro values
    induction values with
    | nil => rfl
    | cons property rest ih =>
      unfold propertyBytes at ih ⊢
      simp only [flatMap_cons, sum_append, sum_cons, sum_nil, ih, length_cons, Nat.add_mul]
      omega
  refine (flat 0).trans ?_
  have total := V5.toUsize_bind_foldlM 0 (values.flatMap fun property =>
    [V5.userPropertyRecordSize, property.1.utf8ByteSize, property.2.utf8ByteSize])
  rw [sum, Nat.zero_add] at total
  exact total

theorem addProperties_eq (n : Nat) (values : V5.UserProperties) :
    addProperties (V5.toUsize n) values = V5.toUsize (n + propertyBytes values) := by
  unfold addProperties
  rw [propertiesCharge_eq]
  by_cases fits : propertyBytes values ≤ usizeMax
  · rw [V5.toUsize_of_le fits]
    exact toUsize_bind_add n _
  · have none : V5.toUsize (propertyBytes values) = none := if_neg fits
    have large : V5.toUsize (n + propertyBytes values) = Option.none := if_neg (by omega)
    rw [none, large]
    cases V5.toUsize n <;> rfl

theorem publishCommandCharge_eq (p : PublishCommand) :
    publishCommandCharge p = V5.toUsize (p.topic.utf8ByteSize + V5.publishSize p.toV5) := by
  obtain ⟨topic, payload, qos, retain, protocol⟩ := p
  cases protocol with
  | versionNeutral => rfl
  | v5 properties =>
    show addProperties ((((V5.toUsize _).bind _).bind _).bind _) _ = _
    rw [toUsize_bind_add, toUsize_bind_add, toUsize_bind_add, addProperties_eq]
    refine congrArg V5.toUsize ?_
    show _ = topic.utf8ByteSize + (payload.length + V5.propertiesSize properties.responseTopic
      (properties.correlationData.map List.length) properties.contentType
      properties.userProperties 0)
    unfold propertyBytes V5.propertiesSize
    simp only [sum_cons, sum_nil, Nat.zero_mul]
    omega

theorem isEmpty_utf8 (string : String) : (utf8 string).isEmpty = string.isEmpty := by
  rw [Bool.eq_iff_iff, isEmpty_iff_length_eq_zero, length_utf8, String.isEmpty_iff,
    String.utf8ByteSize_eq_zero_iff]

/-- **The bytes computed for a publish are those its client charges**, an alias-only topic
included. -/
theorem charged_eq (p : PublishCommand) : (charged p).toOption.join = V5.publishCharge p.toV5 := by
  have surcharge : V5.topicCharge p.toV5 =
      p.topic.utf8ByteSize + if p.topic.isEmpty then u16Max else 0 := by
    show (if (utf8 p.topic).isEmpty then u16Max else (utf8 p.topic).length) = _
    rw [isEmpty_utf8, length_utf8]
    split_ifs with empty
    · rw [String.isEmpty_iff.mp empty]
      rfl
    · rfl
  rw [V5.publishCharge_eq, surcharge, Nat.add_right_comm, ← toUsize_bind_add,
    ← publishCommandCharge_eq]
  unfold charged commandCharge commandBytes
  dsimp only
  cases publishCommandCharge p with
  | none => rfl
  | some bytes => rfl

/-! ### The three predictions -/

/-- **A command is accepted exactly if the Remaining Length of its packet can be encoded.** -/
theorem validatePacketSize_iff {command : Command} {v4 : Bool} {packet : NativePacket}
    (built : command.packet v4 = some packet) {pkid : PacketId} (positive : pkid ≠ 0) :
    validatePacketSize command v4 = .ok () ↔ (packet.numbered pkid).len ≤ 268435455 := by
  unfold validatePacketSize
  rw [remainingLength_built built positive]
  dsimp only
  split_ifs with long
  · simpa using long
  · simpa using long

/-- **The sizes the wrapper predicts are exact.**

* An acknowledgement whose options have the size `n` is built by `customize_ack` with its kind and
  its identifier kept, unless the broker accepts no packet of that size, and the MQTT 5 codec writes
  exactly `n` bytes for it. Zero, which is no packet identifier, is refused by the codec.
* The Remaining Length of a command is that of the packet its client builds.
* The bytes of a publish, with the surcharge for a missing topic, are its charge in the budget. -/
theorem wrapper_sizes_exact :
    (∀ (options : V5AcknowledgementOptions) (n : Nat), options.encodedSize = .ok n →
      ∀ (ack : ManualAck) (maximumPacketSize : Option UInt32),
        (∀ limit ∈ maximumPacketSize, n ≤ limit.toNat) →
        ∃ built, customizeAck (.v5 ack) (.v5 options) maximumPacketSize = .ok (.ok (.v5 built)) ∧
          built.isPubAck = ack.isPubAck ∧ built.pkid = ack.pkid ∧
          ∀ buffer, if ack.pkid = 0 then built.write.run buffer = .ok (.error .packetIdZero, buffer)
            else ∃ bytes, bytes.length = n ∧
              built.write.run buffer = .ok (.ok n, buffer ++ bytes)) ∧
    (∀ (command : Command) (v4 : Bool) (packet : NativePacket), command.packet v4 = some packet →
      ∀ pkid, pkid ≠ 0 → remainingLength command v4 = some (packet.numbered pkid).len) ∧
    ∀ p : PublishCommand, (charged p).toOption.join = V5.publishCharge p.toV5 := by
  refine ⟨fun options n accepted ack maximumPacketSize fits => ?_, ?_, charged_eq⟩
  · obtain ⟨reason, known, customized⟩ := customizeAck_accepted accepted fits ack
    have kept : (ack.withContents reason options.properties).isPubAck = ack.isPubAck ∧
        (ack.withContents reason options.properties).pkid = ack.pkid := by
      cases ack <;> exact ⟨rfl, rfl⟩
    refine ⟨_, customized, kept.1, kept.2, fun buffer => ?_⟩
    split_ifs with zero
    · exact ManualAck.refused (kept.2.trans zero) buffer
    · exact ManualAck.written accepted known ack zero buffer
  · exact fun command v4 packet built pkid positive => remainingLength_built built positive

/-- A refusal with a reason and a user property takes twenty bytes. -/
theorem quota_exceeded_pubrec_size :
    ∃ built, customizeAck (.v5 (.pubRec { pkid := 7 }))
        (.v5 { reasonCode := 0x97, reasonString := some "busy", userProperties := [("k", "v")] })
        (some 20) = .ok (.ok (.v5 built)) ∧
      ∃ bytes, bytes.length = 20 ∧ built.write.run [] = .ok (.ok 20, bytes) := by
  obtain ⟨built, customized, _, _, written⟩ := wrapper_sizes_exact.1
    { reasonCode := 0x97, reasonString := some "busy", userProperties := [("k", "v")] } 20
    (by decide) (.pubRec { pkid := 7 }) (some 20) fun limit found => by cases found; decide
  exact ⟨built, customized, written []⟩

end Wrapper

end Rumqtt
