/-
**The checkpoint format is canonical, and its budget is honest.**

Every reader of the format is the inverse of its writer, in both directions: `Coded` is proved for each
of them, from the words up to a whole checkpoint. `Heap` is the storage a value owns, which is what its
reader is charged, and `Width` is the number of bytes of its encoding.

* `session_format_bijective`: a session encodes to some bytes exactly when they decode to it; nothing
  may follow the bytes of a session, and no proper part of them is one.
* `memory_limits_sound`: a decode within a budget returns a session whose storage fits the budget, and
  512 times the length of an encoding always suffice, so that what the file adapter saved it also loads.
-/

import Mathlib.Algebra.BigOperators.Group.List.Lemmas
import Mathlib.Algebra.Order.BigOperators.Group.List
import Mathlib.Algebra.Order.Group.Nat
import Rumqtt.V5.SessionFormat

namespace Rumqtt.V5

open List

open Mqttbytes (utf8 fromUtf8 fromUtf8_utf8 utf8_of_fromUtf8)

/-! ### Words, tags and texts -/

section Primitives

variable (field : String)

/-- Every value is in the domain. -/
abbrev Any {α : Type} : α → Prop := fun _ => True

theorem coded_u8 : Coded Any SessionWriter.u8 (SessionReader.u8 field) (fun _ => 0) (fun _ => 1) 0 :=
  .word _ _ (fun r => r.toNat_lt) (fun _ => UInt8.ofNat_toNat)
    fun _ small => UInt8.toNat_ofNat_of_lt' small

theorem coded_u16 :
    Coded Any SessionWriter.u16 (SessionReader.u16 field) (fun _ => 0) (fun _ => 2) 0 :=
  .word _ _ (fun r => r.toNat_lt) (fun _ => UInt16.ofNat_toNat)
    fun _ small => UInt16.toNat_ofNat_of_lt' small

theorem coded_u32 :
    Coded Any SessionWriter.u32 (SessionReader.u32 field) (fun _ => 0) (fun _ => 4) 0 :=
  .word _ _ (fun r => r.toNat_lt) (fun _ => UInt32.ofNat_toNat)
    fun _ small => UInt32.toNat_ofNat_of_lt' small

theorem coded_u64 :
    Coded Any SessionWriter.u64 (SessionReader.u64 field) (fun _ => 0) (fun _ => 8) 0 :=
  .word _ _ (fun r => r.toNat_lt) (fun _ => UInt64.ofNat_toNat)
    fun _ small => UInt64.toNat_ofNat_of_lt' small

theorem boolOfTag_ok {tag : UInt8} {flag : Bool} :
    SessionReader.boolOfTag field tag = .ok flag ↔ flag.toUInt8 = tag := by
  constructor
  · intro parsed
    unfold SessionReader.boolOfTag at parsed
    split_ifs at parsed <;> cases parsed <;> subst tag <;> rfl
  · rintro rfl
    cases flag <;> rfl

theorem decodeAckMode_ok {tag : UInt8} {mode : AckMode} :
    decodeAckMode tag = .ok mode ↔ encodeAckMode mode = tag := by
  constructor
  · intro parsed
    unfold decodeAckMode at parsed
    split_ifs at parsed <;> cases parsed <;> subst tag <;> rfl
  · rintro rfl
    cases mode <;> rfl

theorem decodeQos_ok {tag : UInt8} {qos : QoS} : decodeQos tag = .ok qos ↔ encodeQos qos = tag := by
  constructor
  · intro parsed
    unfold decodeQos at parsed
    split_ifs at parsed <;> cases parsed <;> subst tag <;> rfl
  · rintro rfl
    cases qos <;> rfl

theorem decodeRetainForwardRule_ok {tag : UInt8} {rule : RetainForwardRule} :
    decodeRetainForwardRule tag = .ok rule ↔ encodeRetainForwardRule rule = tag := by
  constructor
  · intro parsed
    unfold decodeRetainForwardRule at parsed
    split_ifs at parsed <;> cases parsed <;> subst tag <;> rfl
  · rintro rfl
    cases rule <;> rfl

/-- **A tag byte**, for a type whose tags are told apart. -/
theorem coded_tag {α : Type} {spell : α → UInt8} {parse : UInt8 → Except SessionDecodeError α}
    (inverse : ∀ {tag a}, parse tag = .ok a ↔ spell a = tag) :
    Coded Any (fun a => SessionWriter.u8 (spell a))
      (SessionReader.u8 field >>= fun tag => BudgetReader.accept (parse tag)) (fun _ => 0)
      (fun _ => 1) 0 :=
  (coded_u8 field).through (fun _ _ => trivial) (fun _ _ => inverse.mpr rfl)
    fun _ _ _ parsed => ⟨trivial, inverse.mp parsed⟩

theorem coded_bool :
    Coded Any SessionWriter.bool (SessionReader.bool field) (fun _ => 0) (fun _ => 1) 0 :=
  coded_tag field (boolOfTag_ok field)

theorem coded_usize :
    Coded (· ≤ usizeMax) SessionWriter.usize (SessionReader.usize field) (fun _ => 0) (fun _ => 8)
      0 := by
  refine (coded_u64 field).through (fun _ _ => trivial) ?_ ?_
  · intro n word
    have same : (UInt64.ofNat n).toNat = n :=
      UInt64.toNat_ofNat_of_lt' (by unfold usizeMax at word; exact Nat.lt_of_le_pred (by decide) word)
    unfold SessionReader.usizeOfU64
    rw [same, if_pos word]
  · intro value n _ parsed
    unfold SessionReader.usizeOfU64 at parsed
    split at parsed
    · rename_i word
      cases parsed
      exact ⟨word, UInt64.ofNat_toNat⟩
    · cases parsed

/-- The number of bytes of a length-prefixed buffer. -/
def Width.bytes (value : Bytes) : Nat := 4 + value.length

/-- Counts within the limits of the format are told by their word. -/
theorem counted {n : Nat} (small : n ≤ maxBinaryLen) {len : UInt32} :
    UInt32.ofNat n = len ↔ n = len.toNat := by
  have same : (UInt32.ofNat n).toNat = n :=
    UInt32.toNat_ofNat_of_lt' (Nat.lt_of_le_of_lt small (by decide))
  constructor
  · rintro rfl
    exact same.symm
  · rintro rfl
    exact UInt32.ofNat_toNat

theorem coded_bytes :
    Coded Any (SessionWriter.bytes field) (SessionReader.bytes field) List.length Width.bytes 0 := by
  refine Coded.guarded _ ?_
  have prefixed : Coded (fun value : Bytes => Any value ∧ ¬ maxBinaryLen < value.length)
      (fun value => SessionWriter.u32 (UInt32.ofNat value.length) >>= fun _ =>
        (BoundedWriter.append value >>= fun _ =>
          BoundedWriter.stopOnExcess SessionWriter.checkpointTooLarge))
      (SessionReader.bytes field) (fun value => 0 + value.length) Width.bytes (0 + 0) := by
    refine (coded_u32 field).field (fun _ _ => trivial) fun len _ => ?_
    refine .checked _ (fun small => ?_) ?_
    · have body := ((Coded.raw len.toNat (SessionDecodeError.limitExceeded field len.toNat)
        (.truncated field)).stopped SessionWriter.checkpointTooLarge).reserved len.toNat
        (SessionDecodeError.limitExceeded field len.toNat)
      refine (body.on fun value => ?_).congr (fun _ _ => rfl) ?_ ?_ ?_
      · constructor
        · intro sized
          have within : value.length ≤ maxBinaryLen := by omega
          exact ⟨⟨trivial, by omega⟩, (counted within).mpr sized⟩
        · rintro ⟨⟨-, within⟩, told⟩
          exact (counted (by omega)).mp told
      · rintro value ⟨⟨-, within⟩, told⟩
        exact ((counted (by omega)).mp told).symm
      · rintro value ⟨⟨-, within⟩, told⟩
        exact ((counted (by omega)).mp told).symm
      · intro value _ _
        exact Nat.le_add_right _ _
    · rintro value ⟨⟨-, within⟩, told⟩
      rw [← (counted (by omega)).mp told]
      exact within
  exact prefixed.congr (fun _ _ => rfl) (fun _ _ => Nat.zero_add _) (fun _ _ => rfl) fun _ _ => id

def Heap.string (value : String) : Nat := (utf8 value).length

def Width.string (value : String) : Nat := Width.bytes (utf8 value)

theorem coded_string :
    Coded Any (SessionWriter.string field) (SessionReader.string field) Heap.string Width.string
      0 := by
  refine (coded_bytes field).through (fun _ _ => trivial) ?_ ?_
  · intro value _
    unfold SessionReader.stringOfBytes
    rw [fromUtf8_utf8]
  · intro bytes value _ parsed
    unfold SessionReader.stringOfBytes at parsed
    split at parsed
    · rename_i found
      cases parsed
      exact ⟨trivial, utf8_of_fromUtf8 found⟩
    · cases parsed

end Primitives

/-! ### Collections and missing values -/

/-- The storage of a collection and of what its elements own. -/
def Heap.vec {α : Type} (size : Nat) (heap : α → Nat) (values : List α) : Nat :=
  values.length * size + (values.map heap).sum

def Width.vec {α : Type} (width : α → Nat) (values : List α) : Nat := 4 + (values.map width).sum

theorem length_le_sum {α : Type} {width : α → Nat} {values : List α}
    (positive : ∀ a ∈ values, 1 ≤ width a) : values.length ≤ (values.map width).sum := by
  have ones := sum_le_sum positive
  simpa using ones

theorem coded_vec {α : Type} {domain : α → Prop} {write : α → SessionWriter} {read : SessionReader α}
    {heap width : α → Nat} {slack size : Nat} (field : String)
    (coded : Coded domain write read heap width slack) (positive : ∀ a, 1 ≤ width a)
    (small : size ≤ 1536) :
    Coded (fun values => ∀ a ∈ values, domain a) (SessionWriter.vec field write)
      (SessionReader.vec field size read) (Heap.vec size heap) (Width.vec width)
      (maxCollectionLen * (size + slack)) := by
  refine Coded.guarded _ ?_
  have counts : ∀ {n : Nat}, ¬ maxCollectionLen < n → n ≤ maxBinaryLen := fun within =>
    Nat.le_trans (Nat.le_of_not_lt within) (by decide)
  have prefixed : Coded
      (fun values : List α => (∀ a ∈ values, domain a) ∧ ¬ maxCollectionLen < values.length)
      (fun values => SessionWriter.u32 (UInt32.ofNat values.length) >>= fun _ =>
        BoundedWriter.each (fun value => write value >>= fun _ =>
          BoundedWriter.stopOnExcess SessionWriter.checkpointTooLarge) values)
      (SessionReader.vec field size read) (fun values => 0 + Heap.vec size heap values)
      (Width.vec width) (0 + maxCollectionLen * (size + slack)) := by
    refine (coded_u32 field).field (fun _ _ => trivial) fun len _ => ?_
    have told : ∀ {values : List α}, ((∀ a ∈ values, domain a) ∧
        ¬ maxCollectionLen < values.length) ∧ UInt32.ofNat values.length = len →
        values.length = len.toNat := fun inside => (counted (counts inside.1.2)).mp inside.2
    refine .checked _ (fun within => .ahead _ (.checked _ (fun _ => ?_) ?_) ?_) ?_
    · have body := ((coded.stopped SessionWriter.checkpointTooLarge).items len.toNat).reserved
        (len.toNat * size) (SessionDecodeError.limitExceeded field (len.toNat * size))
      refine (body.on fun values => ?_).congr (fun _ _ => rfl) ?_ (fun _ _ => rfl) ?_
      · constructor
        · rintro ⟨sized, inside⟩
          rw [← sized] at within
          exact ⟨⟨inside, within⟩, (counted (counts within)).mpr sized⟩
        · intro inside
          exact ⟨told inside, inside.1.1⟩
      · intro values inside
        show len.toNat * size + (values.map heap).sum = Heap.vec size heap values
        rw [← told inside]
        rfl
      · intro values inside bounded
        have spread : len.toNat * size + len.toNat * slack ≤ maxCollectionLen * (size + slack) := by
          rw [← Nat.mul_add]
          exact Nat.mul_le_mul_right _ (Nat.le_of_not_lt within)
        omega
    · intro values inside
      rw [← told inside]
      have product : values.length * size ≤ 1000000 * 1536 :=
        Nat.mul_le_mul (Nat.le_of_not_lt inside.1.2) small
      have large : 1000000 * 1536 ≤ usizeMax := by decide
      omega
    · intro values inside
      rw [← told inside]
      exact length_le_sum fun a _ => positive a
    · intro values inside
      rw [← told inside]
      exact inside.1.2
  refine prefixed.congr (fun _ _ => rfl) (fun _ _ => Nat.zero_add _) (fun _ _ => rfl) ?_
  intro values _ bounded
  omega

theorem coded_optional {α : Type} {domain : α → Prop} {write : α → SessionWriter}
    {read : SessionReader α} {heap width : α → Nat} {slack : Nat} (field : String)
    (coded : Coded domain write read heap width slack) :
    Coded (fun value => ∀ a, value = some a → domain a)
      (BoundedWriter.optional SessionWriter.bool write)
      (BudgetReader.optional (SessionReader.bool field) read) (fun value => value.elim 0 heap)
      (fun value => 1 + value.elim 0 width) slack :=
  .optional (coded_bool field) coded

theorem coded_optionalPlain {α : Type} {domain : α → Prop} {write : α → SessionWriter}
    {read : SessionReader α} {width : α → Nat} (field : String)
    (coded : Coded domain write read (fun _ => 0) width 0) :
    Coded (fun value => ∀ a, value = some a → domain a)
      (BoundedWriter.optional SessionWriter.bool write)
      (BudgetReader.optional (SessionReader.bool field) read) (fun _ => 0)
      (fun value => 1 + value.elim 0 width) 0 := by
  refine (coded_optional field coded).congr (fun _ _ => rfl) ?_ (fun _ _ => rfl) fun _ _ _ =>
    Nat.zero_le _
  intro value _
  cases value <;> rfl

/-! ### Records -/

def Heap.userProperty (property : String × String) : Nat :=
  Heap.string property.1 + Heap.string property.2

def Width.userProperty (property : String × String) : Nat :=
  Width.string property.1 + Width.string property.2

theorem coded_userProperty :
    Coded Any SessionWriter.userProperty SessionReader.userProperty Heap.userProperty
      Width.userProperty 0 := by
  refine (coded_string _).owned (fun _ _ => trivial) fun key _ => ?_
  refine (coded_string _).last (fun _ _ => trivial) ?_ fun _ _ => ⟨⟨trivial, rfl⟩, rfl⟩
  rintro _ ⟨-, rfl⟩
  rfl

def Heap.userProperties : List (String × String) → Nat :=
  Heap.vec userPropertyRecordSize Heap.userProperty

def Width.userProperties : List (String × String) → Nat := Width.vec Width.userProperty

/-- What user properties may cost beyond their bytes. -/
def Slack.userProperties : Nat := maxCollectionLen * (userPropertyRecordSize + 0)

theorem coded_userProperties (field : String) :
    Coded Any (SessionWriter.userProperties field) (SessionReader.userProperties field)
      Heap.userProperties Width.userProperties Slack.userProperties := by
  refine (coded_vec field coded_userProperty (fun property => ?_) (by decide)).on fun _ => ?_
  · unfold Width.userProperty Width.string Width.bytes
    omega
  · simp

def Heap.filter (filter : SubscribeFilter) : Nat := Heap.string filter.path + 0

def Width.filter (filter : SubscribeFilter) : Nat := Width.string filter.path + (1 + (1 + (1 + 1)))

theorem coded_filter :
    Coded Any SessionWriter.filter SessionReader.filter Heap.filter Width.filter 0 := by
  refine (coded_string _).owned (fun _ _ => trivial) fun path _ => ?_
  refine (coded_tag _ decodeQos_ok).plain (fun _ _ => trivial) fun qos _ => ?_
  refine (coded_bool _).plain (fun _ _ => trivial) fun nolocal _ => ?_
  refine (coded_bool _).plain (fun _ _ => trivial) fun preserveRetain _ => ?_
  refine (coded_tag _ decodeRetainForwardRule_ok).last (fun _ _ => trivial) ?_ ?_
  · rintro _ ⟨⟨⟨⟨-, rfl⟩, rfl⟩, rfl⟩, rfl⟩
    rfl
  · intro rule _
    exact ⟨⟨⟨⟨⟨trivial, rfl⟩, rfl⟩, rfl⟩, rfl⟩, rfl⟩

/-- The identifiers are machine words. -/
def PersistedPublishProperties.Words (properties : PersistedPublishProperties) : Prop :=
  ∀ id ∈ properties.subscriptionIdentifiers, id ≤ usizeMax

def Heap.identifiers : List Nat → Nat := Heap.vec identifierRecordSize fun _ => 0

def Heap.publishProperties (properties : PersistedPublishProperties) : Nat :=
  properties.responseTopic.elim 0 Heap.string + (properties.correlationData.elim 0 List.length +
    (Heap.userProperties properties.userProperties +
      (Heap.identifiers properties.subscriptionIdentifiers +
        properties.contentType.elim 0 Heap.string)))

def Width.publishProperties (properties : PersistedPublishProperties) : Nat :=
  (1 + properties.payloadFormatIndicator.elim 0 fun _ => 1) +
    ((1 + properties.messageExpiryInterval.elim 0 fun _ => 4) +
      ((1 + properties.responseTopic.elim 0 Width.string) +
        ((1 + properties.correlationData.elim 0 Width.bytes) +
          (Width.userProperties properties.userProperties +
            (Width.vec (fun _ => 8) properties.subscriptionIdentifiers +
              (1 + properties.contentType.elim 0 Width.string))))))

def Slack.publishProperties : Nat :=
  Slack.userProperties + (maxCollectionLen * (identifierRecordSize + 0) + 0)

theorem coded_publishProperties :
    Coded PersistedPublishProperties.Words SessionWriter.publishPropertyFields
      SessionReader.publishPropertyFields Heap.publishProperties Width.publishProperties
      Slack.publishProperties := by
  refine (coded_optionalPlain _ (coded_u8 _)).plain (fun _ _ _ _ => trivial) fun indicator _ => ?_
  refine (coded_optionalPlain _ (coded_u32 _)).plain (fun _ _ _ _ => trivial) fun expiry _ => ?_
  refine (coded_optional _ (coded_string _)).owned (fun _ _ _ _ => trivial) fun topic _ => ?_
  refine (coded_optional _ (coded_bytes _)).owned (fun _ _ _ _ => trivial) fun correlation _ => ?_
  refine (coded_userProperties _).field (fun _ _ => trivial) fun userProperties _ => ?_
  refine (coded_vec _ (coded_usize _) (fun _ => by decide) (by decide)).field ?_ ?_
  · rintro _ ⟨⟨⟨⟨⟨words, -⟩, -⟩, -⟩, -⟩, -⟩
    exact words
  intro identifiers words
  refine (coded_optional _ (coded_string _)).last (fun _ _ _ _ => trivial) ?_ ?_
  · rintro _ ⟨⟨⟨⟨⟨⟨-, rfl⟩, rfl⟩, rfl⟩, rfl⟩, rfl⟩, rfl⟩
    rfl
  · intro contentType _
    exact ⟨⟨⟨⟨⟨⟨⟨words, rfl⟩, rfl⟩, rfl⟩, rfl⟩, rfl⟩, rfl⟩, rfl⟩

section

variable (properties : SubscribeProperties)

/-- The identifier is a machine word. -/
def SubscribeProperties.Words : Prop := ∀ id, properties.id = some id → id ≤ usizeMax

def Heap.subscribeProperties : Nat := Heap.userProperties properties.userProperties

def Width.subscribeProperties : Nat :=
  (1 + properties.id.elim 0 fun _ => 8) + Width.userProperties properties.userProperties

end

theorem coded_subscribeProperties :
    Coded SubscribeProperties.Words SessionWriter.subscribePropertyFields
      SessionReader.subscribePropertyFields Heap.subscribeProperties Width.subscribeProperties
      Slack.userProperties := by
  refine (coded_optionalPlain _ (coded_usize _)).plain (fun _ words => words) fun id words => ?_
  refine (coded_userProperties _).last (fun _ _ => trivial) ?_ fun _ _ => ⟨⟨words, rfl⟩, rfl⟩
  rintro _ ⟨-, rfl⟩
  rfl

def Heap.unsubscribeProperties (properties : UnsubscribeProperties) : Nat :=
  Heap.userProperties properties.userProperties

def Width.unsubscribeProperties (properties : UnsubscribeProperties) : Nat :=
  Width.userProperties properties.userProperties

theorem coded_unsubscribeProperties :
    Coded Any SessionWriter.unsubscribePropertyFields SessionReader.unsubscribePropertyFields
      Heap.unsubscribeProperties Width.unsubscribeProperties Slack.userProperties :=
  (coded_userProperties _).last (fun _ _ => trivial) (fun _ _ => rfl) fun _ _ => ⟨trivial, rfl⟩

/-! ### Replay records -/

def PublishWords (publish : PersistedPublish persistedForm) : Prop :=
  ∀ properties, publish.properties = some properties → properties.Words

def Heap.publish (publish : PersistedPublish persistedForm) : Nat :=
  publish.topic.length + (publish.payload.length + publish.properties.elim 0 Heap.publishProperties)

def Width.publish (publish : PersistedPublish persistedForm) : Nat :=
  1 + (1 + (1 + (Width.bytes publish.topic + (2 + (Width.bytes publish.payload +
    (1 + publish.properties.elim 0 Width.publishProperties))))))

theorem coded_publish :
    Coded PublishWords SessionWriter.publish SessionReader.publish Heap.publish Width.publish
      Slack.publishProperties := by
  refine (coded_bool _).plain (fun _ _ => trivial) fun dup _ => ?_
  refine (coded_tag _ decodeQos_ok).plain (fun _ _ => trivial) fun qos _ => ?_
  refine (coded_bool _).plain (fun _ _ => trivial) fun retain _ => ?_
  refine (coded_bytes _).owned (fun _ _ => trivial) fun topic _ => ?_
  refine (coded_u16 _).plain (fun _ _ => trivial) fun pkid _ => ?_
  refine (coded_bytes _).owned (fun _ _ => trivial) fun payload _ => ?_
  refine (coded_optional _ coded_publishProperties).last ?_ ?_ ?_
  · rintro _ ⟨⟨⟨⟨⟨⟨words, -⟩, -⟩, -⟩, -⟩, -⟩, -⟩
    exact words
  · rintro _ ⟨⟨⟨⟨⟨⟨-, rfl⟩, rfl⟩, rfl⟩, rfl⟩, rfl⟩, rfl⟩
    rfl
  · intro properties words
    exact ⟨⟨⟨⟨⟨⟨⟨words, rfl⟩, rfl⟩, rfl⟩, rfl⟩, rfl⟩, rfl⟩, rfl⟩

def SubscribeWords (subscribe : Subscribe) : Prop :=
  ∀ properties, subscribe.properties = some properties → properties.Words

def Heap.subscribe (subscribe : Subscribe) : Nat :=
  Heap.vec filterRecordSize Heap.filter subscribe.filters +
    subscribe.properties.elim 0 Heap.subscribeProperties

def Width.subscribe (subscribe : Subscribe) : Nat :=
  2 + (Width.vec Width.filter subscribe.filters +
    (1 + subscribe.properties.elim 0 Width.subscribeProperties))

def Slack.subscribe : Nat := maxCollectionLen * (filterRecordSize + 0) + Slack.userProperties

theorem coded_subscribe :
    Coded SubscribeWords SessionWriter.subscribe SessionReader.subscribe Heap.subscribe
      Width.subscribe Slack.subscribe := by
  refine (coded_u16 _).plain (fun _ _ => trivial) fun pkid _ => ?_
  refine (coded_vec _ coded_filter (fun filter => ?_) (by decide)).field
    (fun _ _ _ _ => trivial) fun filters _ => ?_
  · unfold Width.filter
    omega
  refine (coded_optional _ coded_subscribeProperties).last (fun _ inside => inside.1.1) ?_ ?_
  · rintro _ ⟨⟨-, rfl⟩, rfl⟩
    rfl
  · intro properties words
    exact ⟨⟨⟨words, rfl⟩, rfl⟩, rfl⟩

def Heap.unsubscribe (unsubscribe : Unsubscribe) : Nat :=
  Heap.vec stringRecordSize Heap.string unsubscribe.filters +
    unsubscribe.properties.elim 0 Heap.unsubscribeProperties

def Width.unsubscribe (unsubscribe : Unsubscribe) : Nat :=
  2 + (Width.vec Width.string unsubscribe.filters +
    (1 + unsubscribe.properties.elim 0 Width.unsubscribeProperties))

def Slack.unsubscribe : Nat := maxCollectionLen * (stringRecordSize + 0) + Slack.userProperties

theorem coded_unsubscribe :
    Coded Any SessionWriter.unsubscribe SessionReader.unsubscribe Heap.unsubscribe
      Width.unsubscribe Slack.unsubscribe := by
  refine (coded_u16 _).plain (fun _ _ => trivial) fun pkid _ => ?_
  refine (coded_vec _ (coded_string _) (fun filter => ?_) (by decide)).field
    (fun _ _ _ _ => trivial) fun filters _ => ?_
  · unfold Width.string Width.bytes
    omega
  refine (coded_optional _ coded_unsubscribeProperties).last (fun _ _ _ _ => trivial) ?_ ?_
  · rintro _ ⟨⟨-, rfl⟩, rfl⟩
    rfl
  · intro properties _
    exact ⟨⟨⟨trivial, rfl⟩, rfl⟩, rfl⟩

/-- What is stored as a 64-bit word is a machine word. -/
def RequestWords : PersistedRequest persistedForm → Prop
  | .publish entry => PublishWords entry
  | .subscribe entry => SubscribeWords entry
  | _ => True

def requestTag : PersistedRequest persistedForm → UInt8
  | .publish _ => 1
  | .pubRel _ => 2
  | .subscribe _ => 3
  | .unsubscribe _ => 4

/-- The writes of a request after its tag. -/
def requestBody : PersistedRequest persistedForm → SessionWriter
  | .publish entry => SessionWriter.publish entry
  | .pubRel pkid => SessionWriter.u16 pkid
  | .subscribe entry => SessionWriter.subscribe entry
  | .unsubscribe entry => SessionWriter.unsubscribe entry

def Heap.request : PersistedRequest persistedForm → Nat
  | .publish entry => Heap.publish entry
  | .pubRel _ => 0
  | .subscribe entry => Heap.subscribe entry
  | .unsubscribe entry => Heap.unsubscribe entry

/-- The bytes of a request after its tag. -/
def Width.requestBody : PersistedRequest persistedForm → Nat
  | .publish entry => Width.publish entry
  | .pubRel _ => 2
  | .subscribe entry => Width.subscribe entry
  | .unsubscribe entry => Width.unsubscribe entry

def Width.request (request : PersistedRequest persistedForm) : Nat := 1 + Width.requestBody request

def Slack.request : Nat := 80 * maxCollectionLen

theorem coded_request :
    Coded RequestWords SessionWriter.request SessionReader.request Heap.request Width.request
      Slack.request := by
  have tagged : Coded RequestWords
      (fun request => SessionWriter.u8 (requestTag request) >>= fun _ => requestBody request)
      SessionReader.request Heap.request Width.request Slack.request := by
    refine (coded_u8 _).plain (fun _ _ => trivial) fun tag _ => ?_
    unfold SessionReader.requestOfTag
    split_ifs with publish pubRel subscribe unsubscribe
    · subst publish
      refine coded_publish.variant (fun request => ?_) (fun _ => rfl) (fun _ => rfl) (fun _ => rfl)
        (by decide)
      cases request <;> simp [RequestWords, requestTag]
    · subst pubRel
      refine (coded_u16 _).variant (fun request => ?_) (fun _ => rfl) (fun _ => rfl) (fun _ => rfl)
        (by decide)
      cases request <;> simp [RequestWords, requestTag]
    · subst subscribe
      refine coded_subscribe.variant (fun request => ?_) (fun _ => rfl) (fun _ => rfl)
        (fun _ => rfl) (by decide)
      cases request <;> simp [RequestWords, requestTag]
    · subst unsubscribe
      refine coded_unsubscribe.variant (fun request => ?_) (fun _ => rfl) (fun _ => rfl)
        (fun _ => rfl) (by decide)
      cases request <;> simp [RequestWords, requestTag]
    · refine .refused _ fun request inside => ?_
      have told := inside.2
      cases request
      · exact publish told.symm
      · exact pubRel told.symm
      · exact subscribe told.symm
      · exact unsubscribe told.symm
  refine tagged.congr (fun request _ => ?_) (fun _ _ => rfl) (fun _ _ => rfl) fun _ _ => id
  cases request <;> rfl

/-! ### Checkpoints -/

/-- **A session of the platform**: what it stores as a 64-bit word is a machine word. -/
def PersistedSession.Words (session : PersistedSession) : Prop :=
  ∀ request ∈ session.replay, RequestWords request

section Checkpoints

variable (layout : Layout)

def Heap.session (session : PersistedSession) : Nat :=
  Heap.string session.clientId + (Heap.vec layout.request Heap.request session.replay +
    Heap.vec incomingRecordSize (fun _ => 0) session.incomingQos2)

/-- The bytes of a session after its header. -/
def Width.fields (session : PersistedSession) : Nat :=
  2 + (Width.string session.clientId + (1 + ((1 + session.sessionExpiryInterval.elim 0 fun _ => 4) +
      ((1 + session.outgoingInflightUpperLimit.elim 0 fun _ => 2) + (1 +
        (Width.vec Width.request session.replay + Width.vec (fun _ => 2) session.incomingQos2))))))

def Width.session (session : PersistedSession) : Nat := 7 + (1 + (2 + Width.fields session))

def Slack.session : Nat :=
  maxCollectionLen * (layout.request + Slack.request) + maxCollectionLen * (incomingRecordSize + 0)

/-- The writes of a session after its header. -/
def sessionFields (session : PersistedSession) : SessionWriter := do
  SessionWriter.u16 session.formatVersion
  SessionWriter.string "client_id" session.clientId
  SessionWriter.bool session.cleanStart
  SessionWriter.optionU32 session.sessionExpiryInterval
  SessionWriter.optionU16 session.outgoingInflightUpperLimit
  SessionWriter.u8 (encodeAckMode session.ackMode)
  SessionWriter.vec "replay" SessionWriter.request session.replay
  SessionWriter.vec "incoming_qos2" SessionWriter.u16 session.incomingQos2

theorem coded_fields :
    Coded PersistedSession.Words sessionFields (SessionReader.fields layout) (Heap.session layout)
      Width.fields (Slack.session layout) := by
  refine (coded_u16 _).plain (fun _ _ => trivial) fun formatVersion _ => ?_
  refine (coded_string _).owned (fun _ _ => trivial) fun clientId _ => ?_
  refine (coded_bool _).plain (fun _ _ => trivial) fun cleanStart _ => ?_
  refine (coded_optionalPlain _ (coded_u32 _)).plain (fun _ _ _ _ => trivial) fun expiry _ => ?_
  refine (coded_optionalPlain _ (coded_u16 _)).plain (fun _ _ _ _ => trivial) fun upper _ => ?_
  refine (coded_tag _ decodeAckMode_ok).plain (fun _ _ => trivial) fun ackMode _ => ?_
  refine (coded_vec _ coded_request (fun request => ?_) layout.request_le).field ?_ ?_
  · unfold Width.request
    omega
  · rintro _ ⟨⟨⟨⟨⟨⟨words, -⟩, -⟩, -⟩, -⟩, -⟩, -⟩
    exact words
  intro replay words
  refine (coded_vec _ (coded_u16 _) (fun _ => by decide) (by decide)).last (fun _ _ _ _ => trivial)
    ?_ ?_
  · rintro _ ⟨⟨⟨⟨⟨⟨⟨-, rfl⟩, rfl⟩, rfl⟩, rfl⟩, rfl⟩, rfl⟩, rfl⟩
    rfl
  · intro incoming _
    exact ⟨⟨⟨⟨⟨⟨⟨⟨words, rfl⟩, rfl⟩, rfl⟩, rfl⟩, rfl⟩, rfl⟩, rfl⟩, rfl⟩

/-- **A whole checkpoint.** -/
theorem coded_session :
    Coded PersistedSession.Words SessionWriter.session (SessionReader.session layout)
      (Heap.session layout) Width.session (Slack.session layout) := by
  have versioned := (coded_u16 "codec_version").constant
    (SessionDecodeError.unsupportedCodecVersion ·) (a := sessionCodecVersion) trivial
    (coded_fields layout)
  have told := (coded_u8 "protocol").constant (SessionDecodeError.wrongProtocol ·)
    (a := sessionProtocol) trivial versioned
  have whole := (Coded.raw sessionMagic.length
    (SessionDecodeError.limitExceeded "magic" sessionMagic.length) (.truncated "magic")).constant
    (fun _ => SessionDecodeError.invalidMagic) (a := sessionMagic) rfl told
  refine whole.congr (fun _ _ => rfl) (fun session _ => ?_) (fun _ _ => rfl) fun _ _ bounded => ?_
  · simp only [Nat.zero_add]
  · omega

variable {layout} {session : PersistedSession} {bytes : Bytes}

/-- The longest slice, `isize::MAX`. -/
def isizeMax : Nat := 2 ^ 63 - 1

/-- What a decoded session must be: the bytes are its encoding, and its storage was paid. -/
theorem of_decode {memory : Nat}
    (decoded : PersistedSession.decodeWithMemoryLimit layout bytes memory = .ok session) :
    session.Words ∧ Emits (SessionWriter.session session) bytes ∧
      bytes.length = Width.session session ∧ Heap.session layout session ≤ memory ∧
      Heap.session layout session ≤ Width.session session + Slack.session layout := by
  unfold PersistedSession.decodeWithMemoryLimit at decoded
  cases ran : SessionReader.session layout ⟨bytes, 0, memory⟩ with
  | error error =>
    rw [ran] at decoded
    cases decoded
  | ok result =>
    obtain ⟨found, after⟩ := result
    rw [ran] at decoded
    change (if after.position = after.bytes.length then pure found else throw _) = _ at decoded
    split at decoded
    · rename_i finished
      cases decoded
      obtain ⟨piece, cost, ahead, rfl, paid, words, emits, length, rfl, bounded⟩ :=
        (coded_session layout).read _ _ _ ran
      have nothing : (Cursor.advance ⟨bytes, 0, memory⟩ piece.length
          (Heap.session layout session)).unread = [] := by
        unfold Cursor.unread
        rw [finished]
        exact drop_length
      rw [nothing, append_nil] at ahead
      change bytes = piece at ahead
      subst ahead
      exact ⟨words, emits, length, paid, bounded⟩
    · cases decoded

/-- Bytes that a reader takes whole are decoded, and nothing may follow them. -/
theorem decode_append {cost memory : Nat}
    (decodes : Decodes (SessionReader.session layout) bytes cost session) (extra : Bytes)
    (addressable : (bytes ++ extra).length ≤ usizeMax) (enough : cost ≤ memory) :
    PersistedSession.decodeWithMemoryLimit layout (bytes ++ extra) memory =
      if extra = [] then .ok session else .error .trailingBytes := by
  have ran := decodes ⟨bytes ++ extra, 0, memory⟩ ⟨Nat.zero_le _, addressable⟩ extra rfl enough
  unfold PersistedSession.decodeWithMemoryLimit
  rw [ran]
  show (if 0 + bytes.length = (bytes ++ extra).length then pure session else throw _) = _
  rw [Nat.zero_add, List.length_append]
  cases extra with
  | nil =>
    rw [if_pos rfl]
    exact if_pos rfl
  | cons byte rest =>
    rw [if_neg (by rw [length_cons]; omega), if_neg (cons_ne_nil byte rest)]
    rfl

theorem decode_whole {cost memory : Nat}
    (decodes : Decodes (SessionReader.session layout) bytes cost session)
    (addressable : bytes.length ≤ usizeMax) (enough : cost ≤ memory) :
    PersistedSession.decodeWithMemoryLimit layout bytes memory = .ok session := by
  have decoded := decode_append decodes [] (by rw [append_nil]; exact addressable) enough
  rwa [append_nil, if_pos rfl] at decoded

variable (layout) in
theorem of_encode {limit : Nat} (words : session.Words)
    (encoded : session.encodeWithLimit limit = .ok bytes) :
    Decodes (SessionReader.session layout) bytes (Heap.session layout session) session ∧
      bytes.length = Width.session session ∧
      Heap.session layout session ≤ Width.session session + Slack.session layout ∧
      (limit < usizeMax → bytes.length ≤ limit) := by
  unfold PersistedSession.encodeWithLimit at encoded
  cases ran : SessionWriter.session session ⟨[], limit, none⟩ with
  | error error =>
    rw [ran] at encoded
    cases encoded
  | ok result =>
    obtain ⟨⟨⟩, sink⟩ := result
    rw [ran] at encoded
    change SessionWriter.finish sink = .ok bytes at encoded
    unfold SessionWriter.finish at encoded
    split at encoded
    · cases encoded
    · rename_i whole
      cases encoded
      obtain ⟨-, kept, within, piece, written, decodes, length, bounded⟩ :=
        (coded_session layout).written session words _ _ ran whole
      rw [nil_append] at written
      subst written
      refine ⟨decodes, length, bounded, fun limited => ?_⟩
      have fits := within (fun _ => Nat.zero_le limit)
      unfold Sink.Within at fits
      rw [kept] at fits
      exact fits limited

theorem encode_of_emits (emits : Emits (SessionWriter.session session) bytes) :
    session.encode = .ok bytes := by
  unfold PersistedSession.encode PersistedSession.encodeWithLimit
  rw [emits ⟨[], usizeMax, none⟩ rfl rfl]
  rfl

/-- **No session of the platform exhausts the largest budget.** -/
theorem heap_le_usizeMax (addressable : Width.session session ≤ isizeMax)
    (bounded : Heap.session layout session ≤ Width.session session + Slack.session layout) :
    Heap.session layout session ≤ usizeMax := by
  have small : Slack.session layout ≤ 1000000 * (1536 + 80 * 1000000) + 1000000 * 2 := by
    refine Nat.add_le_add (Nat.mul_le_mul_left _ (Nat.add_le_add_right layout.request_le _)) ?_
    exact Nat.le_refl _
  have room : isizeMax + (1000000 * (1536 + 80 * 1000000) + 1000000 * 2) ≤ usizeMax := by decide
  omega

theorem isizeMax_le_usizeMax : isizeMax ≤ usizeMax := by decide

/-- A decoded session is found again in its bytes, at the price of its storage. -/
theorem decodes_of_decode {memory : Nat}
    (decoded : PersistedSession.decodeWithMemoryLimit layout bytes memory = .ok session) :
    Decodes (SessionReader.session layout) bytes (Heap.session layout session) session := by
  obtain ⟨words, emits, -⟩ := of_decode decoded
  exact (of_encode layout words (encode_of_emits emits)).1

/-- **The format of a checkpoint is a canonical bijection.** A session encodes to some bytes exactly
when they decode to it. No other bytes decode to it, bytes that follow are reported, and a part that
ends early is refused. -/
theorem session_format_bijective (layout : Layout) (session : PersistedSession)
    (words : session.Words) (bytes : Bytes) (addressable : bytes.length ≤ isizeMax) :
    (session.encode = .ok bytes ↔ PersistedSession.decode layout bytes = .ok session) ∧
    (PersistedSession.decode layout bytes = .ok session →
      (∀ other, PersistedSession.decode layout other = .ok session → other = bytes) ∧
      (∀ extra, extra ≠ [] → (bytes ++ extra).length ≤ isizeMax →
        PersistedSession.decode layout (bytes ++ extra) = .error .trailingBytes) ∧
      ∀ count, count < bytes.length → ∀ other,
        PersistedSession.decode layout (bytes.take count) ≠ .ok other) := by
  refine ⟨⟨fun encoded => ?_, fun decoded => ?_⟩, fun decoded => ⟨?_, ?_, ?_⟩⟩
  · obtain ⟨decodes, length, bounded, -⟩ := of_encode layout words encoded
    have small := heap_le_usizeMax (length ▸ addressable) bounded
    exact decode_whole decodes (addressable.trans isizeMax_le_usizeMax) small
  · exact encode_of_emits (of_decode decoded).2.1
  · intro other decoded'
    have encoded := encode_of_emits (of_decode decoded).2.1
    rw [encode_of_emits (of_decode decoded').2.1] at encoded
    exact Except.ok.inj encoded
  · intro extra more addressable'
    have paid := (of_decode decoded).2.2.2.1
    have after := decode_append (decodes_of_decode decoded) extra
      (addressable'.trans isizeMax_le_usizeMax) paid
    rwa [if_neg more] at after
  · intro count early other decoded'
    -- the rest of the bytes would be trailing bytes
    have paid := (of_decode decoded').2.2.2.1
    have after := decode_append (decodes_of_decode decoded') (bytes.drop count)
      (by rw [List.take_append_drop]; exact addressable.trans isizeMax_le_usizeMax) paid
    rw [List.take_append_drop, if_neg fun nothing => by
      rw [List.drop_eq_nil_iff] at nothing
      omega] at after
    unfold PersistedSession.decode at decoded
    rw [decoded] at after
    cases after

/-- A session with an unacknowledged publish, a PUBREL that was sent, and an incoming publish. -/
def savedSession : PersistedSession where
  formatVersion := 2
  clientId := "c"
  cleanStart := false
  sessionExpiryInterval := some 60
  outgoingInflightUpperLimit := none
  ackMode := .automatic
  replay := [.publish {
      dup := true
      qos := .exactlyOnce
      retain := false
      topic := [97]
      pkid := 5
      payload := [1, 2]
      properties := some {
        payloadFormatIndicator := none
        messageExpiryInterval := some 60
        responseTopic := some "r"
        correlationData := none
        userProperties := [("k", "v")]
        subscriptionIdentifiers := [9]
        contentType := none } },
    .pubRel 7]
  incomingQos2 := [3]

def savedBytes : Bytes :=
  sessionMagic ++ [5, 0, 2, 0, 2, 0, 0, 0, 1, 99, 0, 1, 0, 0, 0, 60, 0, 1, 0, 0, 0, 2, 1, 1, 2, 0, 0,
    0, 0, 1, 97, 0, 5, 0, 0, 0, 2, 1, 2, 1, 0, 1, 0, 0, 0, 60, 1, 0, 0, 0, 1, 114, 0, 0, 0, 0, 1, 0, 0,
    0, 1, 107, 0, 0, 0, 1, 118, 0, 0, 0, 1, 0, 0, 0, 0, 0, 0, 0, 9, 0, 2, 0, 7, 0, 0, 0, 1, 0, 3]

theorem savedSession_words : savedSession.Words := by
  refine forall_mem_cons.mpr ⟨?_, forall_mem_singleton.mpr trivial⟩
  rintro properties ⟨⟩
  exact forall_mem_singleton.mpr (by decide)

theorem savedSession_encode : savedSession.encode = .ok savedBytes := by decide +kernel

def savedLayout : Layout := ⟨88, 192, by decide⟩

theorem session_format_bijective_saved :
    PersistedSession.decode savedLayout savedBytes = .ok savedSession ∧
    PersistedSession.decode savedLayout (savedBytes ++ [0]) = .error .trailingBytes := by
  have format := session_format_bijective savedLayout savedSession savedSession_words
    savedBytes (by decide)
  have decoded := format.1.mp savedSession_encode
  exact ⟨decoded, (format.2 decoded).2.1 [0] (by decide) (by decide)⟩

/-! ### Storage -/

/-- The price of a collection in bytes, where each element has its price. -/
theorem heap_vec_le {α : Type} {size rate : Nat} {heap width : α → Nat}
    (each : ∀ a, size + heap a ≤ rate * width a) (values : List α) :
    Heap.vec size heap values + rate * 4 ≤ rate * Width.vec width values := by
  unfold Heap.vec Width.vec
  induction values with
  | nil => simp
  | cons a rest ih =>
    have here := each a
    simp only [length_cons, map_cons, sum_cons, Nat.succ_mul, Nat.mul_add] at ih ⊢
    omega

theorem heap_userProperties_le (values : List (String × String)) :
    Heap.userProperties values + 6 * 4 ≤ 6 * Width.userProperties values := by
  refine heap_vec_le (fun property => ?_) values
  unfold Heap.userProperty Width.userProperty Width.string Width.bytes Heap.string
    userPropertyRecordSize
  omega

theorem heap_optionString_le (value : Option String) :
    value.elim 0 Heap.string ≤ value.elim 0 Width.string := by
  cases value with
  | none => exact Nat.le_refl 0
  | some string => exact Nat.le_add_left _ _

theorem heap_publishProperties_le (properties : PersistedPublishProperties) :
    Heap.publishProperties properties ≤ 6 * Width.publishProperties properties := by
  have users := heap_userProperties_le properties.userProperties
  have identifiers : Heap.identifiers properties.subscriptionIdentifiers + 6 * 4 ≤
      6 * Width.vec (fun _ => 8) properties.subscriptionIdentifiers :=
    heap_vec_le (fun _ => by decide) _
  have response := heap_optionString_le properties.responseTopic
  have content := heap_optionString_le properties.contentType
  have correlation : properties.correlationData.elim 0 List.length ≤
      properties.correlationData.elim 0 Width.bytes := by
    cases properties.correlationData with
    | none => exact Nat.le_refl 0
    | some data => exact Nat.le_add_left _ _
  unfold Heap.publishProperties Width.publishProperties
  omega

/-- **A replay record costs no more than 512 bytes for each of its own.** -/
theorem heap_request_le (layout : Layout) (request : PersistedRequest persistedForm) :
    layout.request + Heap.request request ≤ 512 * Width.request request := by
  have record := layout.request_le
  unfold Width.request
  cases request with
  | publish entry =>
    have properties : entry.properties.elim 0 Heap.publishProperties ≤
        6 * entry.properties.elim 0 Width.publishProperties := by
      cases entry.properties with
      | none => exact Nat.le_refl 0
      | some properties => exact heap_publishProperties_le properties
    simp only [Heap.request, Width.requestBody, Heap.publish, Width.publish, Width.bytes]
    omega
  | pubRel pkid =>
    simp only [Heap.request, Width.requestBody]
    omega
  | subscribe entry =>
    have filters : Heap.vec filterRecordSize Heap.filter entry.filters + 6 * 4 ≤
        6 * Width.vec Width.filter entry.filters := by
      refine heap_vec_le (fun filter => ?_) _
      unfold Heap.filter Width.filter Width.string Width.bytes Heap.string filterRecordSize
      omega
    have properties : entry.properties.elim 0 Heap.subscribeProperties ≤
        6 * entry.properties.elim 0 Width.subscribeProperties := by
      cases entry.properties with
      | none => exact Nat.le_refl 0
      | some properties =>
        have users := heap_userProperties_le properties.userProperties
        show Heap.userProperties properties.userProperties ≤ 6 * Width.subscribeProperties properties
        unfold Width.subscribeProperties
        omega
    simp only [Heap.request, Width.requestBody, Heap.subscribe, Width.subscribe]
    omega
  | unsubscribe entry =>
    have filters : Heap.vec stringRecordSize Heap.string entry.filters + 6 * 4 ≤
        6 * Width.vec Width.string entry.filters := by
      refine heap_vec_le (fun filter => ?_) _
      unfold Width.string Width.bytes Heap.string stringRecordSize
      omega
    have properties : entry.properties.elim 0 Heap.unsubscribeProperties ≤
        6 * entry.properties.elim 0 Width.unsubscribeProperties := by
      cases entry.properties with
      | none => exact Nat.le_refl 0
      | some properties =>
        have users := heap_userProperties_le properties.userProperties
        show Heap.userProperties properties.userProperties ≤
          6 * Width.userProperties properties.userProperties
        omega
    simp only [Heap.request, Width.requestBody, Heap.unsubscribe, Width.unsubscribe]
    omega

theorem heap_session_le (layout : Layout) (session : PersistedSession) :
    Heap.session layout session ≤ 512 * Width.session session := by
  have replay : Heap.vec layout.request Heap.request session.replay + 512 * 4 ≤
      512 * Width.vec Width.request session.replay :=
    heap_vec_le (heap_request_le layout) session.replay
  have incoming : Heap.vec incomingRecordSize (fun _ => 0) session.incomingQos2 + 512 * 4 ≤
      512 * Width.vec (fun _ => 2) session.incomingQos2 :=
    heap_vec_le (fun _ => by decide) session.incomingQos2
  unfold Heap.session Width.session Width.fields Width.string Width.bytes Heap.string
  omega

/-! ### `allocatedSize` counts what the decoder was charged -/

theorem saturatingAdd_le (a b : Nat) : saturatingAdd a b ≤ a + b := Nat.min_le_left _ _

theorem foldl_saturatingAdd_le {α : Type} (cost : α → Nat) (values : List α) (start : Nat) :
    values.foldl (fun n a => saturatingAdd n (cost a)) start ≤ start + (values.map cost).sum := by
  induction values generalizing start with
  | nil => exact Nat.le_refl _
  | cons a rest ih =>
    have here := saturatingAdd_le start (cost a)
    have there := ih (saturatingAdd start (cost a))
    rw [map_cons, sum_cons]
    exact there.trans (by omega)

theorem vecSize_le {α : Type} (size : Nat) (values : List α) :
    AllocatedSize.vecSize size values ≤ values.length * size := Nat.min_le_left _ _

theorem allocated_strings_le (values : List String) :
    AllocatedSize.strings values ≤ Heap.vec stringRecordSize Heap.string values := by
  have folded := foldl_saturatingAdd_le AllocatedSize.string values
    (AllocatedSize.vecSize stringRecordSize values)
  have base := vecSize_le stringRecordSize values
  exact folded.trans (Nat.add_le_add_right base _)

theorem allocated_filters_le (values : List SubscribeFilter) :
    AllocatedSize.filters values ≤ Heap.vec filterRecordSize Heap.filter values := by
  have folded := foldl_saturatingAdd_le (fun filter : SubscribeFilter =>
    AllocatedSize.string filter.path) values (AllocatedSize.vecSize filterRecordSize values)
  have base := vecSize_le filterRecordSize values
  exact folded.trans (Nat.add_le_add_right base _)

theorem allocated_properties_le (values : List (String × String)) :
    AllocatedSize.properties values ≤ Heap.userProperties values := by
  have base := vecSize_le userPropertyRecordSize values
  have folded : ∀ start, values.foldl (fun n property =>
      saturatingAdd (saturatingAdd n (AllocatedSize.string property.1))
        (AllocatedSize.string property.2)) start ≤
      start + (values.map Heap.userProperty).sum := by
    intro start
    induction values generalizing start with
    | nil => exact Nat.le_refl _
    | cons property rest ih =>
      have key := saturatingAdd_le start (AllocatedSize.string property.1)
      have value := saturatingAdd_le (saturatingAdd start (AllocatedSize.string property.1))
        (AllocatedSize.string property.2)
      have there := ih (vecSize_le userPropertyRecordSize rest) (saturatingAdd
        (saturatingAdd start (AllocatedSize.string property.1)) (AllocatedSize.string property.2))
      have owned : Heap.userProperty property =
        AllocatedSize.string property.1 + AllocatedSize.string property.2 := rfl
      rw [map_cons, sum_cons]
      exact there.trans (by omega)
  exact (folded _).trans (Nat.add_le_add_right base _)

theorem allocated_publish_le (publish : PersistedPublish persistedForm) :
    AllocatedSize.publish publish ≤ Heap.publish publish := by
  have contents := saturatingAdd_le publish.topic.length publish.payload.length
  unfold AllocatedSize.publish Heap.publish
  dsimp only
  cases publish.properties with
  | none => exact contents.trans (by omega)
  | some p =>
    have users := allocated_properties_le p.userProperties
    have identifiers : AllocatedSize.vecSize identifierRecordSize p.subscriptionIdentifiers ≤
        Heap.identifiers p.subscriptionIdentifiers :=
      (vecSize_le identifierRecordSize _).trans (Nat.le_add_right _ _)
    have response : p.responseTopic.elim 0 AllocatedSize.string =
      p.responseTopic.elim 0 Heap.string := rfl
    have content : p.contentType.elim 0 AllocatedSize.string =
      p.contentType.elim 0 Heap.string := rfl
    show _ ≤ publish.topic.length + (publish.payload.length + Heap.publishProperties p)
    unfold Heap.publishProperties
    simp only [saturatingAdd] at contents ⊢
    omega

theorem allocated_request_le (request : PersistedRequest persistedForm) :
    AllocatedSize.request request ≤ Heap.request request := by
  cases request with
  | publish entry => exact allocated_publish_le entry
  | pubRel pkid => exact Nat.le_refl 0
  | subscribe entry =>
    refine (saturatingAdd_le _ _).trans (Nat.add_le_add (allocated_filters_le _) ?_)
    cases entry.properties with
    | none => exact Nat.le_refl 0
    | some properties => exact allocated_properties_le _
  | unsubscribe entry =>
    refine (saturatingAdd_le _ _).trans (Nat.add_le_add (allocated_strings_le _) ?_)
    cases entry.properties with
    | none => exact Nat.le_refl 0
    | some properties => exact allocated_properties_le _

/-- **The storage of a checkpoint is its root and what its reader is charged.** -/
theorem allocatedSize_le (layout : Layout) (session : PersistedSession) :
    session.allocatedSize layout ≤ layout.root + Heap.session layout session := by
  have records := vecSize_le layout.request session.replay
  have incoming := vecSize_le incomingRecordSize session.incomingQos2
  have entries : (session.replay.map AllocatedSize.request).sum ≤
      (session.replay.map Heap.request).sum :=
    sum_le_sum fun request _ => allocated_request_le request
  have text : AllocatedSize.string session.clientId = Heap.string session.clientId := rfl
  have folded := foldl_saturatingAdd_le AllocatedSize.request session.replay
    (saturatingAdd (saturatingAdd (saturatingAdd layout.root
      (AllocatedSize.string session.clientId)) (AllocatedSize.vecSize layout.request session.replay))
      (AllocatedSize.vecSize incomingRecordSize session.incomingQos2))
  refine folded.trans ?_
  unfold Heap.session Heap.vec
  simp only [saturatingAdd]
  omega

/-- **What the adapter saved it loads**, under every size limit that is not below its own and every
memory limit that is not below the one it derives. -/
theorem load_of_save {adapter saved : BlockingAdapter} (words : session.Words)
    (stored : adapter.save session = .ok saved) (blob : saved.blob = some bytes)
    (addressable : bytes.length ≤ isizeMax) {size memory : Nat} (allowed : adapter.limit ≤ size)
    (enough : saturatingAdd (saturatingMul bytes.length 512) 1024 ≤ memory) :
    saved.loadWithLimits layout size memory = .ok (some session) := by
  have reach := addressable.trans isizeMax_le_usizeMax
  unfold BlockingAdapter.save at stored
  cases encoded : session.encodeWithLimit adapter.limit with
  | error error =>
    rw [encoded] at stored
    cases stored
  | ok written =>
    rw [encoded] at stored
    cases stored
    cases blob
    obtain ⟨decodes, length, bounded, limited⟩ := of_encode layout words encoded
    have price := heap_session_le layout session
    have word := heap_le_usizeMax (length ▸ addressable) bounded
    have paid : Heap.session layout session ≤
        saturatingAdd (saturatingMul bytes.length 512) 1024 := by
      have product : Heap.session layout session ≤ saturatingMul bytes.length 512 := by
        rw [Nat.mul_comm, ← length] at price
        exact le_min price word
      exact le_min (Nat.le_add_right_of_le product) word
    have decoded := decode_whole decodes reach paid
    have fits : ¬ min size adapter.limit < bytes.length := by omega
    unfold BlockingAdapter.loadWithLimits
    dsimp only
    rw [if_neg fits, Nat.min_eq_right enough, decoded]
    rfl

/-- **Memory limits are sound, and they refuse nothing that was saved.** The storage of a decoded
checkpoint beyond its root is within the budget, and the same bytes decode without one. An encoding
always decodes within 512 times its length and 1024 bytes more; so the file adapter loads what it has
saved, unless the configured budget is smaller than the one it derives. -/
theorem memory_limits_sound (layout : Layout) (bytes : Bytes) (addressable : bytes.length ≤ isizeMax) :
    (∀ memory session, PersistedSession.decodeWithMemoryLimit layout bytes memory = .ok session →
      session.allocatedSize layout - layout.root ≤ memory ∧
      PersistedSession.decode layout bytes = .ok session) ∧
    (∀ session, session.Words → session.encode = .ok bytes →
      PersistedSession.decodeWithMemoryLimit layout bytes (512 * bytes.length + 1024) =
        .ok session) ∧
    ∀ (adapter saved : BlockingAdapter) session, session.Words →
      adapter.save session = .ok saved → saved.blob = some bytes →
      saved.load layout = .ok (some session) ∧
      ∀ size memory, adapter.limit ≤ size →
        saturatingAdd (saturatingMul bytes.length 512) 1024 ≤ memory →
        saved.loadWithLimits layout size memory = .ok (some session) := by
  have reach := addressable.trans isizeMax_le_usizeMax
  refine ⟨fun memory session decoded => ?_, fun session words encoded => ?_, ?_⟩
  · obtain ⟨-, -, length, paid, bounded⟩ := of_decode decoded
    have owned := allocatedSize_le layout session
    refine ⟨by omega, decode_whole (decodes_of_decode decoded) reach ?_⟩
    exact heap_le_usizeMax (length ▸ addressable) bounded
  · obtain ⟨decodes, length, -, -⟩ := of_encode layout words encoded
    have price := heap_session_le layout session
    refine decode_whole decodes reach ?_
    rw [length]
    omega
  · intro adapter saved session words stored blob
    have same : saved.limit = adapter.limit := by
      unfold BlockingAdapter.save at stored
      cases encoded : session.encodeWithLimit adapter.limit with
      | error error => rw [encoded] at stored; cases stored
      | ok written => rw [encoded] at stored; cases stored; rfl
    refine ⟨load_of_save words stored blob addressable (same ▸ Nat.le_refl _) ?_, ?_⟩
    · exact Nat.min_le_right _ _
    · intro size memory allowed enough
      exact load_of_save words stored blob addressable allowed enough

theorem memory_limits_sound_saved :
    savedSession.allocatedSize savedLayout - savedLayout.root ≤ 50176 ∧
    PersistedSession.decode savedLayout savedBytes = .ok savedSession ∧
    BlockingAdapter.load savedLayout ⟨1000, some savedBytes⟩ = .ok (some savedSession) := by
  have limits := memory_limits_sound savedLayout savedBytes (by decide)
  have decoded : PersistedSession.decodeWithMemoryLimit savedLayout savedBytes 50176 =
      .ok savedSession := limits.2.1 savedSession savedSession_words savedSession_encode
  have sound := limits.1 50176 savedSession decoded
  have encoded : savedSession.encodeWithLimit 1000 = .ok savedBytes := by decide +kernel
  have saved : BlockingAdapter.save ⟨1000, none⟩ savedSession =
      .ok ⟨1000, some savedBytes⟩ := by
    unfold BlockingAdapter.save
    rw [encoded]
    rfl
  exact ⟨sound.1, sound.2,
    (limits.2.2 ⟨1000, none⟩ ⟨1000, some savedBytes⟩ savedSession savedSession_words saved
      rfl).1⟩

end Checkpoints

end Rumqtt.V5
