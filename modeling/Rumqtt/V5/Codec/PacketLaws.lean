/-
**What the writers of the packets write, their readers read.**

One law for each packet: the writer appends a frame of the announced size, and the reader of the
packet returns it from the bytes of the frame and leaves none of them. The normal form that a law asks
for is that of its packet: a property set that is there has a property.
-/

import Rumqtt.V5.Codec.Packets
import Rumqtt.V5.Codec.SetLaws

namespace Rumqtt.V5

open Mqttbytes List

theorem packetType_headerOf (byte1 : UInt8) (body : Bytes) :
    packetType (headerOf byte1 body) = packetType (headerOf byte1 []) := rfl

theorem isLength_zero : IsLength 0 [0] := fun more => lengthLoop_last (by decide) more 0 0 0

/-! ### PUBLISH -/

namespace Publish

theorem byte1_flags (publish : Publish) :
    qosLevel ((publish.byte1 &&& 0x06) >>> 1) = .ok publish.qos ∧
      (publish.byte1 &&& 0x08 != 0) = publish.dup ∧
      (publish.byte1 &&& 0x01 != 0) = publish.retain := by
  unfold byte1
  generalize publish.qos = qos
  generalize publish.dup = dup
  generalize publish.retain = retain
  cases qos <;> cases dup <;> cases retain <;> exact ⟨rfl, rfl, rfl⟩

theorem reads_pkid {qos : QoS} (level : qos ≠ .atMostOnce) (pkid : PacketId) :
    Reads (readPkid qos) (u16Bytes pkid) pkid := by
  cases qos with
  | atMostOnce => exact absurd rfl level
  | atLeastOnce => exact reads_u16 pkid
  | exactlyOnce => exact reads_u16 pkid

/-- **How a frame is read**: everything but the properties and the payload as it was written. -/
theorem reads_frame {publish : Publish} {topic pkid rest out left : Bytes}
    {properties : Option PublishProperties}
    (dup : ¬ (publish.qos = .atMostOnce ∧ publish.dup = true))
    (valid : validatePublishTopicName publish.topic = .ok ())
    (readsTopic : Reads (readMqttBytes : FrameReader Bytes) topic publish.topic)
    (readsPkid : Reads (readPkid publish.qos) pkid publish.pkid)
    (positive : ¬ (publish.qos ≠ .atMostOnce ∧ publish.pkid = 0))
    (readsBlock : ∀ seen, ∃ seen', PublishProperties.read.run ⟨rest, seen⟩ =
      .ok (.ok properties, ⟨left, seen'⟩))
    (frame : IsFrame publish.byte1 (topic ++ (pkid ++ rest)) out) :
    ReadsAll (read (headerOf publish.byte1 (topic ++ (pkid ++ rest)))) out
      { publish with properties, payload := left } := by
  obtain ⟨level, dupFlag, retainFlag⟩ := publish.byte1_flags
  have levelRead : (qosLevel (((headerOf publish.byte1 (topic ++ (pkid ++ rest))).byte1 &&& 0x06) >>> 1)
      ).mapError (fun _ => Error.malformedPacket) = .ok publish.qos := by
    rw [show (headerOf publish.byte1 (topic ++ (pkid ++ rest))).byte1 = publish.byte1 from rfl, level]
    rfl
  refine (Reads.ofExcept levelRead).skip_all ?_
  refine (Reads.failIf (by rw [← dupFlag] at dup; exact dup) _).skip_all ?_
  refine frame.skip ?_
  refine readsTopic.bind_all ?_
  refine (Reads.ofExcept valid).skip_all ?_
  refine readsPkid.bind_all ?_
  refine (Reads.failIf positive _).skip_all ?_
  intro seen
  obtain ⟨seen', ran⟩ := readsBlock seen
  refine ⟨seen', (Handler.run_bind_ok ran).trans ?_⟩
  show _ = Except.ok (Except.ok ({ publish with properties, payload := left } : Publish), _)
  rw [← dupFlag, ← retainFlag]
  rfl

/-- **What the reader makes of the frame of a publish in normal form**: the publish itself, or another
one if its loop does not get to all properties. -/
def ReadBack (publish : Publish) (body out : Bytes) : Prop :=
  (publish.qos = .atMostOnce → publish.pkid = 0) → publish.properties ≠ some {} →
    ((∀ p ∈ publish.properties, p.Recoverable) →
      ReadsAll (read (headerOf publish.byte1 body)) out publish) ∧
    ((∃ p ∈ publish.properties, ¬ p.Recoverable) →
      ∃ other, other ≠ publish ∧ ReadsAll (read (headerOf publish.byte1 body)) out other)

theorem writes_tail {publish : Publish} {topic pkid : Bytes}
    (dup : ¬ (publish.qos = .atMostOnce ∧ publish.dup = true))
    (valid : validatePublishTopicName publish.topic = .ok ())
    (topicSize : topic.length = 2 + publish.topic.length)
    (readsTopic : Reads (readMqttBytes : FrameReader Bytes) topic publish.topic)
    (pkidSize : pkid.length = if publish.qos ≠ .atMostOnce ∧ publish.pkid ≠ 0 then 2 else 0)
    (readsPkid : (publish.qos = .atMostOnce → publish.pkid = 0) →
      Reads (readPkid publish.qos) pkid publish.pkid)
    (positive : ¬ (publish.qos ≠ .atMostOnce ∧ publish.pkid = 0)) :
    Writes (do
        writeBlock PublishProperties.write publish.properties
        Writer.extend publish.payload
        return 1 + lenLen publish.len + publish.len : FrameWriter Nat)
      fun n more => n = frameSize publish.len ∧ (topic ++ (pkid ++ more)).length = publish.len ∧
        ∀ out, IsFrame publish.byte1 (topic ++ (pkid ++ more)) out →
          publish.ReadBack (topic ++ (pkid ++ more)) out := by
  refine (PublishProperties.writes_optional publish.properties).bind ?_
  rintro _ block ⟨blockSize, readsBlock, stopsShort⟩
  refine (Writes.extend publish.payload).bind ?_
  rintro _ _ rfl
  refine Writes.pure ⟨rfl, ?_, fun out frame normal present => ?_⟩
  · unfold len
    simp only [List.length_append, append_nil, topicSize, pkidSize, blockSize]
    omega
  rw [append_nil] at frame ⊢
  refine ⟨fun recoverable => ?_, fun lost => ?_⟩
  · exact reads_frame dup valid readsTopic (readsPkid normal) positive
      (readsBlock present recoverable publish.payload) frame
  · -- what the loop leaves of the block becomes a part of the payload
    obtain ⟨properties, left, nonempty, ran⟩ := stopsShort lost
    refine ⟨_, fun same => ?_, reads_frame dup valid readsTopic (readsPkid normal) positive
      (ran publish.payload) frame⟩
    have longer : (left ++ publish.payload).length = publish.payload.length :=
      congrArg (fun publish => publish.payload.length) same
    have some_ := length_pos_of_ne_nil nonempty
    rw [List.length_append] at longer
    omega

theorem writes (publish : Publish) : Writes publish.write fun n out =>
      n = out.length ∧ n = publish.size ∧ ∃ body, IsFrame publish.byte1 body out ∧
        publish.ReadBack body out := by
  refine Writes.transactional (Writes.failIf_bind fun dup => ?_)
  refine writes_frame publish.byte1 publish.len ?_
  refine Writes.ofExcept_bind fun _ valid => ?_
  refine (writes_mqttBytes (List Block) publish.topic).bind ?_
  rintro _ topic ⟨topicSize, readsTopic⟩
  refine Writes.ite (fun qos => ?_) fun qos => ?_
  · refine Writes.failIf_bind fun positive => ?_
    refine (Writes.putU16 _).bind ?_
    rintro _ _ rfl
    refine writes_tail dup valid topicSize readsTopic ?_ (fun _ => reads_pkid qos publish.pkid)
      fun zero => positive zero.2
    rw [if_pos ⟨qos, positive⟩]
    rfl
  · have level : publish.qos = .atMostOnce := not_not.mp qos
    refine writes_tail dup valid topicSize readsTopic (length_nil.trans ?_)
      (fun normal => ?_) fun zero => qos zero.1
    · rw [if_neg fun both => qos both.1]
    · rw [level, normal level]
      exact Reads.pure 0

end Publish

/-! ### PUBACK, PUBREC, PUBREL and PUBCOMP -/

theorem blockLen_pos {P : Type} (len : P → Nat) (properties : Option P) :
    0 < blockLen len properties := by
  cases properties with
  | none => exact Nat.one_pos
  | some p => exact Nat.add_pos_left (lenLen_pos _) _

namespace AckKind

variable {Reason : Type} [DecidableEq Reason] {kind : AckKind Reason}

theorem size_eq (kind : AckKind Reason) (reason : Reason) (properties : Option AckProperties) :
    kind.size reason properties = frameSize (kind.len reason properties) := by
  unfold size len
  split_ifs
  · rfl
  · rfl

theorem writes (inverse : ∀ reason, kind.reason (kind.code reason) = .ok reason) (pkid : PacketId)
    (reason : Reason) (properties : Option AckProperties) :
    Writes (kind.write pkid reason properties) fun n out =>
      n = out.length ∧ n = frameSize (kind.len reason properties) ∧
        ∃ body, IsFrame kind.byte1 body out ∧ (properties ≠ some {} →
          ReadsAll (kind.read (headerOf kind.byte1 body)) out (pkid, reason, properties)) := by
  refine Writes.transactional (Writes.failIf_bind fun positive => ?_)
  refine writes_frame kind.byte1 (kind.len reason properties) ?_
  refine (Writes.putU16 _).bind ?_
  rintro _ _ rfl
  refine Writes.ite (fun compact => ?_) fun spelled => ?_
  · have short : kind.len reason properties = 2 := if_pos compact
    refine Writes.pure ⟨by rw [short]; rfl, short.symm, fun out frame _ => ?_⟩
    refine frame.skip ?_
    refine (reads_u16 pkid).bind_all ?_
    refine (Reads.failIf positive _).skip_all ?_
    obtain ⟨rfl, rfl⟩ := compact
    exact ReadsAll.pure _
  · have long : kind.len reason properties = 2 + 1 + blockLen AckProperties.len properties :=
      if_neg spelled
    refine (Writes.putU8 _).bind ?_
    rintro _ _ rfl
    refine (AckProperties.writes_optional properties).bind ?_
    rintro _ block ⟨blockSize, readsBlock⟩
    have some_ := blockLen_pos AckProperties.len properties
    have bodySize : (u16Bytes pkid ++ ([kind.code reason] ++ (block ++ []))).length =
        kind.len reason properties := by
      simp only [List.length_append, length_u16Bytes, length_singleton, length_nil, long, blockSize]
      omega
    refine Writes.pure ⟨rfl, bodySize, fun out frame present => ?_⟩
    refine frame.skip ?_
    refine (reads_u16 pkid).bind_all ?_
    refine (Reads.failIf positive _).skip_all ?_
    rw [if_neg (by show ¬ List.length _ = 2; omega)]
    refine (reads_u8 _).bind_all ?_
    rw [if_neg (by show ¬ List.length _ < 4; omega)]
    refine (readsBlock present).bind_all ?_
    exact ((Reads.ofExcept (inverse reason)).skip_all (ReadsAll.pure _))

end AckKind

theorem pubAckReason_code (reason : PubAckReason) :
    pubAckReason (UInt8.ofNat reason.code) = .ok reason := by
  cases reason <;> rfl

theorem pubRelReason_code (reason : PubRelReason) : pubRelReason (pubRelCode reason) = .ok reason := by
  cases reason <;> rfl

/-! ### SUBACK and UNSUBACK -/

namespace CodesKind

variable {Code : Type} {kind : CodesKind Code}

theorem writes_codes (kind : CodesKind Code) (codes : List Code) :
    Writes (Writer.each (fun code => Writer.putU8 (kind.code code)) codes : FrameWriter Unit)
      fun _ bytes => bytes.length = codes.length ∧ (codes ≠ [] → bytes ≠ []) ∧
        ((∀ code ∈ codes, kind.reason (kind.code code) = .ok code) →
          ReadsAll (Reader.whileRemaining kind.readCode) bytes codes) := by
  have one : ∀ code, Writes (Writer.putU8 (kind.code code) : FrameWriter Unit) fun _ bytes =>
      bytes.length = 1 ∧ bytes ≠ [] ∧
        (kind.reason (kind.code code) = .ok code → Reads kind.readCode bytes code) := by
    intro code
    refine (Writes.putU8 _).mono ?_
    rintro _ _ rfl
    refine ⟨rfl, cons_ne_nil _ _, fun inverse => ?_⟩
    exact (reads_u8 _).bind (Reads.ofExcept inverse)
  refine (Writes.items one codes).mono ?_
  rintro _ bytes ⟨size, rest⟩
  refine ⟨?_, rest⟩
  rw [size, List.map_const', sum_replicate_nat, Nat.mul_one]

theorem writes (pkid : PacketId) (codes : List Code) (properties : Option AckProperties) :
    Writes (kind.write pkid codes properties) fun n out =>
      n = out.length ∧ n = frameSize (len codes properties) ∧ ∃ body, IsFrame kind.byte1 body out ∧
          ((∀ code ∈ codes, kind.reason (kind.code code) = .ok code) → properties ≠ some {} →
            ReadsAll (kind.read (headerOf kind.byte1 body)) out (pkid, codes, properties)) := by
  refine Writes.transactional (Writes.failIf_bind fun positive => ?_)
  refine Writes.failIf_bind fun some_ => ?_
  refine writes_frame kind.byte1 (len codes properties) ?_
  refine (Writes.putU16 _).bind ?_
  rintro _ _ rfl
  refine (AckProperties.writes_optional_once properties).bind ?_
  rintro _ block ⟨blockSize, readsBlock⟩
  refine (kind.writes_codes codes).bind ?_
  rintro _ returned ⟨codesSize, nonempty, readsCodes⟩
  refine Writes.pure ⟨rfl, ?_, fun out frame inverse present => ?_⟩
  · unfold len
    simp only [List.length_append, length_u16Bytes, length_nil, codesSize, blockSize]
    omega
  rw [append_nil] at frame ⊢
  refine frame.skip ?_
  refine (reads_u16 pkid).bind_all ?_
  refine (Reads.failIf positive _).skip_all ?_
  refine (readsBlock present).bind_all ?_
  refine ReadsAll.peek ?_
  refine (Reads.failIf (nonempty (by simpa using some_)) _).skip_all ?_
  exact (readsCodes inverse).wrap rfl

end CodesKind

theorem unsubAckReason_code (reason : UnsubAckReason) :
    unsubAckReason (unsubAckCode reason) = .ok reason := by
  cases reason <;> rfl

theorem subscribeReason_code {reason : SubscribeReasonCode} (normal : reason ≠ .failure) :
    subscribeReason (subscribeCode reason) = .ok reason := by
  cases reason with
  | success qos => cases qos <;> rfl
  | failure => exact absurd rfl normal
  | _ => rfl

/-! ### SUBSCRIBE and UNSUBSCRIBE -/

namespace SubscribeFilter

theorem options_fields (filter : SubscribeFilter) : ¬ filter.options &&& 0xC0 ≠ 0 ∧
      forwardRule ((filter.options >>> 4) &&& 0x03) = .ok filter.retainForwardRule ∧
      qosLevel (filter.options &&& 0x03) = .ok filter.qos ∧
      ((filter.options >>> 2) &&& 0x01 != 0) = filter.nolocal ∧
      ((filter.options >>> 3) &&& 0x01 != 0) = filter.preserveRetain := by
  unfold options
  generalize filter.qos = qos
  generalize filter.nolocal = nolocal
  generalize filter.preserveRetain = preserveRetain
  generalize filter.retainForwardRule = rule
  cases qos <;> cases nolocal <;> cases preserveRetain <;> cases rule <;>
    exact ⟨by decide, rfl, rfl, rfl, rfl⟩

theorem writes (filter : SubscribeFilter) : Writes filter.write fun _ bytes =>
      bytes.length = filter.len ∧ bytes ≠ [] ∧ (True → Reads readOne bytes filter) := by
  refine (writes_mqttString (List Block) filter.path).bind ?_
  rintro _ path ⟨pathSize, readsPath⟩
  refine (Writes.putU8 _).mono ?_
  rintro _ _ rfl
  refine ⟨?_, append_ne_nil_of_right_ne_nil _ (cons_ne_nil _ _), fun _ => ?_⟩
  · rw [List.length_append, pathSize]
    rfl
  · obtain ⟨reserved, rule, qos, nolocal, preserveRetain⟩ := filter.options_fields
    refine readsPath.bind ?_
    rw [← append_nil [filter.options]]
    refine (reads_u8 _).bind ?_
    refine (Reads.failIf reserved _).skip ?_
    refine (Reads.ofExcept rule).skip ?_
    refine (Reads.ofExcept qos).skip ?_
    rw [nolocal, preserveRetain]
    exact Reads.pure filter

end SubscribeFilter

namespace Subscribe

theorem writes (subscribe : Subscribe) : Writes subscribe.write fun n out =>
      n = out.length ∧ n = subscribe.size ∧ ∃ body, IsFrame 0x82 body out ∧
        (subscribe.properties ≠ some ⟨none, []⟩ →
          ReadsAll (read (headerOf 0x82 body)) out subscribe) := by
  refine Writes.transactional (Writes.failIf_bind fun positive => ?_)
  refine Writes.failIf_bind fun some_ => ?_
  refine writes_frame 0x82 subscribe.len ?_
  refine (Writes.putU16 _).bind ?_
  rintro _ _ rfl
  refine (SubscribeProperties.writes_optional subscribe.properties).bind ?_
  rintro _ block ⟨blockSize, readsBlock⟩
  refine (Writes.items SubscribeFilter.writes subscribe.filters).bind ?_
  rintro _ filters ⟨filtersSize, _, readsFilters⟩
  refine Writes.pure ⟨rfl, ?_, fun out frame present => ?_⟩
  · unfold len
    simp only [List.length_append, length_u16Bytes, length_nil, filtersSize, blockSize]
    omega
  rw [append_nil] at frame ⊢
  refine frame.skip ?_
  refine (reads_u16 _).bind_all ?_
  refine (Reads.failIf positive _).skip_all ?_
  refine (readsBlock present).bind_all ?_
  exact (readsFilters fun _ _ => trivial).wrap (Handler.failIf_bind_neg some_ _ _)

end Subscribe

namespace Unsubscribe

theorem writes (unsubscribe : Unsubscribe) : Writes unsubscribe.write fun n out =>
      n = out.length ∧ n = unsubscribe.size ∧ ∃ body, IsFrame 0xA2 body out ∧
        (unsubscribe.properties ≠ some ⟨[]⟩ →
          ReadsAll (read (headerOf 0xA2 body)) out unsubscribe) := by
  have filter : ∀ filter, Writes (writeMqttString filter : FrameWriter Unit) fun _ bytes =>
      bytes.length = 2 + (utf8 filter).length ∧ bytes ≠ [] ∧
        (True → Reads (readMqttString : FrameReader String) bytes filter) := by
    intro filter
    refine (writes_mqttString (List Block) filter).mono ?_
    rintro _ bytes ⟨size, reads⟩
    refine ⟨size, ?_, fun _ => reads⟩
    rintro rfl
    rw [length_nil] at size
    omega
  refine Writes.transactional (Writes.failIf_bind fun positive => ?_)
  refine Writes.failIf_bind fun some_ => ?_
  refine writes_frame 0xA2 unsubscribe.len ?_
  refine (Writes.putU16 _).bind ?_
  rintro _ _ rfl
  refine (UnsubscribeProperties.writes_optional unsubscribe.properties).bind ?_
  rintro _ block ⟨blockSize, readsBlock⟩
  refine (Writes.items filter unsubscribe.filters).bind ?_
  rintro _ filters ⟨filtersSize, _, readsFilters⟩
  refine Writes.pure ⟨rfl, ?_, fun out frame present => ?_⟩
  · unfold len
    simp only [List.length_append, length_u16Bytes, length_nil, filtersSize, blockSize]
    omega
  rw [append_nil] at frame ⊢
  refine frame.skip ?_
  refine (reads_u16 _).bind_all ?_
  refine (Reads.failIf positive _).skip_all ?_
  refine (readsBlock present).bind_all ?_
  exact (readsFilters fun _ _ => trivial).wrap (Handler.failIf_bind_neg some_ _ _)

end Unsubscribe

/-! ### CONNECT -/

namespace LastWill

theorem writes (will : LastWill) :
    Writes will.write fun flags bytes => flags = will.flags ∧ bytes.length = will.len ∧
      (will.properties ≠ some {} → ∀ connectFlags : UInt8, ¬ connectFlags &&& 0x04 = 0 →
        qosLevel ((connectFlags &&& 0x18) >>> 3) = .ok will.qos →
        (connectFlags &&& 0x20 != 0) = will.retain → Reads (read connectFlags) bytes (some will)) := by
  refine Writes.transactional ?_
  refine (LastWillProperties.writes_optional will.properties).bind ?_
  rintro _ block ⟨blockSize, readsBlock⟩
  refine Writes.ofExcept_bind fun valid validated => ?_
  refine (writes_mqttBytes (List Block) will.topic).bind ?_
  rintro _ topic ⟨topicSize, readsTopic⟩
  refine (writes_mqttBytes (List Block) will.message).bind ?_
  rintro _ message ⟨messageSize, readsMessage⟩
  refine Writes.pure ⟨rfl, ?_, fun present connectFlags marked qos retain => ?_⟩
  · unfold len
    simp only [List.length_append, length_nil, blockSize, topicSize, messageSize]
    omega
  · unfold read
    rw [if_neg marked]
    refine (readsBlock present).bind ?_
    refine readsTopic.bind ?_
    refine (Reads.ofExcept validated).skip ?_
    refine readsMessage.bind ?_
    refine (Reads.ofExcept qos).skip ?_
    rw [retain]
    exact Reads.pure (some will)

end LastWill

namespace ConnectAuth

/-- The connect flags of the credentials. -/
def flags : ConnectAuth → UInt8
  | .none => 0
  | .username _ => 0x80
  | .password _ => 0x40
  | .usernamePassword _ _ => 0xC0

def hasUsername : ConnectAuth → Bool
  | .none | .password _ => false
  | .username _ | .usernamePassword _ _ => true

def hasPassword : ConnectAuth → Bool
  | .none | .username _ => false
  | .password _ | .usernamePassword _ _ => true

theorem writes (auth : ConnectAuth) :
    Writes auth.write fun flags bytes => flags = auth.flags ∧ bytes.length = auth.len ∧
      ∀ connectFlags : UInt8, (connectFlags &&& 0x80 != 0) = auth.hasUsername →
        (connectFlags &&& 0x40 != 0) = auth.hasPassword →
        Reads (read connectFlags) bytes auth := by
  refine Writes.transactional ?_
  cases auth with
  | none =>
    refine Writes.pure ⟨rfl, rfl, fun connectFlags user pass => ?_⟩
    unfold read
    rw [user, pass]
    exact Reads.pure _
  | username name =>
    refine (writes_mqttString (List Block) name).bind ?_
    rintro _ bytes ⟨size, reads⟩
    refine Writes.pure ⟨rfl, ?_, fun connectFlags user pass => ?_⟩
    · rw [append_nil]
      exact size
    · unfold read
      rw [user, pass]
      refine reads.bind ?_
      exact Reads.pure _
  | password secret =>
    refine (writes_mqttBytes (List Block) secret).bind ?_
    rintro _ bytes ⟨size, reads⟩
    refine Writes.pure ⟨rfl, ?_, fun connectFlags user pass => ?_⟩
    · rw [append_nil]
      exact size
    · unfold read
      rw [user, pass]
      refine reads.bind ?_
      exact Reads.pure _
  | usernamePassword name secret =>
    refine (writes_mqttString (List Block) name).bind ?_
    rintro _ first ⟨nameSize, readsName⟩
    refine (writes_mqttBytes (List Block) secret).bind ?_
    rintro _ second ⟨secretSize, readsSecret⟩
    refine Writes.pure ⟨rfl, ?_, fun connectFlags user pass => ?_⟩
    · simp only [List.length_append, length_nil, nameSize, secretSize, len]
      omega
    · unfold read
      rw [user, pass]
      refine readsName.bind ?_
      refine readsSecret.bind ?_
      exact Reads.pure _

end ConnectAuth

namespace Connect

/-- The connect flags of a connect. -/
def connectFlags (connect : Connect) (will : Option LastWill) (auth : ConnectAuth) : UInt8 :=
  connect.startFlags ||| will.elim 0 LastWill.flags ||| auth.flags

theorem flags_none (connect : Connect) (auth : ConnectAuth) :
    let flags := connect.connectFlags none auth
    ¬ flags &&& 0x01 ≠ 0 ∧ (flags &&& 0x02 != 0) = connect.cleanStart ∧
      (flags &&& 0x80 != 0) = auth.hasUsername ∧ (flags &&& 0x40 != 0) = auth.hasPassword ∧
      flags &&& 0x04 = 0 ∧ ¬ flags &&& 0x38 ≠ 0 := by
  unfold connectFlags startFlags
  generalize connect.cleanStart = cleanStart
  cases auth <;> simp only [ConnectAuth.flags, ConnectAuth.hasUsername, ConnectAuth.hasPassword] <;>
    revert cleanStart <;> decide

theorem flags_some (connect : Connect) (will : LastWill) (auth : ConnectAuth) :
    let flags := connect.connectFlags (some will) auth
    ¬ flags &&& 0x01 ≠ 0 ∧ (flags &&& 0x02 != 0) = connect.cleanStart ∧
      (flags &&& 0x80 != 0) = auth.hasUsername ∧ (flags &&& 0x40 != 0) = auth.hasPassword ∧
      ¬ flags &&& 0x04 = 0 ∧ qosLevel ((flags &&& 0x18) >>> 3) = .ok will.qos ∧
      (flags &&& 0x20 != 0) = will.retain := by
  unfold connectFlags startFlags
  simp only [Option.elim, LastWill.flags]
  generalize connect.cleanStart = cleanStart
  generalize will.retain = retain
  generalize will.qos = qos
  cases auth <;> simp only [ConnectAuth.flags, ConnectAuth.hasUsername, ConnectAuth.hasPassword] <;>
    revert cleanStart retain <;> cases qos <;> decide

section

variable (connect : Connect) (will : Option LastWill) (auth : ConnectAuth)

/-- The two flags that concern the connect itself. -/
theorem flags_connect : ¬ connect.connectFlags will auth &&& 0x01 ≠ 0 ∧
      (connect.connectFlags will auth &&& 0x02 != 0) = connect.cleanStart := by
  cases will with
  | none => exact ⟨(connect.flags_none auth).1, (connect.flags_none auth).2.1⟩
  | some will => exact ⟨(connect.flags_some will auth).1, (connect.flags_some will auth).2.1⟩

theorem writes_will : Writes (LastWill.writeOptional will) fun flags bytes =>
      flags = will.elim 0 LastWill.flags ∧ bytes.length = optionalLen LastWill.len will ∧
        ((∀ w ∈ will, w.properties ≠ some {}) →
          Reads (LastWill.read (connect.connectFlags will auth)) bytes will) := by
  cases will with
  | none =>
    refine Writes.pure ⟨rfl, rfl, fun _ => ?_⟩
    obtain ⟨_, _, _, _, unmarked, empty⟩ := connect.flags_none auth
    unfold LastWill.read
    rw [if_pos unmarked]
    exact (Reads.failIf empty _).skip (Reads.pure none)
  | some will =>
    obtain ⟨_, _, _, _, marked, qos, retain⟩ := connect.flags_some will auth
    refine will.writes.mono ?_
    rintro flags bytes ⟨rfl, size, reads⟩
    exact ⟨rfl, size, fun present => reads (present will rfl) _ marked qos retain⟩

theorem writes_auth :
    Writes auth.write fun flags bytes => flags = auth.flags ∧ bytes.length = auth.len ∧
      Reads (ConnectAuth.read (connect.connectFlags will auth)) bytes auth := by
  refine auth.writes.mono ?_
  rintro flags bytes ⟨rfl, size, reads⟩
  refine ⟨rfl, size, ?_⟩
  cases will with
  | none =>
    obtain ⟨_, _, user, pass, _⟩ := connect.flags_none auth
    exact reads _ user pass
  | some will =>
    obtain ⟨_, _, user, pass, _⟩ := connect.flags_some will auth
    exact reads _ user pass

/-- **What the reader makes of the frame of a connect in normal form**: the connect itself, or an
error if the receive maximum is zero. -/
def ReadBack (body out : Bytes) :
    Prop :=
  connect.properties ≠ some {} → (∀ w ∈ will, w.properties ≠ some {}) →
    ((∀ p ∈ connect.properties, p.receiveMaximum ≠ some 0) →
      ReadsAll (read (headerOf 0x10 body)) out (connect, will, auth)) ∧
    ((∃ p ∈ connect.properties, ¬ p.receiveMaximum ≠ some 0) →
      Refuses (read (headerOf 0x10 body)) out)

theorem writes_payload {name : Bytes} (nameSize : name.length = 2 + (utf8 "MQTT").length)
    (readsName : Reads (readMqttString : FrameReader String) name "MQTT") :
    Writes (connect.writePayload will auth) fun flags more =>
      (name ++ ([5] ++ flags :: more)).length = connect.len will auth ∧
        ∀ out, IsFrame 0x10 (name ++ ([5] ++ flags :: more)) out →
          connect.ReadBack will auth (name ++ ([5] ++ flags :: more)) out := by
  refine (Writes.putU16 _).bind ?_
  rintro _ _ rfl
  refine (ConnectProperties.writes_optional connect.properties).bind ?_
  rintro _ block ⟨blockSize, readsBlock, refusesBlock⟩
  refine (writes_mqttString (List Block) connect.clientId).bind ?_
  rintro _ clientId ⟨clientIdSize, readsClientId⟩
  refine (connect.writes_will will auth).bind ?_
  rintro _ willPart ⟨rfl, willSize, readsWill⟩
  refine (connect.writes_auth will auth).bind ?_
  rintro _ authPart ⟨rfl, authSize, readsAuth⟩
  obtain ⟨reserved, cleanStart⟩ := connect.flags_connect will auth
  refine Writes.pure ⟨?_, fun out frame present willPresent => ⟨fun fine => ?_, fun bad => ?_⟩⟩
  · unfold len
    simp only [List.length_append, length_cons, length_nil, length_u16Bytes, nameSize,
      blockSize, clientIdSize, willSize, authSize]
    rw [show (utf8 "MQTT").length = 4 from rfl]
    omega
  · rw [append_nil] at frame ⊢
    refine frame.skip ?_
    refine readsName.bind_all ?_
    refine (reads_u8 _).bind_all ?_
    refine (Reads.failIf (by simp) _).skip_all ?_
    refine (Reads.failIf (by simp) _).skip_all ?_
    refine (reads_u8 _).bind_all ?_
    refine (Reads.failIf reserved _).skip_all ?_
    refine (reads_u16 _).bind_all ?_
    refine (readsBlock present fine).bind_all ?_
    refine readsClientId.bind_all ?_
    refine (readsWill willPresent).bind_all ?_
    rw [← append_nil authPart]
    refine readsAuth.bind_all ?_
    refine ReadsAll.peek ?_
    refine (Reads.failIf (by simp) _).skip_all ?_
    unfold connectFlags at cleanStart
    rw [cleanStart]
    exact ReadsAll.pure _
  · refine frame.skip_refuses ?_
    refine Refuses.after readsName ?_
    refine Refuses.after (reads_u8 _) ?_
    refine Refuses.skip (Reads.failIf (by simp) _) ?_
    refine Refuses.skip (Reads.failIf (by simp) _) ?_
    show Refuses _ ([connect.connectFlags will auth] ++ (u16Bytes connect.keepAlive ++ (block ++ _)))
    refine Refuses.after (reads_u8 _) ?_
    refine Refuses.skip (Reads.failIf reserved _) ?_
    refine Refuses.after (reads_u16 _) ?_
    exact ((refusesBlock bad).append _).bind

theorem writes : Writes (connect.write will auth) fun n out =>
      n = out.length ∧ n = connect.size will auth ∧ ∃ body, IsFrame 0x10 body out ∧
        connect.ReadBack will auth body out := by
  refine Writes.transactional (writes_frame 0x10 (connect.len will auth) ?_)
  refine (writes_mqttString (List Block) "MQTT").bind ?_
  rintro _ name ⟨nameSize, readsName⟩
  refine (Writes.putU8 _).bind ?_
  rintro _ _ rfl
  refine (Writes.overwrite (connect.writes_payload will auth nameSize readsName) _ id).bind ?_
  rintro flags _ ⟨more, rfl, size, readBack⟩
  refine Writes.pure ⟨rfl, ?_, fun out frame => ?_⟩
  · rw [append_nil]
    exact size
  · rw [append_nil] at frame ⊢
    exact readBack out frame

end

end Connect

/-! ### CONNACK -/

theorem connectReturn_code {code : ConnectReturnCode} {byte : UInt8}
    (known : connectCode code = .ok byte) : connectReturn byte = .ok code := by
  cases code <;> cases known <;> rfl

namespace ConnAck

/-- What the reader makes of the frame of a connack in normal form: the connack itself, or an error
if the receive maximum is zero. -/
def ReadBack (connack : ConnAck) (body out : Bytes) : Prop :=
  connack.properties ≠ some {} → ((∀ p ∈ connack.properties, p.receiveMax ≠ some 0) →
      ReadsAll (read (headerOf 0x20 body)) out connack) ∧
    ((∃ p ∈ connack.properties, ¬ p.receiveMax ≠ some 0) → Refuses (read (headerOf 0x20 body)) out)

theorem flags_fields (sessionPresent : Bool) :
    let flags : UInt8 := if sessionPresent then 1 else 0
    ¬ flags &&& 0xFE ≠ 0 ∧ (flags &&& 0x01 == 1) = sessionPresent := by
  revert sessionPresent
  decide

theorem writes (connack : ConnAck) {code : UInt8} (known : connectCode connack.code = .ok code) :
    Writes connack.write fun n out =>
      n = out.length ∧ n = connack.size ∧ ∃ body, IsFrame 0x20 body out ∧
        connack.ReadBack body out := by
  refine Writes.transactional (Writes.failIf_bind fun consistent => ?_)
  refine writes_frame 0x20 connack.len ?_
  refine (Writes.putU8 _).bind ?_
  rintro _ _ rfl
  refine Writes.ofChecked_bind known ?_
  refine (Writes.putU8 _).bind ?_
  rintro _ _ rfl
  refine (ConnAckProperties.writes_optional connack.properties).bind ?_
  rintro _ block ⟨blockSize, readsBlock, refusesBlock⟩
  obtain ⟨reserved, sessionPresent⟩ := flags_fields connack.sessionPresent
  refine Writes.pure ⟨rfl, ?_, fun out frame present => ?_⟩
  · unfold len
    simp only [List.length_append, length_singleton, length_nil, blockSize]
    omega
  rw [append_nil] at frame ⊢
  refine ⟨fun fine => ?_, fun bad => ?_⟩
  · refine frame.skip ?_
    refine (reads_u8 _).bind_all ?_
    refine (Reads.failIf reserved _).skip_all ?_
    refine (reads_u8 _).bind_all ?_
    refine (Reads.ofExcept (connectReturn_code known)).skip_all ?_
    rw [sessionPresent]
    refine (Reads.failIf consistent _).skip_all ?_
    exact (readsBlock present fine).all.wrap rfl
  · refine frame.skip_refuses ?_
    refine Refuses.after (reads_u8 _) ?_
    refine Refuses.skip (Reads.failIf reserved _) ?_
    refine Refuses.after (reads_u8 _) ?_
    refine Refuses.skip (Reads.ofExcept (connectReturn_code known)) ?_
    rw [sessionPresent]
    refine Refuses.skip (Reads.failIf consistent _) ?_
    exact (refusesBlock bad).bind

end ConnAck

/-! ### DISCONNECT -/

theorem disconnectReason_code (reason : DisconnectReasonCode) :
    disconnectReason (disconnectCode reason) = .ok reason := by
  cases reason <;> rfl

namespace Disconnect

theorem size_eq (disconnect : Disconnect) :
    disconnect.size = if disconnect.CanUseCompactSuccessEncoding then frameSize 0
      else frameSize disconnect.len := by
  unfold size len
  split_ifs
  · rfl
  · rfl

/-- The reader of a disconnect checks the type byte once more. -/
theorem reads_frame {body out : Bytes} {disconnect : Disconnect} (frame : IsFrame 0xE0 body out)
    (reads : ReadsAll (if body.length = 0 then
        return { reasonCode := .normalDisconnection, properties := none }
      else do
        let reasonCode ← readU8
        let reasonCode ← Handler.ofExcept (disconnectReason reasonCode)
        let properties ← DisconnectProperties.extract
        return { reasonCode, properties } : FrameReader Disconnect) body disconnect) :
    ReadsAll (read (headerOf 0xE0 body)) out disconnect := by
  have type : packetType (headerOf 0xE0 body) = .ok .disconnect := packetType_headerOf _ _
  refine (Reads.ofExcept type).skip_all ?_
  refine (Reads.failIf (by decide) _).skip_all ?_
  refine (Reads.failIf (show ¬ (headerOf 0xE0 []).flags ≠ 0 by decide) _).skip_all ?_
  exact frame.skip reads

theorem writes (disconnect : Disconnect) : Writes disconnect.write fun n out =>
      n = out.length ∧ n = disconnect.size ∧ ∃ body, IsFrame 0xE0 body out ∧
        (disconnect.properties ≠ some {} →
          ReadsAll (read (headerOf 0xE0 body)) out disconnect) := by
  refine Writes.transactional ?_
  rw [size_eq]
  unfold writeInner
  by_cases compact : disconnect.CanUseCompactSuccessEncoding
  · have two : disconnect.len = 2 := if_pos compact
    simp only [if_pos compact]
    refine (Writes.putU8 _).bind ?_
    rintro _ _ rfl
    refine (Writes.putU8 _).bind ?_
    rintro _ _ rfl
    have frame : IsFrame 0xE0 [] ([0xE0] ++ ([0x00] ++ [])) := ⟨[0], rfl, rfl, isLength_zero⟩
    refine Writes.pure ⟨two, two, [], frame, fun _ => reads_frame frame ?_⟩
    obtain ⟨reasonCode, properties⟩ := disconnect
    obtain ⟨rfl, rfl⟩ := compact
    exact ReadsAll.pure _
  · have long : disconnect.len = 1 + blockLen DisconnectProperties.len disconnect.properties :=
      if_neg compact
    simp only [if_neg compact]
    refine writes_frame 0xE0 disconnect.len ?_
    refine (Writes.putU8 _).bind ?_
    rintro _ _ rfl
    refine (DisconnectProperties.writes_optional disconnect.properties).bind ?_
    rintro _ block ⟨blockSize, readsBlock⟩
    refine Writes.pure ⟨rfl, ?_, fun out frame present => reads_frame frame ?_⟩
    · simp only [List.length_append, length_singleton, length_nil, blockSize, long]
      omega
    rw [if_neg (by simp), append_nil]
    refine (reads_u8 _).bind_all ?_
    refine (Reads.ofExcept (disconnectReason_code _)).skip_all ?_
    exact (readsBlock present).all.wrap rfl

end Disconnect

/-! ### AUTH -/

theorem authReason_code (code : AuthReasonCode) : authReason (authCode code) = .ok code := by
  cases code <;> rfl

namespace Auth

theorem writes (auth : Auth) : Writes auth.write fun n out =>
      n = out.length ∧ n = auth.size ∧ ∃ body, IsFrame 0xF0 body out ∧
        (auth.properties ≠ some {} → ReadsAll (read (headerOf 0xF0 body)) out auth) := by
  refine Writes.transactional (writes_frame 0xF0 auth.len ?_)
  refine (Writes.putU8 _).bind ?_
  rintro _ _ rfl
  refine (AuthProperties.writes_optional auth.properties).bind ?_
  rintro _ block ⟨blockSize, readsBlock⟩
  refine Writes.pure ⟨rfl, ?_, fun out frame present => ?_⟩
  · unfold len
    simp only [List.length_append, length_singleton, length_nil, blockSize]
    omega
  refine frame.skip ?_
  refine (reads_u8 _).bind_all ?_
  refine (Reads.ofExcept (authReason_code _)).skip_all ?_
  refine (readsBlock present).bind_all ?_
  refine ReadsAll.peek ?_
  exact (Reads.failIf (by simp) _).skip_all (ReadsAll.pure _)

end Auth

/-! ### PINGREQ and PINGRESP -/

theorem writes_ping (byte1 : UInt8) :
    Writes (writePing byte1) fun n out => n = out.length ∧ n = 2 ∧ IsFrame byte1 [] out := by
  refine (Writes.extend _).bind ?_
  rintro _ _ rfl
  exact Writes.pure ⟨rfl, rfl, [0], rfl, rfl, isLength_zero⟩

end Rumqtt.V5
