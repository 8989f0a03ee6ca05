/-
**A PUBLISH as the standard lays it out.**

`Publish.readStandard` is the reader of the source with the property block of the standard: the cursor
counts every byte once, and an alias of zero is a value like any other. The cursor of the source is ahead
by one for every subscription identifier it has read. `OrderlyPublish` is a condition on the bytes of a
frame: wherever a property begins, the subscription identifiers in front of it are fewer than the
declared bytes that are left.

* `agree_loop`: over an orderly block, the loop of the source takes the same properties, or it refuses
  an alias of zero;
* `agree_publish`: so does the reader of the packet.
-/

import Rumqtt.V5.Codec.Packets
import Rumqtt.V5.Codec.SetLaws

namespace Rumqtt.V5

open Mqttbytes Handler Reader

/-- **The value of a property takes the bytes that its arm counts.** -/
theorem Kind.takes : (kind : Kind) → Takes kind.read fun read bytes => bytes.length = read.2
  | byte => takes_u8.bind fun value bytes size => by
    subst size
    exact Takes.pure rfl
  | twoByte => takes_u16.bind fun value bytes size => Takes.pure (by simpa using size)
  | fourByte => takes_u32.bind fun value bytes size => Takes.pure (by simpa using size)
  | varint => takes_length
  | text => takes_mqttString.bind fun value bytes size => Takes.pure (by simpa using size)
  | binary => takes_mqttBytes.bind fun value bytes size => Takes.pure (by simpa using size)
  | pair => takes_mqttString.bind fun key bytes size =>
    takes_mqttString.bind fun value others size' => Takes.pure (by
      rw [List.append_nil, List.length_append, size, size']
      omega)

/-! ### The bytes of a block -/

/-- **The cursor of the source stays inside the block**: wherever a property begins, the subscription
identifiers `ahead` are fewer than the declared bytes `left`. -/
def orderlyProperties : (rounds left ahead : Nat) → Bytes → Bool
  | 0, _, _, _ | _ + 1, 0, _, _ => true
  | rounds + 1, left + 1, ahead, bytes => ahead ≤ left &&
    match bytes with
    | [] => true
    | code :: bytes =>
      match property code with
      | .error _ => true
      | .ok type =>
        match type.kind.read.run ⟨bytes, []⟩ with
        | .ok (.ok (_, size), t) =>
          orderlyProperties rounds (left - size)
            (ahead + if type = .subscriptionIdentifier then 1 else 0) t.unread
        | _ => true

/-- The same of a block behind its length. -/
def OrderlyBlock (bytes : Bytes) : Prop :=
  match length bytes with
  | .error _ => True
  | .ok (lenLen, len) => orderlyProperties len len 0 (bytes.drop lenLen) = true

instance (bytes : Bytes) : Decidable (OrderlyBlock bytes) := by
  unfold OrderlyBlock
  split <;> infer_instance

/-- The number of bytes in front of the properties of a PUBLISH: the topic with its length, and the
identifier of one that is to be acknowledged. -/
def publishFieldsLen (header : FixedHeader) (body : Bytes) : Nat :=
  2 + (256 * (body.getD 0 0).toNat + (body.getD 1 0).toNat) +
    if header.byte1 &&& 0x06 = 0 then 0 else 2

/-- **A PUBLISH frame whose property block is orderly.** -/
def OrderlyPublish (header : FixedHeader) (frame : Bytes) : Prop :=
  let body := frame.drop header.headerLen
  OrderlyBlock (body.drop (publishFieldsLen header body))

instance (header : FixedHeader) (frame : Bytes) : Decidable (OrderlyPublish header frame) :=
  inferInstanceAs (Decidable (OrderlyBlock _))

/-! ### The two readers -/

/-- Values are stored as they are. -/
def PublishProperties.storeStandard (p : PublishProperties) :
    (type : PropertyType) → type.kind.Carrier → Except Error PublishProperties
  | .topicAlias, aliasId => .ok { p with topicAlias := some aliasId }
  | type, value => PublishProperties.store p type value

/-- The properties of a PUBLISH as the standard has them. -/
def PublishProperties.standard : PropertyTable PublishProperties :=
  { PublishProperties.table with
    store := PublishProperties.storeStandard
    extra := fun _ => 0 }

/-- A PUBLISH as the standard has it. -/
def Publish.readStandard (header : FixedHeader) : FrameReader Publish := do
  let qos ← ofExcept
    ((qosLevel ((header.byte1 &&& 0x06) >>> 1)).mapError fun _ => .malformedPacket)
  let dup := header.byte1 &&& 0x08 != 0
  let retain := header.byte1 &&& 0x01 != 0
  failIf (qos = .atMostOnce ∧ dup = true) .malformedPacket
  advance header.headerLen
  let topic ← readMqttBytes
  ofExcept (validatePublishTopicName topic)
  let pkid ← Publish.readPkid qos
  failIf (qos ≠ .atMostOnce ∧ pkid = 0) .packetIdZero
  let properties ← PublishProperties.standard.read
  let payload ← takeAll
  return { dup, qos, retain, topic, pkid, payload, properties }

/-- The refusal of an alias of zero. -/
abbrev aliasInvalid : Error := .protocolViolation .topicAliasInvalid

/-- What a reader of the source returns, beside what the reader of the standard does: the same, with a
value that is fine, or the refusal of an alias of zero. -/
def Agree {α : Type} (fine : α → Prop) (found sent : Checked (Except Error α × Input (List Block))) :
    Prop :=
  (found = sent ∧ ∀ a t, found = .ok (.ok a, t) → fine a) ∨ ∃ t, found = .ok (.error aliasInvalid, t)

section Agree

variable {α β : Type} {fine : α → Prop} {finer : β → Prop} {s : Input (List Block)}
  {first other : FrameReader α} {next next' : α → FrameReader β}

/-- Two readers that begin alike. -/
theorem Agree.same_bind (first : FrameReader α)
    (tail : ∀ a t, first.run s = .ok (.ok a, t) → Agree finer ((next a).run t) ((next' a).run t)) :
    Agree finer ((first >>= next).run s) ((first >>= next').run s) := by
  cases began : first.run s with
  | error panic =>
    refine .inl ⟨(run_bind_panic began).trans (run_bind_panic began).symm, fun b t ran => ?_⟩
    cases (run_bind_panic began).symm.trans ran
  | ok done =>
    obtain ⟨result, t⟩ := done
    cases result with
    | error error =>
      refine .inl ⟨(run_bind_error began).trans (run_bind_error began).symm, fun b t ran => ?_⟩
      cases (run_bind_error began).symm.trans ran
    | ok a =>
      rw [run_bind_ok began, run_bind_ok began]
      exact tail a t began

/-- Two readers that agree, with the same end. -/
theorem Agree.bind (head : Agree fine (first.run s) (other.run s))
    (tail : ∀ a t b u, fine a → (next a).run t = .ok (.ok b, u) → finer b) :
    Agree finer ((first >>= next).run s) ((other >>= next).run s) := by
  rcases head with ⟨same, good⟩ | ⟨t, refused⟩
  · refine .inl ⟨?_, fun b u ran => ?_⟩
    · show Handler.bind first next s = Handler.bind other next s
      unfold Handler.bind
      rw [show first s = other s from same]
    · obtain ⟨a, t, began, ended⟩ := of_run_bind ran
      exact tail a t b u (good a t began) ended
  · exact .inr ⟨t, run_bind_error refused⟩

theorem Agree.refl {result : Checked (Except Error α × Input (List Block))}
    (good : ∀ a t, result = .ok (.ok a, t) → fine a) : Agree fine result result := .inl ⟨rfl, good⟩

end Agree

/-- No alias of zero was stored. -/
def PublishProperties.Aliased (p : PublishProperties) : Prop := p.topicAlias ≠ some 0

open PublishProperties

/-- **Storing a value**: as the standard does, or an alias of zero is refused. -/
theorem store_agrees {p : PublishProperties} (aliased : p.Aliased) (type : PropertyType)
    (value : type.kind.Carrier) :
    (PublishProperties.store p type value = storeStandard p type value ∧
      ∀ q, PublishProperties.store p type value = .ok q → q.Aliased) ∨
    PublishProperties.store p type value = .error aliasInvalid := by
  cases type with
  | topicAlias =>
    by_cases zero : value = (0 : UInt16)
    · exact .inr (if_pos zero)
    · refine .inl ⟨if_neg zero, fun q stored => ?_⟩
      have same : q = { p with topicAlias := some value } :=
        (Except.ok.inj ((if_neg zero).symm.trans stored)).symm
      rw [same]
      exact fun isZero => zero (Option.some.inj isZero)
  | payloadFormatIndicator | messageExpiryInterval | responseTopic | correlationData | userProperty
  | subscriptionIdentifier | contentType =>
    refine .inl ⟨rfl, fun q stored => ?_⟩
    cases stored
    exact aliased
  | _ => exact .inl ⟨rfl, fun q stored => by cases stored⟩

/-- **Over an orderly block the loops agree**: the source takes another property as long as the standard
does. -/
theorem agree_loop {len rounds cursor ahead : Nat} {p : PublishProperties} {s : Input (List Block)}
    (aliased : p.Aliased) (orderly : orderlyProperties rounds (len - cursor) ahead s.unread = true) :
    Agree Aliased ((table.loop len rounds (cursor + ahead) p).run s)
      ((standard.loop len rounds cursor p).run s) := by
  induction rounds generalizing cursor ahead p s with
  | zero => exact .refl fun q t ran => by cases ran; exact aliased
  | succ rounds ih =>
    by_cases below : cursor < len
    · obtain ⟨left, rest⟩ : ∃ left, len - cursor = left + 1 := ⟨len - cursor - 1, by omega⟩
      rw [rest] at orderly
      unfold orderlyProperties at orderly
      obtain ⟨inside, later⟩ := Bool.and_eq_true_iff.mp orderly
      have inside : ahead ≤ left := of_decide_eq_true inside
      have below' : cursor + ahead < len := by omega
      rw [show table.loop len (rounds + 1) (cursor + ahead) p = _ from if_pos below',
        show standard.loop len (rounds + 1) cursor p = _ from if_pos below]
      refine .same_bind _ fun code s₁ readType => ?_
      obtain ⟨_ | ⟨first, bytes⟩, seen⟩ := s
      · cases readType
      cases readType
      refine .same_bind _ fun type s₂ isType => ?_
      obtain ⟨named, rfl⟩ := of_run_ofExcept isType
      refine .same_bind _ fun _ s₃ expected => ?_
      obtain ⟨-, rfl⟩ := of_run_ofExcept expected
      refine .same_bind _ fun read s₄ readValue => ?_
      obtain ⟨value, size⟩ := read
      obtain ⟨-, field, split, reads, -⟩ := type.kind.takes _ _ _ readValue
      obtain ⟨seen', ran⟩ := reads s₄.unread []
      have later : orderlyProperties rounds (left - size) (ahead + table.extra type) s₄.unread = true := by
        rw [← (show bytes = field ++ s₄.unread from split)] at ran
        dsimp only at later
        rw [named] at later
        dsimp only at later
        rw [ran] at later
        exact later
      have moved : cursor + ahead + 1 + (size + table.extra type) =
          cursor + 1 + size + (ahead + table.extra type) := by omega
      have behind : left - size = len - (cursor + 1 + size) := by omega
      rw [behind] at later
      rcases store_agrees aliased type value with ⟨same, fine⟩ | refused
      · show Agree _ ((ofExcept (PublishProperties.store p type value) >>= _ : FrameReader _).run _)
          ((ofExcept (storeStandard p type value) >>= _ : FrameReader _).run _)
        rw [← same]
        refine .same_bind _ fun q s₅ stored => ?_
        obtain ⟨kept, rfl⟩ := of_run_ofExcept stored
        show Agree _ ((table.loop len rounds
          (cursor + ahead + 1 + (size + table.extra type)) q).run _) _
        rw [moved]
        exact ih (fine q kept) later
      · refine .inr ⟨s₄, ?_⟩
        show (ofExcept (PublishProperties.store p type value) >>= _ : FrameReader _).run _ = _
        rw [refused]
        rfl
    · rw [show table.loop len (rounds + 1) (cursor + ahead) p = pure p from if_neg (by omega),
        show standard.loop len (rounds + 1) cursor p = pure p from if_neg below]
      exact .refl fun q t ran => by cases ran; exact aliased

theorem run_peekLength (s : Input (List Block)) : (peekLength : FrameReader (Nat × Nat)).run s =
    .ok ((length s.unread).mapError ofPrimitive, s) := by
  refine (run_peek_bind _ _).trans ?_
  cases length s.unread with
  | ok read => rfl
  | error error => rfl

theorem of_run_peekLength {s t : Input (List Block)} {read : Nat × Nat}
    (ran : (peekLength : FrameReader (Nat × Nat)).run s = .ok (.ok read, t)) :
    length s.unread = .ok read ∧ s = t := by
  rw [run_peekLength] at ran
  cases found : length s.unread with
  | error error =>
    rw [found] at ran
    cases ran
  | ok other =>
    rw [found] at ran
    cases ran
    exact ⟨rfl, rfl⟩

/-- The reader of the block. -/
theorem agree_block {s : Input (List Block)} (orderly : OrderlyBlock s.unread) :
    Agree (fun properties => ∀ p ∈ properties, Aliased p) (PublishProperties.table.read.run s)
      (standard.read.run s) := by
  refine .same_bind _ fun found s₁ ahead => ?_
  obtain ⟨known, rfl⟩ := of_run_peekLength ahead
  obtain ⟨lenLen, len⟩ := found
  unfold OrderlyBlock at orderly
  rw [known] at orderly
  have skipped : (advance lenLen : FrameReader Unit).run s =
      .ok (.ok (), { s with unread := s.unread.drop lenLen }) := if_pos (length_bounds known).2
  refine .same_bind _ fun _ s₂ moved => ?_
  rw [skipped] at moved
  cases moved
  refine .same_bind _ fun bytes s₃ peeked => ?_
  cases peeked
  dsimp only
  split
  · exact .refl fun properties t ran => by
      cases ran
      rintro p ⟨⟩
  · have looped : Agree Aliased
        ((table.loop len len (0 + 0) {}).run { s with unread := s.unread.drop lenLen })
        ((standard.loop len len 0 {}).run { s with unread := s.unread.drop lenLen }) :=
      agree_loop (by intro zero; cases zero) orderly
    refine Agree.bind looped fun p t b u fine ran => ?_
    cases ran
    rintro q ⟨⟩
    exact fine

theorem qos_zero (byte1 : Fin 256) (level : QoS) :
    qos ((UInt8.ofNat byte1 &&& 0x06) >>> 1) = some level →
      (level = .atMostOnce ↔ UInt8.ofNat byte1 &&& 0x06 = 0) := by
  revert byte1 level
  decide +kernel

theorem qosLevel_zero {byte1 : UInt8} {level : QoS}
    (read : (qosLevel ((byte1 &&& 0x06) >>> 1)).mapError (fun _ => Error.malformedPacket) =
      .ok level) :
    level = .atMostOnce ↔ byte1 &&& 0x06 = 0 := by
  have named : qos ((byte1 &&& 0x06) >>> 1) = some level := by
    unfold qosLevel at read
    split at read
    · rename_i other known
      rw [known, Except.ok.inj read]
    · cases read
  have same : UInt8.ofNat byte1.toNat = byte1 := by simp
  have zero := qos_zero ⟨byte1.toNat, byte1.toNat_lt⟩ level
  rw [same] at zero
  exact zero named

/-- The topic takes the bytes that its length announces. -/
theorem unread_mqttBytes {s t : Input (List Block)} {topic : Bytes}
    (ran : (readMqttBytes : FrameReader Bytes).run s = .ok (.ok topic, t)) :
    t.unread = s.unread.drop (2 + (256 * (s.unread.getD 0 0).toNat + (s.unread.getD 1 0).toNat)) := by
  obtain ⟨len, u, readLen, ran⟩ := of_run_bind ran
  obtain ⟨_, _, peeked, readLen⟩ := of_run_bind readLen
  cases peeked
  obtain ⟨_, _, checked, readLen⟩ := of_run_bind readLen
  obtain ⟨enough, rfl⟩ := of_run_failIf checked
  obtain ⟨_ | ⟨high, _ | ⟨low, rest⟩⟩, seen⟩ := s
  · exact absurd (by simp) enough
  · exact absurd (by simp) enough
  · cases readLen
    obtain ⟨_, _, peeked, ran⟩ := of_run_bind ran
    cases peeked
    obtain ⟨_, _, checked, ran⟩ := of_run_bind ran
    obtain ⟨there, rfl⟩ := of_run_failIf checked
    have size : (u16OfBytes high low).toNat = 256 * high.toNat + low.toNat := by
      have := high.toNat_lt
      have := low.toNat_lt
      show (high.toNat * 256 + low.toNat) % 65536 = _
      omega
    change (if (u16OfBytes high low).toNat ≤ rest.length then _ else _) = _ at ran
    rw [if_pos (by simpa using there)] at ran
    cases ran
    rw [size, Nat.add_comm 2]
    rfl

theorem unread_pkid {s t : Input (List Block)} {qos : QoS} {pkid : PacketId}
    (acknowledged : qos ≠ .atMostOnce) (ran : (Publish.readPkid qos).run s = .ok (.ok pkid, t)) :
    t.unread = s.unread.drop 2 := by
  have ran : (readU16 : FrameReader UInt16).run s = .ok (.ok pkid, t) := by
    cases qos with
    | atMostOnce => exact absurd rfl acknowledged
    | atLeastOnce | exactlyOnce => exact ran
  obtain ⟨-, bytes, split, -, size⟩ := takes_u16 _ _ _ ran
  rw [split, ← size, List.drop_left]

/-- The properties of a PUBLISH are behind its fields. -/
theorem unread_fields {header : FixedHeader} {frame topic : Bytes} {qos : QoS} {pkid : PacketId}
    {s₁ s₂ s₃ : Input (List Block)}
    (read : (qosLevel ((header.byte1 &&& 0x06) >>> 1)).mapError (fun _ => Error.malformedPacket) =
      .ok qos)
    (body : s₁.unread = frame.drop header.headerLen)
    (readTopic : (readMqttBytes : FrameReader Bytes).run s₁ = .ok (.ok topic, s₂))
    (readId : (Publish.readPkid qos).run s₂ = .ok (.ok pkid, s₃)) :
    s₃.unread = (frame.drop header.headerLen).drop
      (publishFieldsLen header (frame.drop header.headerLen)) := by
  have behind := unread_mqttBytes readTopic
  rw [body] at behind
  unfold publishFieldsLen
  rw [← List.drop_drop, ← behind]
  by_cases zero : qos = .atMostOnce
  · rw [if_pos ((qosLevel_zero read).mp zero)]
    subst zero
    cases readId
    rfl
  · rw [if_neg (mt (qosLevel_zero read).mpr zero)]
    exact unread_pkid zero readId

/-- **Over an orderly frame the readers agree.** -/
theorem agree_publish {header : FixedHeader} {frame : Bytes} (orderly : OrderlyPublish header frame) :
    Agree (fun publish : Publish => publish.properties.bind topicAlias ≠ some 0)
      ((Publish.read header).run ⟨frame, []⟩) ((Publish.readStandard header).run ⟨frame, []⟩) := by
  refine .same_bind _ fun qos s₁ level => ?_
  obtain ⟨read, rfl⟩ := of_run_ofExcept level
  refine .same_bind _ fun _ s₂ checked => ?_
  obtain ⟨-, rfl⟩ := of_run_failIf checked
  refine .same_bind _ fun _ s₃ moved => ?_
  have body : s₃.unread = frame.drop header.headerLen := by
    change (if header.headerLen ≤ frame.length then _ else _) = _ at moved
    split at moved
    · cases moved
      rfl
    · cases moved
  refine .same_bind _ fun topic s₄ readTopic => ?_
  refine .same_bind _ fun _ s₅ valid => ?_
  obtain ⟨-, rfl⟩ := of_run_ofExcept valid
  refine .same_bind _ fun pkid s₆ readId => ?_
  have ahead := unread_fields read body readTopic readId
  refine .same_bind _ fun _ s₇ checked => ?_
  obtain ⟨-, rfl⟩ := of_run_failIf checked
  refine Agree.bind (agree_block (by rw [ahead]; exact orderly)) ?_
  intro properties t publish u fine ran
  cases ran
  cases properties with
  | none => rintro ⟨⟩
  | some p => exact fine p rfl

end Rumqtt.V5
