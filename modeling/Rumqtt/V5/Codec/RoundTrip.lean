/-
**The round trip of the MQTT 5 codec.**

`Packet.writes` puts the laws of the packets together: whatever `Packet::write` writes is one frame of
the announced size. `codec_round_trip` says when a packet in normal form is read back from it:

* a PUBLISH when the reader of its properties gets to all of them (`PublishProperties.Recoverable`);
* a CONNECT and a CONNACK when their receive maximum is not zero;
* every other packet always.
-/

import Rumqtt.V5.Codec.PacketLaws
import Rumqtt.V5.Codec.Untrusted

namespace Rumqtt.V5

open Mqttbytes

namespace Packet

variable {out : Bytes} {packet : Packet}

/-- **Normal form**: a property set that is there is not empty, a publish of QoS 0 has the identifier
zero, and a code is the one that its byte is read as. -/
def Normal : Packet → Prop
  | .connect c will _ => c.properties ≠ some {} ∧ ∀ w ∈ will, w.properties ≠ some {}
  | .connAck ack => (∃ byte, connectCode ack.code = .ok byte) ∧ ack.properties ≠ some {}
  | .publish p => (p.qos = .atMostOnce → p.pkid = 0) ∧ p.properties ≠ some {}
  | .pubAck ack => ack.properties ≠ some {}
  | .pubRec ack => ack.properties ≠ some {}
  | .pubRel ack => ack.properties ≠ some {}
  | .pubComp ack => ack.properties ≠ some {}
  | .subscribe s => s.properties ≠ some { id := none, userProperties := [] }
  | .subAck ack => (∀ code ∈ ack.returnCodes, code ≠ .failure) ∧ ack.properties ≠ some {}
  | .unsubscribe u => u.properties ≠ some { userProperties := [] }
  | .unsubAck ack => ack.properties ≠ some {}
  | .disconnect d => d.properties ≠ some {}
  | .auth a => a.properties ≠ some {}
  | .pingReq | .pingResp => True

/-- **What was written can be read**: the loop over the properties of a PUBLISH gets to the last of
them, and a receive maximum is not zero. -/
def Recoverable : Packet → Prop
  | .publish p => ∀ q ∈ p.properties, q.Recoverable
  | .connect c _ _ => ∀ q ∈ c.properties, q.receiveMaximum ≠ some 0
  | .connAck ack => ∀ q ∈ ack.properties, q.receiveMax ≠ some 0
  | _ => True

/-- The CONNACK codes that version 5 has a byte for. -/
def Encodable : Packet → Prop
  | .connAck ack => ∃ byte, connectCode ack.code = .ok byte
  | _ => True

/-- The frame of a packet is handed to the reader of its type, which returns the packet if it is
recoverable and something else if it is not. -/
structure Framed (packet : Packet) (byte1 : UInt8) (body out : Bytes) (type : PacketType) : Prop where
  frame : IsFrame byte1 body out
  type_eq : packetType (headerOf byte1 body) = .ok type
  flags : validateFixedHeaderFlags type byte1 = .ok ()
  returned : packet.Normal → packet.Recoverable → ∃ t,
    (readFrame (headerOf byte1 body) type).run ⟨out, []⟩ = .ok (.ok packet, t)
  lost : packet.Normal → ¬ packet.Recoverable → ∃ result t,
    (readFrame (headerOf byte1 body) type).run ⟨out, []⟩ = .ok (result, t) ∧ result ≠ .ok packet

theorem body_ne_nil {byte1 : UInt8} {body : Bytes} {len : Nat} (frame : IsFrame byte1 body out)
    (size : out.length = frameSize len) (some_ : 0 < len) :
    ¬ (headerOf byte1 body).remainingLen = 0 := by
  intro zero
  have empty : body.length = 0 := zero
  have long := lenLen_pos len
  rw [frame.length, empty] at size
  unfold frameSize at size
  rw [show lenLen 0 = 1 from rfl] at size
  omega

/-- A frame whose reader returns what was written. -/
theorem Framed.of_reads {byte1 : UInt8} {body : Bytes} {type : PacketType}
    (frame : IsFrame byte1 body out) (type_eq : packetType (headerOf byte1 body) = .ok type)
    (flags : validateFixedHeaderFlags type byte1 = .ok ()) (recoverable : packet.Recoverable)
    (returned : packet.Normal → ∃ t,
      (readFrame (headerOf byte1 body) type).run ⟨out, []⟩ = .ok (.ok packet, t)) :
    packet.Framed byte1 body out type where
  frame := frame
  type_eq := type_eq
  flags := flags
  returned normal _ := returned normal
  lost _ lost := absurd recoverable lost

theorem readsAll_run {reader : FrameReader Packet}
    (reads : ReadsAll reader out packet) : ∃ t, reader.run ⟨out, []⟩ = .ok (.ok packet, t) := by
  obtain ⟨seen', ran⟩ := reads []
  exact ⟨_, ran⟩

theorem refuses_run {reader : FrameReader Packet} (refuses : Refuses reader out) :
    ∃ result t, reader.run ⟨out, []⟩ = .ok (result, t) ∧ result ≠ .ok packet := by
  obtain ⟨error, t, ran⟩ := refuses [] []
  rw [List.append_nil] at ran
  exact ⟨.error error, t, ran, nofun⟩

end Packet

namespace Publish

theorem type_flags (publish : Publish) (body : Bytes) :
    packetType (headerOf publish.byte1 body) = .ok .publish ∧
      validateFixedHeaderFlags .publish publish.byte1 = .ok () := by
  refine ⟨(packetType_headerOf _ _).trans ?_, rfl⟩
  show packetType (headerOf publish.byte1 []) = _
  unfold byte1
  generalize publish.qos = qos
  generalize publish.dup = dup
  generalize publish.retain = retain
  cases qos <;> cases dup <;> cases retain <;> rfl

end Publish

namespace Packet

variable {packet : Packet} {type : PacketType}

/-- What a writer of the packet owes: a frame of the computed size. -/
def Written (packet : Packet) (n : Nat) (out : Bytes) : Prop :=
  n = out.length ∧ n = packet.size ∧ ∃ byte1 body type, packet.Framed byte1 body out type

theorem writes_publish (p : Publish) : Writes p.write (Packet.publish p).Written := by
  refine p.writes.mono ?_
  rintro n out ⟨size, rfl, body, frame, readBack⟩
  obtain ⟨type, flags⟩ := p.type_flags body
  have some_ : 0 < p.len := by
    unfold Publish.len
    omega
  have handed : readFrame (headerOf p.byte1 body) .publish = do
      let packet ← Publish.read (headerOf p.byte1 body)
      return .publish packet := if_neg (body_ne_nil frame size.symm some_)
  refine ⟨size, rfl, p.byte1, body, .publish, frame, type, flags, ?_, ?_⟩
  · rintro ⟨normal, present⟩ recoverable
    rw [handed]
    exact readsAll_run (((readBack normal present).1 recoverable).wrap rfl)
  · rintro ⟨normal, present⟩ lost
    have unreached : ∃ q ∈ p.properties, ¬ q.Recoverable := by
      simpa only [Recoverable, not_forall, exists_prop] using lost
    obtain ⟨other, different, reads⟩ := (readBack normal present).2 unreached
    obtain ⟨seen', ran⟩ := reads []
    refine ⟨.ok (.publish other), ⟨[], seen'⟩, ?_, fun same => different ?_⟩
    · rw [handed]
      exact Handler.run_bind_ok ran
    · injection same with same
      injection same

theorem writes_connect (c : Connect) (will : Option LastWill) (login : ConnectAuth) :
    Writes (c.write will login) (Packet.connect c will login).Written := by
  refine (c.writes will login).mono ?_
  rintro n out ⟨size, rfl, body, frame, readBack⟩
  have some_ : 0 < c.len will login := by
    unfold Connect.len
    omega
  have handed : readFrame (headerOf 0x10 body) .connect = do
      let found ← Connect.read (headerOf 0x10 body)
      return .connect found.1 found.2.1 found.2.2 := if_neg (body_ne_nil frame size.symm some_)
  refine ⟨size, rfl, 0x10, body, .connect, frame, packetType_headerOf _ _, rfl, ?_, ?_⟩
  · rintro ⟨present, willPresent⟩ recoverable
    rw [handed]
    exact readsAll_run (((readBack present willPresent).1 recoverable).wrap rfl)
  · rintro ⟨present, willPresent⟩ lost
    have zero : ∃ q ∈ c.properties, ¬ q.receiveMaximum ≠ some 0 := by
      simpa only [Recoverable, not_forall, exists_prop] using lost
    rw [handed]
    exact refuses_run ((readBack present willPresent).2 zero).bind

theorem writes_connAck (ack : ConnAck) {code : UInt8} (known : connectCode ack.code = .ok code) :
    Writes ack.write (Packet.connAck ack).Written := by
  refine (ack.writes known).mono ?_
  rintro n out ⟨size, rfl, body, frame, readBack⟩
  have some_ : 0 < ack.len := by
    unfold ConnAck.len
    omega
  have handed : readFrame (headerOf 0x20 body) .connAck = do
      let packet ← ConnAck.read (headerOf 0x20 body)
      return .connAck packet := if_neg (body_ne_nil frame size.symm some_)
  refine ⟨size, rfl, 0x20, body, .connAck, frame, packetType_headerOf _ _, rfl, ?_, ?_⟩
  · rintro ⟨_, present⟩ recoverable
    rw [handed]
    exact readsAll_run (((readBack present).1 recoverable).wrap rfl)
  · rintro ⟨_, present⟩ lost
    have zero : ∃ q ∈ ack.properties, ¬ q.receiveMax ≠ some 0 := by
      simpa only [Recoverable, not_forall, exists_prop] using lost
    rw [handed]
    exact refuses_run ((readBack present).2 zero).bind

/-- A packet whose frame has a body that its reader always returns. -/
theorem Written.of_body {byte1 : UInt8} {len : Nat}
    {out body : Bytes} (some_ : 0 < len) (announced : packet.size = frameSize len)
    (size : frameSize len = out.length) (frame : IsFrame byte1 body out)
    (type_eq : packetType (headerOf byte1 []) = .ok type)
    (flags : validateFixedHeaderFlags type byte1 = .ok ()) (recoverable : packet.Recoverable)
    (reads : packet.Normal → ¬ (headerOf byte1 body).remainingLen = 0 →
      ReadsAll (readFrame (headerOf byte1 body) type) out packet) :
    packet.Written (frameSize len) out := by
  refine ⟨size, announced.symm, byte1, body, type, ?_⟩
  refine .of_reads frame ((packetType_headerOf _ _).trans type_eq) flags recoverable fun normal => ?_
  exact readsAll_run (reads normal (body_ne_nil frame size.symm some_))

theorem writes_ack {Reason : Type} [DecidableEq Reason] (kind : AckKind Reason)
    (inverse : ∀ reason, kind.reason (kind.code reason) = .ok reason) {pkid : PacketId}
    {reason : Reason} {properties : Option AckProperties}
    (announced : packet.size = frameSize (kind.len reason properties))
    (type_eq : packetType (headerOf kind.byte1 []) = .ok type)
    (flags : validateFixedHeaderFlags type kind.byte1 = .ok ()) (recoverable : packet.Recoverable)
    (normal : packet.Normal → properties ≠ some {})
    (handed : ∀ (header : FixedHeader) (out : Bytes), ¬ header.remainingLen = 0 →
      ReadsAll (kind.read header) out (pkid, reason, properties) →
        ReadsAll (readFrame header type) out packet) :
    Writes (kind.write pkid reason properties) packet.Written := by
  refine (AckKind.writes inverse pkid reason properties).mono ?_
  rintro n out ⟨size, rfl, body, frame, reads⟩
  have some_ : 0 < kind.len reason properties := by
    unfold AckKind.len
    split_ifs
    · exact Nat.two_pos
    · omega
  refine .of_body some_ announced size frame type_eq flags recoverable fun present nonempty => ?_
  exact handed _ _ nonempty (reads (normal present))

theorem writes_pubAck (ack : PubAck) : Writes ack.write (Packet.pubAck ack).Written := by
  refine writes_ack PubAck.kind pubAckReason_code (PubAck.kind.size_eq _ _) rfl rfl trivial id
    fun header out nonempty reads => ?_
  unfold readFrame
  rw [if_neg nonempty]
  exact (reads.wrap rfl : ReadsAll (PubAck.read header) out ack).wrap rfl

theorem writes_pubRec (pubrec : PubRec) : Writes pubrec.write (Packet.pubRec pubrec).Written := by
  refine writes_ack PubRec.kind pubAckReason_code rfl rfl rfl trivial id
    fun header out nonempty reads => ?_
  unfold readFrame
  rw [if_neg nonempty]
  exact (reads.wrap rfl : ReadsAll (PubRec.read header) out pubrec).wrap rfl

theorem writes_pubRel (pubrel : PubRel) : Writes pubrel.write (Packet.pubRel pubrel).Written := by
  refine writes_ack PubRel.kind pubRelReason_code (PubRel.kind.size_eq _ _) rfl rfl trivial id
    fun header out nonempty reads => ?_
  unfold readFrame
  rw [if_neg nonempty]
  exact (reads.wrap rfl : ReadsAll (PubRel.read header) out pubrel).wrap rfl

theorem writes_pubComp (pubcomp : PubComp) :
    Writes pubcomp.write (Packet.pubComp pubcomp).Written := by
  refine writes_ack PubComp.kind pubRelReason_code (PubComp.kind.size_eq _ _) rfl rfl trivial id
    fun header out nonempty reads => ?_
  unfold readFrame
  rw [if_neg nonempty]
  exact (reads.wrap rfl : ReadsAll (PubComp.read header) out pubcomp).wrap rfl

theorem writes_subAck (suback : SubAck) : Writes suback.write (Packet.subAck suback).Written := by
  refine (CodesKind.writes suback.pkid suback.returnCodes suback.properties).mono ?_
  rintro n out ⟨size, rfl, body, frame, reads⟩
  have some_ : 0 < CodesKind.len suback.returnCodes suback.properties := by
    unfold CodesKind.len
    omega
  refine .of_body some_ rfl size frame rfl rfl trivial fun ⟨codes, present⟩ nonempty => ?_
  unfold readFrame
  rw [if_neg nonempty]
  have returned := reads (fun code member => subscribeReason_code (codes code member)) present
  exact (returned.wrap rfl : ReadsAll (SubAck.read _) out suback).wrap rfl

theorem writes_unsubAck (unsuback : UnsubAck) :
    Writes unsuback.write (Packet.unsubAck unsuback).Written := by
  refine (CodesKind.writes unsuback.pkid unsuback.reasons unsuback.properties).mono ?_
  rintro n out ⟨size, rfl, body, frame, reads⟩
  have some_ : 0 < CodesKind.len unsuback.reasons unsuback.properties := by
    unfold CodesKind.len
    omega
  refine .of_body some_ rfl size frame rfl rfl trivial fun present nonempty => ?_
  unfold readFrame
  rw [if_neg nonempty]
  have returned := reads (fun code _ => unsubAckReason_code code) present
  exact (returned.wrap rfl : ReadsAll (UnsubAck.read _) out unsuback).wrap rfl

theorem writes_subscribe (s : Subscribe) : Writes s.write (Packet.subscribe s).Written := by
  refine s.writes.mono ?_
  rintro n out ⟨size, rfl, body, frame, reads⟩
  have some_ : 0 < s.len := by
    unfold Subscribe.len
    omega
  refine .of_body some_ rfl size frame rfl rfl trivial fun present nonempty => ?_
  unfold readFrame
  rw [if_neg nonempty]
  exact (reads present).wrap rfl

theorem writes_unsubscribe (u : Unsubscribe) : Writes u.write (Packet.unsubscribe u).Written := by
  refine u.writes.mono ?_
  rintro n out ⟨size, rfl, body, frame, reads⟩
  have some_ : 0 < u.len := by
    unfold Unsubscribe.len
    omega
  refine .of_body some_ rfl size frame rfl rfl trivial fun present nonempty => ?_
  unfold readFrame
  rw [if_neg nonempty]
  exact (reads present).wrap rfl

theorem writes_auth (a : Auth) : Writes a.write (Packet.auth a).Written := by
  refine a.writes.mono ?_
  rintro n out ⟨size, rfl, body, frame, reads⟩
  have some_ : 0 < a.len := by
    unfold Auth.len
    omega
  refine .of_body some_ rfl size frame rfl rfl trivial fun present nonempty => ?_
  unfold readFrame
  rw [if_neg nonempty]
  exact (reads present).wrap rfl

theorem writes_disconnect (d : Disconnect) : Writes d.write (Packet.disconnect d).Written := by
  refine d.writes.mono ?_
  rintro n out ⟨size, rfl, body, frame, reads⟩
  refine ⟨size, rfl, 0xE0, body, .disconnect,
    .of_reads frame (packetType_headerOf _ _) rfl trivial fun present => ?_⟩
  -- with and without a body, the frame goes to the same reader
  unfold readFrame
  refine readsAll_run ?_
  split_ifs
  · exact (reads present).wrap rfl
  · exact (reads present).wrap rfl

theorem writes_pingReq : Writes (writePing 0xC0) Packet.pingReq.Written := by
  refine (writes_ping 0xC0).mono ?_
  rintro n out ⟨size, rfl, frame⟩
  exact ⟨size, rfl, 0xC0, [], .pingReq, .of_reads frame rfl rfl trivial fun _ => ⟨_, rfl⟩⟩

theorem writes_pingResp : Writes (writePing 0xD0) Packet.pingResp.Written := by
  refine (writes_ping 0xD0).mono ?_
  rintro n out ⟨size, rfl, frame⟩
  exact ⟨size, rfl, 0xD0, [], .pingResp, .of_reads frame rfl rfl trivial fun _ => ⟨_, rfl⟩⟩

theorem writes_packet : (packet : Packet) → packet.Encodable → Writes packet.writePacket packet.Written
  | .connect c will login, _ => writes_connect c will login
  | .connAck ack, ⟨_, known⟩ => writes_connAck ack known
  | .publish p, _ => writes_publish p
  | .pubAck ack, _ => writes_pubAck ack
  | .pubRec pubrec, _ => writes_pubRec pubrec
  | .pubRel pubrel, _ => writes_pubRel pubrel
  | .pubComp pubcomp, _ => writes_pubComp pubcomp
  | .subscribe s, _ => writes_subscribe s
  | .subAck suback, _ => writes_subAck suback
  | .unsubscribe u, _ => writes_unsubscribe u
  | .unsubAck unsuback, _ => writes_unsubAck unsuback
  | .pingReq, _ => writes_pingReq
  | .pingResp, _ => writes_pingResp
  | .disconnect d, _ => writes_disconnect d
  | .auth a, _ => writes_auth a

/-- **Whatever is written is one frame of the announced size.** -/
theorem writes (packet : Packet) (encodable : packet.Encodable) (maxSize : Option UInt32) :
    Writes (packet.write maxSize) packet.Written := by
  refine Writes.transactional ?_
  cases exceeded maxSize packet.size with
  | some max => exact .fail _
  | none => exact writes_packet packet encodable

theorem Normal.encodable (normal : packet.Normal) : packet.Encodable := by
  cases packet with
  | connAck ack => exact normal.1
  | _ => trivial

theorem Framed.run {byte1 : UInt8} {body out : Bytes}
    (framed : packet.Framed byte1 body out type) {result : Except Error Packet}
    {t : Input (List Block)}
    (ran : (readFrame (headerOf byte1 body) type).run ⟨out, []⟩ = .ok (result, t)) :
    (readWhole (headerOf byte1 body)).run ⟨out, []⟩ = .ok (result, t) := by
  unfold readWhole
  rw [framed.type_eq]
  refine (Handler.run_bind_ok (a := type) rfl).trans ?_
  rw [show (headerOf byte1 body).byte1 = byte1 from rfl, framed.flags]
  exact (Handler.run_bind_ok (a := ()) rfl).trans ran

end Packet

/-- **The codec round trip, MQTT 5.** If a packet in normal form was written, then reading the bytes
returns exactly that packet and consumes them all, if and only if the packet is recoverable. -/
theorem codec_round_trip (packet : Packet) (normal : packet.Normal) (maxSize limit : Option UInt32)
    {n : Nat} {out : Bytes} (written : (packet.write maxSize).run [] = .ok (.ok n, out))
    (fits : exceeded limit out.length = none) :
    (Packet.read limit).run out = .ok (.ok packet, []) ↔ packet.Recoverable := by
  obtain ⟨result, bytes, appends, holds⟩ := packet.writes normal.encodable maxSize
  have same := (appends []).symm.trans written
  rw [List.nil_append] at same
  obtain ⟨rfl, rfl⟩ : result = .ok n ∧ bytes = out := by
    injection same with same
    injection same with first second
    exact ⟨first, second⟩
  obtain ⟨_, _, byte1, body, type, framed⟩ := holds n rfl
  have reading : ∀ {result t},
      (Packet.readFrame (headerOf byte1 body) type).run ⟨bytes, []⟩ = .ok (result, t) →
        (Packet.read limit).run bytes = .ok (result, []) := by
    intro result t ran
    rw [framed.frame.hasHeader.length] at fits
    have run := Packet.run_read framed.frame.hasHeader fits (framed.run ran) []
    rwa [List.append_nil] at run
  constructor
  · intro back
    by_contra lost
    obtain ⟨result, t, ran, different⟩ := framed.lost normal lost
    have conflict := (reading ran).symm.trans back
    injection conflict with conflict
    injection conflict with conflict
    exact different conflict
  · intro recoverable
    obtain ⟨t, ran⟩ := framed.returned normal recoverable
    exact reading ran

/-- A publish to the topic `a` that reached the client under the given subscriptions. -/
def subscribedPublish (identifiers : List Nat) (payload : Bytes) : Packet :=
  .publish {
    dup := false, qos := .atMostOnce, retain := false, topic := [97], pkid := 0, payload
    properties := some { subscriptionIdentifiers := identifiers } }

/-- With two identifiers the publish comes back. -/
theorem codec_round_trip_two_identifiers :
    (Packet.read none).run [48, 9, 0, 1, 97, 4, 11, 1, 11, 2, 9] =
      .ok (.ok (subscribedPublish [1, 2] [9]), []) := by
  have normal : (subscribedPublish [1, 2] [9]).Normal := ⟨fun _ => rfl, by decide⟩
  have written : ((subscribedPublish [1, 2] [9]).write none).run [] =
      .ok (.ok 11, [48, 9, 0, 1, 97, 4, 11, 1, 11, 2, 9]) := rfl
  refine (codec_round_trip (subscribedPublish [1, 2] [9]) normal none none written rfl).mpr ?_
  rintro q ⟨⟩
  show 2 ≤ 1 + lenLen 2
  decide

/-- **The third identifier is lost**: its bytes come back as a part of the payload. And a CONNACK with
a receive maximum of zero is written, but not read back. -/
theorem third_identifier_lost : (subscribedPublish [1, 2, 3] [9]).Normal ∧
      ((subscribedPublish [1, 2, 3] [9]).write none).run [] =
        .ok (.ok 13, [48, 11, 0, 1, 97, 6, 11, 1, 11, 2, 11, 3, 9]) ∧
      (Packet.read none).run [48, 11, 0, 1, 97, 6, 11, 1, 11, 2, 11, 3, 9] =
        .ok (.ok (subscribedPublish [1, 2] [11, 3, 9]), []) ∧
      (Packet.connAck ⟨false, .success, some { receiveMax := some 0 }⟩).Normal ∧
      ((Packet.connAck ⟨false, .success, some { receiveMax := some 0 }⟩).write none).run [] =
        .ok (.ok 8, [32, 6, 0, 0, 3, 33, 0, 0]) ∧
      (Packet.read none).run [32, 6, 0, 0, 3, 33, 0, 0] = .ok (.error .protocolError, []) := by
  refine ⟨⟨fun _ => rfl, by decide⟩, rfl, rfl, ⟨⟨0, rfl⟩, by decide⟩, rfl, rfl⟩

end Rumqtt.V5
