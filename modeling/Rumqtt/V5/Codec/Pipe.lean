/-
**MQTT 5 packets through a connection.**

One side hands its packets to `Codec::encode`, which appends a frame to the write buffer or leaves
the buffer as it was. The other side calls `Codec::decode` whenever bytes have arrived.

* `encode_exact` is what one packet does to the buffer.
* `packets_delivered` puts both ends together: the packets that were accepted come out, in their
  order and with nothing else, however their bytes are cut.
* `stream_decoded` is about bytes of any origin.
-/

import Rumqtt.V5.Codec.RoundTrip
import Rumqtt.V5.Codec.Stream

namespace Rumqtt.V5

open Mqttbytes Handler

/-! ### The sender -/

/-- `Codec::encode` -/
def encode (maxOutgoingSize : Option UInt32) (item : Packet) : FrameWriter Unit := do
  let _ ← item.write maxOutgoingSize
  return ()

/-- Hands packets to `encode` one after another. Returns those it accepted, and the buffer. -/
def encodeAll (maxOutgoingSize : Option UInt32) :
    List Packet → Bytes → Checked (List Packet × Bytes)
  | [], buffer => .ok ([], buffer)
  | item :: items, buffer =>
    match (encode maxOutgoingSize item).run buffer with
    | .ok (.ok _, dst) =>
      match encodeAll maxOutgoingSize items dst with
      | .ok (accepted, out) => .ok (item :: accepted, out)
      | .error panic => .error panic
    | .ok (.error _, dst) => encodeAll maxOutgoingSize items dst
    | .error panic => .error panic

variable {packet : Packet} (maxSize limit : Option UInt32)

theorem encode_cases (encodable : packet.Encodable) :
    (∃ error, ∀ buffer, (encode maxSize packet).run buffer = .ok (.error error, buffer)) ∨
      ∃ frame, exceeded maxSize packet.size = none ∧ packet.Written frame.length frame ∧
        ∀ buffer, (encode maxSize packet).run buffer = .ok (.ok (), buffer ++ frame) := by
  cases surplus : exceeded maxSize packet.size with
  | some max =>
    refine .inl ⟨.outgoingPacketTooLarge (Packet.saturated packet.size) max, fun buffer => ?_⟩
    refine run_bind_error ?_
    unfold Packet.write
    rw [surplus]
    have failed : ∀ error, (fail error : FrameWriter Nat) buffer = .ok (.error error, buffer) :=
      fun _ => rfl
    refine (Writer.transactional_error (failed _)).trans ?_
    rw [List.take_length]
  | none =>
    have same : packet.write maxSize = Writer.transactional packet.writePacket := by
      unfold Packet.write
      rw [surplus]
    rcases (Packet.writes_packet packet encodable).transactional_cases with
      ⟨error, fails⟩ | ⟨n, frame, written, appends⟩
    · exact .inl ⟨error, fun buffer => run_bind_error (same ▸ fails buffer)⟩
    · refine .inr ⟨frame, rfl, written.1 ▸ written, fun buffer => ?_⟩
      exact run_bind_ok (same ▸ appends buffer)

/-- **Encoding a packet is all or nothing.** Nothing panics. After an error the buffer is as it was,
and otherwise it has grown by one frame: a first byte, the length of the body in as few bytes as it
takes, and the body. Its size is the one announced by `size`, which the maximum allows. -/
theorem encode_exact (packet : Packet) (encodable : packet.Encodable) (buffer : Bytes) :
    (∃ error, (encode maxSize packet).run buffer = .ok (.error error, buffer)) ∨ ∃ byte1 field body,
        (encode maxSize packet).run buffer = .ok (.ok (), buffer ++ byte1 :: (field ++ body)) ∧
        IsLength body.length field ∧ field.length = lenLen body.length ∧
        packet.size = 1 + field.length + body.length ∧ exceeded maxSize packet.size = none := by
  rcases encode_cases maxSize encodable with ⟨error, fails⟩ | ⟨frame, within, written, appends⟩
  · exact .inl ⟨error, fails buffer⟩
  · obtain ⟨_, size, byte1, body, _, framed⟩ := written
    obtain ⟨field, rfl, short, length⟩ := framed.frame
    refine .inr ⟨byte1, field, body, appends buffer, length, short, ?_, within⟩
    rw [← size, List.length_cons, List.length_append]
    omega

/-- A QoS 1 publish with a property. -/
def expiringPublish : Publish :=
  ⟨false, .atLeastOnce, true, [97], 7, [1, 2], some { messageExpiryInterval := some 60 }⟩

theorem encode_exact_publish :
    (encode (some 15) (.publish expiringPublish)).run [7] = .ok (.ok (),
        [7, 51, 13, 0, 1, 97, 0, 7, 5, 2, 0, 0, 0, 60, 1, 2]) ∧
      ∃ byte1 field body,
        (encode (some 15) (.publish expiringPublish)).run [7] =
          .ok (.ok (), [7] ++ byte1 :: (field ++ body)) ∧
        IsLength body.length field ∧ field.length = lenLen body.length ∧
        (Packet.publish expiringPublish).size = 1 + field.length + body.length ∧
        exceeded (some 15) (Packet.publish expiringPublish).size = none := by
  have wrote : (encode (some 15) (.publish expiringPublish)).run [7] = .ok (.ok (),
      [7, 51, 13, 0, 1, 97, 0, 7, 5, 2, 0, 0, 0, 60, 1, 2]) := rfl
  refine ⟨wrote, (encode_exact (some 15) (.publish expiringPublish) trivial [7]).resolve_left ?_⟩
  rintro ⟨error, fails⟩
  cases wrote.symm.trans fails

/-! ### The receiver -/

/-- A packet that can be read back is the item of the frame it was written as. -/
theorem frameOf_written {frame : Bytes} (normal : packet.Normal) (recoverable : packet.Recoverable)
    (written : packet.Written frame.length frame) (fits : exceeded limit packet.size = none) :
    Framing.FrameOf (decode limit) packet frame := by
  obtain ⟨_, size, byte1, body, _, framed⟩ := written
  obtain ⟨_, ran⟩ := framed.returned normal recoverable
  rw [← size, framed.frame.hasHeader.length] at fits
  intro others
  exact decode_of_read (Packet.run_read framed.frame.hasHeader fits (framed.run ran) others)

/-- **What is sent is what is received.** Any packets are handed to `encode`. The bytes of those it
accepts, cut in any way, are decoded to exactly these packets, in their order and without an error,
if the receiver has no smaller limit. -/
theorem packets_delivered (packets : List Packet)
    (readable : ∀ packet ∈ packets,
      packet.Normal ∧ packet.Recoverable ∧ exceeded limit packet.size = none) :
    ∃ accepted out, encodeAll maxSize packets [] = .ok (accepted, out) ∧
      accepted.Sublist packets ∧ (∀ packet ∈ accepted, exceeded maxSize packet.size = none) ∧
      out.length = (accepted.map Packet.size).sum ∧
      ∀ chunks : List Bytes, chunks.flatten = out →
        Decoder.feed (decode limit) chunks [] = .ok (accepted, none) := by
  have sent : ∀ buffer, ∃ accepted frames,
      encodeAll maxSize packets buffer = .ok (accepted, buffer ++ frames.flatten) ∧
      accepted.Sublist packets ∧ (∀ packet ∈ accepted, exceeded maxSize packet.size = none) ∧
      frames.flatten.length = (accepted.map Packet.size).sum ∧
      List.Forall₂ (Framing.FrameOf (decode limit)) accepted frames := by
    induction packets with
    | nil => exact fun buffer => ⟨[], [], by simp [encodeAll], .slnil, by simp, rfl, .nil⟩
    | cons packet packets ih =>
      obtain ⟨⟨normal, recoverable, fits⟩, others⟩ := List.forall_mem_cons.mp readable
      intro buffer
      unfold encodeAll
      rcases encode_cases maxSize normal.encodable with
        ⟨error, fails⟩ | ⟨frame, within, written, appends⟩
      · obtain ⟨accepted, frames, ran, kept, rest⟩ := ih others buffer
        rw [fails buffer]
        exact ⟨accepted, frames, ran, kept.cons _, rest⟩
      · obtain ⟨accepted, frames, ran, kept, allowed, size, framed⟩ := ih others (buffer ++ frame)
        rw [appends buffer]
        dsimp only
        rw [ran]
        refine ⟨packet :: accepted, frame :: frames, ?_, kept.cons_cons _, ?_, ?_, ?_⟩
        · rw [List.flatten_cons, List.append_assoc]
        · exact List.forall_mem_cons.mpr ⟨within, allowed⟩
        · rw [List.flatten_cons, List.length_append, size, written.2.1]
          rfl
        · exact .cons (frameOf_written limit normal recoverable written fits) framed
  obtain ⟨accepted, frames, ran, kept, allowed, size, framed⟩ := sent []
  exact ⟨accepted, frames.flatten, ran, kept, allowed, size,
    fun chunks same => framing.feed_frames framed rfl same⟩

/-- Three packets; the chunks end inside the first frame and inside the second. -/
theorem packets_delivered_chunks :
    encodeAll none [.pingReq, .publish expiringPublish, .pubAck { pkid := 7 }] [] =
      .ok ([.pingReq, .publish expiringPublish, .pubAck { pkid := 7 }],
        [192, 0, 51, 13, 0, 1, 97, 0, 7, 5, 2, 0, 0, 0, 60, 1, 2, 64, 2, 0, 7]) ∧
    Decoder.feed (decode none)
        [[192], [0, 51, 13, 0, 1], [97, 0, 7, 5, 2, 0, 0, 0, 60, 1, 2, 64, 2, 0, 7]] [] =
      .ok ([.pingReq, .publish expiringPublish, .pubAck { pkid := 7 }], none) := by
  have wrote : encodeAll none [.pingReq, .publish expiringPublish, .pubAck { pkid := 7 }] [] =
      .ok ([.pingReq, .publish expiringPublish, .pubAck { pkid := 7 }],
        [192, 0, 51, 13, 0, 1, 97, 0, 7, 5, 2, 0, 0, 0, 60, 1, 2, 64, 2, 0, 7]) := rfl
  have readable : ∀ packet ∈ [Packet.pingReq, .publish expiringPublish, .pubAck { pkid := 7 }],
      packet.Normal ∧ packet.Recoverable ∧ exceeded none packet.size = none := by
    refine List.forall_mem_cons.mpr ⟨⟨trivial, trivial, rfl⟩, List.forall_mem_cons.mpr
      ⟨⟨⟨nofun, by decide⟩, ?_, rfl⟩, List.forall_mem_singleton.mpr ⟨nofun, trivial, rfl⟩⟩⟩
    rintro properties ⟨⟩
    trivial
  obtain ⟨accepted, out, ran, _, _, _, fed⟩ := packets_delivered none none _ readable
  cases wrote.symm.trans ran
  exact ⟨wrote, fed _ rfl⟩

/-- **Any bytes are decoded.** Nothing panics, and the bytes are the frames of the decoded packets,
one behind the other, up to the point where `decode` waits or fails. Each frame alone is decoded to
its packet. -/
theorem stream_decoded (stream : Bytes) :
    ∃ decoded frames last, Decoder.decodeAll (decode limit) stream = .ok decoded ∧
      stream = frames.flatten ++ last ∧
      List.Forall₂ (fun packet frame => (decode limit).run frame = .ok (.ok (some packet), []))
        decoded.items frames ∧
      (decode limit).run last =
        .ok (decoded.error.elim (.ok none) .error, decoded.rest) := by
  obtain ⟨decoded, frames, last, drained, framed, split, stops⟩ :=
    (framing : Framing (decode limit) (ahead limit)).drain_frames (Nat.lt_succ_self stream.length)
  refine ⟨decoded, frames, last, drained, split, framed.imp fun packet frame decides => ?_, stops⟩
  have alone := decides []
  rwa [List.append_nil] at alone

end Rumqtt.V5
