/-
**Decoding a stream that arrives in chunks.**

A decoder looks at the bytes that have arrived: it takes an item off the front, fails, or waits for
more. `Decoder.drain` calls it until it waits or fails, `Decoder.feed` does so after every chunk.

* A decoder is `Lawful` on a set of buffers if it waits without taking anything, and if what it
  takes and how it fails does not depend on what has not arrived yet. `Lawful.feed_eq` is the
  consequence: the items and the first error do not depend on how the stream is cut.
* `Framing` is the usual design: the front of the buffer announces a frame, and the frame decides.
  Such a decoder is lawful on the streams none of whose frames asks for more bytes than it has
  (`Framing.lawful`).
-/

import Mathlib.Data.List.Forall2
import Rumqtt.Lib.Buffer

namespace Rumqtt

open List

/-- **A decoder of a buffer**: an item, or nothing while bytes are missing. -/
abbrev Decoder (ε α : Type) := Handler ε Bytes (Option α)

/-- The items that were taken off a buffer, the error that ended it if there was one, and what is
left. -/
structure Decoded (ε α : Type) where
  items : List α
  error : Option ε
  rest : Bytes
  deriving DecidableEq, Repr

namespace Decoder

variable {ε α : Type} (decode : Decoder ε α)

/-- Takes items off a buffer, at most the given number, until the decoder waits or fails. -/
def drain : Nat → Bytes → Checked (Decoded ε α)
  | 0, buffer => .ok { items := [], error := none, rest := buffer }
  | rounds + 1, buffer =>
    match decode.run buffer with
    | .ok (.ok (some item), rest) =>
      match drain rounds rest with
      | .ok decoded => .ok { decoded with items := item :: decoded.items }
      | .error panic => .error panic
    | .ok (.ok none, rest) => .ok { items := [], error := none, rest }
    | .ok (.error error, rest) => .ok { items := [], error := some error, rest }
    | .error panic => .error panic

/-- Decodes a buffer. An item takes at least a byte, so that these rounds suffice. -/
def decodeAll (buffer : Bytes) : Checked (Decoded ε α) := decode.drain (buffer.length + 1) buffer

/-- **Decodes a stream chunk by chunk**, until it ends or the decoder fails. -/
def feed : List Bytes → Bytes → Checked (List α × Option ε)
  | [], _ => .ok ([], none)
  | chunk :: chunks, buffer =>
    match decode.decodeAll (buffer ++ chunk) with
    | .ok { items, error := some error, .. } => .ok (items, some error)
    | .ok { items, error := none, rest } =>
      match feed chunks rest with
      | .ok (more, error) => .ok (items ++ more, error)
      | .error panic => .error panic
    | .error panic => .error panic

/-- **The laws of a decoder on a set of buffers.** -/
structure Lawful (good : Bytes → Prop) : Prop where
  total : ∀ buffer, good buffer → ∃ result rest, decode.run buffer = .ok (result, rest)
  /-- It waits without taking anything. -/
  waits : ∀ buffer rest, good buffer → decode.run buffer = .ok (.ok none, rest) → rest = buffer
  /-- It takes some bytes off the front, whatever follows them. -/
  takes : ∀ buffer item rest, good buffer → decode.run buffer = .ok (.ok (some item), rest) →
    ∃ frame, frame ≠ [] ∧ buffer = frame ++ rest ∧
      ∀ others, decode.run (frame ++ others) = .ok (.ok (some item), others)
  /-- It fails whatever follows. -/
  fails : ∀ buffer error rest, good buffer → decode.run buffer = .ok (.error error, rest) →
    ∀ others, ∃ rest', decode.run (buffer ++ others) = .ok (.error error, rest')
  fewer : ∀ buffer more, good (buffer ++ more) → good buffer
  next : ∀ buffer item rest, good buffer → decode.run buffer = .ok (.ok (some item), rest) →
    good rest

namespace Lawful

variable {decode} {good : Bytes → Prop} (lawful : decode.Lawful good)

include lawful

/-- The number of rounds does not matter once there are more of them than bytes. -/
theorem drain_rounds {rounds others : Nat} {buffer : Bytes} (fine : good buffer)
    (enough : buffer.length < rounds) (enough' : buffer.length < others) :
    decode.drain rounds buffer = decode.drain others buffer := by
  induction rounds generalizing others buffer with
  | zero => omega
  | succ rounds ih =>
    obtain ⟨others, rfl⟩ : ∃ k, others = k + 1 := ⟨others - 1, by omega⟩
    obtain ⟨result, rest, ran⟩ := lawful.total buffer fine
    unfold drain
    rw [ran]
    match result with
    | .error error => rfl
    | .ok none => rfl
    | .ok (some item) =>
      obtain ⟨frame, nonempty, split, _⟩ := lawful.takes buffer item rest fine ran
      have some_ := length_pos_iff.mpr nonempty
      have size := congrArg List.length split
      rw [length_append] at size
      dsimp only
      rw [ih (lawful.next buffer item rest fine ran) (by omega) (by omega : rest.length < others)]

/-- **What is decoded of a buffer when more follows.** If the decoder fails, it fails in the same
way. If it waits, then the rest is decoded together with what follows. -/
theorem drain_append {rounds : Nat} {buffer : Bytes} (more : Bytes) (fine : good (buffer ++ more))
    (enough : buffer.length < rounds) :
    ∃ decoded, decode.drain rounds buffer = .ok decoded ∧
      match decoded.error with
      | some error => ∃ rest, decode.decodeAll (buffer ++ more) =
          .ok { items := decoded.items, error := some error, rest }
      | none => decode.run decoded.rest = .ok (.ok none, decoded.rest) ∧
          good (decoded.rest ++ more) ∧
          ∀ last, decode.decodeAll (decoded.rest ++ more) = .ok last →
            decode.decodeAll (buffer ++ more) =
              .ok { last with items := decoded.items ++ last.items } := by
  induction rounds generalizing buffer with
  | zero => omega
  | succ rounds ih =>
    have fine' := lawful.fewer buffer more fine
    obtain ⟨result, rest, ran⟩ := lawful.total buffer fine'
    unfold drain
    rw [ran]
    match result with
    | .error error =>
      refine ⟨_, rfl, ?_⟩
      obtain ⟨rest', failed⟩ := lawful.fails buffer error rest fine' ran more
      refine ⟨rest', ?_⟩
      unfold decodeAll drain
      rw [failed]
    | .ok none =>
      obtain rfl := lawful.waits buffer rest fine' ran
      exact ⟨_, rfl, ran, fine, fun last decoded => decoded⟩
    | .ok (some item) =>
      obtain ⟨frame, nonempty, rfl, taken⟩ := lawful.takes buffer item rest fine' ran
      have some_ := length_pos_iff.mpr nonempty
      rw [length_append] at enough
      have ranMore : decode.run (frame ++ rest ++ more) = .ok (.ok (some item), rest ++ more) := by
        rw [append_assoc]
        exact taken (rest ++ more)
      have fineRest := lawful.next _ item _ fine ranMore
      obtain ⟨decoded, drained, outcome⟩ := ih fineRest (by omega)
      -- one round on the longer buffer takes the same item
      have round : ∀ last, decode.decodeAll (rest ++ more) = .ok last →
          decode.decodeAll (frame ++ rest ++ more) =
            .ok { last with items := item :: last.items } := by
        intro last decodes
        have shorter : decode.drain (frame ++ rest ++ more).length (rest ++ more) = .ok last := by
          rw [← decodes]
          refine lawful.drain_rounds fineRest ?_ (Nat.lt_succ_self _)
          simp only [length_append]
          omega
        unfold decodeAll
        rw [drain, ranMore]
        dsimp only
        rw [shorter]
      refine ⟨{ decoded with items := item :: decoded.items }, ?_, ?_⟩
      · dsimp only
        rw [drained]
      · dsimp only
        cases failed : decoded.error with
        | some error =>
          rw [failed] at outcome
          obtain ⟨last, decodes⟩ := outcome
          exact ⟨last, round _ decodes⟩
        | none =>
          rw [failed] at outcome
          obtain ⟨waiting, fineLast, continues⟩ := outcome
          exact ⟨waiting, fineLast, fun last decodes => round _ (continues last decodes)⟩

/-- **The items and the first error do not depend on the chunks**: they are those of the whole
stream. -/
theorem feed_eq (chunks : List Bytes) (buffer : Bytes) (fine : good (buffer ++ chunks.flatten))
    (waiting : decode.run buffer = .ok (.ok none, buffer)) :
    ∃ decoded, decode.decodeAll (buffer ++ chunks.flatten) = .ok decoded ∧
      decode.feed chunks buffer = .ok (decoded.items, decoded.error) := by
  induction chunks generalizing buffer with
  | nil =>
    rw [flatten_nil, append_nil]
    refine ⟨{ items := [], error := none, rest := buffer }, ?_, rfl⟩
    unfold decodeAll drain
    rw [waiting]
  | cons chunk chunks ih =>
    rw [flatten_cons, ← append_assoc] at fine ⊢
    obtain ⟨first, drained, outcome⟩ := lawful.drain_append chunks.flatten fine (Nat.lt_succ_self _)
    unfold feed
    rw [show decode.decodeAll (buffer ++ chunk) = .ok first from drained]
    obtain ⟨items, error, rest⟩ := first
    cases error with
    | some error =>
      obtain ⟨last, decodes⟩ := outcome
      exact ⟨_, decodes, rfl⟩
    | none =>
      obtain ⟨waitingRest, fineRest, continues⟩ := outcome
      obtain ⟨last, decodes, fed⟩ := ih rest fineRest waitingRest
      refine ⟨_, continues last decodes, ?_⟩
      dsimp only
      rw [fed]

end Lawful

end Decoder

/-! ### Frames -/

/-- What the front of a buffer announces: not enough of it is there, it is refused, or a frame of the
given length, which is there. -/
inductive Ahead (ε : Type) where
  | missing
  | refused (error : ε)
  | frame (length : Nat)
  deriving DecidableEq, Repr

/-- **A decoder of frames**: what it does follows from what is announced, and from the frame. -/
structure Framing {ε α : Type} (decode : Decoder ε α) (ahead : Bytes → Ahead ε) : Prop where
  missing : ∀ buffer, ahead buffer = .missing → decode.run buffer = .ok (.ok none, buffer)
  refused : ∀ buffer error, ahead buffer = .refused error →
    decode.run buffer = .ok (.error error, buffer)
  refused_append : ∀ buffer error, ahead buffer = .refused error →
    ∀ more, ahead (buffer ++ more) = .refused error
  frame : ∀ buffer length, ahead buffer = .frame length → 0 < length ∧ length ≤ buffer.length ∧
    (∀ others, ahead (buffer.take length ++ others) = .frame length) ∧
    ∃ result, ∀ others, decode.run (buffer.take length ++ others) = .ok (result, others)

namespace Framing

variable {ε α : Type} (decode : Decoder ε α) (ahead : Bytes → Ahead ε)

/-- A frame is there, and the decoder asks for more bytes. -/
def CutShort (buffer : Bytes) : Prop :=
  ∃ length rest, ahead buffer = .frame length ∧ decode.run buffer = .ok (.ok none, rest)

/-- The buffers that are left after some items of a stream. -/
inductive Reached : Bytes → Bytes → Prop where
  | here (stream : Bytes) : Reached stream stream
  | next {stream rest buffer : Bytes} {item : α}
      (taken : decode.run stream = .ok (.ok (some item), rest)) (later : Reached rest buffer) :
      Reached stream buffer

/-- None of the frames of a stream, up to the first error, asks for more bytes than it has. -/
def Intact (stream : Bytes) : Prop := ∀ buffer, Reached decode stream buffer →
  ¬ CutShort decode ahead buffer

variable {decode ahead} (framing : Framing decode ahead)

include framing

theorem frame_append {buffer : Bytes} {length : Nat} (announced : ahead buffer = .frame length) :
    length ≤ buffer.length ∧ ∃ result, decode.run buffer = .ok (result, buffer.drop length) ∧
      ∀ more, ahead (buffer ++ more) = .frame length ∧
        decode.run (buffer ++ more) = .ok (result, buffer.drop length ++ more) := by
  obtain ⟨_, complete, stays, result, decides⟩ := framing.frame buffer length announced
  refine ⟨complete, result, ?_, fun more => ?_⟩
  · have whole := decides (buffer.drop length)
    rwa [take_append_drop] at whole
  · have split : buffer ++ more = buffer.take length ++ (buffer.drop length ++ more) := by
      rw [← append_assoc, take_append_drop]
    rw [split]
    exact ⟨stays _, decides _⟩

theorem cutShort_append {buffer : Bytes} (cut : CutShort decode ahead buffer) (more : Bytes) :
    CutShort decode ahead (buffer ++ more) := by
  obtain ⟨length, rest, announced, ran⟩ := cut
  obtain ⟨_, result, decides, longer⟩ := framing.frame_append announced
  obtain ⟨rfl, _⟩ := Prod.mk.inj (Except.ok.inj (decides.symm.trans ran))
  exact ⟨length, _, (longer more).1, (longer more).2⟩

theorem of_item {buffer rest : Bytes} {item : α}
    (ran : decode.run buffer = .ok (.ok (some item), rest)) :
    ∃ length, ahead buffer = .frame length ∧ 0 < length ∧ length ≤ buffer.length ∧
      rest = buffer.drop length ∧
      ∀ others, decode.run (buffer.take length ++ others) = .ok (.ok (some item), others) := by
  cases announced : ahead buffer with
  | missing =>
    have waits := framing.missing buffer announced
    rw [ran] at waits
    cases waits
  | refused error =>
    have fails := framing.refused buffer error announced
    rw [ran] at fails
    cases fails
  | frame length =>
    obtain ⟨some_, complete, _, result, decides⟩ := framing.frame buffer length announced
    have whole := decides (buffer.drop length)
    rw [take_append_drop, ran] at whole
    obtain ⟨rfl, rfl⟩ := Prod.mk.inj (Except.ok.inj whole)
    exact ⟨length, rfl, some_, complete, rfl, decides⟩

theorem reached_append {stream buffer : Bytes} (reached : Reached decode stream buffer)
    (more : Bytes) : Reached decode (stream ++ more) (buffer ++ more) := by
  induction reached with
  | here stream => exact .here _
  | @next stream rest buffer item taken later ih =>
    obtain ⟨length, _, _, _, rfl, decides⟩ := framing.of_item taken
    have longer := decides (stream.drop length ++ more)
    rw [← append_assoc, take_append_drop] at longer
    exact .next longer ih

/-- **A decoder of frames is lawful on intact streams.** -/
theorem lawful : decode.Lawful (Intact decode ahead) where
  total buffer fine := by
    cases announced : ahead buffer with
    | missing => exact ⟨_, _, framing.missing buffer announced⟩
    | refused error => exact ⟨_, _, framing.refused buffer error announced⟩
    | frame length =>
      obtain ⟨_, result, decides, _⟩ := framing.frame_append announced
      exact ⟨_, _, decides⟩
  waits buffer rest fine ran := by
    cases announced : ahead buffer with
    | missing =>
      have waits := framing.missing buffer announced
      rw [ran] at waits
      exact (Prod.mk.inj (Except.ok.inj waits)).2
    | refused error =>
      have fails := framing.refused buffer error announced
      rw [ran] at fails
      cases fails
    | frame length => exact absurd ⟨length, rest, announced, ran⟩ (fine buffer (.here buffer))
  takes buffer item rest fine ran := by
    obtain ⟨length, _, some_, complete, rfl, decides⟩ := framing.of_item ran
    refine ⟨buffer.take length, ?_, (take_append_drop length buffer).symm, decides⟩
    intro empty
    have size := congrArg List.length empty
    rw [length_take, length_nil] at size
    omega
  fails buffer error rest fine ran more := by
    cases announced : ahead buffer with
    | missing =>
      have waits := framing.missing buffer announced
      rw [ran] at waits
      cases waits
    | refused found =>
      have fails := framing.refused buffer found announced
      rw [ran] at fails
      cases fails
      exact ⟨_, framing.refused _ _ (framing.refused_append buffer error announced more)⟩
    | frame length =>
      obtain ⟨_, result, decides, longer⟩ := framing.frame_append announced
      rw [ran] at decides
      cases decides
      exact ⟨_, (longer more).2⟩
  fewer buffer more fine later reached cut :=
    fine _ (framing.reached_append reached more) (framing.cutShort_append cut more)
  next buffer item rest fine ran later reached := fine later (.next ran reached)

/-- **Waiting for a frame that is there is the only way to lose one**: a decoder of frames waits only
while no frame is there, with nothing taken, exactly unless the frame is cut short. -/
theorem waits_iff (buffer : Bytes) :
    (∀ rest, decode.run buffer = .ok (.ok none, rest) → ahead buffer = .missing ∧ rest = buffer) ↔
      ¬ CutShort decode ahead buffer := by
  constructor
  · rintro waits ⟨length, rest, announced, ran⟩
    have missing := (waits rest ran).1
    rw [announced] at missing
    cases missing
  · intro whole rest ran
    cases announced : ahead buffer with
    | missing =>
      have waits := framing.missing buffer announced
      rw [ran] at waits
      exact ⟨rfl, (Prod.mk.inj (Except.ok.inj waits)).2⟩
    | refused error =>
      have fails := framing.refused buffer error announced
      rw [ran] at fails
      cases fails
    | frame length => exact absurd ⟨length, rest, announced, ran⟩ whole

/-! ### Items and their frames -/

/-- **The frame of an item**: the decoder takes exactly these bytes for it, whatever follows. -/
def FrameOf (decode : Decoder ε α) (item : α) (frame : Bytes) : Prop :=
  ∀ others, decode.run (frame ++ others) = .ok (.ok (some item), others)

/-- **Every buffer is decoded**: into items, each from a frame of its own, up to a part that the
decoder waits for or fails on. -/
theorem drain_frames {rounds : Nat} {buffer : Bytes} (enough : buffer.length < rounds) :
    ∃ decoded frames last, decode.drain rounds buffer = .ok decoded ∧
      Forall₂ (FrameOf decode) decoded.items frames ∧ buffer = frames.flatten ++ last ∧
      decode.run last = .ok (decoded.error.elim (.ok none) .error, decoded.rest) := by
  induction rounds generalizing buffer with
  | zero => omega
  | succ rounds ih =>
    have total : ∃ result rest, decode.run buffer = .ok (result, rest) := by
      cases announced : ahead buffer with
      | missing => exact ⟨_, _, framing.missing buffer announced⟩
      | refused error => exact ⟨_, _, framing.refused buffer error announced⟩
      | frame length => exact ⟨_, _, (framing.frame_append announced).2.choose_spec.1⟩
    obtain ⟨result, rest, ran⟩ := total
    unfold Decoder.drain
    rw [ran]
    match result with
    | .error error => exact ⟨_, [], buffer, rfl, .nil, rfl, ran⟩
    | .ok none => exact ⟨_, [], buffer, rfl, .nil, rfl, ran⟩
    | .ok (some item) =>
      obtain ⟨length, _, some_, complete, rfl, decides⟩ := framing.of_item ran
      have shorter : (buffer.drop length).length < rounds := by
        rw [length_drop]
        omega
      obtain ⟨decoded, frames, last, drained, framed, split, stops⟩ := ih shorter
      dsimp only
      rw [drained]
      refine ⟨_, buffer.take length :: frames, last, rfl, .cons decides framed, ?_, stops⟩
      rw [flatten_cons, append_assoc, ← split, take_append_drop]

/-- **Items that were framed one after another come back**, however the stream is cut. -/
theorem feed_frames {items : List α} {frames chunks : List Bytes}
    (framed : Forall₂ (FrameOf decode) items frames) (empty : ahead [] = .missing)
    (same : chunks.flatten = frames.flatten) : decode.feed chunks [] = .ok (items, none) := by
  have waits := framing.missing [] empty
  have whole : Intact decode ahead frames.flatten ∧ ∀ rounds, frames.flatten.length < rounds →
      decode.drain rounds frames.flatten = .ok ⟨items, none, []⟩ := by
    clear same
    induction framed with
    | nil =>
      constructor
      · rintro buffer (_ | ⟨taken, _⟩) ⟨length, rest, announced, _⟩
        · cases empty.symm.trans announced
        · cases waits.symm.trans taken
      · intro rounds some_
        obtain ⟨rounds, rfl⟩ := Nat.exists_eq_succ_of_ne_zero (Nat.ne_zero_of_lt some_)
        unfold Decoder.drain
        rw [flatten_nil, waits]
    | @cons item frame items frames decides _ ih =>
      rw [flatten_cons]
      have ran := decides frames.flatten
      constructor
      · rintro buffer (_ | ⟨taken, later⟩) cut
        · obtain ⟨length, rest, _, waiting⟩ := cut
          cases ran.symm.trans waiting
        · cases ran.symm.trans taken
          exact ih.1 buffer later cut
      · intro rounds enough
        obtain ⟨rounds, rfl⟩ := Nat.exists_eq_succ_of_ne_zero (Nat.ne_zero_of_lt enough)
        have some_ : frame ≠ [] := by
          rintro rfl
          cases waits.symm.trans (decides [])
        have positive := length_pos_iff.mpr some_
        rw [length_append] at enough
        unfold Decoder.drain
        rw [ran]
        dsimp only
        rw [ih.2 rounds (by omega)]
  have intact : Intact decode ahead ([] ++ chunks.flatten) := same ▸ whole.1
  obtain ⟨decoded, decodes, fed⟩ := framing.lawful.feed_eq chunks [] intact waits
  rw [nil_append, same] at decodes
  cases (whole.2 _ (Nat.lt_succ_self _)).symm.trans decodes
  exact fed

end Framing

end Rumqtt
