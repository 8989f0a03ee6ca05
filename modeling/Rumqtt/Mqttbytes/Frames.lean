/-
**Frames: a type byte, the Remaining Length and as many bytes.**

Every writer of a packet computes the Remaining Length before it writes the fields. `writes_frame`
says what that is good for: if the fields take the computed number of bytes, a frame was written, and
its size is the one announced. `HasHeader.parse` is the other direction: the fixed header of a frame is
read as what it is, whatever follows the frame; and `HasHeader.of_parse` cuts the frame off a stream.
-/

import Rumqtt.Mqttbytes.Primitives

namespace Rumqtt.Mqttbytes

open List

/-- The size of a packet with the given Remaining Length. -/
def frameSize (len : Nat) : Nat := 1 + lenLen len + len

/-- The fixed header of a frame. -/
def headerOf (byte1 : UInt8) (body : Bytes) : FixedHeader :=
  .new byte1 (lenLen body.length) body.length

/-- **The bytes are a frame**: the type byte, the length of the body, the body. -/
def IsFrame (byte1 : UInt8) (body out : Bytes) : Prop :=
  ∃ field, out = byte1 :: (field ++ body) ∧ field.length = lenLen body.length ∧
    IsLength body.length field

theorem lenLen_pos (len : Nat) : 0 < lenLen len := by
  unfold lenLen
  split_ifs <;> decide

@[simp] theorem frameLength_headerOf (byte1 : UInt8) (body : Bytes) :
    (headerOf byte1 body).frameLength = frameSize body.length := by
  show lenLen body.length + 1 + body.length = 1 + lenLen body.length + body.length
  omega

/-- The bytes are a frame with the given fixed header, whose length may be written in more bytes than
it takes. -/
def HasHeader (header : FixedHeader) (frame : Bytes) : Prop :=
  ∃ field body, frame = header.byte1 :: (field ++ body) ∧ header.headerLen = field.length + 1 ∧
    header.remainingLen = body.length ∧ IsLength body.length field

namespace HasHeader

variable {header : FixedHeader} {frame : Bytes}

theorem length (whole : HasHeader header frame) : frame.length = header.frameLength := by
  obtain ⟨field, body, rfl, headerLen, remainingLen, _⟩ := whole
  unfold FixedHeader.frameLength
  simp only [length_cons, List.length_append, headerLen, remainingLen]
  omega

/-- **The fixed header of a frame is read whatever follows the frame.** -/
theorem parse (whole : HasHeader header frame) (rest : Bytes) :
    parseFixedHeader (frame ++ rest) = .ok header := by
  obtain ⟨field, body, rfl, headerLen, remainingLen, isLength⟩ := whole
  have some_ : 1 ≤ field.length := (length_bounds (isLength [])).1
  have long : ¬ (header.byte1 :: (field ++ body) ++ rest).length < 2 := by
    simp only [length_cons, List.length_append]
    omega
  unfold parseFixedHeader
  rw [if_neg long, cons_append, append_assoc]
  dsimp only
  rw [isLength (body ++ rest)]
  obtain ⟨byte1, headerLen', remainingLen'⟩ := header
  cases headerLen
  cases remainingLen
  rfl

/-- **The frame that a fixed header announces**, once it is there. -/
theorem of_parse {stream : Bytes} (parsed : parseFixedHeader stream = .ok header)
    (complete : header.frameLength ≤ stream.length) :
    HasHeader header (stream.take header.frameLength) := by
  unfold parseFixedHeader at parsed
  split at parsed
  · cases parsed
  cases stream with
  | nil => cases parsed
  | cons byte1 rest =>
    dsimp only at parsed
    cases ahead : Mqttbytes.length rest with
    | error error =>
      rw [ahead] at parsed
      cases parsed
    | ok read =>
      rw [ahead] at parsed
      obtain rfl : FixedHeader.new byte1 read.1 read.2 = header := Except.ok.inj parsed
      obtain ⟨isLength, size⟩ := isLength_of_length ahead
      have total : (FixedHeader.new byte1 read.1 read.2).frameLength = read.1 + read.2 + 1 := by
        show read.1 + 1 + read.2 = _
        omega
      rw [total, length_cons] at complete
      have body : ((rest.drop read.1).take read.2).length = read.2 := by
        rw [length_take, length_drop]
        omega
      refine ⟨rest.take read.1, (rest.drop read.1).take read.2, ?_, ?_, body.symm, ?_⟩
      · rw [total, take_succ_cons, take_add]
        rfl
      · rw [size]
        rfl
      · rw [body]
        exact isLength

end HasHeader

/-! ### A fixed header that has not arrived completely -/

theorem parseFixedHeader_append {stream : Bytes} {header : FixedHeader}
    (parsed : parseFixedHeader stream = .ok header) (more : Bytes) :
    parseFixedHeader (stream ++ more) = .ok header := by
  unfold parseFixedHeader at parsed
  split at parsed
  · cases parsed
  · rename_i long
    cases stream with
    | nil => cases parsed
    | cons byte1 rest =>
      dsimp only at parsed
      cases ahead : Mqttbytes.length rest with
      | error error =>
        rw [ahead] at parsed
        cases parsed
      | ok read =>
        have longer : ¬ (byte1 :: rest ++ more).length < 2 := by
          rw [List.length_append]
          omega
        rw [ahead] at parsed
        unfold parseFixedHeader
        rw [if_neg longer, cons_append]
        dsimp only
        rw [length_append ahead more]
        exact parsed

/-- **A fixed header is refused for its Remaining Length only**, whatever follows. Otherwise bytes
are missing. -/
theorem parseFixedHeader_error {stream : Bytes} {error : PrimitiveError}
    (failed : parseFixedHeader stream = .error error) :
    (∃ n, error = .insufficientBytes n) ∨
      error = .malformedRemainingLength ∧ ∀ more, parseFixedHeader (stream ++ more) = .error error := by
  unfold parseFixedHeader at failed
  split at failed
  · exact .inl ⟨_, (Except.error.inj failed).symm⟩
  · rename_i long
    cases stream with
    | nil => exact .inl ⟨_, (Except.error.inj failed).symm⟩
    | cons byte1 rest =>
      dsimp only at failed
      cases ahead : Mqttbytes.length rest with
      | ok read =>
        rw [ahead] at failed
        cases failed
      | error found =>
        rw [ahead] at failed
        obtain rfl : found = error := Except.error.inj failed
        obtain rfl | ⟨rfl, _⟩ := lengthLoop_error ahead
        · refine .inr ⟨rfl, fun more => ?_⟩
          have longer : ¬ (byte1 :: rest ++ more).length < 2 := by
            rw [List.length_append]
            omega
          unfold parseFixedHeader
          rw [if_neg longer, cons_append]
          dsimp only
          rw [show Mqttbytes.length (rest ++ more) = .error .malformedRemainingLength from
            lengthLoop_append_error ahead more]
          rfl
        · exact .inl ⟨1, rfl⟩

/-- **The buffer holds a frame**: a fixed header and as many bytes as it announces. -/
def HasFrame (buffer : Bytes) : Prop :=
  ∃ header, parseFixedHeader buffer = .ok header ∧ header.frameLength ≤ buffer.length

namespace IsFrame

variable {byte1 : UInt8} {body out : Bytes}

theorem hasHeader (frame : IsFrame byte1 body out) : HasHeader (headerOf byte1 body) out := by
  obtain ⟨field, rfl, size, isLength⟩ := frame
  refine ⟨field, body, rfl, ?_, rfl, isLength⟩
  rw [size]
  rfl

theorem length (frame : IsFrame byte1 body out) : out.length = frameSize body.length :=
  frame.hasHeader.length.trans (frameLength_headerOf byte1 body)

variable {ε γ α : Type}

theorem skip (frame : IsFrame byte1 body out) {next : Unit → Reader ε γ α} {value : α}
    (reads : ReadsAll (next ()) body value) :
    ReadsAll (Reader.advance (headerOf byte1 body).headerLen >>= next) out value := by
  obtain ⟨field, rfl, size, _⟩ := frame
  have skips := Reads.advance (ε := ε) (γ := γ) (byte1 :: field)
  rw [length_cons, size] at skips
  exact skips.bind_all reads

theorem skip_refuses (frame : IsFrame byte1 body out) {next : Unit → Reader ε γ α}
    (refuses : Refuses (next ()) body) :
    Refuses (Reader.advance (headerOf byte1 body).headerLen >>= next) out := by
  obtain ⟨field, rfl, size, _⟩ := frame
  have skips := Reads.advance (ε := ε) (γ := γ) (byte1 :: field)
  rw [length_cons, size] at skips
  exact Refuses.after skips refuses

end IsFrame

/-- **A frame is written** when the fields take as many bytes as were announced. -/
theorem writes_frame {ε : Type} [FromPrimitive ε] (byte1 : UInt8) (len : Nat)
    {fields : Nat → Writer ε Nat} {post : Bytes → Bytes → Prop}
    (written : Writes (fields (lenLen len)) fun n body =>
      n = frameSize len ∧ body.length = len ∧ ∀ out, IsFrame byte1 body out → post body out) :
    Writes (do
        Writer.putU8 byte1
        let count ← writeRemainingLength len
        fields count : Writer ε Nat)
      fun n out =>
        n = out.length ∧ n = frameSize len ∧ ∃ body, IsFrame byte1 body out ∧ post body out := by
  refine (Writes.putU8 _).bind ?_
  rintro _ _ rfl
  refine (writes_remainingLength len).bind ?_
  rintro _ field ⟨rfl, size, isLength⟩
  refine written.mono ?_
  rintro n body ⟨rfl, rfl, holds⟩
  have frame : IsFrame byte1 body ([byte1] ++ (field ++ body)) := ⟨field, rfl, size, isLength⟩
  exact ⟨frame.length.symm, rfl, body, frame, holds _ frame⟩

end Rumqtt.Mqttbytes
