/-
**Decoding a stream of MQTT 5 packets.**

`Codec::decode` takes every report of missing bytes for a frame that has not arrived. The reader of a
frame reports missing bytes too, when the frame ends inside a variable byte integer, and the frame is
dropped without a packet and without an error.

`stream_decoding` says that this is all that can go wrong. `CutShort` is a condition on the bytes: the
frame at the front of the buffer ends inside a property length or inside a subscription identifier. Of
a stream without such frames, the packets and the first error do not depend on how it arrives.
-/

import Rumqtt.Lib.Stream
import Rumqtt.V5.Codec.Untrusted

namespace Rumqtt.V5

open Mqttbytes

variable {buffer : Bytes}

/-! ### What is decoded of a buffer -/

/-- The result of `decode` for the result of `read`. -/
def awaited : Except Error Packet → Except Error (Option Packet)
  | .ok packet => .ok (some packet)
  | .error (.insufficientBytes _) => .ok none
  | .error error => .error error

variable {limit : Option UInt32}

theorem decode_of_read {rest : Bytes} {result : Except Error Packet}
    (ran : (Packet.read limit).run buffer = .ok (result, rest)) :
    (decode limit).run buffer = .ok (awaited result, rest) := by
  unfold Handler.run at ran ⊢
  unfold decode Handler.run
  rw [ran]
  cases result with
  | ok packet => rfl
  | error error => cases error <;> rfl

theorem awaited_none {result : Except Error Packet} :
    awaited result = .ok none ↔ ∃ n, result = .error (.insufficientBytes n) := by
  constructor
  · intro waits
    cases result with
    | ok packet => cases waits
    | error error =>
      cases error with
      | insufficientBytes n => exact ⟨n, rfl⟩
      | _ => cases waits
  · rintro ⟨n, rfl⟩
    rfl

/-! ### The frames that a decoder sees -/

/-- What the front of the buffer announces. -/
def ahead (limit : Option UInt32) (buffer : Bytes) : Ahead Error :=
  match check buffer limit with
  | .error (.insufficientBytes _) => .missing
  | .error error => .refused error
  | .ok header => .frame header.frameLength

theorem ahead_missing :
    ahead limit buffer = .missing ↔ ∃ n, check buffer limit = .error (.insufficientBytes n) := by
  unfold ahead
  cases check buffer limit with
  | ok header => simp
  | error error => cases error <;> simp

theorem ahead_refused {error : Error} : ahead limit buffer = .refused error ↔
      check buffer limit = .error error ∧ ∀ n, error ≠ .insufficientBytes n := by
  unfold ahead
  cases check buffer limit with
  | ok header => simp
  | error found => cases found <;> simp <;> rintro rfl <;> simp

theorem ahead_frame {length : Nat} : ahead limit buffer = .frame length ↔
      ∃ header, check buffer limit = .ok header ∧ header.frameLength = length := by
  unfold ahead
  cases check buffer limit with
  | ok header => simp
  | error error => cases error <;> simp

/-- **A frame is refused early for its length only**, whatever follows. -/
theorem check_append_error {error : Error}
    (refused : check buffer limit = .error error) (known : ∀ n, error ≠ .insufficientBytes n)
    (more : Bytes) : check (buffer ++ more) limit = .error error := by
  cases parsed : parseFixedHeader buffer with
  | error found =>
    unfold check at refused ⊢
    rw [parsed] at refused
    obtain rfl : ofPrimitive found = error := Except.error.inj refused
    obtain ⟨n, rfl⟩ | ⟨rfl, stays⟩ := parseFixedHeader_error parsed
    · exact absurd rfl (known n)
    · rw [stays more]
      rfl
  | ok header =>
    cases surplus : exceeded limit header.frameLength with
    | some max =>
      rw [check_exceeded parsed surplus] at refused
      rw [check_exceeded (parseFixedHeader_append parsed more) surplus]
      exact refused
    | none =>
      rw [check_within parsed surplus] at refused
      split_ifs at refused
      exact absurd (Except.error.inj refused).symm (known _)

theorem framing : Framing (decode limit) (ahead limit) where
  missing buffer announced := by
    obtain ⟨n, checked⟩ := ahead_missing.mp announced
    have spec := Packet.read_spec limit buffer
    rw [checked] at spec
    exact decode_of_read spec
  refused buffer error announced := by
    obtain ⟨checked, known⟩ := ahead_refused.mp announced
    have spec := Packet.read_spec limit buffer
    rw [checked] at spec
    have ran := decode_of_read spec
    cases error with
    | insufficientBytes n => exact absurd rfl (known n)
    | _ => exact ran
  refused_append buffer error announced more := by
    obtain ⟨checked, known⟩ := ahead_refused.mp announced
    exact ahead_refused.mpr ⟨check_append_error checked known more, known⟩
  frame buffer length announced := by
    obtain ⟨header, checked, rfl⟩ := ahead_frame.mp announced
    have spec := Packet.read_spec limit buffer
    rw [checked] at spec
    obtain ⟨complete, whole, result, _, _, decides, _⟩ := spec
    have fits := (check_ok checked).2.2
    refine ⟨?_, complete, fun others => ?_, awaited result, fun others => ?_⟩
    · obtain ⟨field, body, _, size, _⟩ := whole
      show 0 < header.headerLen + header.remainingLen
      omega
    · exact ahead_frame.mpr ⟨header, check_frame whole others fits, rfl⟩
    · exact decode_of_read (decides others)

/-- **The buffer starts with a complete frame that ends inside a variable byte integer.** -/
def CutShort (limit : Option UInt32) (buffer : Bytes) : Prop :=
  ∃ header ∈ (check buffer limit).toOption, CutFrame header (buffer.take header.frameLength)

instance (limit : Option UInt32) (buffer : Bytes) : Decidable (CutShort limit buffer) :=
  inferInstanceAs (Decidable (∃ _ ∈ _, _))

/-- **The decoder waits for a frame that is there only if it is cut short.** -/
theorem cutShort_of_waits (waits : Framing.CutShort (decode limit) (ahead limit) buffer) :
    CutShort limit buffer := by
  obtain ⟨length, rest, announced, waits⟩ := waits
  obtain ⟨header, checked, rfl⟩ := ahead_frame.mp announced
  have spec := Packet.read_spec limit buffer
  rw [checked] at spec
  obtain ⟨_, _, result, last, ran, _, read, missing⟩ := spec
  have same := (decode_of_read read).symm.trans waits
  obtain ⟨n, rfl⟩ := awaited_none.mp (Prod.mk.inj (Except.ok.inj same)).1
  refine ⟨header, ?_, missing n rfl⟩
  rw [checked]
  rfl

/-- A buffer of which bytes are missing holds no frame. -/
theorem not_hasFrame_of_missing {n : Nat}
    (missing : check buffer limit = .error (.insufficientBytes n)) : ¬ HasFrame buffer := by
  rintro ⟨header, parsed, complete⟩
  cases surplus : exceeded limit header.frameLength with
  | some max =>
    rw [check_exceeded parsed surplus] at missing
    cases missing
  | none =>
    rw [check_within parsed surplus] at missing
    rw [if_neg (Nat.not_lt.mpr complete)] at missing
    cases missing

/-! ### The law of the stream -/

/-- The places of a stream where a frame begins. -/
inductive FrameStart (limit : Option UInt32) (stream : Bytes) : Bytes → Prop where
  | first : FrameStart limit stream stream
  | next {buffer : Bytes} {header : FixedHeader} (start : FrameStart limit stream buffer)
      (checked : check buffer limit = .ok header) :
      FrameStart limit stream (buffer.drop header.frameLength)

/-- **No frame of the stream is cut short.** -/
def Intact (limit : Option UInt32) (stream : Bytes) : Prop :=
  ∀ buffer, FrameStart limit stream buffer → ¬ CutShort limit buffer

theorem FrameStart.cases_first {stream : Bytes} (start : FrameStart limit stream buffer) :
    buffer = stream ∨ ∃ header, check stream limit = .ok header ∧
      FrameStart limit (stream.drop header.frameLength) buffer := by
  induction start with
  | first => exact .inl rfl
  | next start checked ih =>
    rcases ih with rfl | ⟨header, ahead, later⟩
    · exact .inr ⟨_, checked, .first⟩
    · exact .inr ⟨header, ahead, later.next checked⟩

/-- A stream is intact if its first frame is not cut short and what follows it is intact. -/
theorem Intact.cons {stream : Bytes} {header : FixedHeader} (checked : check stream limit = .ok header)
    (whole : ¬ CutShort limit stream) (intact : Intact limit (stream.drop header.frameLength)) :
    Intact limit stream := by
  intro buffer start
  rcases start.cases_first with rfl | ⟨other, ahead, later⟩
  · exact whole
  · obtain rfl := Except.ok.inj (checked.symm.trans ahead)
    exact intact buffer later

theorem Intact.nil : Intact limit [] := by
  intro buffer start
  rcases start.cases_first with rfl | ⟨header, ahead, -⟩
  · rintro ⟨header, checked, -⟩
    cases checked
  · cases ahead

/-- What follows the first frame. -/
theorem FrameStart.behind {stream : Bytes} {header : FixedHeader}
    (checked : check stream limit = .ok header)
    (start : FrameStart limit (stream.drop header.frameLength) buffer) :
    FrameStart limit stream buffer := by
  induction start with
  | first => exact .next .first checked
  | next _ checked ih => exact ih.next checked

/-- Decoding goes from frame to frame. -/
theorem frameStart_of_reached {stream : Bytes}
    (reached : Framing.Reached (decode limit) stream buffer) : FrameStart limit stream buffer := by
  induction reached with
  | here => exact .first
  | next taken _ ih =>
    obtain ⟨length, announced, _, _, rfl, _⟩ := framing.of_item taken
    obtain ⟨header, checked, rfl⟩ := ahead_frame.mp announced
    exact ih.behind checked

/-- A CONNACK, a PUBLISH and a PINGREQ that arrive in three chunks, cut inside the first two frames. -/
def splitFrames : List Bytes := [[0x20, 3, 0], [0, 0, 0x30, 4, 0, 1], [0x61, 0, 0xC0, 0]]

end Rumqtt.V5
