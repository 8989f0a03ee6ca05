/-
**The primitives of `mqttbytes-core`: variable byte integers, strings and the fixed header.**

Both protocol versions map the errors of these functions into their own error type; `FromPrimitive` is
that map, so that each primitive is stated once and used at either error type.

* `length` is the loop that reads a variable byte integer, `writeRemainingLength` the one that
  writes it, and `lenLen` the number of bytes it takes. `writes_remainingLength` relates the three.
* `length` reports missing bytes only at an `Unterminated` integer: one whose bytes all ask for
  another one and then end.
-/

import Mathlib.Data.Nat.Bitwise
import Rumqtt.Lib.Wire
import Rumqtt.Packet

namespace Rumqtt.Mqttbytes

open Handler List Reader

variable {bytes stream : Bytes} {len shift : Nat} {result : Nat × Nat}

inductive PrimitiveError where
  | payloadTooLong (actual max : Nat)
  | boundaryCrossed (length : Nat)
  | malformedPacket
  | malformedRemainingLength
  | topicNotUtf8
  | insufficientBytes (required : Nat)
  deriving DecidableEq, Repr

/-- `From<PrimitiveError>` for the error type of a protocol version. -/
class FromPrimitive (ε : Type) where
  ofPrimitive : PrimitiveError → ε

export FromPrimitive (ofPrimitive)

/-! ### Strings -/

/-- `str::as_bytes` -/
def utf8 (string : String) : Bytes := string.toByteArray.data.toList

/-- `core::str::from_utf8` -/
def fromUtf8 (bytes : Bytes) : Option String := String.fromUTF8? ⟨bytes.toArray⟩

theorem fromUtf8_utf8 (string : String) : fromUtf8 (utf8 string) = some string := by
  unfold fromUtf8 utf8 String.fromUTF8?
  rw [Array.toArray_toList, dif_pos string.isValidUTF8]
  rfl

theorem utf8_of_fromUtf8 {string : String} (valid : fromUtf8 bytes = some string) :
    utf8 string = bytes := by
  unfold fromUtf8 String.fromUTF8? at valid
  split at valid
  · rw [Option.some.injEq] at valid
    subst valid
    rfl
  · cases valid

def validateMqttString (bytes : Bytes) : Except PrimitiveError String :=
  match fromUtf8 bytes with
  | none => .error .topicNotUtf8
  | some string => if 0 ∈ bytes then .error .malformedPacket else .ok string

theorem validateMqttString_ok {string : String} :
    validateMqttString bytes = .ok string ↔ fromUtf8 bytes = some string ∧ 0 ∉ bytes := by
  unfold validateMqttString
  cases valid : fromUtf8 bytes with
  | none => simp
  | some other =>
    by_cases nul : 0 ∈ bytes
    · simp [nul]
    · simp [nul]

theorem validateMqttString_error {error : PrimitiveError}
    (refused : validateMqttString bytes = .error error) : ∀ n, error ≠ .insufficientBytes n := by
  intro n
  rintro rfl
  unfold validateMqttString at refused
  split at refused
  · cases refused
  · split at refused <;> cases refused

/-! ### Variable byte integers -/

/-- The loop of `length`: the value so far, the bytes it took, and the shift of the next byte. -/
def lengthLoop : Bytes → Nat → Nat → Nat → Except PrimitiveError (Nat × Nat)
  | [], _, _, _ => .error (.insufficientBytes 1)
  | byte :: stream, len, lenLen, shift =>
    let len := len + ((byte.toNat &&& 0x7F) <<< shift)
    if byte.toNat &&& 0x80 = 0 then .ok (lenLen + 1, len)
    -- only the shifts 0, 7, 14 and 21 are allowed
    else if 21 < shift + 7 then .error .malformedRemainingLength
    else lengthLoop stream len (lenLen + 1) (shift + 7)

/-- **Parses a variable byte integer**: the number of its bytes and its value. -/
def length (stream : Bytes) : Except PrimitiveError (Nat × Nat) := lengthLoop stream 0 0 0

/-- The number of bytes of a variable byte integer. -/
def lenLen (len : Nat) : Nat :=
  if 2097152 ≤ len then 4 else if 16384 ≤ len then 3 else if 128 ≤ len then 2 else 1

/-- The bytes end inside a variable byte integer. -/
def Unterminated (bytes : Bytes) : Prop := bytes.length < 4 ∧ ∀ byte ∈ bytes, 128 ≤ byte.toNat

instance (bytes : Bytes) : Decidable (Unterminated bytes) := inferInstanceAs (Decidable (_ ∧ _))

theorem continues_iff (byte : UInt8) : byte.toNat &&& 0x80 = 0 ↔ byte.toNat < 128 := by
  have bound := byte.toNat_lt
  rw [show (0x80 : Nat) = 2 ^ 7 from rfl, Nat.and_two_pow, Nat.testBit_eq_decide_div_mod_eq]
  by_cases high : byte.toNat / 2 ^ 7 % 2 = 1
  · simp only [high, decide_true, Bool.toNat_true]
    omega
  · simp only [high, decide_false, Bool.toNat_false]
    omega

theorem and_127 (n : Nat) : n &&& 0x7F = n % 128 := Nat.and_two_pow_sub_one_eq_mod n 7

theorem lengthLoop_last {byte : UInt8} (last : byte.toNat < 128) (stream : Bytes)
    (len lenLen shift : Nat) :
    lengthLoop (byte :: stream) len lenLen shift =
      .ok (lenLen + 1, len + byte.toNat <<< shift) := by
  unfold lengthLoop
  rw [and_127, Nat.mod_eq_of_lt last]
  exact if_pos ((continues_iff byte).mpr last)

theorem lengthLoop_more {byte : UInt8} (more : 128 ≤ byte.toNat) (stream : Bytes)
    (len lenLen shift : Nat) :
    lengthLoop (byte :: stream) len lenLen shift =
      if 21 < shift + 7 then .error .malformedRemainingLength
      else lengthLoop stream (len + (byte.toNat % 128) <<< shift) (lenLen + 1) (shift + 7) := by
  conv_lhs => unfold lengthLoop
  rw [and_127]
  exact if_neg fun zero => by
    have := (continues_iff byte).mp zero
    omega

theorem lengthLoop_error {lenLen : Nat} {error : PrimitiveError}
    (failed : lengthLoop stream len lenLen shift = .error error) :
    error = .malformedRemainingLength ∨
      error = .insufficientBytes 1 ∧ shift + 7 * stream.length ≤ max shift 21 ∧
        ∀ byte ∈ stream, 128 ≤ byte.toNat := by
  induction stream generalizing len lenLen shift with
  | nil =>
    obtain rfl : PrimitiveError.insufficientBytes 1 = error := by injection failed
    refine .inr ⟨rfl, ?_, fun _ member => nomatch member⟩
    simp only [length_nil]
    omega
  | cons byte stream ih =>
    by_cases last : byte.toNat < 128
    · rw [lengthLoop_last last] at failed
      cases failed
    · have more : 128 ≤ byte.toNat := by omega
      rw [lengthLoop_more more] at failed
      split at failed
      · exact .inl (by injection failed with same; exact same.symm)
      · rename_i short
        obtain malformed | ⟨insufficient, few, all⟩ := ih failed
        · exact .inl malformed
        · refine .inr ⟨insufficient, ?_, ?_⟩
          · simp only [length_cons]
            omega
          · intro other member
            rcases mem_cons.mp member with rfl | member
            · exact more
            · exact all other member

/-- **Missing bytes are reported at an unterminated integer only.** -/
theorem unterminated_of_length {n : Nat}
    (failed : length stream = .error (.insufficientBytes n)) : Unterminated stream := by
  obtain malformed | ⟨_, few, all⟩ := lengthLoop_error failed
  · cases malformed
  · refine ⟨?_, all⟩
    simp only [Nat.zero_add] at few
    omega

/-- **Bytes that follow an integer do not change how it is read.** -/
theorem lengthLoop_append {lenLen : Nat}
    (read : lengthLoop stream len lenLen shift = .ok result) (more : Bytes) :
    lengthLoop (stream ++ more) len lenLen shift = .ok result := by
  induction stream generalizing len lenLen shift with
  | nil => cases read
  | cons byte stream ih =>
    rw [cons_append]
    by_cases last : byte.toNat < 128
    · rw [lengthLoop_last last] at read ⊢
      exact read
    · have continues : 128 ≤ byte.toNat := by omega
      rw [lengthLoop_more continues] at read ⊢
      split at read
      · cases read
      · rename_i short
        rw [if_neg short]
        exact ih read

theorem length_append (read : length stream = .ok result)
    (more : Bytes) : length (stream ++ more) = .ok result := lengthLoop_append read more

theorem lengthLoop_append_error {lenLen : Nat}
    (failed : lengthLoop stream len lenLen shift = .error .malformedRemainingLength) (more : Bytes) :
    lengthLoop (stream ++ more) len lenLen shift = .error .malformedRemainingLength := by
  induction stream generalizing len lenLen shift with
  | nil => cases failed
  | cons byte stream ih =>
    rw [cons_append]
    by_cases last : byte.toNat < 128
    · rw [lengthLoop_last last] at failed
      cases failed
    · have continues : 128 ≤ byte.toNat := by omega
      rw [lengthLoop_more continues] at failed ⊢
      split at failed
      · rename_i long
        exact if_pos long
      · rename_i short
        rw [if_neg short]
        exact ih failed

theorem lengthLoop_bounds {lenLen : Nat} (read : lengthLoop stream len lenLen shift = .ok result) :
    lenLen + 1 ≤ result.1 ∧ result.1 ≤ lenLen + stream.length := by
  induction stream generalizing len lenLen shift with
  | nil => cases read
  | cons byte stream ih =>
    by_cases last : byte.toNat < 128
    · rw [lengthLoop_last last] at read
      obtain rfl := Except.ok.inj read
      simp only [length_cons]
      omega
    · have continues : 128 ≤ byte.toNat := by omega
      rw [lengthLoop_more continues] at read
      split at read
      · cases read
      · have := ih read
        simp only [length_cons]
        omega

/-- The integer is the bytes that it takes. -/
theorem lengthLoop_take {lenLen : Nat} (read : lengthLoop stream len lenLen shift = .ok result) :
    lengthLoop (stream.take (result.1 - lenLen)) len lenLen shift = .ok result := by
  induction stream generalizing len lenLen shift with
  | nil => cases read
  | cons byte stream ih =>
    by_cases last : byte.toNat < 128
    · rw [lengthLoop_last last] at read
      obtain rfl := Except.ok.inj read
      rw [show lenLen + 1 - lenLen = 0 + 1 by omega, take_succ_cons, lengthLoop_last last]
    · have continues : 128 ≤ byte.toNat := by omega
      rw [lengthLoop_more continues] at read
      split at read
      · cases read
      · rename_i short
        have taken := ih read
        have some_ := (lengthLoop_bounds read).1
        rw [show result.1 - lenLen = result.1 - (lenLen + 1) + 1 by omega, take_succ_cons,
          lengthLoop_more continues, if_neg short]
        exact taken

/-- An integer takes at least one byte, and no more than there are. -/
theorem length_bounds (read : length stream = .ok result) :
    1 ≤ result.1 ∧ result.1 ≤ stream.length := by
  have := lengthLoop_bounds read
  omega

/-- An integer takes at most four bytes and is at most `268435455`: below shift `7 k` lie `k` bytes. -/
theorem lengthLoop_small {lenLen : Nat} (few : lenLen ≤ 3)
    (below : len < 2 ^ (7 * lenLen)) (read : lengthLoop stream len lenLen (7 * lenLen) = .ok result) :
    result.1 ≤ 4 ∧ result.2 ≤ 268435455 := by
  induction stream generalizing len lenLen with
  | nil => cases read
  | cons byte stream ih =>
    -- one more septet stays below the next power
    have septet : ∀ value < 128, len + value <<< (7 * lenLen) < 2 ^ (7 * (lenLen + 1)) := by
      intro value small
      have most := Nat.mul_le_mul_right (2 ^ (7 * lenLen)) (Nat.le_of_lt_succ small)
      rw [Nat.shiftLeft_eq, Nat.mul_succ, Nat.pow_add]
      omega
    by_cases last : byte.toNat < 128
    · rw [lengthLoop_last last] at read
      cases read
      have whole := septet byte.toNat last
      have most : 2 ^ (7 * (lenLen + 1)) ≤ 2 ^ 28 := Nat.pow_le_pow_right (by decide) (by omega)
      exact ⟨by omega, by omega⟩
    · rw [lengthLoop_more (by omega)] at read
      split at read
      · cases read
      · exact ih (by omega) (septet _ (Nat.mod_lt _ (by decide))) read

/-- An integer that is cut off waits for one more byte. -/
theorem lengthLoop_unterminated {lenLen : Nat}
    (few : shift + 7 * stream.length ≤ 21) (more : ∀ byte ∈ stream, 128 ≤ byte.toNat) :
    lengthLoop stream len lenLen shift = .error (.insufficientBytes 1) := by
  induction stream generalizing len lenLen shift with
  | nil => rfl
  | cons byte stream ih =>
    rw [length_cons] at few
    rw [lengthLoop_more (more byte mem_cons_self), if_neg (by omega)]
    exact ih (by omega) fun other member => more other (mem_cons_of_mem byte member)

/-! ### The fixed header -/

/-- The type byte, the length of the header and the number of bytes that follow it. -/
structure FixedHeader where
  byte1 : UInt8
  headerLen : Nat
  remainingLen : Nat
  deriving DecidableEq, Repr

/-- `FixedHeader::new` -/
def FixedHeader.new (byte1 : UInt8) (remainingLenLen remainingLen : Nat) : FixedHeader :=
  { byte1, headerLen := remainingLenLen + 1, remainingLen }

/-- The size of the frame that a header announces. -/
def FixedHeader.frameLength (header : FixedHeader) : Nat := header.headerLen + header.remainingLen

/-- The lower four bits of the first byte. -/
def FixedHeader.flags (header : FixedHeader) : UInt8 := header.byte1 &&& 0x0F

def parseFixedHeader (stream : Bytes) : Except PrimitiveError FixedHeader :=
  if stream.length < 2 then .error (.insufficientBytes (2 - stream.length))
  else match stream with
    | [] => .error (.insufficientBytes 1)
    | byte1 :: rest => do
      let (remainingLenLen, remainingLen) ← length rest
      return .new byte1 remainingLenLen remainingLen

/-- `mqttbytes_core::qos` -/
def qos (num : UInt8) : Option QoS :=
  match num with
  | 0 => some .atMostOnce
  | 1 => some .atLeastOnce
  | 2 => some .exactlyOnce
  | _ => none

/-- `qos as u8` -/
def qosCode : QoS → UInt8
  | .atMostOnce => 0
  | .atLeastOnce => 1
  | .exactlyOnce => 2

@[simp] theorem qos_qosCode (level : QoS) : qos (qosCode level) = some level := by
  cases level <;> rfl

/-! ### Reading -/

section Reading

variable {ε γ : Type} [FromPrimitive ε]

def readU8 : Reader ε γ UInt8 := do
  let stream ← peek
  failIf (stream = []) (ofPrimitive .malformedPacket)
  getU8

def readU16 : Reader ε γ UInt16 := do
  let stream ← peek
  failIf (stream.length < 2) (ofPrimitive .malformedPacket)
  getU16

def readU32 : Reader ε γ UInt32 := do
  let stream ← peek
  failIf (stream.length < 4) (ofPrimitive .malformedPacket)
  getU32

def readMqttBytes : Reader ε γ Bytes := do
  let len ← readU16
  let stream ← peek
  failIf (stream.length < len.toNat) (ofPrimitive (.boundaryCrossed len.toNat))
  splitTo len.toNat

def readMqttString : Reader ε γ String := do
  let bytes ← readMqttBytes
  ofExcept ((validateMqttString bytes).mapError ofPrimitive)

/-- `length(bytes.iter())?`: the cursor stays in front of the integer. -/
def peekLength : Reader ε γ (Nat × Nat) := do
  let stream ← peek
  ofExcept ((length stream).mapError ofPrimitive)

end Reading

/-! ### Writing -/

section Writing

variable {ε : Type} [FromPrimitive ε]

def writeMqttBytes (bytes : Bytes) : Writer ε Unit := do
  failIf (65535 < bytes.length) (ofPrimitive (.payloadTooLong bytes.length 65535))
  Writer.putU16 (UInt16.ofNat bytes.length)
  Writer.extend bytes

/-- Both protocol versions validate a string before they write it. -/
def writeMqttString (string : String) : Writer ε Unit := do
  let _ ← ofExcept ((validateMqttString (utf8 string)).mapError ofPrimitive)
  writeMqttBytes (utf8 string)

/-- The loop of `writeRemainingLength`, which ends within four rounds below `128 ^ 4`. -/
def remainingLengthLoop : Nat → Nat → Nat → Writer ε Nat
  | 0, _, count => pure count
  | rounds + 1, x, count => do
    let byte := UInt8.ofNat (x % 128)
    let x := x / 128
    Writer.putU8 (if 0 < x then byte ||| 128 else byte)
    if x = 0 then pure (count + 1) else remainingLengthLoop rounds x (count + 1)

/-- **Writes a variable byte integer** and returns the number of its bytes. -/
def writeRemainingLength (len : Nat) : Writer ε Nat := do
  failIf (268435455 < len) (ofPrimitive (.payloadTooLong len 268435455))
  remainingLengthLoop 4 len 0

end Writing

/-! ### What the writers write, the readers read -/

section Inverse

variable {ε γ : Type} [FromPrimitive ε]

theorem reads_u8 (value : UInt8) : Reads (readU8 : Reader ε γ UInt8) [value] value := by
  intro rest seen
  refine ⟨seen, ?_⟩
  refine (run_peek_bind _ _).trans ?_
  exact (run_bind_ok (run_failIf_neg (by simp) _ _)).trans rfl

theorem reads_u16 (value : UInt16) :
    Reads (readU16 : Reader ε γ UInt16) (u16Bytes value) value := by
  intro rest seen
  obtain ⟨seen', ran⟩ := Reads.getU16 (ε := ε) value rest seen
  have enough : ¬ (u16Bytes value ++ rest).length < 2 := by
    rw [List.length_append, length_u16Bytes]
    omega
  refine ⟨seen', ?_⟩
  refine (run_peek_bind _ _).trans ?_
  exact (run_bind_ok (run_failIf_neg enough _ _)).trans ran

theorem reads_u32 (value : UInt32) :
    Reads (readU32 : Reader ε γ UInt32) (u32Bytes value) value := by
  intro rest seen
  obtain ⟨seen', ran⟩ := Reads.getU32 (ε := ε) value rest seen
  refine ⟨seen', ?_⟩
  refine (run_peek_bind _ _).trans ?_
  exact (run_bind_ok (run_failIf_neg (by simp) _ _)).trans ran

theorem reads_mqttBytes {bytes : Bytes} (short : bytes.length ≤ 65535) :
    Reads (readMqttBytes : Reader ε γ Bytes) (u16Bytes (UInt16.ofNat bytes.length) ++ bytes)
      bytes := by
  have toNat : (UInt16.ofNat bytes.length).toNat = bytes.length := by
    rw [UInt16.toNat_ofNat']
    exact Nat.mod_eq_of_lt (by omega)
  refine (reads_u16 _).bind ?_
  rw [toNat]
  intro rest seen
  obtain ⟨seen', ran⟩ := Reads.splitTo (ε := ε) bytes rest seen
  refine ⟨seen', ?_⟩
  refine (run_peek_bind _ _).trans ?_
  exact (run_bind_ok (run_failIf_neg (by simp) _ _)).trans ran

theorem writes_mqttBytes (γ : Type) (bytes : Bytes) :
    Writes (writeMqttBytes bytes : Writer ε Unit) fun _ written =>
      written.length = 2 + bytes.length ∧
        Reads (readMqttBytes : Reader ε γ Bytes) written bytes := by
  refine (Writes.failIf _ _).bind ?_
  rintro _ _ ⟨rfl, short⟩
  refine (Writes.putU16 _).bind ?_
  rintro _ _ rfl
  refine (Writes.extend bytes).mono ?_
  rintro _ _ rfl
  refine ⟨by simp, ?_⟩
  exact reads_mqttBytes (by omega)

theorem writes_mqttString (γ : Type) (string : String) :
    Writes (writeMqttString string : Writer ε Unit) fun _ written =>
      written.length = 2 + (utf8 string).length ∧
        Reads (readMqttString : Reader ε γ String) written string := by
  refine (Writes.ofExcept _).bind ?_
  rintro valid _ ⟨rfl, validated⟩
  refine (writes_mqttBytes γ (utf8 string)).mono ?_
  rintro _ written ⟨size, reads⟩
  refine ⟨size, ?_⟩
  have fine : (validateMqttString (utf8 string)).mapError (ofPrimitive (ε := ε)) = .ok string := by
    cases checked : validateMqttString (utf8 string) with
    | error error =>
      rw [checked] at validated
      cases validated
    | ok other =>
      have same := (validateMqttString_ok.mp checked).1
      rw [fromUtf8_utf8] at same
      cases same
      rfl
  show Reads (readMqttBytes >>= fun bytes =>
    ofExcept ((validateMqttString bytes).mapError ofPrimitive)) written string
  rw [← append_nil written]
  exact reads.bind (Reads.ofExcept fine)

/-- The bytes are the variable byte integer of the given value, whatever follows them. -/
def IsLength (len : Nat) (field : Bytes) : Prop :=
  ∀ more, length (field ++ more) = .ok (field.length, len)

/-- What was read as an integer is one. -/
theorem isLength_of_length {stream : Bytes} {read : Nat × Nat} (ahead : length stream = .ok read) :
    IsLength read.2 (stream.take read.1) ∧ (stream.take read.1).length = read.1 := by
  have size : (stream.take read.1).length = read.1 :=
    length_take_of_le (length_bounds ahead).2
  have taken : length (stream.take read.1) = .ok read := lengthLoop_take ahead
  refine ⟨fun more => ?_, size⟩
  rw [size]
  exact length_append taken more

theorem IsLength.reads {len : Nat} {field : Bytes} (isLength : IsLength len field) (rest : Bytes)
    (seen : γ) :
    (peekLength : Reader ε γ (Nat × Nat)).run ⟨field ++ rest, seen⟩ =
      .ok (.ok (field.length, len), ⟨field ++ rest, seen⟩) := by
  refine (run_peek_bind _ _).trans ?_
  show (ofExcept ((length (field ++ rest)).mapError ofPrimitive) :
    Reader ε γ (Nat × Nat)).run _ = _
  rw [isLength rest]
  rfl

/-- The rounds of the writing loop. -/
def septets : Nat → Nat → Nat
  | 0, _ => 0
  | rounds + 1, x => if x / 128 = 0 then 1 else 1 + septets rounds (x / 128)

theorem septets_four {len : Nat} (small : len ≤ 268435455) : septets 4 len = lenLen len := by
  unfold lenLen
  simp only [septets, Nat.div_div_eq_div_mul]
  split_ifs <;> omega

theorem toNat_or_128 {n : Nat} (small : n < 128) : (UInt8.ofNat n ||| 128).toNat = n + 128 := by
  have table : ∀ n < 128, (UInt8.ofNat n ||| 128).toNat = n + 128 := by decide
  exact table n small

omit [FromPrimitive ε] in
theorem writes_remainingLengthLoop (rounds : Nat) : ∀ (x count shift : Nat),
    0 < rounds → x < 128 ^ rounds → shift + 7 * rounds = 28 →
      Writes (remainingLengthLoop rounds x count : Writer ε Nat) fun total field =>
        total = count + field.length ∧ field.length = septets rounds x ∧
          ∀ more acc lenLen, lengthLoop (field ++ more) acc lenLen shift =
            .ok (lenLen + field.length, acc + x <<< shift) := by
  induction rounds with
  | zero => exact fun _ _ _ positive => absurd positive (Nat.lt_irrefl 0)
  | succ rounds ih =>
    intro x count shift _ small aligned
    refine (Writes.putU8 _).bind ?_
    rintro _ _ rfl
    by_cases last : x / 128 = 0
    · -- the integer ends here: its byte has no continuation bit
      have below : x < 128 := by omega
      have byte : (UInt8.ofNat (x % 128)).toNat = x := by
        rw [toNat_ofNat_of_lt (by omega)]
        omega
      rw [if_pos last, if_neg (by omega)]
      refine Writes.pure ⟨rfl, ?_, fun more acc lenLen => ?_⟩
      · simp [septets, last]
      · rw [append_assoc, singleton_append, lengthLoop_last (by rw [byte]; exact below),
          byte]
        rfl
    · have byte : (UInt8.ofNat (x % 128) ||| 128).toNat = x % 128 + 128 :=
        toNat_or_128 (Nat.mod_lt _ (by decide))
      have another : 0 < rounds := by
        rcases Nat.eq_zero_or_pos rounds with rfl | positive
        · simp only [Nat.zero_add, Nat.pow_one] at small
          omega
        · exact positive
      have smaller : x / 128 < 128 ^ rounds := by
        apply Nat.div_lt_of_lt_mul
        rw [Nat.pow_succ] at small
        omega
      rw [if_neg last, if_pos (Nat.pos_of_ne_zero last)]
      refine (ih (x / 128) (count + 1) (shift + 7) another smaller (by omega)).mono ?_
      rintro total field ⟨rfl, size, reads⟩
      refine ⟨?_, ?_, fun more acc lenLen => ?_⟩
      · simp only [singleton_append, length_cons]
        omega
      · simp only [singleton_append, length_cons, septets, size, if_neg last]
        omega
      · simp only [cons_append, nil_append, length_cons]
        rw [lengthLoop_more (by rw [byte]; omega), byte, if_neg (by omega), reads]
        congr 2
        · omega
        · -- the low septet and the others put together
          have split : x = x / 128 * 128 + x % 128 := by omega
          rw [Nat.add_mod_right, Nat.mod_mod, Nat.shiftLeft_eq, Nat.shiftLeft_eq, Nat.shiftLeft_eq,
            Nat.add_assoc, Nat.pow_add]
          conv_rhs => rw [split, Nat.add_mul]
          rw [Nat.add_comm (x % 128 * 2 ^ shift), Nat.mul_comm (2 ^ shift), ← Nat.mul_assoc]

/-- **The three functions on variable byte integers agree**: what is written is read back, and its
size is the one computed beforehand. -/
theorem writes_remainingLength (len : Nat) :
    Writes (writeRemainingLength len : Writer ε Nat) fun count field =>
      count = lenLen len ∧ field.length = lenLen len ∧ IsLength len field := by
  refine (Writes.failIf _ _).bind ?_
  rintro _ _ ⟨rfl, small⟩
  refine (writes_remainingLengthLoop 4 len 0 0 (by decide) (by omega) rfl).mono ?_
  rintro count field ⟨rfl, size, reads⟩
  have size : field.length = lenLen len := size.trans (septets_four (by omega))
  refine ⟨by omega, by simpa using size, fun more => ?_⟩
  rw [nil_append]
  have read := reads more 0 0
  rw [Nat.zero_add, Nat.zero_add] at read
  exact read

/-! ### What the writers accept -/

theorem length_utf8 (string : String) : (utf8 string).length = string.utf8ByteSize := rfl

/-- The byte zero only occurs as the null character. -/
theorem zero_mem_utf8EncodeChar {char : Char} (zero : 0 ∈ String.utf8EncodeChar char) :
    char = '\x00' := by
  have small : ∀ n, 0 < n → n < 256 → (0 : UInt8) ≠ UInt8.ofNat n := by
    intro n positive below same
    have value := congrArg UInt8.toNat same
    rw [UInt8.toNat_ofNat', Nat.mod_eq_of_lt below] at value
    exact absurd value.symm (Nat.ne_of_gt positive)
  unfold String.utf8EncodeChar at zero
  dsimp only at zero
  split_ifs at zero with one two three
  · have value := congrArg UInt8.toNat (mem_singleton.mp zero)
    rw [UInt8.toNat_ofNat', Nat.mod_eq_of_lt (by omega)] at value
    exact Char.ext (UInt32.toNat_inj.mp value.symm)
  -- every byte of a longer encoding has its highest bit set
  all_goals simp only [mem_cons, not_mem_nil, or_false] at zero
  · rcases zero with zero | zero
    all_goals exact absurd zero (small _ (by omega) (by omega))
  · rcases zero with zero | zero | zero
    all_goals exact absurd zero (small _ (by omega) (by omega))
  · rcases zero with zero | zero | zero | zero
    all_goals exact absurd zero (small _ (by omega) (by omega))

theorem zero_mem_utf8 {string : String} : 0 ∈ utf8 string ↔ '\x00' ∈ string.toList := by
  have bytes : utf8 string = string.toList.flatMap String.utf8EncodeChar := by
    unfold utf8
    rw [← String.ofList_toList (s := string), String.toByteArray_ofList, String.toList_ofList]
    simp [List.utf8Encode]
  rw [bytes, mem_flatMap]
  constructor
  · rintro ⟨char, member, zero⟩
    rwa [zero_mem_utf8EncodeChar zero] at member
  · exact fun member => ⟨_, member, mem_singleton_self 0⟩

/-- **A short string without the null character is written.** -/
theorem succeeds_mqttString {string : String} (short : string.utf8ByteSize ≤ 65535)
    (plain : '\x00' ∉ string.toList) : Succeeds (writeMqttString string : Writer ε Unit) := by
  have valid : validateMqttString (utf8 string) = .ok string :=
    validateMqttString_ok.mpr ⟨fromUtf8_utf8 string, fun zero => plain (zero_mem_utf8.mp zero)⟩
  unfold writeMqttString writeMqttBytes
  rw [valid]
  refine (Succeeds.ofExcept rfl).bind fun _ => ?_
  refine (Succeeds.failIf ?_ _).bind fun _ => ?_
  · rw [length_utf8]
    exact Nat.not_lt.mpr short
  · exact (Succeeds.extend _).bind fun _ => .extend _

theorem succeeds_remainingLength {len : Nat} (small : len ≤ 268435455) :
    Succeeds (writeRemainingLength len : Writer ε Nat) := by
  have loop : ∀ rounds x count,
      Succeeds (remainingLengthLoop rounds x count : Writer ε Nat) := by
    intro rounds
    induction rounds with
    | zero => exact fun _ count => .pure count
    | succ rounds ih =>
      intro x count
      exact (Succeeds.extend _).bind fun _ => .ite (.pure _) (ih _ _)
  exact (Succeeds.failIf (Nat.not_lt.mpr small) _).bind fun _ => loop 4 len 0

/-- **Variable byte integers.** Up to `268435455` an integer is written in `lenLen` bytes, which are read
back whatever follows them, and a larger one is refused. Reading gives at most that value in at most
four bytes, or asks for more exactly where the bytes end inside an integer, or finds it malformed. -/
theorem variable_byte_integers (ε : Type) [FromPrimitive ε] : (∀ n ≤ 268435455, ∃ field : Bytes,
      (∀ buffer, (writeRemainingLength n : Writer ε Nat).run buffer =
        .ok (.ok (lenLen n), buffer ++ field)) ∧
      field.length = lenLen n ∧ ∀ more, length (field ++ more) = .ok (lenLen n, n)) ∧
    (∀ n > 268435455, ∀ buffer, (writeRemainingLength n : Writer ε Nat).run buffer =
      .ok (.error (ofPrimitive (.payloadTooLong n 268435455)), buffer)) ∧
    ∀ stream, ((∃ taken value, length stream = .ok (taken, value) ∧ taken ≤ 4 ∧ value ≤ 268435455) ∨
        length stream = .error (.insufficientBytes 1) ∨
        length stream = .error .malformedRemainingLength) ∧
      (length stream = .error (.insufficientBytes 1) ↔
        stream.length < 4 ∧ ∀ byte ∈ stream, 128 ≤ byte.toNat) := by
  refine ⟨fun n small => ?_, fun n large buffer => ?_, fun stream => ⟨?_, ?_⟩⟩
  · obtain ⟨result, field, ran, holds⟩ := writes_remainingLength (ε := ε) n
    obtain ⟨count, written, succeeded⟩ := succeeds_remainingLength (ε := ε) small []
    obtain ⟨rfl, -⟩ := Prod.mk.inj (Except.ok.inj ((ran []).symm.trans succeeded))
    obtain ⟨rfl, size, isLength⟩ := holds _ rfl
    exact ⟨field, ran, size, fun more => (isLength more).trans (by rw [size])⟩
  · exact run_bind_error (run_failIf_pos large _ buffer)
  · cases read : length stream with
    | ok result => exact .inl ⟨_, _, rfl, lengthLoop_small (by decide) (by decide) read⟩
    | error error =>
      obtain rfl | ⟨rfl, -⟩ := lengthLoop_error read
      · exact .inr (.inr rfl)
      · exact .inr (.inl rfl)
  · refine ⟨unterminated_of_length, fun ⟨short, continues⟩ => ?_⟩
    exact lengthLoop_unterminated (by omega) continues

end Inverse

/-! ### The readers on untrusted bytes -/

section Untrusted

variable {ε γ : Type} [FromPrimitive ε]

/-- Every error of the primitives but missing bytes is expected anywhere. -/
def Admits (expected : ε → Bytes → Prop) : Prop :=
  ∀ error, (∀ n, error ≠ PrimitiveError.insufficientBytes n) →
    ∀ bytes, expected (ofPrimitive error) bytes

variable {expected : ε → Bytes → Prop}

section

variable (admits : Admits expected)
include admits

theorem steady_u8 : Steady expected (readU8 : Reader ε γ UInt8) := by
  refine Steady.peek_bind fun s => ?_
  obtain ⟨unread, seen⟩ := s
  cases unread with
  | nil =>
    refine ⟨_, _, run_bind_error (run_failIf_pos rfl _ _), suffix_refl _, ?_⟩
    rintro _ ⟨⟩
    exact admits _ (by simp) _
  | cons byte rest =>
    refine ⟨_, _, run_bind_ok (run_failIf_neg (by simp) _ _), ?_, ?_⟩
    · exact suffix_cons byte rest
    · rintro _ ⟨⟩

theorem steady_u16 : Steady expected (readU16 : Reader ε γ UInt16) := by
  refine Steady.peek_bind fun s => ?_
  obtain ⟨unread, seen⟩ := s
  have short : ∀ bytes : Bytes, bytes.length < 2 → ∃ result t, (do
      failIf (bytes.length < 2) (ofPrimitive .malformedPacket)
      getU16 : Reader ε γ UInt16).run ⟨bytes, seen⟩ = .ok (result, t) ∧
        t.unread <:+ bytes ∧ ∀ error, result = .error error → expected error t.unread := by
    intro bytes few
    refine ⟨_, _, run_bind_error (run_failIf_pos few _ _), suffix_refl _, ?_⟩
    rintro _ ⟨⟩
    exact admits _ (by simp) _
  match unread with
  | [] => exact short [] (by decide)
  | [byte] => exact short [byte] (by simp)
  | high :: low :: rest =>
    refine ⟨_, _, run_bind_ok (run_failIf_neg (by simp) _ _), ?_, ?_⟩
    · exact ⟨[high, low], rfl⟩
    · rintro _ ⟨⟩

theorem steady_u32 : Steady expected (readU32 : Reader ε γ UInt32) := by
  refine Steady.peek_bind fun s => ?_
  obtain ⟨unread, seen⟩ := s
  have short : ∀ bytes : Bytes, bytes.length < 4 → ∃ result t, (do
      failIf (bytes.length < 4) (ofPrimitive .malformedPacket)
      getU32 : Reader ε γ UInt32).run ⟨bytes, seen⟩ = .ok (result, t) ∧
        t.unread <:+ bytes ∧ ∀ error, result = .error error → expected error t.unread := by
    intro bytes few
    refine ⟨_, _, run_bind_error (run_failIf_pos few _ _), suffix_refl _, ?_⟩
    rintro _ ⟨⟩
    exact admits _ (by simp) _
  match unread with
  | [] => exact short _ (by simp)
  | [_] => exact short _ (by simp)
  | [_, _] => exact short _ (by simp)
  | [_, _, _] => exact short _ (by simp)
  | b₃ :: b₂ :: b₁ :: b₀ :: rest =>
    refine ⟨_, _, run_bind_ok (run_failIf_neg (by simp) _ _), ?_, ?_⟩
    · exact ⟨[b₃, b₂, b₁, b₀], rfl⟩
    · rintro _ ⟨⟩

theorem steady_mqttBytes :
    Steady expected (readMqttBytes : Reader ε γ Bytes) := by
  refine (steady_u16 admits).bind fun len => Steady.peek_bind fun s => ?_
  by_cases long : s.unread.length < len.toNat
  · refine ⟨_, _, run_bind_error (run_failIf_pos long _ _), suffix_refl _, ?_⟩
    rintro _ ⟨⟩
    exact admits _ (by simp) _
  · refine ⟨_, _, (run_bind_ok (run_failIf_neg long _ _)).trans
      (if_pos (by omega)), drop_suffix _ _, ?_⟩
    rintro _ ⟨⟩

theorem steady_mqttString :
    Steady expected (readMqttString : Reader ε γ String) := by
  refine (steady_mqttBytes admits).bind fun bytes => Steady.ofExcept fun error failed => ?_
  cases checked : validateMqttString bytes with
  | ok string =>
    rw [checked] at failed
    cases failed
  | error primitive =>
    rw [checked] at failed
    cases failed
    exact admits _ (validateMqttString_error checked)

end

end Untrusted

/-! ### What a success took -/

section Taken

variable {ε γ : Type} [FromPrimitive ε]

theorem takes_u8 : Takes (readU8 : Reader ε γ UInt8) fun value bytes => bytes = [value] := by
  refine Takes.peek fun s value t ran => ?_
  obtain ⟨_, _, checked, ran⟩ := of_run_bind ran
  obtain ⟨some_, rfl⟩ := of_run_failIf checked
  obtain ⟨_ | ⟨byte, rest⟩, seen⟩ := s
  · exact absurd rfl some_
  · cases ran
    exact ⟨rfl, [value], rfl, reads_u8 value, rfl⟩

theorem takes_u16 : Takes (readU16 : Reader ε γ UInt16) fun _ bytes => bytes.length = 2 := by
  refine Takes.peek fun s value t ran => ?_
  obtain ⟨_, _, checked, ran⟩ := of_run_bind ran
  obtain ⟨enough, rfl⟩ := of_run_failIf checked
  obtain ⟨_ | ⟨high, _ | ⟨low, rest⟩⟩, seen⟩ := s
  · exact absurd (by simp) enough
  · exact absurd (by simp) enough
  · cases ran
    refine ⟨rfl, [high, low], rfl, fun others seen => ⟨seen, ?_⟩, rfl⟩
    have long : ¬ ([high, low] ++ others).length < 2 := by simp
    refine (run_peek_bind _ _).trans ?_
    exact (run_bind_ok (run_failIf_neg long _ _)).trans rfl

theorem takes_u32 : Takes (readU32 : Reader ε γ UInt32) fun _ bytes => bytes.length = 4 := by
  refine Takes.peek fun s value t ran => ?_
  obtain ⟨_, _, checked, ran⟩ := of_run_bind ran
  obtain ⟨enough, rfl⟩ := of_run_failIf checked
  obtain ⟨_ | ⟨b₃, _ | ⟨b₂, _ | ⟨b₁, _ | ⟨b₀, rest⟩⟩⟩⟩, seen⟩ := s
  · exact absurd (by simp) enough
  · exact absurd (by simp) enough
  · exact absurd (by simp) enough
  · exact absurd (by simp) enough
  · cases ran
    refine ⟨rfl, [b₃, b₂, b₁, b₀], rfl, fun others seen => ⟨seen, ?_⟩, rfl⟩
    have long : ¬ ([b₃, b₂, b₁, b₀] ++ others).length < 4 := by simp
    refine (run_peek_bind _ _).trans ?_
    exact (run_bind_ok (run_failIf_neg long _ _)).trans rfl

theorem takes_mqttBytes : Takes (readMqttBytes : Reader ε γ Bytes) fun value bytes =>
      bytes.length = 2 + value.length := by
  refine takes_u16.bind fun len field size => ?_
  refine Takes.peek fun s value t ran => ?_
  obtain ⟨_, _, checked, ran⟩ := of_run_bind ran
  obtain ⟨enough, rfl⟩ := of_run_failIf checked
  have complete : len.toNat ≤ s.unread.length := by omega
  have cut : (splitTo len.toNat : Reader ε γ Bytes).run s =
      .ok (.ok (s.unread.take len.toNat), { s with unread := s.unread.drop len.toNat }) :=
    if_pos complete
  have length : (s.unread.take len.toNat).length = len.toNat := length_take_of_le complete
  rw [cut] at ran
  cases ran
  refine ⟨rfl, _, (take_append_drop _ _).symm, fun others seen => ?_, ?_⟩
  · have long : ¬ (s.unread.take len.toNat ++ others).length < len.toNat := by
      rw [List.length_append, length]
      omega
    obtain ⟨seen', ran⟩ := Reads.splitTo (ε := ε) (s.unread.take len.toNat) others seen
    rw [length] at ran
    refine ⟨seen', (run_peek_bind _ _).trans ?_⟩
    exact (run_bind_ok (run_failIf_neg long _ _)).trans ran
  · rw [List.length_append, size]

theorem takes_mqttString : Takes (readMqttString : Reader ε γ String) fun value bytes =>
      bytes.length = 2 + (utf8 value).length := by
  refine takes_mqttBytes.bind fun raw bytes size => ?_
  refine Takes.ofExcept fun value valid => ?_
  cases checked : validateMqttString raw with
  | error error =>
    rw [checked] at valid
    cases valid
  | ok string =>
    rw [checked] at valid
    cases valid
    rw [append_nil, utf8_of_fromUtf8 (validateMqttString_ok.mp checked).1]
    exact size

theorem takes_length :
    Takes (do
        let (idLen, id) ← peekLength
        advance idLen
        return (id, idLen) : Reader ε γ (Nat × Nat)) fun read bytes => bytes.length = read.2 := by
  refine fun s value t ran => ?_
  obtain ⟨read, u, ahead, ran⟩ := of_run_bind ran
  obtain ⟨found, rfl⟩ := of_run_ofExcept
    (show (ofExcept ((length s.unread).mapError ofPrimitive) :
      Reader ε γ (Nat × Nat)).run s = .ok (.ok read, u) from ahead)
  cases parsed : length s.unread with
  | error error =>
    rw [parsed] at found
    cases found
  | ok other =>
    rw [parsed] at found
    obtain rfl : other = read := Except.ok.inj found
    obtain ⟨isLength, size⟩ := isLength_of_length parsed
    obtain ⟨_, v, moved, ran⟩ := of_run_bind ran
    have skipped : (advance other.1 : Reader ε γ Unit).run s =
        .ok (.ok (), { s with unread := s.unread.drop other.1 }) := if_pos (length_bounds parsed).2
    rw [skipped] at moved
    cases moved
    cases ran
    refine ⟨rfl, _, (take_append_drop _ _).symm, fun others seen => ?_, size⟩
    obtain ⟨seen', ran⟩ := Reads.advance (ε := ε) (s.unread.take other.1) others seen
    refine ⟨seen', (run_bind_ok (isLength.reads others seen)).trans ?_⟩
    refine (run_bind_ok ran).trans ?_
    rw [size]
    rfl

end Taken

end Rumqtt.Mqttbytes
