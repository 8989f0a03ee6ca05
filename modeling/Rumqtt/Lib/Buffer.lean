/-
**Byte buffers: a cursor over bytes that are read, and a buffer that is written.**

* `Input γ` is a buffer under a read cursor. Its `seen` part is a record kept by an observer; no
  reader looks at it.
* The primitive reads panic exactly when they are asked for more bytes than remain.
* A `Writer` changes a buffer of bytes. It may append, take bytes off the front, overwrite a byte, or
  cut the buffer back; `transactional` cuts it back to where it was when the write fails.

Integers are big-endian.
-/

import Rumqtt.Lib.Handler

namespace Rumqtt

/-- Raw bytes. -/
abbrev Bytes := List UInt8

/-! ### Big-endian integers -/

def u16Bytes (value : UInt16) : Bytes :=
  [UInt8.ofNat (value.toNat / 256), UInt8.ofNat (value.toNat % 256)]

def u16OfBytes (high low : UInt8) : UInt16 := UInt16.ofNat (high.toNat * 256 + low.toNat)

def u32Bytes (value : UInt32) : Bytes :=
  [UInt8.ofNat (value.toNat / 16777216), UInt8.ofNat (value.toNat / 65536 % 256),
    UInt8.ofNat (value.toNat / 256 % 256), UInt8.ofNat (value.toNat % 256)]

def u32OfBytes (b₃ b₂ b₁ b₀ : UInt8) : UInt32 :=
  UInt32.ofNat (b₃.toNat * 16777216 + b₂.toNat * 65536 + b₁.toNat * 256 + b₀.toNat)

@[simp] theorem length_u16Bytes (value : UInt16) : (u16Bytes value).length = 2 := rfl

@[simp] theorem length_u32Bytes (value : UInt32) : (u32Bytes value).length = 4 := rfl

theorem toNat_ofNat_of_lt {n : Nat} (small : n < 256) : (UInt8.ofNat n).toNat = n := by
  rw [UInt8.toNat_ofNat']
  exact Nat.mod_eq_of_lt small

theorem u16OfBytes_u16Bytes (value : UInt16) :
    u16OfBytes (UInt8.ofNat (value.toNat / 256)) (UInt8.ofNat (value.toNat % 256)) = value := by
  have bound := value.toNat_lt
  unfold u16OfBytes
  rw [toNat_ofNat_of_lt (by omega), toNat_ofNat_of_lt (by omega)]
  rw [show value.toNat / 256 * 256 + value.toNat % 256 = value.toNat by omega]
  exact UInt16.ofNat_toNat

theorem u32OfBytes_u32Bytes (value : UInt32) :
    u32OfBytes (UInt8.ofNat (value.toNat / 16777216)) (UInt8.ofNat (value.toNat / 65536 % 256))
      (UInt8.ofNat (value.toNat / 256 % 256)) (UInt8.ofNat (value.toNat % 256)) = value := by
  have bound := value.toNat_lt
  unfold u32OfBytes
  rw [toNat_ofNat_of_lt (by omega), toNat_ofNat_of_lt (by omega), toNat_ofNat_of_lt (by omega),
    toNat_ofNat_of_lt (by omega)]
  rw [show value.toNat / 16777216 * 16777216 + value.toNat / 65536 % 256 * 65536 +
    value.toNat / 256 % 256 * 256 + value.toNat % 256 = value.toNat by omega]
  exact UInt32.ofNat_toNat

/-! ### Reading -/

/-- **A buffer under a read cursor**, with the record of an observer. -/
structure Input (γ : Type) where
  unread : Bytes
  seen : γ
  deriving DecidableEq, Repr

/-- Code that reads from a buffer. -/
abbrev Reader (ε γ α : Type) := Handler ε (Input γ) α

namespace Reader

variable {ε γ : Type}

/-- The bytes ahead of the cursor, which stays where it is. -/
def peek : Reader ε γ Bytes := fun s => .ok (.ok s.unread, s)

/-- Takes the given number of bytes off the front. -/
def splitTo (count : Nat) : Reader ε γ Bytes := fun s =>
  if count ≤ s.unread.length then
    .ok (.ok (s.unread.take count), { s with unread := s.unread.drop count })
  else .error (.indexOutOfBounds count s.unread.length)

/-- Moves the cursor past the given number of bytes. -/
def advance (count : Nat) : Reader ε γ Unit := fun s =>
  if count ≤ s.unread.length then .ok (.ok (), { s with unread := s.unread.drop count })
  else .error (.indexOutOfBounds count s.unread.length)

/-- Everything that is left. -/
def takeAll : Reader ε γ Bytes := fun s => .ok (.ok s.unread, { s with unread := [] })

def getU8 : Reader ε γ UInt8 := fun s =>
  match s.unread with
  | byte :: rest => .ok (.ok byte, { s with unread := rest })
  | [] => .error (.indexOutOfBounds 1 0)

def getU16 : Reader ε γ UInt16 := fun s =>
  match s.unread with
  | high :: low :: rest => .ok (.ok (u16OfBytes high low), { s with unread := rest })
  | few => .error (.indexOutOfBounds 2 few.length)

def getU32 : Reader ε γ UInt32 := fun s =>
  match s.unread with
  | b₃ :: b₂ :: b₁ :: b₀ :: rest =>
    .ok (.ok (u32OfBytes b₃ b₂ b₁ b₀), { s with unread := rest })
  | few => .error (.indexOutOfBounds 4 few.length)

/-- The observer adds to its record. -/
def observe (update : γ → γ) : Reader ε γ Unit := fun s =>
  .ok (.ok (), { s with seen := update s.seen })

@[simp] theorem run_peek_bind {β : Type} (next : Bytes → Reader ε γ β) (s : Input γ) :
    (peek >>= next).run s = (next s.unread).run s := rfl

end Reader

/-! ### Writing -/

/-- Code that writes to a buffer. -/
abbrev Writer (ε α : Type) := Handler ε Bytes α

namespace Writer

variable {ε α : Type}

def extend (bytes : Bytes) : Writer ε Unit := fun buffer => .ok (.ok (), buffer ++ bytes)

def putU8 (value : UInt8) : Writer ε Unit := extend [value]

def putU16 (value : UInt16) : Writer ε Unit := extend (u16Bytes value)

def putU32 (value : UInt32) : Writer ε Unit := extend (u32Bytes value)

/-- The number of bytes in the buffer. -/
def position : Writer ε Nat := fun buffer => .ok (.ok buffer.length, buffer)

/-- Takes the given number of bytes off the front of the buffer. -/
def splitTo (count : Nat) : Writer ε Bytes := fun buffer =>
  if count ≤ buffer.length then .ok (.ok (buffer.take count), buffer.drop count)
  else .error (.indexOutOfBounds count buffer.length)

/-- Overwrites a byte of the buffer. -/
def setAt (index : Nat) (value : UInt8) : Writer ε Unit := fun buffer =>
  if index < buffer.length then .ok (.ok (), buffer.set index value)
  else .error (.indexOutOfBounds index buffer.length)

/-- **A write that leaves nothing behind when it fails**: the buffer is cut back to its length. -/
def transactional (write : Writer ε α) : Writer ε α := fun buffer =>
  match write buffer with
  | .ok (.ok value, written) => .ok (.ok value, written)
  | .ok (.error error, written) => .ok (.error error, written.take buffer.length)
  | .error panic => .error panic

theorem transactional_ok {write : Writer ε α} {buffer written : Bytes} {value : α}
    (ran : write buffer = .ok (.ok value, written)) :
    transactional write buffer = .ok (.ok value, written) := by
  unfold transactional
  rw [ran]

theorem transactional_error {write : Writer ε α} {buffer written : Bytes} {error : ε}
    (ran : write buffer = .ok (.error error, written)) :
    transactional write buffer = .ok (.error error, written.take buffer.length) := by
  unfold transactional
  rw [ran]

end Writer

end Rumqtt
