/-
**Wire formats: rules for readers and writers of bytes.**

A codec is checked piece by piece. For a writer, `Writes writer post` says that it only appends, that
what it appends does not depend on what the buffer holds, and that after a success the appended bytes
satisfy `post`. For a reader, `Reads reader bytes value` says that it takes exactly these bytes off the
front of any input that starts with them. The two meet in a postcondition: a writer whose output its
reader takes back.

`Steady expected reader` is what a decoder of untrusted bytes owes: no panic, no byte read twice or
past the end, and no error other than the expected ones. `Takes reader post` is what a success on
untrusted bytes says about them.
-/

import Mathlib.Algebra.Ring.Nat
import Mathlib.Data.List.Forall2
import Rumqtt.Lib.Buffer

namespace Rumqtt

open Handler List

/-! ### Readers on the bytes of a value -/

section Reading

variable {ε γ α β : Type}

section

variable (reader : Reader ε γ α) (bytes : Bytes) (value : α)

/-- **The reader takes exactly these bytes off the front and returns the value.** -/
def Reads : Prop :=
  ∀ rest seen, ∃ seen', reader.run ⟨bytes ++ rest, seen⟩ = .ok (.ok value, ⟨rest, seen'⟩)

/-- The reader returns the value on an input of exactly these bytes and leaves none of them. -/
def ReadsAll : Prop := ∀ seen, ∃ seen', reader.run ⟨bytes, seen⟩ = .ok (.ok value, ⟨[], seen'⟩)

end

namespace Reads

variable {first : Reader ε γ α} {next : α → Reader ε γ β} {bytes more : Bytes} {a : α} {b : β}

theorem pure (a : α) : Reads (Pure.pure a : Reader ε γ α) [] a := fun _ seen => ⟨seen, rfl⟩

theorem bind (head : Reads first bytes a) (tail : Reads (next a) more b) :
    Reads (first >>= next) (bytes ++ more) b := by
  intro rest seen
  obtain ⟨middle, ran⟩ := head (more ++ rest) seen
  obtain ⟨last, ends⟩ := tail rest middle
  refine ⟨last, ?_⟩
  rw [append_assoc]
  exact (run_bind_ok ran).trans ends

theorem skip (head : Reads first [] a) (tail : Reads (next a) more b) :
    Reads (first >>= next) more b := head.bind tail

theorem bind_all (head : Reads first bytes a) (tail : ReadsAll (next a) more b) :
    ReadsAll (first >>= next) (bytes ++ more) b := by
  intro seen
  obtain ⟨middle, ran⟩ := head more seen
  obtain ⟨last, ends⟩ := tail middle
  exact ⟨last, (run_bind_ok ran).trans ends⟩

theorem skip_all (head : Reads first [] a) (tail : ReadsAll (next a) more b) :
    ReadsAll (first >>= next) more b := head.bind_all tail

theorem all (reads : Reads first bytes a) : ReadsAll first bytes a := by
  intro seen
  obtain ⟨last, ran⟩ := reads [] seen
  rw [append_nil] at ran
  exact ⟨last, ran⟩

theorem ofExcept {result : Except ε α} (fine : result = .ok a) :
    Reads (Handler.ofExcept result : Reader ε γ α) [] a := by
  subst fine
  exact .pure a

theorem failIf {condition : Prop} [Decidable condition] (fine : ¬ condition) (error : ε) :
    Reads (Handler.failIf condition error : Reader ε γ Unit) [] () :=
  fun _ seen => ⟨seen, run_failIf_neg fine error _⟩

theorem advance (bytes : Bytes) : Reads (Reader.advance bytes.length : Reader ε γ Unit) bytes () := by
  intro rest seen
  refine ⟨seen, ?_⟩
  show (if bytes.length ≤ (bytes ++ rest).length then _ else _) = _
  rw [if_pos (by simp), drop_left]

theorem splitTo (bytes : Bytes) :
    Reads (Reader.splitTo bytes.length : Reader ε γ Bytes) bytes bytes := by
  intro rest seen
  refine ⟨seen, ?_⟩
  show (if bytes.length ≤ (bytes ++ rest).length then _ else _) = _
  rw [if_pos (by simp), take_left, drop_left]

theorem getU16 (value : UInt16) : Reads (Reader.getU16 : Reader ε γ UInt16) (u16Bytes value) value := by
  intro rest seen
  refine ⟨seen, ?_⟩
  conv_rhs => rw [← u16OfBytes_u16Bytes value]
  rfl

theorem getU32 (value : UInt32) : Reads (Reader.getU32 : Reader ε γ UInt32) (u32Bytes value) value := by
  intro rest seen
  refine ⟨seen, ?_⟩
  conv_rhs => rw [← u32OfBytes_u32Bytes value]
  rfl

theorem observe (update : γ → γ) : Reads (Reader.observe update : Reader ε γ Unit) [] () :=
  fun _ seen => ⟨update seen, rfl⟩

end Reads

namespace ReadsAll

theorem takeAll (bytes : Bytes) : ReadsAll (Reader.takeAll : Reader ε γ Bytes) bytes bytes :=
  fun seen => ⟨seen, rfl⟩

theorem pure (a : α) : ReadsAll (Pure.pure a : Reader ε γ α) [] a := (Reads.pure a).all

theorem peek {next : Bytes → Reader ε γ α} {bytes : Bytes} {a : α}
    (tail : ReadsAll (next bytes) bytes a) : ReadsAll (Reader.peek >>= next) bytes a := tail

/-- What is done with a value after everything was read. -/
theorem wrap {first : Reader ε γ α} {next : α → Reader ε γ β} {bytes : Bytes} {a : α} {b : β}
    (head : ReadsAll first bytes a) (returns : next a = Pure.pure b) :
    ReadsAll (first >>= next) bytes b := by
  intro seen
  obtain ⟨last, ran⟩ := head seen
  refine ⟨last, (run_bind_ok ran).trans ?_⟩
  rw [returns]
  rfl

end ReadsAll

/-- The reader succeeds on every input that starts with these bytes, and leaves some of them. -/
def StopsShort (reader : Reader ε γ α) (bytes : Bytes) : Prop :=
  ∃ value left, left ≠ [] ∧ ∀ rest seen, ∃ seen',
    reader.run ⟨bytes ++ rest, seen⟩ = .ok (.ok value, ⟨left ++ rest, seen'⟩)

/-- The reader fails on every input that starts with these bytes. -/
def Refuses (reader : Reader ε γ α) (bytes : Bytes) : Prop :=
  ∀ rest seen, ∃ error t, reader.run ⟨bytes ++ rest, seen⟩ = .ok (.error error, t)

namespace Refuses

variable {first : Reader ε γ α} {next : α → Reader ε γ β} {bytes more : Bytes} {a : α}

theorem append (refused : Refuses first bytes) (more : Bytes) : Refuses first (bytes ++ more) := by
  intro rest seen
  rw [append_assoc]
  exact refused (more ++ rest) seen

theorem bind (refused : Refuses first bytes) : Refuses (first >>= next) bytes := by
  intro rest seen
  obtain ⟨error, t, ran⟩ := refused rest seen
  exact ⟨error, t, run_bind_error ran⟩

theorem after (head : Reads first bytes a) (tail : Refuses (next a) more) :
    Refuses (first >>= next) (bytes ++ more) := by
  intro rest seen
  rw [append_assoc]
  obtain ⟨middle, ran⟩ := head (more ++ rest) seen
  obtain ⟨error, t, ends⟩ := tail rest middle
  exact ⟨error, t, (run_bind_ok ran).trans ends⟩

theorem skip (head : Reads first [] a) (tail : Refuses (next a) more) :
    Refuses (first >>= next) more := after head tail

end Refuses

end Reading

/-! ### Readers on untrusted bytes -/

section Untrusted

variable {ε γ α β : Type}

/-- **No panic, no byte read twice or past the end, and only the expected errors**: what is left is
a suffix of what there was, and an error is one that is expected of the bytes at the cursor. -/
def Steady (expected : ε → Bytes → Prop) (reader : Reader ε γ α) : Prop :=
  ∀ s, ∃ result t, reader.run s = .ok (result, t) ∧ t.unread <:+ s.unread ∧
    ∀ error, result = .error error → expected error t.unread

namespace Steady

variable {expected : ε → Bytes → Prop}

variable {next : α → Reader ε γ β} {first reader : Reader ε γ α} {condition : Prop}
  [Decidable condition] {result : Except ε α}

theorem pure (a : α) : Steady expected (Pure.pure a : Reader ε γ α) :=
  fun s => ⟨.ok a, s, rfl, suffix_refl _, fun _ impossible => nomatch impossible⟩

theorem fail {error : ε} (usual : ∀ bytes, expected error bytes) :
    Steady expected (Handler.fail error : Reader ε γ α) := by
  intro s
  refine ⟨.error error, s, rfl, suffix_refl _, ?_⟩
  rintro _ ⟨⟩
  exact usual _

theorem bind (head : Steady expected first)
    (tail : ∀ a, Steady expected (next a)) : Steady expected (first >>= next) := by
  intro s
  obtain ⟨result, t, ran, suffix, errors⟩ := head s
  cases result with
  | error error =>
    refine ⟨.error error, t, run_bind_error ran, suffix, ?_⟩
    rintro _ ⟨⟩
    exact errors error rfl
  | ok a =>
    obtain ⟨result, u, rest, suffix', errors'⟩ := tail a t
    exact ⟨result, u, (run_bind_ok ran).trans rest, suffix'.trans suffix, errors'⟩

theorem ite {yes no : Reader ε γ α} (then_ : Steady expected yes) (else_ : Steady expected no) :
    Steady expected (if condition then yes else no) := by
  split
  · exact then_
  · exact else_

theorem failIf {error : ε} (usual : ∀ bytes, expected error bytes) :
    Steady expected (Handler.failIf condition error : Reader ε γ Unit) :=
  .ite (.fail usual) (.pure ())

section

variable (usual : ∀ error, result = .error error → ∀ bytes, expected error bytes)
include usual

theorem ofExcept :
    Steady expected (Handler.ofExcept result : Reader ε γ α) := by
  cases result with
  | ok a => exact .pure a
  | error error => exact .fail (usual error rfl)

theorem ofExcept_bind (tail : ∀ a, result = .ok a → Steady expected (next a)) :
    Steady expected (Handler.ofExcept result >>= next) := by
  cases result with
  | ok a => exact tail a rfl
  | error error => exact Steady.fail (usual error rfl)

end

theorem peek : Steady expected (Reader.peek : Reader ε γ Bytes) :=
  fun s => ⟨.ok s.unread, s, rfl, suffix_refl _, fun _ impossible => nomatch impossible⟩

theorem takeAll : Steady expected (Reader.takeAll : Reader ε γ Bytes) :=
  fun _ => ⟨_, _, rfl, nil_suffix, fun _ impossible => nomatch impossible⟩

theorem observe (update : γ → γ) : Steady expected (Reader.observe update : Reader ε γ Unit) :=
  fun s => ⟨.ok (), _, rfl, suffix_refl s.unread, fun _ impossible => nomatch impossible⟩

/-- A reader on bytes that were cut out before. -/
theorem on {δ : Type} {inner : Reader ε δ α} {within : ε → Bytes → Prop}
    (steady : Steady within inner) (value : Input δ)
    (weaken : ∀ error block, within error block → ∀ bytes, expected error bytes) :
    Steady expected (Handler.on value inner : Reader ε γ α) := by
  intro s
  obtain ⟨result, t, ran, _, errors⟩ := steady value
  refine ⟨result, s, run_on ran s, suffix_refl _, fun error failed => ?_⟩
  exact weaken error t.unread (errors error failed) s.unread

/-- A read that looks at the bytes ahead and then takes what it found to be there. -/
theorem peek_bind {next : Bytes → Reader ε γ β}
    (tail : ∀ s : Input γ, ∃ result t, (next s.unread).run s = .ok (result, t) ∧
      t.unread <:+ s.unread ∧ ∀ error, result = .error error → expected error t.unread) :
    Steady expected (Reader.peek >>= next) := by
  intro s
  obtain ⟨result, t, ran, suffix, errors⟩ := tail s
  refine ⟨result, t, ?_, suffix, errors⟩
  exact (Reader.run_peek_bind next s).trans ran

end Steady

end Untrusted

/-! ### What a reader took -/

section Taking

variable {ε γ α β : Type}

/-- **A success takes bytes that determine it**: the reader takes the same value from any input that
starts with them, and it records nothing. The value and the bytes satisfy the postcondition. -/
def Takes (reader : Reader ε γ α) (post : α → Bytes → Prop) : Prop :=
  ∀ s a t, reader.run s = .ok (.ok a, t) → t.seen = s.seen ∧
    ∃ bytes, s.unread = bytes ++ t.unread ∧ Reads reader bytes a ∧ post a bytes

namespace Takes

variable {post : α → Bytes → Prop} {more : β → Bytes → Prop}

variable {next : α → Reader ε γ β} {first reader : Reader ε γ α} {condition : Prop}
  [Decidable condition] {result : Except ε α}

theorem pure {a : α} (holds : post a []) : Takes (Pure.pure a : Reader ε γ α) post := by
  intro s b t ran
  obtain ⟨rfl, rfl⟩ : a = b ∧ s = t := by
    cases ran
    exact ⟨rfl, rfl⟩
  exact ⟨rfl, [], rfl, .pure a, holds⟩

theorem fail (error : ε) : Takes (Handler.fail error : Reader ε γ α) post :=
  fun _ _ _ ran => nomatch ran

theorem bind (head : Takes first post)
    (tail : ∀ a bytes, post a bytes → Takes (next a) fun b others => more b (bytes ++ others)) :
    Takes (first >>= next) more := by
  intro s b u ran
  obtain ⟨a, t, began, ended⟩ := of_run_bind ran
  obtain ⟨quiet, bytes, split, reads, holds⟩ := head s a t began
  obtain ⟨quiet', others, split', reads', holds'⟩ := tail a bytes holds t b u ended
  refine ⟨quiet'.trans quiet, bytes ++ others, ?_, reads.bind reads', holds'⟩
  rw [split, split', append_assoc]

theorem ofExcept (holds : ∀ a, result = .ok a → post a []) :
    Takes (Handler.ofExcept result : Reader ε γ α) post := by
  cases result with
  | ok a => exact .pure (holds a rfl)
  | error error => exact .fail error

/-- A read that looks at the bytes ahead and then takes what it found to be there. -/
theorem peek {next : Bytes → Reader ε γ β}
    (tail : ∀ s b t, (next s.unread).run s = .ok (.ok b, t) → t.seen = s.seen ∧
      ∃ bytes, s.unread = bytes ++ t.unread ∧ Reads (Reader.peek >>= next) bytes b ∧ more b bytes) :
    Takes (Reader.peek >>= next) more :=
  fun s b t ran => tail s b t ran

end Takes

end Taking

/-! ### Reading items until nothing is left -/

section Items

variable {ε γ α : Type}

variable {item : Reader ε γ α} {values : List α} {pieces : List Bytes} {write : α → Writer ε Unit}

/-- At most the given number of items, until nothing is left. -/
def Reader.items (item : Reader ε γ α) : Nat → Reader ε γ (List α)
  | 0 => pure []
  | count + 1 => do
    let ahead ← Reader.peek
    if ahead = [] then pure [] else do
      let first ← item
      let others ← Reader.items item count
      pure (first :: others)

/-- Reads items while any byte remains. Every item takes a byte, so there are no more of them than
there are bytes. -/
def Reader.whileRemaining (item : Reader ε γ α) : Reader ε γ (List α) := do
  let ahead ← Reader.peek
  Reader.items item ahead.length

theorem Steady.items {expected : ε → Bytes → Prop}
    (steady : Steady expected item) : ∀ count, Steady expected (Reader.items item count)
  | 0 => .pure []
  | count + 1 => by
    refine Steady.peek.bind fun ahead => .ite (.pure []) ?_
    exact steady.bind fun first => (Steady.items steady count).bind fun others => .pure _

theorem Steady.whileRemaining {expected : ε → Bytes → Prop}
    (steady : Steady expected item) : Steady expected (Reader.whileRemaining item) :=
  Steady.peek.bind fun ahead => Steady.items steady ahead.length

/-- Items written one after the other are read back, when each of them takes at least one byte. -/
theorem ReadsAll.items
    (reads : List.Forall₂ (fun value bytes => Reads item bytes value ∧ bytes ≠ []) values pieces)
    {count : Nat} (enough : values.length ≤ count) :
    ReadsAll (Reader.items item count) pieces.flatten values := by
  induction reads generalizing count with
  | nil =>
    intro seen
    refine ⟨seen, ?_⟩
    cases count with
    | zero => rfl
    | succ count => rfl
  | cons here others ih =>
    rename_i value bytes values pieces
    obtain ⟨count, rfl⟩ : ∃ k, count = k + 1 := ⟨count - 1, by simp at enough; omega⟩
    intro seen
    obtain ⟨middle, ran⟩ := here.1 pieces.flatten seen
    have fewer : values.length ≤ count := by simpa using enough
    obtain ⟨last, ends⟩ := ih fewer middle
    refine ⟨last, ?_⟩
    rw [flatten_cons]
    refine (Reader.run_peek_bind _ _).trans ?_
    have some : bytes ++ pieces.flatten ≠ [] := by simp [here.2]
    rw [if_neg some]
    refine (run_bind_ok ran).trans ?_
    exact run_bind_ok ends

theorem length_le_flatten {P : α → Bytes → Prop}
    (related : List.Forall₂ (fun value bytes => P value bytes ∧ bytes ≠ []) values pieces) :
    values.length ≤ pieces.flatten.length := by
  induction related with
  | nil => exact Nat.le_refl _
  | cons here others ih =>
    have := length_pos_of_ne_nil here.2
    simp only [length_cons, flatten_cons, length_append]
    omega

theorem ReadsAll.whileRemaining
    (reads : List.Forall₂ (fun value bytes => Reads item bytes value ∧ bytes ≠ []) values pieces) :
    ReadsAll (Reader.whileRemaining item) pieces.flatten values := by
  intro seen
  obtain ⟨last, ran⟩ := ReadsAll.items reads (length_le_flatten reads) seen
  exact ⟨last, (Reader.run_peek_bind _ _).trans ran⟩

end Items

/-! ### Writers -/

section Writing

variable {ε α β : Type}

/-- **The writer only appends**, whatever the buffer holds, and after a success the value and the
appended bytes satisfy the postcondition. -/
def Writes (writer : Writer ε α) (post : α → Bytes → Prop) : Prop :=
  ∃ result bytes, (∀ buffer, writer.run buffer = .ok (result, buffer ++ bytes)) ∧
    ∀ value, result = .ok value → post value bytes

namespace Writes

variable {post : α → Bytes → Prop}

variable {writer : Writer ε α} {condition : Prop} [Decidable condition] {result : Except ε α}
  {error : ε}

theorem pure {value : α} (holds : post value []) : Writes (Pure.pure value : Writer ε α) post := by
  refine ⟨.ok value, [], fun buffer => ?_, ?_⟩
  · rw [append_nil]
    rfl
  · rintro _ ⟨⟩
    exact holds

theorem fail (error : ε) : Writes (Handler.fail error : Writer ε α) post := by
  refine ⟨.error error, [], fun buffer => ?_, fun _ impossible => nomatch impossible⟩
  rw [append_nil]
  rfl

theorem mono {weaker : α → Bytes → Prop} (written : Writes writer post)
    (weaken : ∀ value bytes, post value bytes → weaker value bytes) : Writes writer weaker := by
  obtain ⟨result, bytes, appends, holds⟩ := written
  exact ⟨result, bytes, appends, fun value success => weaken value bytes (holds value success)⟩

theorem bind {first : Writer ε α} {next : α → Writer ε β} {final : β → Bytes → Prop}
    (head : Writes first post) (tail : ∀ value bytes, post value bytes →
      Writes (next value) fun result more => final result (bytes ++ more)) :
    Writes (first >>= next) final := by
  obtain ⟨result, bytes, appends, holds⟩ := head
  cases result with
  | error error =>
    exact ⟨.error error, bytes, fun buffer => run_bind_error (appends buffer),
      fun _ impossible => nomatch impossible⟩
  | ok value =>
    obtain ⟨result, more, appends', holds'⟩ := tail value bytes (holds value rfl)
    refine ⟨result, bytes ++ more, fun buffer => ?_, holds'⟩
    rw [← append_assoc]
    exact (run_bind_ok (appends buffer)).trans (appends' _)

theorem ite {yes no : Writer ε α}
    (then_ : condition → Writes yes post) (else_ : ¬ condition → Writes no post) :
    Writes (if condition then yes else no) post := by
  split
  · rename_i holds
    exact then_ holds
  · rename_i fails
    exact else_ fails

theorem failIf (condition : Prop) [Decidable condition] (error : ε) :
    Writes (Handler.failIf condition error : Writer ε Unit)
      fun _ bytes => bytes = [] ∧ ¬ condition :=
  .ite (fun _ => .fail error) fun fine => .pure ⟨rfl, fine⟩

theorem ofExcept (result : Except ε α) : Writes (Handler.ofExcept result : Writer ε α)
      fun value bytes => bytes = [] ∧ result = .ok value := by
  cases result with
  | error error => exact .fail error
  | ok value => exact .pure ⟨rfl, rfl⟩

theorem failIf_bind {next : Unit → Writer ε α} (tail : ¬ condition → Writes (next ()) post) :
    Writes (Handler.failIf condition error >>= next) post := by
  refine (Writes.failIf _ _).bind ?_
  rintro _ _ ⟨rfl, fine⟩
  exact tail fine

theorem ofExcept_bind {result : Except ε β} {next : β → Writer ε α}
    (tail : ∀ b, result = .ok b → Writes (next b) post) :
    Writes (Handler.ofExcept result >>= next) post := by
  refine (Writes.ofExcept _).bind ?_
  rintro b _ ⟨rfl, fine⟩
  exact tail b fine

theorem ofChecked_bind {value : Checked β} {b : β} {next : β → Writer ε α} (fine : value = .ok b)
    (tail : Writes (next b) post) : Writes (Handler.ofChecked value >>= next) post := by
  subst fine
  exact tail

theorem extend (bytes : Bytes) :
    Writes (Writer.extend bytes : Writer ε Unit) fun _ written => written = bytes :=
  ⟨.ok (), bytes, fun _ => rfl, fun _ _ => rfl⟩

theorem putU8 (value : UInt8) :
    Writes (Writer.putU8 value : Writer ε Unit) fun _ written => written = [value] := .extend _

theorem putU16 (value : UInt16) :
    Writes (Writer.putU16 value : Writer ε Unit) fun _ written => written = u16Bytes value :=
  .extend _

theorem putU32 (value : UInt32) :
    Writes (Writer.putU32 value : Writer ε Unit) fun _ written => written = u32Bytes value :=
  .extend _

theorem transactional (written : Writes writer post) :
    Writes (Writer.transactional writer) post := by
  obtain ⟨result, bytes, appends, holds⟩ := written
  cases result with
  | ok value =>
    refine ⟨.ok value, bytes, fun buffer => ?_, holds⟩
    exact Writer.transactional_ok (appends buffer)
  | error error =>
    refine ⟨.error error, [], fun buffer => ?_, fun _ impossible => nomatch impossible⟩
    refine (Writer.transactional_error (appends buffer)).trans ?_
    simp

/-- **A transaction fails with the buffer as it was, or appends what was asked for.** -/
theorem transactional_cases (written : Writes writer post) :
    (∃ error, ∀ buffer, (Writer.transactional writer).run buffer = .ok (.error error, buffer)) ∨
      ∃ value bytes, post value bytes ∧
        ∀ buffer, (Writer.transactional writer).run buffer = .ok (.ok value, buffer ++ bytes) := by
  obtain ⟨result, bytes, appends, holds⟩ := written
  cases result with
  | ok value =>
    exact .inr ⟨value, bytes, holds value rfl, fun buffer => Writer.transactional_ok (appends buffer)⟩
  | error error =>
    refine .inl ⟨error, fun buffer => (Writer.transactional_error (appends buffer)).trans ?_⟩
    rw [take_left]

/-- **A byte that is written first and filled in at the end.** -/
theorem overwrite (written : Writes writer post) (start : UInt8) (mark : α → UInt8) :
    Writes (do
        let index ← Writer.position
        Writer.putU8 start
        let value ← writer
        Writer.setAt index (mark value)
        return value : Writer ε α)
      fun value bytes => ∃ more, bytes = mark value :: more ∧ post value more := by
  obtain ⟨result, bytes, appends, holds⟩ := written
  have ahead : ∀ buffer : Bytes, ∀ next : α → Writer ε α,
      (do Writer.putU8 start; let value ← writer; next value : Writer ε α).run buffer =
        (do let value ← writer; next value : Writer ε α).run (buffer ++ [start]) :=
    fun _ _ => rfl
  cases result with
  | error error =>
    refine ⟨.error error, start :: bytes, fun buffer => ?_, fun _ impossible => nomatch impossible⟩
    refine (ahead buffer _).trans ((run_bind_error (appends _)).trans ?_)
    rw [append_assoc]
    rfl
  | ok value =>
    refine ⟨.ok value, mark value :: bytes, fun buffer => ?_, ?_⟩
    · refine (ahead buffer _).trans ((run_bind_ok (appends _)).trans ?_)
      have inside : buffer.length < (buffer ++ [start] ++ bytes).length := by simp
      have set : (buffer ++ [start] ++ bytes).set buffer.length (mark value) =
          buffer ++ mark value :: bytes := by
        rw [append_assoc, set_append_right _ _ (Nat.le_refl _)]
        simp
      have filled : (Writer.setAt buffer.length (mark value) : Writer ε Unit).run
          (buffer ++ [start] ++ bytes) = .ok (.ok (), buffer ++ mark value :: bytes) := by
        show (if buffer.length < (buffer ++ [start] ++ bytes).length then _ else _) = _
        rw [if_pos inside, set]
      exact (run_bind_ok filled).trans rfl
    · rintro _ ⟨⟩
      exact ⟨bytes, rfl, holds value rfl⟩

end Writes

/-- Writes one item after the other. -/
def Writer.each (write : α → Writer ε Unit) : List α → Writer ε Unit
  | [] => pure ()
  | item :: items => do
    write item
    Writer.each write items

theorem Writes.each {write : α → Writer ε Unit} {post : α → Bytes → Prop} :
    ∀ items : List α, (∀ item ∈ items, Writes (write item) fun _ bytes => post item bytes) →
      Writes (Writer.each write items)
        fun _ bytes => ∃ pieces, bytes = pieces.flatten ∧ List.Forall₂ post items pieces
  | [], _ => .pure ⟨[], rfl, .nil⟩
  | item :: items, written => by
    refine (written item mem_cons_self).bind fun _ bytes here => ?_
    have others := Writes.each items fun other member =>
      written other (mem_cons_of_mem item member)
    refine others.mono fun _ more rest => ?_
    obtain ⟨pieces, flat, related⟩ := rest
    exact ⟨bytes :: pieces, by rw [flat, flatten_cons], .cons here related⟩

/-- **A list that is written item by item** takes the sum of their sizes, and is read back. -/
theorem Writes.items {γ : Type} {write : α → Writer ε Unit} {item : Reader ε γ α} {len : α → Nat}
    {fine : α → Prop} (written : ∀ a, Writes (write a) fun _ bytes =>
      bytes.length = len a ∧ bytes ≠ [] ∧ (fine a → Reads item bytes a)) (items : List α) :
    Writes (Writer.each write items) fun _ bytes =>
      bytes.length = (items.map len).sum ∧ (items ≠ [] → bytes ≠ []) ∧
        ((∀ a ∈ items, fine a) → ReadsAll (Reader.whileRemaining item) bytes items) := by
  refine (Writes.each items fun a _ => written a).mono ?_
  rintro _ _ ⟨pieces, rfl, each⟩
  refine ⟨?_, ?_, fun all => ReadsAll.whileRemaining ?_⟩
  · induction each with
    | nil => rfl
    | cons here _ ih => rw [flatten_cons, length_append, ih, here.1, map_cons, sum_cons]
  · intro some_
    cases each with
    | nil => exact absurd rfl some_
    | cons here _ => exact append_ne_nil_of_left_ne_nil here.2.1 _
  · induction each with
    | nil => exact .nil
    | cons here _ ih =>
      have first := here.2.2 (all _ mem_cons_self)
      exact .cons ⟨first, here.2.1⟩ (ih fun a member => all a (mem_cons_of_mem _ member))

/-! ### Writers that succeed -/

/-- **The writer succeeds**, whatever the buffer holds. -/
def Succeeds (writer : Writer ε α) : Prop :=
  ∀ buffer, ∃ value written, writer.run buffer = .ok (.ok value, written)

namespace Succeeds

theorem pure (value : α) : Succeeds (Pure.pure value : Writer ε α) := fun _ => ⟨value, _, rfl⟩

theorem bind {first : Writer ε α} {next : α → Writer ε β} (head : Succeeds first)
    (tail : ∀ value, Succeeds (next value)) : Succeeds (first >>= next) := by
  intro buffer
  obtain ⟨value, written, ran⟩ := head buffer
  obtain ⟨result, done, rest⟩ := tail value written
  exact ⟨result, done, (run_bind_ok ran).trans rest⟩

theorem extend (bytes : Bytes) : Succeeds (Writer.extend bytes : Writer ε Unit) :=
  fun _ => ⟨(), _, rfl⟩

theorem failIf {condition : Prop} [Decidable condition] (fine : ¬ condition) (error : ε) :
    Succeeds (Handler.failIf condition error : Writer ε Unit) := by
  unfold Handler.failIf
  rw [if_neg fine]
  exact .pure ()

theorem ofExcept {result : Except ε α} {value : α} (fine : result = .ok value) :
    Succeeds (Handler.ofExcept result : Writer ε α) := by
  subst fine
  exact .pure value

theorem ite {condition : Prop} [Decidable condition] {yes no : Writer ε α} (then_ : Succeeds yes)
    (else_ : Succeeds no) : Succeeds (if condition then yes else no) := by
  split
  · exact then_
  · exact else_

theorem transactional {writer : Writer ε α} (succeeds : Succeeds writer) :
    Succeeds (Writer.transactional writer) := by
  intro buffer
  obtain ⟨value, written, ran⟩ := succeeds buffer
  exact ⟨value, written, Writer.transactional_ok ran⟩

theorem each {write : α → Writer ε Unit} :
    ∀ items : List α, (∀ item ∈ items, Succeeds (write item)) → Succeeds (Writer.each write items)
  | [], _ => .pure ()
  | item :: items, all => by
    refine (all item mem_cons_self).bind fun _ => ?_
    exact Succeeds.each items fun other member => all other (mem_cons_of_mem item member)

end Succeeds

/-- **What a writer that succeeds appends.** -/
theorem Writes.of_succeeds {writer : Writer ε α} {post : α → Bytes → Prop}
    (written : Writes writer post) (succeeds : Succeeds writer) :
    ∃ value bytes, (∀ buffer, writer.run buffer = .ok (.ok value, buffer ++ bytes)) ∧
      post value bytes := by
  obtain ⟨result, bytes, appends, holds⟩ := written
  obtain ⟨value, _, ran⟩ := succeeds []
  have same := (appends []).symm.trans ran
  cases result with
  | error error => cases same
  | ok other => exact ⟨other, bytes, appends, holds other rfl⟩

end Writing

end Rumqtt
