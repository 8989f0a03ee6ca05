/-
**Where the end of a frame cuts off a variable byte integer.**

The readers look for a variable byte integer in two places: at the length of a property block, and at a
subscription identifier, which only PUBLISH and SUBSCRIBE have. `CutFrame` says of the bytes of a frame
that it ends inside one of them: `CutBody` finds the property block of each type of packet, and
`behindBlock` walks over a block by the lengths that its bytes announce.

* `Reports cut`: a reader does not panic, and it reports missing bytes only if the frame is cut;
* `PropertyTable.reports_read`: so do the readers of property blocks;
* `PropertyTable.unread_read`: a block that was read ends where the walk over it ends.
-/

import Rumqtt.V5.Codec.Standard

namespace Rumqtt.V5

open Mqttbytes Handler Reader

/-! ### Walking over a block -/

/-- The length of a string, or of binary data, with the two bytes that announce it. -/
def dataLen (bytes : Bytes) : Nat := 2 + (256 * (bytes.getD 0 0).toNat + (bytes.getD 1 0).toNat)

/-- What is behind a string. -/
def behindData (bytes : Bytes) : Bytes := bytes.drop (dataLen bytes)

/-- What is behind the value of a property. -/
def Kind.behind : Kind → Bytes → Bytes
  | byte, bytes => bytes.drop 1
  | twoByte, bytes => bytes.drop 2
  | fourByte, bytes => bytes.drop 4
  | varint, bytes =>
    match length bytes with
    | .ok (idLen, _) => bytes.drop idLen
    | .error _ => bytes
  | text, bytes | binary, bytes => behindData bytes
  | pair, bytes => behindData (behindData bytes)

/-- What is behind the properties, `left` bytes of which are declared, or `none` if the frame ends
inside a subscription identifier. -/
def behindProperties : (rounds left : Nat) → Bytes → Option Bytes
  | 0, _, bytes | _ + 1, 0, bytes => some bytes
  | _ + 1, _ + 1, [] => some []
  | rounds + 1, left + 1, code :: bytes =>
    match property code with
    | .error _ => some bytes
    | .ok type =>
      if type.kind = .varint ∧ Unterminated bytes then none
      else
        let rest := type.kind.behind bytes
        behindProperties rounds (left - (bytes.length - rest.length)) rest

/-- What is behind a property block, or `none` if the frame ends inside its length or inside a
subscription identifier. -/
def behindBlock (bytes : Bytes) : Option Bytes :=
  match length bytes with
  | .ok (lenLen, len) => behindProperties len len (bytes.drop lenLen)
  | .error _ => if Unterminated bytes then none else some bytes

/-! ### The frames that are cut -/

/-- A CONNECT has a property block behind the keep-alive and, if the flags announce a will, another one
behind the client identifier. -/
def CutConnect (body : Bytes) : Prop :=
  let block := body.drop (dataLen body + 4)
  Unterminated block ∨ body.getD (dataLen body + 1) 0 &&& 0x04 ≠ 0 ∧
    ∃ rest ∈ behindBlock block, Unterminated (behindData rest)

instance (body : Bytes) : Decidable (CutConnect body) := inferInstanceAs (Decidable (_ ∨ _ ∧ _))

/-- **The body of a packet ends inside a variable byte integer**: inside a subscription identifier of a
PUBLISH or a SUBSCRIBE, or inside the length of a property block. -/
def CutBody (header : FixedHeader) (body : Bytes) : PacketType → Prop
  | .publish => behindBlock (body.drop (publishFieldsLen header body)) = none
  | .subscribe => behindBlock (body.drop 2) = none
  | .connAck | .subAck | .unsubscribe | .unsubAck => Unterminated (body.drop 2)
  | .pubAck | .pubRec | .pubRel | .pubComp =>
    4 ≤ header.remainingLen ∧ Unterminated (body.drop 3)
  | .disconnect | .auth => Unterminated (body.drop 1)
  | .connect => CutConnect body
  | .pingReq | .pingResp => False

instance (header : FixedHeader) (body : Bytes) (type : PacketType) :
    Decidable (CutBody header body type) := by
  unfold CutBody
  split <;> infer_instance

/-- **A frame that ends inside a variable byte integer.** -/
def CutFrame (header : FixedHeader) (frame : Bytes) : Prop :=
  header.remainingLen ≠ 0 ∧
    ∃ type ∈ (packetType header).toOption, CutBody header (frame.drop header.headerLen) type

instance (header : FixedHeader) (frame : Bytes) : Decidable (CutFrame header frame) :=
  inferInstanceAs (Decidable (_ ∧ _))

/-! ### Reports of missing bytes -/

/-- **No panic, and missing bytes are reported only if the frame is cut.** -/
def Reports {α : Type} (cut : Prop) (ended : Checked (Except Error α × Input (List Block))) : Prop :=
  ∃ result t, ended = .ok (result, t) ∧ ∀ n, result = .error (.insufficientBytes n) → cut

section Reports

variable {α β : Type} {cut weaker : Prop} {s t : Input (List Block)} {first : FrameReader α}
  {next : α → FrameReader β}

theorem Reports.mono {ended : Checked (Except Error α × Input (List Block))}
    (reports : Reports cut ended) (weaken : cut → weaker) : Reports weaker ended := by
  obtain ⟨result, t, ran, missing⟩ := reports
  exact ⟨result, t, ran, fun n failed => weaken (missing n failed)⟩

/-- A reader that has no use for a variable byte integer. -/
theorem Reports.never (quiet : Steady Complete first) : Reports cut (first.run s) := by
  obtain ⟨result, t, ran, -, errors⟩ := quiet s
  exact ⟨result, t, ran, fun n failed => absurd rfl (errors _ failed n)⟩

theorem Reports.bind (head : Reports cut (first.run s))
    (tail : ∀ a t, first.run s = .ok (.ok a, t) → Reports cut ((next a).run t)) :
    Reports cut ((first >>= next).run s) := by
  obtain ⟨result, t, ran, missing⟩ := head
  cases result with
  | error error =>
    refine ⟨.error error, t, run_bind_error ran, fun n failed => missing n ?_⟩
    exact congrArg Except.error (Except.error.inj failed)
  | ok a =>
    rw [run_bind_ok ran]
    exact tail a t ran

/-- A check of what was read. -/
theorem Reports.check {result : Except Error α} (plain : Plain result)
    (tail : ∀ a, result = .ok a → Reports cut ((next a).run s)) :
    Reports cut ((ofExcept result >>= next).run s) := by
  refine .bind (.never (.ofExcept fun error failed _ => plain.error failed)) fun a t ran => ?_
  obtain ⟨passed, rfl⟩ := of_run_ofExcept ran
  exact tail a passed

theorem Reports.failIf {condition : Prop} [Decidable condition] {error : Error}
    {next : Unit → FrameReader β} (plain : ∀ n, error ≠ .insufficientBytes n)
    (tail : Reports cut ((next ()).run s)) :
    Reports cut ((Handler.failIf condition error >>= next).run s) := by
  refine .bind (.never (.failIf fun _ => plain)) fun _ t ran => ?_
  obtain ⟨-, rfl⟩ := of_run_failIf ran
  exact tail

theorem unread_advance {count : Nat} (ran : (advance count : FrameReader Unit).run s = .ok (.ok (), t)) :
    t.unread = s.unread.drop count := by
  change (if count ≤ s.unread.length then _ else _) = _ at ran
  split at ran
  · cases ran
    rfl
  · cases ran

theorem Reports.advance {count : Nat} {next : Unit → FrameReader β} (enough : count ≤ s.unread.length)
    (tail : ∀ t, t.unread = s.unread.drop count → Reports cut ((next ()).run t)) :
    Reports cut ((Reader.advance count >>= next).run s) := by
  have skipped : (Reader.advance count : FrameReader Unit).run s =
      .ok (.ok (), { s with unread := s.unread.drop count }) := if_pos enough
  rw [run_bind_ok skipped]
  exact tail _ rfl

end Reports

/-! ### The properties -/

variable {s t : Input (List Block)}

/-- An integer is taken off, unless the frame ends inside it. -/
theorem Reports.length {α : Type} {cut : Prop} {next : Nat × Nat → FrameReader α}
    (ends : ∀ error, Mqttbytes.length s.unread = .error error → Unterminated s.unread → cut)
    (tail : ∀ read, Mqttbytes.length s.unread = .ok read → Reports cut ((next read).run s)) :
    Reports cut ((peekLength >>= next).run s) := by
  have peeked := run_peekLength s
  cases found : Mqttbytes.length s.unread with
  | ok read =>
    rw [found] at peeked
    rw [run_bind_ok peeked]
    exact tail read found
  | error error =>
    rw [found] at peeked
    refine ⟨_, s, run_bind_error peeked, fun n failed => ?_⟩
    cases error with
    | insufficientBytes required => exact ends _ found (unterminated_of_length found)
    | _ => cases failed

theorem unread_data {data : Bytes} (ran : (readMqttBytes : FrameReader Bytes).run s = .ok (.ok data, t)) :
    t.unread = behindData s.unread := unread_mqttBytes ran

theorem unread_string {text : String}
    (ran : (readMqttString : FrameReader String).run s = .ok (.ok text, t)) :
    t.unread = behindData s.unread := by
  obtain ⟨_, u, read, checked⟩ := of_run_bind ran
  obtain ⟨-, rfl⟩ := of_run_ofExcept checked
  exact unread_data read

theorem unread_u8 {value : UInt8} (ran : (readU8 : FrameReader UInt8).run s = .ok (.ok value, t)) :
    s.unread = value :: t.unread := by
  obtain ⟨-, bytes, split, -, rfl⟩ := takes_u8 _ _ _ ran
  exact split

theorem unread_u16 {value : UInt16} (ran : (readU16 : FrameReader UInt16).run s = .ok (.ok value, t)) :
    t.unread = s.unread.drop 2 := by
  obtain ⟨-, bytes, split, -, size⟩ := takes_u16 _ _ _ ran
  rw [split, ← size, List.drop_left]

namespace Kind

/-- **A value that was read ends where its bytes say.** -/
theorem unread (kind : Kind) {read : kind.Carrier × Nat} (ran : kind.read.run s = .ok (.ok read, t)) :
    t.unread = kind.behind s.unread := by
  cases kind with
  | byte =>
    obtain ⟨_, _, value, ran⟩ := of_run_bind ran
    cases ran
    exact (congrArg (List.drop 1) (unread_u8 value)).symm
  | twoByte =>
    obtain ⟨_, _, value, ran⟩ := of_run_bind ran
    cases ran
    exact unread_u16 value
  | fourByte =>
    obtain ⟨_, _, value, ran⟩ := of_run_bind ran
    cases ran
    obtain ⟨-, bytes, split, -, size⟩ := takes_u32 _ _ _ value
    show _ = s.unread.drop 4
    rw [split, ← size, List.drop_left]
  | varint =>
    obtain ⟨found, _, peeked, ran⟩ := of_run_bind ran
    obtain ⟨ahead, rfl⟩ := of_run_peekLength peeked
    obtain ⟨_, _, moved, ran⟩ := of_run_bind ran
    cases ran
    unfold behind
    dsimp only
    rw [ahead]
    exact unread_advance moved
  | text =>
    obtain ⟨_, _, value, ran⟩ := of_run_bind ran
    cases ran
    exact unread_string value
  | binary =>
    obtain ⟨_, _, value, ran⟩ := of_run_bind ran
    cases ran
    exact unread_data value
  | pair =>
    obtain ⟨_, _, key, ran⟩ := of_run_bind ran
    obtain ⟨_, _, value, ran⟩ := of_run_bind ran
    cases ran
    exact (unread_string value).trans (congrArg behindData (unread_string key))

/-- Its arm counts the bytes that it took. -/
theorem size_eq (kind : Kind) {value : kind.Carrier} {size : Nat}
    (ran : kind.read.run s = .ok (.ok (value, size), t)) :
    s.unread.length - t.unread.length = size := by
  obtain ⟨-, field, split, -, width⟩ := kind.takes _ _ _ ran
  rw [split, List.length_append, width]
  exact Nat.add_sub_cancel ..

/-- Missing bytes are reported inside a variable byte integer. -/
theorem reports (kind : Kind) : Reports (kind = .varint ∧ Unterminated s.unread) (kind.read.run s) := by
  by_cases varint : kind = .varint
  · subst varint
    refine .length (fun _ _ ends => ⟨rfl, ends⟩) fun read found => ?_
    exact .advance (length_bounds found).2 fun t _ => .never (.pure _)
  · exact .never (kind.steady varint)

end Kind

namespace PropertyTable

variable {P : Type} {table : PropertyTable P}

/-- The set has no subscription identifier, the only property with a variable byte integer. -/
def NoIdentifier (table : PropertyTable P) : Prop :=
  ∀ p, table.expects p .subscriptionIdentifier ≠ .ok ()

theorem NoIdentifier.kind_ne {p : P} {type : PropertyType} (without : table.NoIdentifier)
    (expected : table.expects p type = .ok ()) : type.kind ≠ .varint := by
  cases type with
  | subscriptionIdentifier => exact absurd expected (without p)
  | _ => exact Kind.noConfusion

/-- One step of the walk. -/
theorem behindProperties_cons {code : UInt8} {type : PropertyType} (named : property code = .ok type)
    (rounds left : Nat) (bytes : Bytes) :
    behindProperties (rounds + 1) (left + 1) (code :: bytes) =
      if type.kind = .varint ∧ Unterminated bytes then none
      else behindProperties rounds (left - (bytes.length - (type.kind.behind bytes).length))
        (type.kind.behind bytes) := by
  conv_lhs => unfold behindProperties
  rw [named]

/-- **The loop reports missing bytes only where the walk ends.** Its cursor is never behind the walk. -/
theorem reports_loop (plain : table.Plain) {len rounds cursor left : Nat} {p : P}
    (declared : len - cursor ≤ left) :
    Reports (behindProperties rounds left s.unread = none)
      ((table.loop len rounds cursor p).run s) := by
  induction rounds generalizing cursor left p s with
  | zero => exact .never (.pure p)
  | succ rounds ih =>
    by_cases below : cursor < len
    · obtain ⟨left, rfl⟩ : ∃ fewer, left = fewer + 1 := ⟨left - 1, by omega⟩
      rw [show table.loop len (rounds + 1) cursor p = _ from if_pos below]
      refine .bind (.never (steady_u8 Complete.admits)) fun code s₁ readType => ?_
      have first := unread_u8 readType
      refine .check (fun n failed => ?_) fun type named => ?_
      · cases property_error failed
      refine .check (fun n failed => plain.expects _ _ _ failed n rfl) fun _ _ => ?_
      rw [first, behindProperties_cons named]
      refine .bind (type.kind.reports.mono fun cut => if_pos cut) fun read s₂ readValue => ?_
      obtain ⟨value, size⟩ := read
      refine .check (fun n failed => plain.store _ _ _ _ failed n rfl) fun q _ => ?_
      rw [← type.kind.unread readValue, type.kind.size_eq readValue]
      refine Reports.mono (ih (show _ ≤ left - size by omega)) fun cut => ?_
      split_ifs
      · rfl
      · exact cut
    · rw [show table.loop len (rounds + 1) cursor p = pure p from if_neg below]
      exact .never (.pure p)

/-- **A loop that has ended stands where the walk ends.** -/
theorem unread_loop (without : table.NoIdentifier) (flat : ∀ type, table.extra type = 0)
    {len rounds cursor : Nat} {p q : P}
    (ran : (table.loop len rounds cursor p).run s = .ok (.ok q, t)) :
    behindProperties rounds (len - cursor) s.unread = some t.unread := by
  induction rounds generalizing cursor p s with
  | zero =>
    cases ran
    rfl
  | succ rounds ih =>
    by_cases below : cursor < len
    · rw [show table.loop len (rounds + 1) cursor p = _ from if_pos below] at ran
      obtain ⟨code, s₁, readType, ran⟩ := of_run_bind ran
      obtain ⟨type, _, isType, ran⟩ := of_run_bind ran
      obtain ⟨named, rfl⟩ := of_run_ofExcept isType
      obtain ⟨_, _, expected, ran⟩ := of_run_bind ran
      obtain ⟨known, rfl⟩ := of_run_ofExcept expected
      obtain ⟨⟨value, size⟩, s₂, readValue, ran⟩ := of_run_bind ran
      obtain ⟨_, _, stored, ran⟩ := of_run_bind ran
      obtain ⟨-, rfl⟩ := of_run_ofExcept stored
      have later := ih ran
      obtain ⟨left, rest⟩ : ∃ left, len - cursor = left + 1 := ⟨len - cursor - 1, by omega⟩
      rw [rest, unread_u8 readType, behindProperties_cons named,
        if_neg fun cut => without.kind_ne known cut.1, ← type.kind.unread readValue,
        type.kind.size_eq readValue]
      rw [flat] at later
      have moved : len - (cursor + 1 + (size + 0)) = left - size := by omega
      rwa [moved] at later
    · rw [show table.loop len (rounds + 1) cursor p = pure p from if_neg below] at ran
      cases ran
      rw [show len - cursor = 0 by omega]
      rfl

/-- **A block reports missing bytes only if the frame ends inside its length or inside an identifier.** -/
theorem reports_read (plain : table.Plain) :
    Reports (behindBlock s.unread = none) (table.read.run s) := by
  refine .length (fun error failed ends => ?_) fun read found =>
    .advance (length_bounds found).2 fun t moved => ?_
  · unfold behindBlock
    rw [failed]
    exact if_pos ends
  · unfold behindBlock
    rw [found]
    dsimp only
    rw [← moved]
    refine .bind (.never .peek) fun bytes u peeked => ?_
    cases peeked
    split
    · exact .never ((Steady.observe _).bind fun _ => .pure _)
    · refine .bind (reports_loop plain le_rfl) fun properties u _ => ?_
      exact .never (Steady.peek.bind fun _ => (Steady.observe _).bind fun _ => .pure _)

/-- A block without identifiers reports missing bytes only if the frame ends inside its length. -/
theorem reports_read_without (plain : table.Plain) (without : table.NoIdentifier) :
    Reports (Unterminated s.unread) (table.read.run s) := by
  refine .length (fun _ _ ends => ends) fun read found =>
    .advance (length_bounds found).2 fun t _ => .never ?_
  refine Steady.peek.bind fun ahead => .ite ((Steady.observe _).bind fun _ => .pure _) ?_
  refine (steady_loop plain (fun _ _ expected => without.kind_ne expected) _ _ _ _).bind
    fun properties => ?_
  exact Steady.peek.bind fun _ => (Steady.observe _).bind fun _ => .pure _

/-- **A block that was read ends where the walk ends.** -/
theorem unread_read (without : table.NoIdentifier) (flat : ∀ type, table.extra type = 0) {p : Option P}
    (ran : table.read.run s = .ok (.ok p, t)) : behindBlock s.unread = some t.unread := by
  obtain ⟨found, _, peeked, ran⟩ := of_run_bind ran
  obtain ⟨ahead, rfl⟩ := of_run_peekLength peeked
  obtain ⟨_, s₁, moved, ran⟩ := of_run_bind ran
  obtain ⟨_, _, seen, ran⟩ := of_run_bind ran
  cases seen
  unfold behindBlock
  rw [ahead]
  dsimp only at ran ⊢
  rw [← unread_advance moved]
  split at ran
  · rename_i none_
    cases ran
    rw [none_]
    rfl
  · obtain ⟨_, s₂, looped, ran⟩ := of_run_bind ran
    cases ran
    exact unread_loop without flat looped

end PropertyTable

end Rumqtt.V5
