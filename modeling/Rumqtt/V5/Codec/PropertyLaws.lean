/-
**Property blocks: what the loop of a reader does, step by step.**

* `Kind.writes` — the writer and the reader of every kind of value agree, and the value takes the
  number of bytes that is computed for it.
* `PropertyTable.run_pieces` — on the bytes of whole properties the loop makes one round for each of
  them, as long as its cursor has not passed the declared length. `Reaches` is that proviso: it is the
  only way in which the cursor matters.
* `PropertyTable.reads_block` — a block that was written is read back when the loop reaches all of it
  and the values can be stored again (`replay`).
* `PropertyTable.steady_loop` — on untrusted bytes the loop of a set without variable byte integers does
  not panic, and it reports no missing bytes.
-/

import Rumqtt.V5.Codec.PropertySets

namespace Rumqtt.V5

open Mqttbytes Handler List Reader

/-- Missing bytes are not reported. -/
def Complete (error : Error) (_ : Bytes) : Prop := ∀ n, error ≠ .insufficientBytes n

theorem Complete.admits : Admits Complete := by
  intro error other bytes n same
  cases error with
  | insufficientBytes required => exact other required rfl
  | payloadTooLong actual max => cases same
  | boundaryCrossed length => cases same
  | malformedPacket => cases same
  | malformedRemainingLength => cases same
  | topicNotUtf8 => cases same

/-! ### Values -/

namespace Kind

/-- **What is written for a value is read back**, and the cursor moves by the bytes it takes. -/
theorem writes : (kind : Kind) → (value : kind.Carrier) → Writes (kind.write value) fun _ bytes =>
      bytes.length = kind.width value ∧ Reads kind.read bytes (value, bytes.length)
  | byte, value => by
    refine (Writes.putU8 _).mono ?_
    rintro _ _ rfl
    exact ⟨rfl, (reads_u8 value).bind (.pure _)⟩
  | twoByte, value => by
    refine (Writes.putU16 _).mono ?_
    rintro _ _ rfl
    exact ⟨rfl, (reads_u16 value).bind (.pure _)⟩
  | fourByte, value => by
    refine (Writes.putU32 _).mono ?_
    rintro _ _ rfl
    exact ⟨rfl, (reads_u32 value).bind (.pure _)⟩
  | varint, value => by
    refine (writes_remainingLength value).bind ?_
    rintro _ field ⟨_, size, isLength⟩
    refine Writes.pure ?_
    rw [append_nil]
    refine ⟨size, fun rest seen => ?_⟩
    obtain ⟨seen', ran⟩ := Reads.advance (ε := Error) field rest seen
    refine ⟨seen', ?_⟩
    refine (run_bind_ok (isLength.reads rest seen)).trans ?_
    exact run_bind_ok ran
  | text, value => by
    refine (writes_mqttString (List Block) value).mono ?_
    rintro _ bytes ⟨size, reads⟩
    refine ⟨size, ?_⟩
    rw [size, ← append_nil bytes]
    exact reads.bind (.pure _)
  | binary, value => by
    refine (writes_mqttBytes (List Block) value).mono ?_
    rintro _ bytes ⟨size, reads⟩
    refine ⟨size, ?_⟩
    rw [size, ← append_nil bytes]
    exact reads.bind (.pure _)
  | pair, (key, value) => by
    refine (writes_mqttString (List Block) key).bind ?_
    rintro _ first ⟨size, reads⟩
    refine (writes_mqttString (List Block) value).mono ?_
    rintro _ second ⟨size', reads'⟩
    have total : (first ++ second).length =
        2 + (utf8 key).length + 2 + (utf8 value).length := by
      rw [List.length_append, size, size']
      omega
    refine ⟨total, ?_⟩
    rw [total, ← append_nil second]
    exact reads.bind (reads'.bind (.pure _))

/-- Only a variable byte integer can be found cut. -/
theorem steady : (kind : Kind) → kind ≠ .varint → Steady Complete kind.read
  | byte, _ => (steady_u8 Complete.admits).bind fun _ => .pure _
  | twoByte, _ => (steady_u16 Complete.admits).bind fun _ => .pure _
  | fourByte, _ => (steady_u32 Complete.admits).bind fun _ => .pure _
  | varint, other => absurd rfl other
  | text, _ => (steady_mqttString Complete.admits).bind fun _ => .pure _
  | binary, _ => (steady_mqttBytes Complete.admits).bind fun _ => .pure _
  | pair, _ => (steady_mqttString Complete.admits).bind fun _ =>
    (steady_mqttString Complete.admits).bind fun _ => .pure _

end Kind

/-! ### Properties -/

/-- The bytes of one property. -/
def PropertyWritten (property : Property) (piece : Bytes) : Prop :=
  ∃ value, piece = property.type.code :: value ∧ piece.length = property.len ∧
    Reads property.type.kind.read value (property.value, value.length)

theorem PropertyWritten.length {property : Property} {piece : Bytes}
    (written : PropertyWritten property piece) : piece.length = property.len := by
  obtain ⟨_, _, size, _⟩ := written
  exact size

theorem PropertyWritten.ne_nil {property : Property} {piece : Bytes}
    (written : PropertyWritten property piece) : piece ≠ [] := by
  obtain ⟨_, rfl, _⟩ := written
  exact cons_ne_nil _ _

theorem Property.len_pos (property : Property) : 0 < property.len := by
  unfold Property.len
  omega

theorem length_pieces {properties : List Property} {pieces : List Bytes}
    (written : List.Forall₂ PropertyWritten properties pieces) :
    pieces.flatten.length = (properties.map Property.len).sum := by
  induction written with
  | nil => rfl
  | cons here _ ih =>
    rw [flatten_cons, List.length_append, ih, here.length]
    rfl

namespace PropertyTable

variable {P : Type} (table : PropertyTable P)

variable {len : Nat} {properties : P} {bytes : Bytes} {prop : Property} {props : List Property}

theorem writes_property (prop : Property) : Writes (table.writeProperty prop) fun _ piece =>
      table.guard prop = .ok () ∧ PropertyWritten prop piece := by
  refine (Writes.ofExcept _).bind ?_
  rintro _ _ ⟨rfl, guarded⟩
  refine (Writes.putU8 _).bind ?_
  rintro _ _ rfl
  refine (prop.type.kind.writes prop.value).mono ?_
  rintro _ value ⟨size, reads⟩
  refine ⟨guarded, value, rfl, ?_, reads⟩
  show value.length + 1 = prop.len
  unfold Property.len
  omega

section

variable (len : Nat) (properties : P)

/-- The bytes of a block: its length, then its properties. -/
def BlockWritten (bytes : Bytes) : Prop :=
  ∃ field pieces, bytes = field ++ pieces.flatten ∧ IsLength len field ∧ field.length = lenLen len ∧
    List.Forall₂ (fun prop piece => table.guard prop = .ok () ∧ PropertyWritten prop piece)
      (table.entries properties) pieces

theorem writes_inner : Writes (table.writeInner len properties) fun _ bytes =>
      table.BlockWritten len properties bytes := by
  refine (writes_remainingLength len).bind ?_
  rintro _ field ⟨_, size, isLength⟩
  refine (Writes.each _ fun prop _ => table.writes_property prop).mono ?_
  rintro _ _ ⟨pieces, rfl, written⟩
  exact ⟨field, pieces, rfl, isLength, size, written⟩

theorem writes_block :
    Writes (table.write len properties) fun _ bytes => table.BlockWritten len properties bytes :=
  (table.writes_inner len properties).transactional

end

variable {table}

section

variable (written : table.BlockWritten len properties bytes)
include written

theorem BlockWritten.pieces : ∃ field pieces, bytes = field ++ pieces.flatten ∧ IsLength len field ∧
      field.length = lenLen len ∧ List.Forall₂ PropertyWritten (table.entries properties) pieces := by
  obtain ⟨field, pieces, split, isLength, size, each⟩ := written
  exact ⟨field, pieces, split, isLength, size, each.imp fun _ _ both => both.2⟩

theorem BlockWritten.guarded :
    ∀ prop ∈ table.entries properties, table.guard prop = .ok () := by
  obtain ⟨_, pieces, -, -, -, each⟩ := written
  intro prop member
  generalize table.entries properties = props at each member
  induction each with
  | nil => cases member
  | cons here _ ih =>
    rcases mem_cons.mp member with rfl | member
    · exact here.1
    · exact ih member

theorem BlockWritten.length (exact_ : len = ((table.entries properties).map Property.len).sum) :
    bytes.length = lenLen len + len := by
  obtain ⟨field, pieces, rfl, _, size, each⟩ := written.pieces
  rw [List.length_append, size, length_pieces each, ← exact_]

end

/-! ### Rounds of the loop -/

variable (table)

/-- The number of rounds does not matter once they suffice for the cursor to get there. -/
theorem loop_rounds : ∀ {rounds others cursor : Nat} (p : P),
    len ≤ cursor + rounds → len ≤ cursor + others →
      table.loop len rounds cursor p = table.loop len others cursor p := by
  intro rounds
  induction rounds with
  | zero =>
    intro others cursor p enough _
    cases others with
    | zero => rfl
    | succ others => exact (if_neg (by omega)).symm
  | succ rounds ih =>
    intro others cursor p enough enough'
    cases others with
    | zero => exact if_neg (by omega)
    | succ others =>
      by_cases below : cursor < len
      · refine (if_pos below).trans (Eq.trans ?_ (if_pos below).symm)
        refine congrArg (readU8 >>= ·) (funext fun byte => ?_)
        refine congrArg (ofExcept (property byte) >>= ·) (funext fun type => ?_)
        refine congrArg (ofExcept (table.expects p type) >>= ·) (funext fun _ => ?_)
        refine congrArg (type.kind.read >>= ·) (funext fun read => ?_)
        refine congrArg (ofExcept (table.store p type read.1) >>= ·) (funext fun q => ?_)
        exact ih q (by omega) (by omega)
      · exact (if_neg below).trans (if_neg below).symm

/-- The loop from a cursor on, with as many rounds as it may need. -/
def loopFrom (len cursor : Nat) (p : P) : FrameReader P := table.loop len (len - cursor) cursor p

theorem loopFrom_end {cursor : Nat} (passed : len ≤ cursor) (p : P) :
    table.loopFrom len cursor p = pure p := by
  unfold loopFrom
  rw [show len - cursor = 0 by omega]
  rfl

theorem loopFrom_step {cursor : Nat} (below : cursor < len) (p : P) :
    table.loopFrom len cursor p = (do
      let prop ← readU8
      let type ← ofExcept (property prop)
      ofExcept (table.expects p type)
      let (value, width) ← type.kind.read
      let p ← ofExcept (table.store p type value)
      table.loopFrom len (cursor + 1 + (width + table.extra type)) p) := by
  unfold loopFrom
  rw [show len - cursor = len - cursor - 1 + 1 by omega]
  refine (if_pos below).trans ?_
  refine congrArg (readU8 >>= ·) (funext fun byte => ?_)
  refine congrArg (ofExcept (property byte) >>= ·) (funext fun type => ?_)
  refine congrArg (ofExcept (table.expects p type) >>= ·) (funext fun _ => ?_)
  refine congrArg (type.kind.read >>= ·) (funext fun read => ?_)
  refine congrArg (ofExcept (table.store p type read.1) >>= ·) (funext fun q => ?_)
  exact table.loop_rounds q (by omega) (by omega)

/-- By how much a property moves the cursor. -/
def advance (prop : Property) : Nat := prop.len + table.extra prop.type

/-- The cursor after the given properties, counted from where they begin. -/
def span (props : List Property) : Nat := (props.map table.advance).sum

/-- **The cursor is below the declared length in front of every property.** -/
def Reaches (len : Nat) : Nat → List Property → Prop
  | _, [] => True
  | cursor, prop :: props => cursor < len ∧ Reaches len (cursor + table.advance prop) props

/-- Storing the values of properties one after the other. -/
def replay (p : P) : List Property → Except Error P
  | [] => .ok p
  | prop :: props => do
    table.expects p prop.type
    let p ← table.store p prop.type prop.value
    replay p props

variable {table}

theorem replay_cons {p q r : P} (expected : table.expects p prop.type = .ok ())
    (stored : table.store p prop.type prop.value = .ok q) (rest : table.replay q props = .ok r) :
    table.replay p (prop :: props) = .ok r := by
  unfold replay
  rw [expected]
  show (table.store p prop.type prop.value >>= fun q => table.replay q props) = _
  rw [stored]
  exact rest

theorem replay_cons_ok {p r : P} (replayed : table.replay p (prop :: props) = .ok r) :
    table.expects p prop.type = .ok () ∧
      ∃ q, table.store p prop.type prop.value = .ok q ∧ table.replay q props = .ok r := by
  unfold replay at replayed
  cases expected : table.expects p prop.type with
  | error error =>
    rw [expected] at replayed
    cases replayed
  | ok _ =>
    rw [expected] at replayed
    refine ⟨rfl, ?_⟩
    cases stored : table.store p prop.type prop.value with
    | error error =>
      rw [show (Except.ok () >>= fun _ => table.store p prop.type prop.value >>= fun q =>
        table.replay q props) = (table.store p prop.type prop.value >>= fun q =>
        table.replay q props) from rfl, stored] at replayed
      cases replayed
    | ok q =>
      rw [show (Except.ok () >>= fun _ => table.store p prop.type prop.value >>= fun q =>
        table.replay q props) = (table.store p prop.type prop.value >>= fun q =>
        table.replay q props) from rfl, stored] at replayed
      exact ⟨q, rfl, replayed⟩

theorem replay_append {p q r : P} {others : List Property}
    (first : table.replay p props = .ok q) (second : table.replay q others = .ok r) :
    table.replay p (props ++ others) = .ok r := by
  induction props generalizing p with
  | nil =>
    cases first
    exact second
  | cons prop props ih =>
    obtain ⟨expected, next, stored, rest⟩ := replay_cons_ok first
    exact replay_cons expected stored (ih rest)

/-- What a round does on the bytes of a property, whatever comes after it. -/
theorem run_round {piece : Bytes} (written : PropertyWritten prop piece) {p q : P}
    (expected : table.expects p prop.type = .ok ())
    (stored : table.store p prop.type prop.value = .ok q) {α : Type}
    (next : Nat → PropertyType → P → FrameReader α) (rest : Bytes) (seen : List Block) :
    ∃ seen', (do
      let prop ← readU8
      let type ← ofExcept (property prop)
      ofExcept (table.expects p type)
      let (value, width) ← type.kind.read
      let q ← ofExcept (table.store p type value)
      next width type q : FrameReader α).run ⟨piece ++ rest, seen⟩ =
        (next (prop.len - 1) prop.type q).run ⟨rest, seen'⟩ := by
  obtain ⟨value, rfl, size, reads⟩ := written
  obtain ⟨first, typeRead⟩ := reads_u8 (ε := Error) prop.type.code (value ++ rest) seen
  obtain ⟨second, valueRead⟩ := reads rest first
  refine ⟨second, ?_⟩
  refine (run_bind_ok typeRead).trans ?_
  rw [property_code]
  refine (run_bind_ok (a := prop.type) rfl).trans ?_
  rw [expected]
  refine (run_bind_ok (a := ()) rfl).trans ?_
  refine (run_bind_ok valueRead).trans ?_
  dsimp only
  rw [stored, ← size]
  exact run_bind_ok (a := q) rfl

/-- **One round on the bytes of a property.** -/
theorem run_property {piece : Bytes} (written : PropertyWritten prop piece)
    {cursor : Nat} (below : cursor < len) {p q : P} (expected : table.expects p prop.type = .ok ())
    (stored : table.store p prop.type prop.value = .ok q) (rest : Bytes) (seen : List Block) :
    ∃ seen', (table.loopFrom len cursor p).run ⟨piece ++ rest, seen⟩ =
      (table.loopFrom len (cursor + table.advance prop) q).run ⟨rest, seen'⟩ := by
  obtain ⟨seen', ran⟩ := run_round written expected stored
    (fun width type q => table.loopFrom len (cursor + 1 + (width + table.extra type)) q) rest seen
  have positive := prop.len_pos
  have cursor_eq : cursor + 1 + (prop.len - 1 + table.extra prop.type) =
      cursor + table.advance prop := by
    unfold advance
    omega
  refine ⟨seen', ?_⟩
  rw [table.loopFrom_step below, ← cursor_eq]
  exact ran

/-- **The loop on the bytes of whole properties**: one round for each of them. -/
theorem run_pieces {pieces : List Bytes}
    (written : List.Forall₂ PropertyWritten props pieces) {cursor : Nat} {p q : P}
    (replayed : table.replay p props = .ok q) (reaches : table.Reaches len cursor props)
    (rest : Bytes) (seen : List Block) :
    ∃ seen', (table.loopFrom len cursor p).run ⟨pieces.flatten ++ rest, seen⟩ =
      (table.loopFrom len (cursor + table.span props) q).run ⟨rest, seen'⟩ := by
  induction written generalizing cursor p seen with
  | nil =>
    cases replayed
    exact ⟨seen, rfl⟩
  | cons here there ih =>
    rename_i prop piece props pieces
    obtain ⟨below, further⟩ := reaches
    obtain ⟨expected, next, stored, others⟩ := replay_cons_ok replayed
    obtain ⟨middle, first⟩ := run_property here below expected stored (pieces.flatten ++ rest) seen
    obtain ⟨last, second⟩ := ih others further middle
    refine ⟨last, ?_⟩
    rw [flatten_cons, append_assoc]
    refine first.trans (second.trans ?_)
    rw [Nat.add_assoc]
    rfl

theorem reaches_append {cursor : Nat} {others : List Property} :
    table.Reaches len cursor (props ++ others) ↔
      table.Reaches len cursor props ∧ table.Reaches len (cursor + table.span props) others := by
  induction props generalizing cursor with
  | nil =>
    show _ ↔ True ∧ table.Reaches len (cursor + 0) others
    rw [Nat.add_zero, true_and]
    rfl
  | cons prop props ih =>
    show (cursor < len ∧ table.Reaches len (cursor + table.advance prop) (props ++ others)) ↔
      (cursor < len ∧ table.Reaches len (cursor + table.advance prop) props) ∧
        table.Reaches len (cursor + (table.advance prop + table.span props)) others
    rw [ih, and_assoc, Nat.add_assoc]

/-- The cursor grows with every property, so that it is below the length in front of each of them if
it does not exceed it behind all of them. -/
theorem reaches_of_span :
    ∀ {cursor : Nat}, cursor + table.span props ≤ len → table.Reaches len cursor props := by
  induction props with
  | nil => exact fun _ => trivial
  | cons prop props ih =>
    intro cursor fits
    have positive := prop.len_pos
    have spans : table.span (prop :: props) = table.advance prop + table.span props := rfl
    have moves : prop.len ≤ table.advance prop := Nat.le_add_right _ _
    exact ⟨by omega, ih (by omega)⟩

/-- Only the last property decides whether the loop reaches all of them. -/
theorem reaches_concat {cursor : Nat} {last : Property} :
    table.Reaches len cursor (props ++ [last]) ↔ cursor + table.span props < len := by
  rw [reaches_append]
  constructor
  · exact fun reaches => reaches.2.1
  · exact fun below => ⟨reaches_of_span (by omega), below, trivial⟩

theorem span_eq (props : List Property) : table.span props =
      (props.map Property.len).sum + (props.map fun prop => table.extra prop.type).sum := by
  induction props with
  | nil => rfl
  | cons prop props ih =>
    have spans : table.span (prop :: props) = table.advance prop + table.span props := rfl
    rw [spans, ih]
    unfold advance
    simp only [map_cons, sum_cons]
    omega

theorem span_of_exact (exact_ : ∀ type, table.extra type = 0) (props : List Property) :
    table.span props = (props.map Property.len).sum := by
  rw [span_eq]
  simp [exact_]

/-- **The loop stops early** when it does not reach all properties: the rest of them stays unread. -/
theorem run_stopped {pieces : List Bytes}
    (written : List.Forall₂ PropertyWritten props pieces) {cursor : Nat} {p q : P}
    (replayed : table.replay p props = .ok q) (stops : ¬ table.Reaches len cursor props) :
    ∃ r left, left ≠ [] ∧ ∀ rest seen, ∃ seen',
      (table.loopFrom len cursor p).run ⟨pieces.flatten ++ rest, seen⟩ =
        .ok (.ok r, ⟨left ++ rest, seen'⟩) := by
  induction written generalizing cursor p with
  | nil => exact absurd trivial stops
  | cons here there ih =>
    rename_i prop piece props pieces
    by_cases below : cursor < len
    · obtain ⟨expected, next, stored, others⟩ := replay_cons_ok replayed
      obtain ⟨r, left, nonempty, ran⟩ := ih others fun reaches => stops ⟨below, reaches⟩
      refine ⟨r, left, nonempty, fun rest seen => ?_⟩
      obtain ⟨middle, first⟩ :=
        run_property here below expected stored (pieces.flatten ++ rest) seen
      obtain ⟨last, second⟩ := ran rest middle
      refine ⟨last, ?_⟩
      rw [flatten_cons, append_assoc]
      exact first.trans second
    · refine ⟨p, (piece :: pieces).flatten, ?_, fun rest seen => ⟨seen, ?_⟩⟩
      · exact append_ne_nil_of_left_ne_nil here.ne_nil _
      · rw [table.loopFrom_end (Nat.le_of_not_lt below)]
        rfl

/-- **The loop stops with an error** at a value that cannot be stored. -/
theorem run_refused {others : List Property} {pieces : List Bytes}
    (written : List.Forall₂ PropertyWritten (props ++ prop :: others) pieces) {cursor : Nat}
    {p q : P} {error : Error} (replayed : table.replay p props = .ok q)
    (expected : table.expects q prop.type = .ok ())
    (refused : table.store q prop.type prop.value = .error error)
    (reaches : table.Reaches len cursor (props ++ prop :: others)) (rest : Bytes)
    (seen : List Block) :
    ∃ t, (table.loopFrom len cursor p).run ⟨pieces.flatten ++ rest, seen⟩ = .ok (.error error, t) := by
  induction props generalizing cursor p pieces seen with
  | nil =>
    cases replayed
    obtain _ | ⟨here, there⟩ := written
    rename_i piece pieces
    obtain ⟨value, rfl, size, reads⟩ := here
    rw [flatten_cons, append_assoc]
    obtain ⟨first, typeRead⟩ :=
      reads_u8 (ε := Error) prop.type.code (value ++ (pieces.flatten ++ rest)) seen
    obtain ⟨second, valueRead⟩ := reads (pieces.flatten ++ rest) first
    refine ⟨⟨pieces.flatten ++ rest, second⟩, ?_⟩
    rw [table.loopFrom_step reaches.1]
    refine (run_bind_ok typeRead).trans ?_
    rw [property_code]
    refine (run_bind_ok (a := prop.type) rfl).trans ?_
    rw [expected]
    refine (run_bind_ok (a := ()) rfl).trans ?_
    refine (run_bind_ok valueRead).trans ?_
    dsimp only
    rw [refused]
    exact run_bind_error rfl
  | cons first props ih =>
    obtain _ | ⟨here, there⟩ := written
    rename_i piece pieces
    obtain ⟨expected', next, stored, replayed⟩ := replay_cons_ok replayed
    obtain ⟨middle, ran⟩ :=
      run_property here reaches.1 expected' stored (pieces.flatten ++ rest) seen
    obtain ⟨t, ended⟩ := ih there replayed reaches.2 middle
    refine ⟨t, ?_⟩
    rw [flatten_cons, append_assoc]
    exact ran.trans ended

/-! ### Whole blocks -/

theorem run_read_ahead {field : Bytes} (isLength : IsLength len field) (rest : Bytes)
    (seen : List Block) {β : Type} (next : Nat × Nat → FrameReader β) :
    ((peekLength >>= next : FrameReader β)).run ⟨field ++ rest, seen⟩ =
      (next (field.length, len)).run ⟨field ++ rest, seen⟩ :=
  run_bind_ok (isLength.reads rest seen)

/-- **The length of an absent block is read as one.** -/
theorem reads_absent {field : Bytes} (isLength : IsLength 0 field) :
    Reads table.read field none := by
  intro rest seen
  obtain ⟨middle, skipped⟩ := Reads.advance (ε := Error) field rest seen
  refine ⟨middle ++ [{ ahead := rest, declared := 0, consumed := 0 }], ?_⟩
  refine (run_read_ahead isLength rest seen _).trans ?_
  refine (run_bind_ok skipped).trans ?_
  exact (run_peek_bind _ _).trans rfl

/-- Where a block that was written leaves its reader: at the end of the loop over its properties. -/
theorem run_block {field : Bytes} (isLength : IsLength len field) (some_ : len ≠ 0)
    {body rest : Bytes} {seen : List Block} {p : P} {left : Bytes}
    (ran : ∀ seen, ∃ seen', (table.loopFrom len 0 table.empty).run ⟨body ++ rest, seen⟩ =
      .ok (.ok p, ⟨left, seen'⟩)) :
    ∃ seen', table.read.run ⟨field ++ (body ++ rest), seen⟩ = .ok (.ok (some p), ⟨left, seen'⟩) := by
  obtain ⟨middle, skipped⟩ := Reads.advance (ε := Error) field (body ++ rest) seen
  obtain ⟨after, looped⟩ := ran middle
  refine ⟨after ++ [⟨body ++ rest, len, (body ++ rest).length - left.length⟩], ?_⟩
  refine (run_read_ahead isLength _ seen _).trans ?_
  refine (run_bind_ok skipped).trans ?_
  refine (run_peek_bind _ _).trans ?_
  dsimp only
  rw [if_neg some_]
  refine (run_bind_ok looped).trans ?_
  exact (run_peek_bind _ _).trans rfl

/-- **A block is read back** when the loop reaches all of its properties and its values can be stored
again. -/
theorem reads_block (written : table.BlockWritten len properties bytes) (some_ : len ≠ 0)
    (replayed : table.replay table.empty (table.entries properties) = .ok properties)
    (reaches : table.Reaches len 0 (table.entries properties))
    (ends : len ≤ table.span (table.entries properties)) :
    Reads table.read bytes (some properties) := by
  obtain ⟨field, pieces, rfl, isLength, _, each⟩ := written.pieces
  intro rest seen
  rw [append_assoc]
  refine run_block isLength some_ fun seen => ?_
  obtain ⟨seen', ran⟩ := run_pieces each replayed reaches rest seen
  refine ⟨seen', ran.trans ?_⟩
  rw [table.loopFrom_end (by omega)]
  rfl

/-- A block of an exact table is read back. -/
theorem reads_exact_block (exact_ : ∀ type, table.extra type = 0)
    (written : table.BlockWritten len properties bytes) (some_ : len ≠ 0)
    (sum : len = ((table.entries properties).map Property.len).sum)
    (replayed : table.replay table.empty (table.entries properties) = .ok properties) :
    Reads table.read bytes (some properties) := by
  have spans := span_of_exact exact_ (table.entries properties)
  exact reads_block written some_ replayed (reaches_of_span (by omega)) (by omega)

/-- **A block of an exact table is refused** if one of its values cannot be stored. -/
theorem refuses_block (exact_ : ∀ type, table.extra type = 0)
    (written : table.BlockWritten len properties bytes)
    (sum : len = ((table.entries properties).map Property.len).sum) {others : List Property}
    (split : table.entries properties = props ++ prop :: others) {q : P}
    {error : Error} (replayed : table.replay table.empty props = .ok q)
    (expected : table.expects q prop.type = .ok ())
    (refused : table.store q prop.type prop.value = .error error) : Refuses table.read bytes := by
  obtain ⟨field, pieces, rfl, isLength, _, each⟩ := written.pieces
  intro rest seen
  have spans := span_of_exact exact_ (table.entries properties)
  have positive := prop.len_pos
  have some_ : len ≠ 0 := by
    rw [sum, split]
    simp only [map_append, map_cons, sum_append, sum_cons]
    omega
  obtain ⟨middle, skipped⟩ := Reads.advance (ε := Error) field (pieces.flatten ++ rest) seen
  have reaches : table.Reaches len 0 (props ++ prop :: others) := by
    rw [← split]
    exact reaches_of_span (by omega)
  rw [split] at each
  obtain ⟨t, looped⟩ := run_refused each replayed expected refused reaches rest middle
  refine ⟨error, t, ?_⟩
  rw [append_assoc]
  refine (run_read_ahead isLength _ seen _).trans ?_
  refine (run_bind_ok skipped).trans ?_
  refine (run_peek_bind _ _).trans ?_
  dsimp only
  rw [if_neg some_]
  exact run_bind_error looped

/-! ### Untrusted bytes -/

/-- The checks of a table report no missing bytes. -/
structure Plain (table : PropertyTable P) : Prop where
  expects : ∀ p type error, table.expects p type = .error error → ∀ n, error ≠ .insufficientBytes n
  store : ∀ p type value error, table.store p type value = .error error →
    ∀ n, error ≠ .insufficientBytes n

theorem steady_round (plain : table.Plain) {α : Type} (p : P)
    (kinds : ∀ type, table.expects p type = .ok () → type.kind ≠ .varint)
    (next : Nat → PropertyType → P → FrameReader α)
    (others : ∀ width type q, Steady Complete (next width type q)) :
    Steady Complete (do
      let prop ← readU8
      let type ← ofExcept (property prop)
      ofExcept (table.expects p type)
      let (value, width) ← type.kind.read
      let q ← ofExcept (table.store p type value)
      next width type q : FrameReader α) := by
  refine (steady_u8 Complete.admits).bind fun byte => ?_
  refine Steady.bind (Steady.ofExcept fun error failed _ => ?_) fun type => ?_
  · rw [property_error failed]
    exact fun _ => Error.noConfusion
  refine Steady.ofExcept_bind (fun error failed _ => plain.expects _ _ _ failed) fun _ expected => ?_
  refine (type.kind.steady (kinds type expected)).bind fun read => ?_
  refine Steady.bind (Steady.ofExcept fun error failed _ => plain.store _ _ _ _ failed) fun q => ?_
  exact others _ _ _

theorem steady_loop (plain : table.Plain)
    (kinds : ∀ p type, table.expects p type = .ok () → type.kind ≠ .varint) (len : Nat) :
    ∀ (rounds cursor : Nat) (p : P), Steady Complete (table.loop len rounds cursor p)
  | 0, _, p => .pure p
  | rounds + 1, cursor, p => by
    refine .ite ?_ (.pure p)
    exact steady_round plain p (kinds p)
      (fun width type q => table.loop len rounds (cursor + 1 + (width + table.extra type)) q)
      fun width type q => steady_loop plain kinds len rounds _ q

end PropertyTable

end Rumqtt.V5
