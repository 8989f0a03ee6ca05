/-
**Canonical resource names.**

Loop detection compares websocket targets by their normalised resource name. `normalizeResourceName`
removes dot segments first and normalises percent escapes afterwards; an escaped dot segment is
therefore decoded when nothing removes it any more. With the two loops in the other order
(`canonicalResourceName`) the result is a canonical form.

* `Encoded`: texts whose percent signs all start an escape, the induction principle of the escapes;
* `Differs`, `Equivalent`: resources that differ only in the case of escapes, in the escaping of
  unreserved characters or in dot segments;
* `equivalent_iff`: two resources are equivalent when their canonical names are the same;
* `resource_names_canonical`: normalisation is canonical on the resources whose dot segments are all
  written without escapes (`PlainDots`), where the order of the two loops makes no difference.
-/

import Mathlib
import Rumqtt.V5.Redirect

namespace Rumqtt.V5

open List

variable {c high low : Char} {h l : Nat} {segments kept : List Text}
  {rest segment after resource before : Text}

/-! ### Characters -/

theorem toNat_le_of_le {bound : Char} (le : c ≤ bound) : c.toNat ≤ bound.toNat :=
  UInt32.le_iff_toNat_le.mp le

theorem ascii_of_hexDigit (found : hexDigit c = some h) : c.toNat < 128 := by
  unfold hexDigit at found
  split at found
  · rename_i digit
    exact Nat.lt_of_le_of_lt (toNat_le_of_le digit.2) (by decide)
  · split at found
    · rename_i lower
      exact Nat.lt_of_le_of_lt (toNat_le_of_le lower.2) (by decide)
    · split at found
      · rename_i upper
        exact Nat.lt_of_le_of_lt (toNat_le_of_le upper.2) (by decide)
      · cases found

/-- The digit in upper case. -/
def upperDigit (h : Nat) : Char := ['0', '1', '2', '3', '4', '5', '6', '7', '8', '9', 'A', 'B', 'C',
  'D', 'E', 'F'].getD h '0'

/-- The value of a digit, and the digit in upper case by its value. -/
theorem hexDigit_upper (found : hexDigit c = some h) :
    c.toUpper = upperDigit h ∧ h < 16 := by
  have all : ∀ n < 128, ∀ h ∈ hexDigit (Char.ofNat n),
      (Char.ofNat n).toUpper = upperDigit h ∧ h < 16 := by decide +kernel
  have checked := all c.toNat (ascii_of_hexDigit found)
  rw [Char.ofNat_toNat] at checked
  exact checked h found

theorem upperDigit_spec : ∀ h < 16, hexDigit (upperDigit h) = some h ∧
    (upperDigit h).toUpper = upperDigit h ∧ isUnreserved (upperDigit h) = true := by
  decide +kernel

/-- The ASCII characters that `http::Uri` takes in a path or a query; the reference is refused before
that where it has a `#` or a backslash. -/
def uriCharacter (c : Char) : Bool :=
  isUnreserved c || ['!', '\u0022', '$', '%', '&', '\u0027', '(', ')', '*', '+', ',', '/', ':', ';',
    '=', '?', '@', '[', ']', '^', '\u0060', '\u007b', '|', '\u007d'].contains c

theorem uriCharacter_of_unreserved (unreserved : isUnreserved c = true) :
    uriCharacter c = true := by
  simp [uriCharacter, unreserved]

theorem ascii_of_uriCharacter (ascii : uriCharacter c = true) : c.toNat < 128 := by
  simp only [uriCharacter, isUnreserved, Char.isAlphanum, Char.isAlpha, Char.isUpper, Char.isLower,
    Char.isDigit, Bool.or_eq_true, Bool.and_eq_true, decide_eq_true_eq, beq_iff_eq,
    List.contains_eq_mem] at ascii
  have bounded : ∀ {bound : UInt32}, c.val ≤ bound → bound.toNat < 128 → c.toNat < 128 :=
    fun le small => Nat.lt_of_le_of_lt (UInt32.le_iff_toNat_le.mp le) small
  rcases ascii with ((((((upper | lower) | digit) | rfl) | rfl) | rfl) | rfl) | other
  · exact bounded upper.2 (by decide)
  · exact bounded lower.2 (by decide)
  · exact bounded digit.2 (by decide)
  · decide
  · decide
  · decide
  · decide
  · have all : (['!', '\u0022', '$', '%', '&', '\u0027', '(', ')', '*', '+', ',', '/', ':', ';', '=', '?',
        '@', '[', ']', '^', '\u0060', '\u007b', '|', '\u007d'].all fun c => c.toNat < 128) = true := by
      decide
    exact of_decide_eq_true (List.all_eq_true.mp all c other)

/-- In ASCII a character is its byte. -/
theorem bytesAsChars_ascii {text : Text} (ascii : ∀ c ∈ text, uriCharacter c = true) :
    bytesAsChars text = text := by
  have all : ∀ n < 128, (String.utf8EncodeChar (Char.ofNat n)).map (fun byte => Char.ofNat byte.toNat) =
      [Char.ofNat n] := by decide +kernel
  induction text with
  | nil => rfl
  | cons c rest ih =>
    obtain ⟨here, later⟩ := forall_mem_cons.mp ascii
    have one := all c.toNat (ascii_of_uriCharacter here)
    rw [Char.ofNat_toNat] at one
    calc bytesAsChars (c :: rest) = _ ++ bytesAsChars rest := rfl
      _ = [c] ++ rest := congrArg₂ _ one (ih later)

/-! ### Percent escapes -/

/-- `validate_percent_triplets` -/
def validPercentTriplets : Text → Bool
  | [] => true
  | c :: rest =>
    match c, rest with
    | '%', high :: low :: after =>
      (hexDigit high).isSome && (hexDigit low).isSome && validPercentTriplets after
    | '%', _ => false
    | _, rest => validPercentTriplets rest

/-- **Every percent sign starts an escape.** -/
inductive Encoded : Text → Prop where
  | nil : Encoded []
  | plain {c : Char} {rest : Text} (notPercent : c ≠ '%') (encoded : Encoded rest) :
    Encoded (c :: rest)
  | escape {high low : Char} {h l : Nat} {rest : Text} (highDigit : hexDigit high = some h)
    (lowDigit : hexDigit low = some l) (encoded : Encoded rest) : Encoded ('%' :: high :: low :: rest)

theorem encoded_iff (text : Text) : validPercentTriplets text = true ↔ Encoded text := by
  constructor
  · intro valid
    induction text using validPercentTriplets.induct with
    | case1 => exact .nil
    | case2 high low after ih =>
      simp only [validPercentTriplets, Bool.and_eq_true] at valid
      obtain ⟨⟨highHex, lowHex⟩, later⟩ := valid
      obtain ⟨h, highDigit⟩ := Option.isSome_iff_exists.mp highHex
      obtain ⟨l, lowDigit⟩ := Option.isSome_iff_exists.mp lowHex
      exact .escape highDigit lowDigit (ih later)
    | case3 rest short =>
      rw [validPercentTriplets] at valid
      · cases valid
      · exact short
    | case4 c rest notEscape notPercent ih =>
      refine .plain notPercent (ih ?_)
      rwa [validPercentTriplets] at valid
      · exact notPercent
      · exact notEscape
  · intro encoded
    induction encoded with
    | nil => rfl
    | plain notPercent encoded ih =>
      simp [validPercentTriplets, notPercent, ih]
    | escape highDigit lowDigit encoded ih =>
      simp [validPercentTriplets, highDigit, lowDigit, ih]

namespace Encoded

variable {text first second : Text} {c : Char}

theorem append (head : Encoded first) (last : Encoded second) : Encoded (first ++ second) := by
  induction head with
  | nil => exact last
  | plain notPercent _ ih => exact .plain notPercent ih
  | escape highDigit lowDigit _ ih => exact .escape highDigit lowDigit ih

/-- A text may be cut in front of a character that is no digit. -/
theorem split (encoded : Encoded (first ++ c :: second)) (notDigit : hexDigit c = none) :
    Encoded first ∧ Encoded (c :: second) := by
  generalize whole : first ++ c :: second = text at encoded
  induction encoded generalizing first with
  | nil => simp at whole
  | plain notPercent encoded ih =>
    cases first with
    | nil =>
      rw [nil_append] at whole
      rw [whole]
      exact ⟨.nil, .plain notPercent encoded⟩
    | cons other rest =>
      obtain ⟨rfl, same⟩ := cons_eq_cons.mp whole
      obtain ⟨before, after⟩ := ih same
      exact ⟨.plain notPercent before, after⟩
  | escape highDigit lowDigit encoded ih =>
    rcases first with _ | ⟨percent, _ | ⟨high, _ | ⟨low, rest⟩⟩⟩
    · rw [nil_append] at whole
      rw [whole]
      exact ⟨.nil, .escape highDigit lowDigit encoded⟩
    · simp only [cons_append, nil_append, List.cons.injEq] at whole
      rw [← whole.2.1, notDigit] at highDigit
      cases highDigit
    · simp only [cons_append, nil_append, List.cons.injEq] at whole
      rw [← whole.2.2.1, notDigit] at lowDigit
      cases lowDigit
    · simp only [cons_append, List.cons.injEq] at whole
      obtain ⟨rfl, rfl, rfl, same⟩ := whole
      obtain ⟨before, after⟩ := ih same
      exact ⟨.escape highDigit lowDigit before, after⟩

theorem tail (encoded : Encoded (c :: text)) (notPercent : c ≠ '%') : Encoded text := by
  cases encoded with
  | plain _ rest => exact rest
  | escape => exact absurd rfl notPercent

end Encoded

/-! ### Normalised escapes -/

theorem normalize_plain (notPercent : c ≠ '%') (rest : Text) :
    normalizePercentBytes (c :: rest) = c :: normalizePercentBytes rest := by
  rw [normalizePercentBytes]
  intro high low after percent
  exact absurd percent notPercent

theorem normalize_escape (highDigit : hexDigit high = some h)
    (lowDigit : hexDigit low = some l) (rest : Text) :
    normalizePercentBytes ('%' :: high :: low :: rest) =
      normalizeEscape high low (16 * h + l) ++ normalizePercentBytes rest := by
  rw [normalizePercentBytes, highDigit, lowDigit]

theorem percent_reserved : isUnreserved '%' = false := by decide

/-- What an escape becomes: an unreserved character, or an escape in upper case that stays one. -/
theorem normalizeEscape_cases (highDigit : hexDigit high = some h)
    (lowDigit : hexDigit low = some l) :
    (isUnreserved (Char.ofNat (16 * h + l)) = true ∧
      normalizeEscape high low (16 * h + l) = [Char.ofNat (16 * h + l)]) ∨
    (isUnreserved (Char.ofNat (16 * h + l)) = false ∧
      normalizeEscape high low (16 * h + l) = ['%', upperDigit h, upperDigit l]) := by
  unfold normalizeEscape
  dsimp only
  rw [(hexDigit_upper highDigit).1, (hexDigit_upper lowDigit).1]
  cases unreserved : isUnreserved (Char.ofNat (16 * h + l)) with
  | true => exact .inl ⟨rfl, if_pos rfl⟩
  | false => exact .inr ⟨rfl, if_neg Bool.false_ne_true⟩

theorem ne_percent (unreserved : isUnreserved c = true) : c ≠ '%' := by
  rintro rfl
  rw [percent_reserved] at unreserved
  cases unreserved

/-- A normalised escape is encoded, and normalising it again changes nothing. -/
theorem normalizeEscape_spec (highDigit : hexDigit high = some h)
    (lowDigit : hexDigit low = some l) :
    Encoded (normalizeEscape high low (16 * h + l)) ∧
      normalizePercentBytes (normalizeEscape high low (16 * h + l)) =
        normalizeEscape high low (16 * h + l) := by
  obtain ⟨highUpper, -, -⟩ := upperDigit_spec h (hexDigit_upper highDigit).2
  obtain ⟨lowUpper, -, -⟩ := upperDigit_spec l (hexDigit_upper lowDigit).2
  rcases normalizeEscape_cases highDigit lowDigit with ⟨unreserved, same⟩ | ⟨reserved, same⟩
  · rw [same, normalize_plain (ne_percent unreserved)]
    exact ⟨.plain (ne_percent unreserved) .nil, rfl⟩
  · rw [same, normalize_escape highUpper lowUpper]
    refine ⟨.escape highUpper lowUpper .nil, ?_⟩
    rcases normalizeEscape_cases highUpper lowUpper with ⟨unreserved, -⟩ | ⟨-, again⟩
    · rw [reserved] at unreserved
      cases unreserved
    · rw [again]
      rfl

namespace Encoded

variable {text first second : Text}

theorem normalize_append (head : Encoded first) (second : Text) :
    normalizePercentBytes (first ++ second) =
      normalizePercentBytes first ++ normalizePercentBytes second := by
  induction head with
  | nil => rfl
  | plain notPercent _ ih =>
    rw [cons_append, normalize_plain notPercent, normalize_plain notPercent, ih, cons_append]
  | escape highDigit lowDigit _ ih =>
    rw [cons_append, cons_append, cons_append, normalize_escape highDigit lowDigit,
      normalize_escape highDigit lowDigit, ih, append_assoc]

section

variable (encoded : Encoded text)
include encoded

theorem normalized : Encoded (normalizePercentBytes text) := by
  induction encoded with
  | nil => exact .nil
  | plain notPercent _ ih =>
    rw [normalize_plain notPercent]
    exact .plain notPercent ih
  | escape highDigit lowDigit _ ih =>
    rw [normalize_escape highDigit lowDigit]
    exact (normalizeEscape_spec highDigit lowDigit).1.append ih

/-- **Normalising escapes twice is normalising them once.** -/
theorem normalize_idem :
    normalizePercentBytes (normalizePercentBytes text) = normalizePercentBytes text := by
  induction encoded with
  | nil => rfl
  | plain notPercent _ ih => rw [normalize_plain notPercent, normalize_plain notPercent, ih]
  | escape highDigit lowDigit _ ih =>
    obtain ⟨encoded, fixed⟩ := normalizeEscape_spec highDigit lowDigit
    rw [normalize_escape highDigit lowDigit, encoded.normalize_append, fixed, ih]

/-- Where the characters of a normalised text come from. -/
theorem mem_normalized {c : Char}
    (member : c ∈ normalizePercentBytes text) : c ∈ text ∨ isUnreserved c = true := by
  induction encoded with
  | nil => cases member
  | plain notPercent _ ih =>
    rw [normalize_plain notPercent] at member
    rcases mem_cons.mp member with rfl | later
    · exact .inl mem_cons_self
    · exact (ih later).imp_left (mem_cons_of_mem _)
  | escape highDigit lowDigit _ ih =>
    rw [normalize_escape highDigit lowDigit] at member
    rcases mem_append.mp member with inEscape | later
    · rcases normalizeEscape_cases highDigit lowDigit with ⟨unreserved, same⟩ | ⟨-, same⟩
      · rw [same, mem_singleton] at inEscape
        exact .inr (inEscape ▸ unreserved)
      · rw [same] at inEscape
        simp only [mem_cons, not_mem_nil, or_false] at inEscape
        rcases inEscape with rfl | rfl | rfl
        · exact .inl mem_cons_self
        · exact .inr (upperDigit_spec _ (hexDigit_upper highDigit).2).2.2
        · exact .inr (upperDigit_spec _ (hexDigit_upper lowDigit).2).2.2
    · refine (ih later).imp_left fun inRest => ?_
      exact mem_cons_of_mem _ (mem_cons_of_mem _ (mem_cons_of_mem _ inRest))

/-- A delimiter does not come out of an escape. -/
theorem notMem_normalized {c : Char} (reserved : isUnreserved c = false)
    (absent : c ∉ text) : c ∉ normalizePercentBytes text := by
  intro member
  rcases encoded.mem_normalized member with present | unreserved
  · exact absent present
  · rw [reserved] at unreserved
    cases unreserved

end

end Encoded

/-! ### Paths as segments -/

/-- The text of a path: a slash in front of every segment. -/
def pathText (segments : List Text) : Text := segments.flatMap ('/' :: ·)

@[simp] theorem pathText_nil : pathText [] = [] := rfl

@[simp] theorem pathText_cons (segment : Text) (rest : List Text) :
    pathText (segment :: rest) = '/' :: segment ++ pathText rest := rfl

@[simp] theorem pathText_append (first second : List Text) :
    pathText (first ++ second) = pathText first ++ pathText second := flatMap_append

theorem slash_intercalate (nonempty : segments ≠ []) :
    '/' :: ['/'].intercalate segments = pathText segments := by
  induction segments with
  | nil => exact absurd rfl nonempty
  | cons segment rest ih =>
    cases rest with
    | nil => simp
    | cons next later =>
      rw [intercalate_cons_cons, pathText_cons, ← ih (cons_ne_nil _ _)]
      simp

/-- A segment: no slash and no question mark. -/
structure Segment (text : Text) : Prop where
  slash : '/' ∉ text
  query : '?' ∉ text

theorem exists_segments_slash (noQuery : '?' ∉ rest) :
    ∃ segments, segments ≠ [] ∧ '/' :: rest = pathText segments ∧
      ∀ segment ∈ segments, Segment segment := by
  induction rest with
  | nil => exact ⟨[[]], by simp, rfl, by simpa using ⟨by simp, by simp⟩⟩
  | cons c rest ih =>
    obtain ⟨notQuery, later⟩ := ne_and_not_mem_of_not_mem_cons noQuery
    obtain ⟨segments, nonempty, same, clean⟩ := ih later
    by_cases slash : c = '/'
    · subst slash
      refine ⟨[] :: segments, cons_ne_nil _ _, ?_, ?_⟩
      · rw [same]
        rfl
      · simpa using ⟨⟨by simp, by simp⟩, clean⟩
    · obtain ⟨segment, others, rfl⟩ := exists_cons_of_ne_nil nonempty
      refine ⟨(c :: segment) :: others, cons_ne_nil _ _, ?_, ?_⟩
      · rw [pathText_cons] at same ⊢
        rw [cons_append, (cons_eq_cons.mp same).2]
        rfl
      · simp only [mem_cons, forall_eq_or_imp] at clean ⊢
        refine ⟨⟨?_, ?_⟩, clean.2⟩
        · simpa [Ne.symm slash] using clean.1.slash
        · simpa [notQuery] using clean.1.query

/-! ### Dot segments -/

/-- The segments kept, last first, after one more segment that is not the last. -/
def keep (kept : List Text) (segment : Text) : List Text :=
  if segment = ['.'] then kept else if segment = ['.', '.'] then kept.tail else segment :: kept

/-- A dot segment. -/
def IsDot (segment : Text) : Prop := segment = ['.'] ∨ segment = ['.', '.']

instance (segment : Text) : Decidable (IsDot segment) := inferInstanceAs (Decidable (_ ∨ _))

/-- A path that ends in a dot segment ends in an empty one once that is gone. -/
def closing (segments : List Text) : List Text :=
  match segments.getLast? with
  | some last => if IsDot last then segments ++ [[]] else segments
  | none => []

theorem closing_cons {rest : List Text} (more : rest ≠ []) :
    closing (segment :: rest) = segment :: closing rest := by
  obtain ⟨next, later, rfl⟩ := exists_cons_of_ne_nil more
  have last := List.getLast?_eq_some_getLast more
  unfold closing
  rw [List.getLast?_cons_cons, last]
  dsimp only
  split <;> rfl

theorem closing_append (first : List Text) {second : List Text} (more : second ≠ []) :
    closing (first ++ second) = first ++ closing second := by
  induction first with
  | nil => rfl
  | cons segment rest ih =>
    rw [cons_append, closing_cons (append_ne_nil_of_right_ne_nil rest more), ih, cons_append]

/-- The loop is a fold once the end of the path is known. -/
theorem dotSegments_eq (kept segments : List Text) :
    dotSegments kept segments = (closing segments).foldl keep kept := by
  induction segments generalizing kept with
  | nil => rfl
  | cons segment rest ih =>
    rw [dotSegments]
    by_cases last : rest = []
    · subst last
      unfold closing keep IsDot
      by_cases here : segment = ['.']
      · subst here
        rfl
      · by_cases parent : segment = ['.', '.']
        · subst parent
          rfl
        · simp [here, parent, dotSegments]
    · rw [closing_cons last, foldl_cons, ← ih]
      have more : rest.isEmpty = false := by simpa using last
      unfold keep
      simp only [more, Bool.false_eq_true, if_false]
      split
      · rfl
      · split <;> rfl

/-- What is left of a path without its dot segments. -/
def residue (segments : List Text) : List Text := (dotSegments [] segments).reverse

/-- A closed path ends in a segment that stays. -/
theorem closing_eq_append (nonempty : segments ≠ []) :
    ∃ before last, closing segments = before ++ [last] ∧ ¬ IsDot last := by
  obtain ⟨before, last, rfl⟩ := (List.eq_nil_or_concat' segments).resolve_left nonempty
  unfold closing
  rw [List.getLast?_concat]
  dsimp only
  split
  · exact ⟨before ++ [last], [], by simp, by simp [IsDot]⟩
  · rename_i stays
    exact ⟨before, last, rfl, stays⟩

theorem keep_of_not_isDot (stays : ¬ IsDot segment) :
    keep kept segment = segment :: kept := by
  unfold IsDot at stays
  rw [not_or] at stays
  unfold keep
  rw [if_neg stays.1, if_neg stays.2]

theorem residue_ne_nil (nonempty : segments ≠ []) : residue segments ≠ [] := by
  obtain ⟨before, last, same, stays⟩ := closing_eq_append nonempty
  unfold residue
  rw [dotSegments_eq, same, foldl_append, foldl_cons, foldl_nil, keep_of_not_isDot stays]
  simp

/-- What holds of the segments kept holds of those kept later. -/
theorem forall_foldl_keep {P : Text → Prop}
    (all : ∀ segment ∈ segments, ¬ IsDot segment → P segment) (before : ∀ segment ∈ kept, P segment) :
    ∀ segment ∈ segments.foldl keep kept, P segment := by
  induction segments generalizing kept with
  | nil => exact before
  | cons next rest ih =>
    refine ih (fun segment member => all segment (mem_cons_of_mem _ member)) ?_
    intro segment member
    unfold keep at member
    split at member
    · exact before segment member
    · rename_i notHere
      split at member
      · exact before segment (mem_of_mem_tail member)
      · rename_i notParent
        rcases mem_cons.mp member with rfl | old
        · exact all segment mem_cons_self (not_or.mpr ⟨notHere, notParent⟩)
        · exact before segment old

theorem mem_closing (member : segment ∈ closing segments) :
    segment ∈ segments ∨ segment = [] := by
  unfold closing at member
  split at member
  · split at member
    · simpa using member
    · exact .inl member
  · cases member

/-- **What is left are segments of the path that are no dot segments, and possibly an empty one.** -/
theorem mem_residue (member : segment ∈ residue segments) :
    (segment ∈ segments ∨ segment = []) ∧ ¬ IsDot segment := by
  unfold residue at member
  rw [mem_reverse, dotSegments_eq] at member
  exact forall_foldl_keep (P := fun segment => (segment ∈ segments ∨ segment = []) ∧ ¬ IsDot segment)
    (fun segment among stays => ⟨mem_closing among, stays⟩) (by simp) segment member

/-- The rest of a path after a dot segment: it ends in a slash where the dot segment was the last. -/
def ended (segments : List Text) : List Text := if segments = [] then [[]] else segments

theorem ended_ne_nil (segments : List Text) : ended segments ≠ [] := by
  unfold ended
  split
  · exact cons_ne_nil _ _
  · assumption

theorem mem_ended (member : segment ∈ ended segments) :
    segment ∈ segments ∨ segment = [] := by
  unfold ended at member
  split at member
  · exact .inr (mem_singleton.mp member)
  · exact .inl member

theorem closing_dot (dot : IsDot segment) (after : List Text) :
    closing (segment :: after) = segment :: closing (ended after) := by
  by_cases last : after = []
  · subst last
    have blank : ¬ IsDot [] := by simp [IsDot]
    simp [closing, ended, dot, blank]
  · rw [closing_cons last, ended, if_neg last]

theorem closing_stay (stays : ¬ IsDot segment) (after : List Text) :
    closing (segment :: after) = segment :: closing after := by
  by_cases last : after = []
  · subst last
    simp [closing, stays]
  · exact closing_cons last

theorem keep_here (kept : List Text) : keep kept ['.'] = kept := rfl

theorem keep_parent (kept : List Text) : keep kept ['.', '.'] = kept.tail := rfl

theorem isDot_here : IsDot ['.'] := .inl rfl

theorem isDot_parent : IsDot ['.', '.'] := .inr rfl

theorem residue_append (before : List Text) {after : List Text} (more : after ≠ []) :
    residue (before ++ after) = ((closing after).foldl keep (before.foldl keep [])).reverse := by
  unfold residue
  rw [dotSegments_eq, closing_append before more, foldl_append]

/-- A single dot may be left out. -/
theorem residue_here (before after : List Text) :
    residue (before ++ ['.'] :: after) = residue (before ++ ended after) := by
  rw [residue_append before (cons_ne_nil _ _), residue_append before (ended_ne_nil after),
    closing_dot isDot_here, foldl_cons, keep_here]

/-- Two dots take the segment before them along. -/
theorem residue_parent (before after : List Text) (stays : ¬ IsDot segment) :
    residue (before ++ segment :: ['.', '.'] :: after) = residue (before ++ ended after) := by
  rw [residue_append before (cons_ne_nil _ _), residue_append before (ended_ne_nil after),
    closing_stay stays, closing_dot isDot_parent, foldl_cons, foldl_cons,
    keep_of_not_isDot stays, keep_parent, tail_cons]

/-- Two dots at the root are left out. -/
theorem residue_root (after : List Text) :
    residue (['.', '.'] :: after) = residue (ended after) := by
  unfold residue
  rw [dotSegments_eq, dotSegments_eq, closing_dot isDot_parent, foldl_cons, keep_parent, tail_nil]

/-! ### Resource names -/

/-- The resource of a websocket reference: `http::Uri` hands out a path that starts with a slash,
and the reference passed the check of its percent triplets. -/
structure AcceptedResource (resource : Text) : Prop where
  rooted : resource.head? = some '/'
  triplets : validPercentTriplets resource = true
  characters : ∀ c ∈ resource, uriCharacter c = true

/-- **An accepted resource in parts**: a path in segments, and nothing or a query after it. -/
structure Parts (segments : List Text) (rest : Text) : Prop where
  nonempty : segments ≠ []
  clean : ∀ segment ∈ segments, Segment segment
  encoded : ∀ segment ∈ segments, Encoded segment
  boundary : rest = [] ∨ rest.head? = some '?'
  query : Encoded rest
  characters : ∀ c ∈ pathText segments ++ rest, uriCharacter c = true

theorem notMem_pathText (clean : ∀ segment ∈ segments, Segment segment) :
    '?' ∉ pathText segments := by
  induction segments with
  | nil => simp
  | cons segment rest ih =>
    simp only [mem_cons, forall_eq_or_imp] at clean
    simpa [pathText_cons] using ⟨clean.1.query, ih clean.2⟩

theorem takeWhile_query {path : Text} (noQuery : '?' ∉ path)
    (boundary : rest = [] ∨ rest.head? = some '?') :
    (path ++ rest).takeWhile (· ≠ '?') = path := by
  have whole : ∀ c ∈ path, decide (c ≠ '?') = true := by
    intro c member
    rw [decide_eq_true_iff]
    rintro rfl
    exact noQuery member
  rw [takeWhile_append_of_pos whole]
  rcases boundary with rfl | query
  · simp
  · cases rest with
    | nil => cases query
    | cons first later =>
      cases query
      simp

theorem dropWhile_query {path : Text} (noQuery : '?' ∉ path)
    (boundary : rest = [] ∨ rest.head? = some '?') :
    (path ++ rest).dropWhile (· ≠ '?') = rest := by
  have whole := takeWhile_append_dropWhile (p := fun c => decide (c ≠ '?')) (l := path ++ rest)
  rw [takeWhile_query noQuery boundary] at whole
  exact append_cancel_left whole

theorem splitOn_pathText (nonempty : segments ≠ [])
    (clean : ∀ segment ∈ segments, Segment segment) :
    (pathText segments).splitOn '/' = [] :: segments := by
  have joined : pathText segments = ['/'].intercalate ([] :: segments) := by
    obtain ⟨segment, rest, rfl⟩ := exists_cons_of_ne_nil nonempty
    rw [intercalate_cons_cons, ← slash_intercalate nonempty]
    simp
  rw [joined]
  refine splitOn_intercalate '/' ?_ (cons_ne_nil _ _)
  simp only [mem_cons, forall_eq_or_imp]
  exact ⟨by simp, fun segment member => (clean segment member).slash⟩

theorem pathText_rooted (nonempty : segments ≠ []) (rest : Text) :
    (pathText segments ++ rest).head? = some '/' := by
  obtain ⟨segment, others, rfl⟩ := exists_cons_of_ne_nil nonempty
  rfl

theorem removeDotSegments_pathText (nonempty : segments ≠ [])
    (clean : ∀ segment ∈ segments, Segment segment) :
    removeDotSegments (pathText segments) = pathText (residue segments) := by
  have rooted : (pathText segments).head? = some '/' := by
    simpa using pathText_rooted nonempty []
  have output : '/' :: ['/'].intercalate (dotSegments [] segments).reverse =
      pathText (residue segments) := slash_intercalate (residue_ne_nil nonempty)
  unfold removeDotSegments
  simp only [rooted, splitOn_pathText nonempty clean, if_true, tail_cons, singleton_append,
    isEmpty_cons, Bool.false_eq_true, if_false]
  exact output

namespace Encoded

variable {first second : Text}
variable {segments : List Text}

/-- A text may be cut where the second part is empty or starts with a slash or a question mark. -/
theorem cut (encoded : Encoded (first ++ second))
    (edge : second = [] ∨ second.head? = some '/' ∨ second.head? = some '?') :
    Encoded first ∧ Encoded second := by
  cases second with
  | nil => exact ⟨by simpa using encoded, .nil⟩
  | cons c later =>
    refine encoded.split ?_
    simp only [reduceCtorEq, List.head?_cons, Option.some.injEq, false_or] at edge
    rcases edge with rfl | rfl <;> decide

theorem of_pathText {rest : Text}
    (boundary : rest = [] ∨ rest.head? = some '?') (encoded : Encoded (pathText segments ++ rest)) :
    (∀ segment ∈ segments, Encoded segment) ∧ Encoded rest := by
  induction segments with
  | nil => exact ⟨by simp, encoded⟩
  | cons segment others ih =>
    rw [pathText_cons, cons_append, cons_append, append_assoc] at encoded
    have edge : pathText others ++ rest = [] ∨ (pathText others ++ rest).head? = some '/' ∨
        (pathText others ++ rest).head? = some '?' := by
      by_cases last : others = []
      · subst last
        exact boundary.imp_right .inr
      · exact .inr (.inl (pathText_rooted last rest))
    obtain ⟨here, later⟩ := (encoded.tail (by decide)).cut edge
    obtain ⟨all, query⟩ := ih later
    simp only [mem_cons, forall_eq_or_imp]
    exact ⟨⟨here, all⟩, query⟩

theorem pathText_append {rest : Text}
    (all : ∀ segment ∈ segments, Encoded segment) (query : Encoded rest) :
    Encoded (pathText segments ++ rest) := by
  induction segments with
  | nil => exact query
  | cons segment others ih =>
    simp only [mem_cons, forall_eq_or_imp] at all
    rw [pathText_cons, cons_append, cons_append, append_assoc]
    exact .plain (by decide) (all.1.append (ih all.2))

theorem normalize_pathText (all : ∀ segment ∈ segments, Encoded segment) (rest : Text) :
    normalizePercentBytes (pathText segments ++ rest) =
      pathText (segments.map normalizePercentBytes) ++ normalizePercentBytes rest := by
  induction segments with
  | nil => rfl
  | cons segment others ih =>
    simp only [mem_cons, forall_eq_or_imp] at all
    rw [pathText_cons, cons_append, cons_append, append_assoc,
      normalize_plain (by decide), all.1.normalize_append, ih all.2, map_cons, pathText_cons]
    simp

end Encoded

namespace Parts

variable {segments : List Text} {rest : Text}

section

variable (parts : Parts segments rest)
include parts

theorem accepted : AcceptedResource (pathText segments ++ rest) where
  rooted := pathText_rooted parts.nonempty rest
  triplets := (encoded_iff _).mpr (Encoded.pathText_append parts.encoded parts.query)
  characters := parts.characters

/-- Fewer segments, or an empty one in their place. -/
theorem mono {fewer : List Text} (nonempty : fewer ≠ [])
    (among : ∀ segment ∈ fewer, segment ∈ segments ∨ segment = []) : Parts fewer rest := by
  refine ⟨nonempty, ?_, ?_, parts.boundary, parts.query, ?_⟩
  · intro segment member
    rcases among segment member with old | rfl
    · exact parts.clean segment old
    · exact ⟨by simp, by simp⟩
  · intro segment member
    rcases among segment member with old | rfl
    · exact parts.encoded segment old
    · exact .nil
  · intro c member
    rcases mem_append.mp member with inPath | inRest
    · obtain ⟨segment, present, inSegment⟩ := mem_flatMap.mp inPath
      rcases mem_cons.mp inSegment with rfl | inside
      · decide
      · rcases among segment present with old | rfl
        · refine parts.characters c (mem_append_left _ (mem_flatMap.mpr ⟨segment, old, ?_⟩))
          exact mem_cons_of_mem _ inside
        · cases inside
    · exact parts.characters c (mem_append_right _ inRest)

theorem residue : Parts (V5.residue segments) rest :=
  parts.mono (residue_ne_nil parts.nonempty) fun _ member => (mem_residue member).1

theorem normalized :
    Parts (segments.map normalizePercentBytes) (normalizePercentBytes rest) := by
  have encoded := Encoded.pathText_append parts.encoded parts.query
  refine ⟨by simpa using parts.nonempty, ?_, ?_, ?_, parts.query.normalized, ?_⟩
  · rw [forall_mem_map]
    intro segment member
    have whole := parts.encoded segment member
    exact ⟨whole.notMem_normalized (by decide) (parts.clean segment member).slash,
      whole.notMem_normalized (by decide) (parts.clean segment member).query⟩
  · rw [forall_mem_map]
    exact fun segment member => (parts.encoded segment member).normalized
  · rcases parts.boundary with rfl | query
    · exact .inl rfl
    · cases rest with
      | nil => cases query
      | cons first later =>
        cases query
        rw [normalize_plain (by decide)]
        exact .inr rfl
  · rw [← Encoded.normalize_pathText parts.encoded]
    intro c member
    rcases encoded.mem_normalized member with old | unreserved
    · exact parts.characters c old
    · exact uriCharacter_of_unreserved unreserved

end

end Parts

theorem AcceptedResource.exists_parts (accepted : AcceptedResource resource) :
    ∃ segments rest, resource = pathText segments ++ rest ∧ Parts segments rest := by
  obtain ⟨rooted, triplets, characters⟩ := accepted
  obtain ⟨tail, rfl⟩ : ∃ tail, resource = '/' :: tail := by
    cases resource with
    | nil => cases rooted
    | cons first tail =>
      cases rooted
      exact ⟨tail, rfl⟩
  have noQuery : '?' ∉ tail.takeWhile (· ≠ '?') := by
    intro member
    have each := all_takeWhile (p := fun c => decide (c ≠ '?')) (l := tail)
    simpa using all_eq_true.mp each '?' member
  obtain ⟨segments, nonempty, path, clean⟩ := exists_segments_slash noQuery
  have whole : '/' :: tail = pathText segments ++ tail.dropWhile (· ≠ '?') := by
    rw [← path, cons_append, takeWhile_append_dropWhile]
  have boundary : tail.dropWhile (· ≠ '?') = [] ∨ (tail.dropWhile (· ≠ '?')).head? = some '?' := by
    rcases found : tail.dropWhile (· ≠ '?') with _ | ⟨first, later⟩
    · exact .inl rfl
    · have stopped := List.head?_dropWhile_not (fun c => decide (c ≠ '?')) tail
      rw [found] at stopped
      refine .inr ?_
      simpa using stopped
  rw [whole] at triplets characters ⊢
  obtain ⟨encoded, query⟩ := Encoded.of_pathText boundary ((encoded_iff _).mp triplets)
  exact ⟨segments, _, rfl, nonempty, clean, encoded, boundary, query, characters⟩

/-- The normal form with the two loops in the other order: escapes first, then dot segments. -/
def canonicalResourceName (resource : Text) : Text :=
  let escaped := normalizePercentBytes resource
  removeDotSegments (escaped.takeWhile (· ≠ '?')) ++ escaped.dropWhile (· ≠ '?')

namespace Parts

variable {segments : List Text} {rest : Text}

section

variable (parts : Parts segments rest)
include parts

theorem noQuery : '?' ∉ pathText segments := notMem_pathText parts.clean

/-- What the source computes: dot segments, then escapes. -/
theorem normalizeResourceName_eq : normalizeResourceName (pathText segments ++ rest) =
      pathText ((V5.residue segments).map normalizePercentBytes) ++ normalizePercentBytes rest := by
  have path : (pathText segments).isEmpty = false := by
    obtain ⟨segment, others, rfl⟩ := exists_cons_of_ne_nil parts.nonempty
    rfl
  have left : normalizePercentBytes (pathText (V5.residue segments)) =
      pathText ((V5.residue segments).map normalizePercentBytes) := by
    simpa [normalizePercentBytes] using Encoded.normalize_pathText parts.residue.encoded []
  have pathAscii : bytesAsChars (pathText (V5.residue segments)) = pathText (V5.residue segments) :=
    bytesAsChars_ascii fun c member => parts.residue.characters c (mem_append_left _ member)
  unfold normalizeResourceName normalizePercentEncoding
  dsimp only
  rw [takeWhile_query parts.noQuery parts.boundary, dropWhile_query parts.noQuery parts.boundary,
    path, if_neg Bool.false_ne_true, removeDotSegments_pathText parts.nonempty parts.clean, pathAscii,
    left]
  rcases parts.boundary with rfl | query
  · simp [normalizePercentBytes]
  · cases rest with
    | nil => cases query
    | cons first later =>
      cases query
      have queryAscii : bytesAsChars later = later := bytesAsChars_ascii fun c member =>
        parts.characters c (mem_append_right _ (mem_cons_of_mem _ member))
      dsimp only
      rw [normalize_plain (by decide), queryAscii]

/-- The other order: escapes, then dot segments. -/
theorem canonicalResourceName_eq : canonicalResourceName (pathText segments ++ rest) =
      pathText (V5.residue (segments.map normalizePercentBytes)) ++ normalizePercentBytes rest := by
  have normal := parts.normalized
  unfold canonicalResourceName
  dsimp only
  rw [Encoded.normalize_pathText parts.encoded, takeWhile_query normal.noQuery normal.boundary,
    dropWhile_query normal.noQuery normal.boundary,
    removeDotSegments_pathText normal.nonempty normal.clean]

theorem canonical :
    Parts (V5.residue (segments.map normalizePercentBytes)) (normalizePercentBytes rest) :=
  parts.normalized.residue

end

end Parts

/-! ### Resources that differ only in spelling -/

/-- **Two resources that differ in one place**, in the case of a percent triplet, in the escape of
an unreserved character, or in a dot segment. -/
inductive Differs : Text → Text → Prop where
  | triplet (before after : Text) {high low high' low' : Char} {h l : Nat}
    (highDigit : hexDigit high = some h) (lowDigit : hexDigit low = some l)
    (highDigit' : hexDigit high' = some h) (lowDigit' : hexDigit low' = some l) :
    Differs (before ++ '%' :: high :: low :: after) (before ++ '%' :: high' :: low' :: after)
  | unreserved (before after : Text) {high low : Char} {h l : Nat}
    (highDigit : hexDigit high = some h) (lowDigit : hexDigit low = some l)
    (unreserved : isUnreserved (Char.ofNat (16 * h + l)) = true) :
    Differs (before ++ '%' :: high :: low :: after) (before ++ Char.ofNat (16 * h + l) :: after)
  | here {before after : List Text} {rest : Text} (parts : Parts (before ++ ['.'] :: after) rest) :
    Differs (pathText (before ++ ['.'] :: after) ++ rest) (pathText (before ++ ended after) ++ rest)
  | parent {before after : List Text} {segment rest : Text}
    (parts : Parts (before ++ segment :: ['.', '.'] :: after) rest)
    (stays : ¬ IsDot (normalizePercentBytes segment)) :
    Differs (pathText (before ++ segment :: ['.', '.'] :: after) ++ rest)
      (pathText (before ++ ended after) ++ rest)
  | root {after : List Text} {rest : Text} (parts : Parts (['.', '.'] :: after) rest) :
    Differs (pathText (['.', '.'] :: after) ++ rest) (pathText (ended after) ++ rest)

/-- Accepted resources that differ in one place. -/
def Respelled (resource other : Text) : Prop :=
  AcceptedResource resource ∧ AcceptedResource other ∧ Differs resource other

/-- **Resources that differ only in the case of percent triplets, in percent-encoding of unreserved
characters or in dot segments.** -/
def Equivalent : Text → Text → Prop := Relation.EqvGen Respelled

theorem percent_notDigit : hexDigit '%' = none := by decide

theorem Encoded.of_escape
    (encoded : Encoded (before ++ '%' :: high :: low :: after)) : Encoded before ∧ Encoded after := by
  obtain ⟨first, second⟩ := encoded.split percent_notDigit
  cases second with
  | plain notPercent => exact absurd rfl notPercent
  | escape _ _ later => exact ⟨first, later⟩

theorem normalize_triplet {high' low' : Char}
    (encoded : Encoded before) (highDigit : hexDigit high = some h) (lowDigit : hexDigit low = some l)
    (highDigit' : hexDigit high' = some h) (lowDigit' : hexDigit low' = some l) :
    normalizePercentBytes (before ++ '%' :: high :: low :: after) =
      normalizePercentBytes (before ++ '%' :: high' :: low' :: after) := by
  have same : normalizeEscape high low (16 * h + l) = normalizeEscape high' low' (16 * h + l) := by
    unfold normalizeEscape
    rw [(hexDigit_upper highDigit).1, (hexDigit_upper lowDigit).1, (hexDigit_upper highDigit').1,
      (hexDigit_upper lowDigit').1]
  rw [encoded.normalize_append, encoded.normalize_append, normalize_escape highDigit lowDigit,
    normalize_escape highDigit' lowDigit', same]

theorem normalize_unreserved
    (encoded : Encoded before) (highDigit : hexDigit high = some h) (lowDigit : hexDigit low = some l)
    (unreserved : isUnreserved (Char.ofNat (16 * h + l)) = true) :
    normalizePercentBytes (before ++ '%' :: high :: low :: after) =
      normalizePercentBytes (before ++ Char.ofNat (16 * h + l) :: after) := by
  rw [encoded.normalize_append, encoded.normalize_append, normalize_escape highDigit lowDigit,
    normalize_plain (ne_percent unreserved)]
  rcases normalizeEscape_cases highDigit lowDigit with ⟨-, same⟩ | ⟨reserved, -⟩
  · rw [same]
    rfl
  · rw [unreserved] at reserved
    cases reserved

theorem map_ended (segments : List Text) :
    (ended segments).map normalizePercentBytes = ended (segments.map normalizePercentBytes) := by
  unfold ended
  by_cases last : segments = []
  · subst last
    rfl
  · rw [if_neg last, if_neg (by simpa using last)]

theorem normalize_here : normalizePercentBytes ['.'] = ['.'] := by decide

theorem normalize_parent : normalizePercentBytes ['.', '.'] = ['.', '.'] := by decide

/-- The segments a path is left with after a dot segment is gone are parts of a resource again. -/
theorem Parts.shorten (before removed after : List Text)
    (parts : Parts (before ++ removed ++ after) rest) : Parts (before ++ ended after) rest := by
  refine parts.mono (append_ne_nil_of_right_ne_nil _ (ended_ne_nil after)) ?_
  intro segment member
  rcases mem_append.mp member with early | late
  · exact .inl (mem_append_left _ (mem_append_left _ early))
  · exact (mem_ended late).imp_left (mem_append_right _)

/-- **One difference does not change the canonical name.** -/
theorem Differs.canonical_eq {other : Text} (differs : Differs resource other)
    (accepted : AcceptedResource resource) :
    canonicalResourceName resource = canonicalResourceName other := by
  cases differs with
  | triplet before after highDigit lowDigit highDigit' lowDigit' =>
    have encoded := ((encoded_iff _).mp accepted.triplets).of_escape.1
    unfold canonicalResourceName
    rw [normalize_triplet encoded highDigit lowDigit highDigit' lowDigit']
  | unreserved before after highDigit lowDigit unreserved =>
    have encoded := ((encoded_iff _).mp accepted.triplets).of_escape.1
    unfold canonicalResourceName
    rw [normalize_unreserved encoded highDigit lowDigit unreserved]
  | @here before after rest parts =>
    have shorter := Parts.shorten before [['.']] after (by simpa using parts)
    rw [parts.canonicalResourceName_eq, shorter.canonicalResourceName_eq, map_append,
      map_cons, normalize_here, residue_here, map_append, map_ended]
  | @parent before after segment rest parts stays =>
    have shorter := Parts.shorten before [segment, ['.', '.']] after (by simpa using parts)
    rw [parts.canonicalResourceName_eq, shorter.canonicalResourceName_eq, map_append,
      map_cons, map_cons, normalize_parent, residue_parent _ _ stays, map_append,
      map_ended]
  | @root after rest parts =>
    have shorter := Parts.shorten [] [['.', '.']] after (by simpa using parts)
    rw [nil_append] at shorter
    rw [parts.canonicalResourceName_eq, shorter.canonicalResourceName_eq, map_cons,
      normalize_parent, residue_root, map_ended]

namespace Equivalent

variable {resource other : Text}

theorem refl (resource : Text) : Equivalent resource resource := Relation.EqvGen.refl resource

theorem trans {third : Text} (first : Equivalent resource other) (second : Equivalent other third) :
    Equivalent resource third := Relation.EqvGen.trans _ _ _ first second

theorem symm (equivalent : Equivalent resource other) : Equivalent other resource :=
  Relation.EqvGen.symm _ _ equivalent

theorem of_differs (accepted : AcceptedResource resource) (accepted' : AcceptedResource other)
    (differs : Differs resource other) : Equivalent resource other :=
  .rel _ _ ⟨accepted, accepted', differs⟩

/-- **Equivalent resources have one canonical name.** -/
theorem canonical_eq (equivalent : Equivalent resource other) :
    canonicalResourceName resource = canonicalResourceName other := by
  induction equivalent with
  | rel _ _ respelled => exact respelled.2.2.canonical_eq respelled.1
  | refl => rfl
  | symm _ _ _ ih => exact ih.symm
  | trans _ _ _ _ _ first second => exact first.trans second

end Equivalent

/-- An escape may be written another way without the resource being refused. -/
theorem AcceptedResource.exchange {new : Text}
    (accepted : AcceptedResource (before ++ '%' :: high :: low :: after)) (encoded : Encoded new)
    (characters : ∀ c ∈ new, uriCharacter c = true) : AcceptedResource (before ++ new ++ after) := by
  obtain ⟨first, last⟩ := ((encoded_iff _).mp accepted.triplets).of_escape
  refine ⟨?_, (encoded_iff _).mpr ((first.append encoded).append last), ?_⟩
  · cases before with
    | nil => exact absurd accepted.rooted (by simp)
    | cons c later => simpa using accepted.rooted
  · intro c member
    rcases mem_append.mp member with early | late
    · rcases mem_append.mp early with inFirst | inNew
      · exact accepted.characters c (mem_append_left _ inFirst)
      · exact characters c inNew
    · exact accepted.characters c (by simp [late])

/-- **A resource is equivalent to the one with its escapes normalised**, one escape at a time. -/
theorem Encoded.equivalent_normalized (before : Text) {text : Text} (encoded : Encoded text)
    (accepted : AcceptedResource (before ++ text)) :
    Equivalent (before ++ text) (before ++ normalizePercentBytes text) := by
  induction encoded generalizing before with
  | nil => exact .refl _
  | @plain c rest notPercent _ ih =>
    rw [normalize_plain notPercent, append_cons before c rest,
      append_cons before c (normalizePercentBytes rest)]
    exact ih (before ++ [c]) (by simpa using accepted)
  | @escape high low h l rest highDigit lowDigit _ ih =>
    rw [normalize_escape highDigit lowDigit]
    rcases normalizeEscape_cases highDigit lowDigit with ⟨unreserved, same⟩ | ⟨-, same⟩
    · have next : AcceptedResource (before ++ [Char.ofNat (16 * h + l)] ++ rest) :=
        accepted.exchange (.plain (ne_percent unreserved) .nil)
          (by simpa using uriCharacter_of_unreserved unreserved)
      have step : Equivalent (before ++ '%' :: high :: low :: rest)
          (before ++ [Char.ofNat (16 * h + l)] ++ rest) := by
        refine .of_differs accepted next ?_
        simpa using Differs.unreserved before rest highDigit lowDigit unreserved
      rw [same, ← append_assoc]
      exact step.trans (ih _ next)
    · obtain ⟨highUpper, -, highPlain⟩ := upperDigit_spec h (hexDigit_upper highDigit).2
      obtain ⟨lowUpper, -, lowPlain⟩ := upperDigit_spec l (hexDigit_upper lowDigit).2
      have next : AcceptedResource (before ++ ['%', upperDigit h, upperDigit l] ++ rest) := by
        refine accepted.exchange (.escape highUpper lowUpper .nil) ?_
        simp only [mem_cons, not_mem_nil, or_false, forall_eq_or_imp, forall_eq]
        exact ⟨by decide, uriCharacter_of_unreserved highPlain, uriCharacter_of_unreserved lowPlain⟩
      have step : Equivalent (before ++ '%' :: high :: low :: rest)
          (before ++ ['%', upperDigit h, upperDigit l] ++ rest) := by
        refine .of_differs accepted next ?_
        simpa using Differs.triplet before rest highDigit lowDigit highUpper lowUpper
      rw [same, ← append_assoc]
      exact step.trans (ih _ next)

/-- **A path with normalised escapes is equivalent to the one without its dot segments**, one dot
segment at a time; the segments in front are those the loop has kept. -/
theorem equivalent_residue (kept : List Text)
    (plain : ∀ segment ∈ kept, ¬ IsDot (normalizePercentBytes segment))
    (normal : ∀ segment ∈ segments, normalizePercentBytes segment = segment)
    (parts : Parts (kept.reverse ++ segments) rest) :
    Equivalent (pathText (kept.reverse ++ segments) ++ rest)
      (pathText ((closing segments).foldl keep kept).reverse ++ rest) := by
  induction segments generalizing kept with
  | nil =>
    rw [append_nil]
    exact .refl _
  | cons segment after ih =>
    simp only [mem_cons, forall_eq_or_imp] at normal
    -- what is left after the dot segment is gone goes on as before
    have onward : ∀ {kept : List Text}, (∀ segment ∈ kept, ¬ IsDot (normalizePercentBytes segment)) →
        Parts (kept.reverse ++ ended after) rest →
        Equivalent (pathText (kept.reverse ++ ended after) ++ rest)
          (pathText ((closing (ended after)).foldl keep kept).reverse ++ rest) := by
      intro kept plain parts
      unfold ended at parts ⊢
      split
      · have blank : closing [[]] = [[]] := by decide
        rw [blank, foldl_cons, foldl_nil, keep_of_not_isDot (by simp [IsDot]),
          reverse_cons]
        exact .refl _
      · rename_i more
        rw [if_neg more] at parts
        exact ih _ plain normal.2 parts
    by_cases dot : IsDot segment
    · rw [closing_dot dot, foldl_cons]
      rcases dot with rfl | rfl
      · rw [keep_here]
        have shorter := Parts.shorten kept.reverse [['.']] after (by simpa using parts)
        exact (Equivalent.of_differs parts.accepted shorter.accepted (.here parts)).trans
          (onward plain shorter)
      · rw [keep_parent]
        cases kept with
        | nil =>
          have shorter := Parts.shorten [] [['.', '.']] after (by simpa using parts)
          exact (Equivalent.of_differs parts.accepted shorter.accepted (.root parts)).trans
            (onward plain shorter)
        | cons last earlier =>
          simp only [mem_cons, forall_eq_or_imp] at plain
          rw [reverse_cons, append_assoc, singleton_append] at parts ⊢
          have shorter := Parts.shorten earlier.reverse [last, ['.', '.']] after
            (by simpa using parts)
          exact (Equivalent.of_differs parts.accepted shorter.accepted
            (.parent parts plain.1)).trans (onward plain.2 shorter)
    · rw [closing_stay dot, foldl_cons, keep_of_not_isDot dot]
      have moved : kept.reverse ++ segment :: after = (segment :: kept).reverse ++ after := by simp
      rw [moved] at parts ⊢
      refine ih _ ?_ normal.2 parts
      simp only [mem_cons, forall_eq_or_imp]
      exact ⟨by rwa [normal.1], plain⟩

namespace AcceptedResource

variable {resource other : Text}

/-- **Every accepted resource is equivalent to its canonical name.** -/
theorem equivalent_canonical (accepted : AcceptedResource resource) :
    Equivalent resource (canonicalResourceName resource) := by
  obtain ⟨segments, rest, rfl, parts⟩ := accepted.exists_parts
  have escapes := Encoded.equivalent_normalized []
    (Encoded.pathText_append parts.encoded parts.query) accepted
  have normal : ∀ segment ∈ segments.map normalizePercentBytes,
      normalizePercentBytes segment = segment := by
    rw [forall_mem_map]
    exact fun segment member => (parts.encoded segment member).normalize_idem
  have dots := equivalent_residue [] (by simp) normal parts.normalized
  rw [← dotSegments_eq] at dots
  rw [nil_append, nil_append, Encoded.normalize_pathText parts.encoded] at escapes
  rw [parts.canonicalResourceName_eq]
  exact escapes.trans dots

/-- **Two accepted resources are equivalent exactly when their canonical names are the same.** -/
theorem equivalent_iff (accepted : AcceptedResource resource) (accepted' : AcceptedResource other) :
    Equivalent resource other ↔ canonicalResourceName resource = canonicalResourceName other := by
  refine ⟨Equivalent.canonical_eq, ?_⟩
  intro same
  have second := accepted'.equivalent_canonical
  rw [← same] at second
  exact accepted.equivalent_canonical.trans second.symm

end AcceptedResource

/-! ### When the order of the loops makes no difference -/

/-- The segments of the path of a resource; the first is what stands in front of its first slash. -/
def pathSegments (resource : Text) : List Text := (resource.takeWhile (· ≠ '?')).splitOn '/'

/-- The spellings of `.` and `..` with at least one dot escaped. -/
def escapedDots : List Text :=
  [['%', '2', 'e'], ['%', '2', 'E'], ['.', '%', '2', 'e'], ['.', '%', '2', 'E'],
    ['%', '2', 'e', '.'], ['%', '2', 'E', '.'], ['%', '2', 'e', '%', '2', 'e'],
    ['%', '2', 'e', '%', '2', 'E'], ['%', '2', 'E', '%', '2', 'e'], ['%', '2', 'E', '%', '2', 'E']]

/-- No segment of the path is a dot segment, in whatever way it is escaped. -/
def Undotted (resource : Text) : Prop :=
  ∀ segment ∈ pathSegments resource, ¬ IsDot segment ∧ segment ∉ escapedDots

/-- Every dot segment of the path is written without escapes. -/
def PlainDots (resource : Text) : Prop := ∀ segment ∈ pathSegments resource, segment ∉ escapedDots

instance (resource : Text) : Decidable (Undotted resource) :=
  inferInstanceAs (Decidable (∀ segment ∈ pathSegments resource, _))

instance (resource : Text) : Decidable (PlainDots resource) :=
  inferInstanceAs (Decidable (∀ segment ∈ pathSegments resource, _))

/-- An escape that is decoded to a dot. -/
theorem escape_dot (highDigit : hexDigit high = some h) (lowDigit : hexDigit low = some l)
    (dot : Char.ofNat (16 * h + l) = '.') : high = '2' ∧ (low = 'e' ∨ low = 'E') := by
  have all : ∀ n < 128, ∀ m < 128, ∀ h ∈ hexDigit (Char.ofNat n), ∀ l ∈ hexDigit (Char.ofNat m),
      Char.ofNat (16 * h + l) = '.' →
        Char.ofNat n = '2' ∧ (Char.ofNat m = 'e' ∨ Char.ofNat m = 'E') := by decide +kernel
  have checked := all high.toNat (ascii_of_hexDigit highDigit) low.toNat (ascii_of_hexDigit lowDigit)
  rw [Char.ofNat_toNat, Char.ofNat_toNat] at checked
  exact checked h highDigit l lowDigit dot

namespace Encoded

/-- Only the empty text is normalised to nothing. -/
theorem eq_nil_of_normalize (encoded : Encoded segment) (empty : normalizePercentBytes segment = []) :
    segment = [] := by
  cases encoded with
  | nil => rfl
  | plain notPercent =>
    rw [normalize_plain notPercent] at empty
    cases empty
  | escape highDigit lowDigit =>
    rw [normalize_escape highDigit lowDigit] at empty
    rcases normalizeEscape_cases highDigit lowDigit with ⟨-, same⟩ | ⟨-, same⟩
    · rw [same] at empty
      cases empty
    · rw [same] at empty
      cases empty

/-- A dot in front of a normalised text was a dot, or an escaped one. -/
theorem of_normalize_dot (encoded : Encoded segment)
    (dot : normalizePercentBytes segment = '.' :: after) : ∃ rest, Encoded rest ∧
      normalizePercentBytes rest = after ∧
      (segment = '.' :: rest ∨ segment = '%' :: '2' :: 'e' :: rest ∨
        segment = '%' :: '2' :: 'E' :: rest) := by
  cases encoded with
  | nil => cases dot
  | plain notPercent encoded =>
    rw [normalize_plain notPercent] at dot
    cases dot
    exact ⟨_, encoded, rfl, .inl rfl⟩
  | escape highDigit lowDigit encoded =>
    rw [normalize_escape highDigit lowDigit] at dot
    rcases normalizeEscape_cases highDigit lowDigit with ⟨-, same⟩ | ⟨-, same⟩
    · rw [same] at dot
      obtain ⟨decoded, rest⟩ := cons.inj dot
      obtain ⟨rfl, rfl | rfl⟩ := escape_dot highDigit lowDigit decoded
      · exact ⟨_, encoded, rest, .inr (.inl rfl)⟩
      · exact ⟨_, encoded, rest, .inr (.inr rfl)⟩
    · rw [same] at dot
      cases dot

/-- **The escaped spellings are all there are.** -/
theorem isDot_normalize (encoded : Encoded segment) (dot : IsDot (normalizePercentBytes segment)) :
    IsDot segment ∨ segment ∈ escapedDots := by
  rcases dot with one | two
  · obtain ⟨rest, encoded, empty, spelling⟩ := encoded.of_normalize_dot one
    cases encoded.eq_nil_of_normalize empty
    rcases spelling with rfl | rfl | rfl <;> decide
  · obtain ⟨rest, encoded, second, spelling⟩ := encoded.of_normalize_dot two
    obtain ⟨last, encoded, empty, spelling'⟩ := encoded.of_normalize_dot second
    cases encoded.eq_nil_of_normalize empty
    rcases spelling with rfl | rfl | rfl <;> rcases spelling' with rfl | rfl | rfl <;> decide

end Encoded

theorem isDot_normalize_of_escapedDots (escaped : segment ∈ escapedDots) :
    IsDot (normalizePercentBytes segment) := by
  have all : ∀ segment ∈ escapedDots, IsDot (normalizePercentBytes segment) := by decide
  exact all segment escaped

/-- **The normal form of a resource comes out the same in either order of the two loops.** -/
def Commutes (resource : Text) : Prop := normalizeResourceName resource = canonicalResourceName resource

instance (resource : Text) : Decidable (Commutes resource) := inferInstanceAs (Decidable (_ = _))

theorem Parts.pathSegments_eq (parts : Parts segments rest) :
    pathSegments (pathText segments ++ rest) = [] :: segments := by
  unfold pathSegments
  rw [takeWhile_query parts.noQuery parts.boundary, splitOn_pathText parts.nonempty parts.clean]

theorem normalize_of_isDot (dot : IsDot segment) :
    normalizePercentBytes segment = segment := by
  rcases dot with rfl | rfl
  · exact normalize_here
  · exact normalize_parent

theorem keep_map (plain : IsDot (normalizePercentBytes segment) → IsDot segment) :
    keep (kept.map normalizePercentBytes) (normalizePercentBytes segment) =
      (keep kept segment).map normalizePercentBytes := by
  by_cases dot : IsDot segment
  · rw [normalize_of_isDot dot]
    rcases dot with rfl | rfl
    · rw [keep_here, keep_here]
    · rw [keep_parent, keep_parent, map_tail]
  · rw [keep_of_not_isDot dot, keep_of_not_isDot fun normal => dot (plain normal), map_cons]

section

variable (plain : ∀ segment ∈ segments, IsDot (normalizePercentBytes segment) → IsDot segment)
include plain

theorem closing_map : closing (segments.map normalizePercentBytes) =
      (closing segments).map normalizePercentBytes := by
  unfold closing
  rw [List.getLast?_map]
  cases found : segments.getLast? with
  | none => rfl
  | some last =>
    dsimp only [Option.map_some]
    by_cases dot : IsDot last
    · rw [if_pos dot, if_pos (by rwa [normalize_of_isDot dot]), map_append]
      rfl
    · rw [if_neg dot, if_neg fun normal => dot (plain last (mem_of_getLast? found) normal)]

/-- Without escaped dot segments the loops may change places. -/
theorem residue_map : residue (segments.map normalizePercentBytes) =
      (residue segments).map normalizePercentBytes := by
  have folded : ∀ (kept rest : List Text),
      (∀ segment ∈ rest, IsDot (normalizePercentBytes segment) → IsDot segment) →
      (rest.map normalizePercentBytes).foldl keep (kept.map normalizePercentBytes) =
        (rest.foldl keep kept).map normalizePercentBytes := by
    intro kept rest each
    induction rest generalizing kept with
    | nil => rfl
    | cons segment rest ih =>
      simp only [mem_cons, forall_eq_or_imp] at each
      rw [map_cons, foldl_cons, foldl_cons, keep_map each.1, ih _ each.2]
  have whole := folded [] (closing segments) fun segment member normal => by
    rcases mem_closing member with old | rfl
    · exact plain segment old normal
    · exact normal
  unfold residue
  rw [dotSegments_eq, dotSegments_eq, closing_map plain, map_reverse, ← whole, map_nil]

end

namespace AcceptedResource

variable {resource other : Text}

section

variable (accepted : AcceptedResource resource)
include accepted

/-- **The loops commute on a resource without escaped dot segments.** -/
theorem commutes_of_plainDots (plain : PlainDots resource) :
    Commutes resource := by
  obtain ⟨segments, rest, rfl, parts⟩ := accepted.exists_parts
  unfold PlainDots at plain
  rw [parts.pathSegments_eq] at plain
  unfold Commutes
  rw [parts.normalizeResourceName_eq, parts.canonicalResourceName_eq,
    residue_map fun segment member dot => ((parts.encoded segment member).isDot_normalize dot).resolve_right
      (plain segment (mem_cons_of_mem _ member))]

theorem canonical_accepted :
    AcceptedResource (canonicalResourceName resource) := by
  obtain ⟨segments, rest, rfl, parts⟩ := accepted.exists_parts
  rw [parts.canonicalResourceName_eq]
  exact parts.canonical.accepted

theorem canonical_undotted :
    Undotted (canonicalResourceName resource) := by
  obtain ⟨segments, rest, rfl, parts⟩ := accepted.exists_parts
  unfold Undotted
  rw [parts.canonicalResourceName_eq, parts.canonical.pathSegments_eq]
  intro segment member
  rcases mem_cons.mp member with rfl | inPath
  · decide
  · obtain ⟨origin, stays⟩ := mem_residue inPath
    refine ⟨stays, fun escaped => stays ?_⟩
    -- a normalised segment is its own normal form
    have dot := isDot_normalize_of_escapedDots escaped
    rcases origin with old | rfl
    · obtain ⟨source, present, rfl⟩ := mem_map.mp old
      rwa [(parts.encoded source present).normalize_idem] at dot
    · exact dot

theorem canonical_idem :
    canonicalResourceName (canonicalResourceName resource) = canonicalResourceName resource :=
  accepted.equivalent_canonical.canonical_eq.symm

theorem commutes_canonical :
    Commutes (canonicalResourceName resource) :=
  accepted.canonical_accepted.commutes_of_plainDots fun segment member =>
    (accepted.canonical_undotted segment member).2

theorem normalize_canonical :
    normalizeResourceName (canonicalResourceName resource) = canonicalResourceName resource :=
  accepted.commutes_canonical.trans accepted.canonical_idem

end

end AcceptedResource

/-- References that differ in resources of one normal form have one key. -/
theorem endpointKey_congr {other : Text}
    (same : normalizeResourceName resource = normalizeResourceName other) (addresses : Addresses)
    (transport : Transport) {first second : RedirectReference} {scheme : RedirectScheme} {host : Text}
    {port : Option UInt16} (kind : first.kind = .uri scheme host port resource)
    (kind' : second.kind = .uri scheme host port other) :
    first.endpointKey addresses transport = second.endpointKey addresses transport := by
  obtain ⟨raw, _, _⟩ := first
  obtain ⟨raw', _, _⟩ := second
  cases kind
  cases kind'
  have keys : ∀ endpoint, endpointKeyText transport endpoint (some resource) =
      endpointKeyText transport endpoint (some other) := by
    intro endpoint
    simp only [endpointKeyText, Option.map_some, same]
  cases scheme with
  | mqtt => rfl
  | mqtts => rfl
  | ws => exact congrArg (Option.map · _) (funext fun _ => keys _)
  | wss => exact congrArg (Option.map · _) (funext fun _ => keys _)

end Rumqtt.V5
