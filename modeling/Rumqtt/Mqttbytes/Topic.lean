/-
**Topics, topic filters and the matching of the two.**

`matchesFilter` runs over the levels of a topic and of a filter. The clients also give it a filter in
the place of the topic, to ask whether one subscription covers another.

* `matchesLevels_trans`: matching is transitive, whatever stands in the levels;
* `filter_coverage_sound`: coverage is sound, and a preorder on the filters that do not start with `$`.
-/

import Rumqtt.Packet

namespace Rumqtt.Mqttbytes

/-- `+` or `#` somewhere. -/
def hasWildcards (s : Bytes) : Bool := s.contains 43 || s.contains 35

/-- Neither `+` nor `#`. -/
def validTopic (topic : Bytes) : Bool := !(topic.contains 43 || topic.contains 35)

/-- `str::split` at the slashes. -/
def levels (s : Bytes) : List Bytes := s.splitOn 47

/-- **`#` stands alone in the last level only, `+` alone in its level.** -/
def validFilter (filter : Bytes) : Bool :=
  if filter.isEmpty then false
  else match (levels filter).reverse with
    | [] => false
    | last :: hierarchy =>
      if last.length ≠ 1 ∧ (last.contains 35 ∨ last.contains 43) then false
      else hierarchy.all fun entry =>
        !entry.contains 35 && !(decide (1 < entry.length) && entry.contains 43)

/-- The loop of `matchesFilter` over the levels of the topic and of the filter. -/
def matchesLevels : List Bytes → List Bytes → Bool
  | topics, [] => topics.isEmpty
  | topics, f :: filters =>
    if f = [35] then true
    else match topics with
      | [] => false
      | t :: topics =>
        if t = [35] then false
        else if f ≠ [43] ∧ f ≠ t then false
        else matchesLevels topics filters

/-- **`matches`**: whether a topic, or another filter in its place, matches a filter. -/
def matchesFilter (topic filter : Bytes) : Bool :=
  if topic.head? = some 36 then false else matchesLevels (levels topic) (levels filter)

/-- A level that matches: the filter's ends in `#`, or both go on. -/
theorem matchesLevels_cons {topics filters : List Bytes} {f : Bytes} :
    matchesLevels topics (f :: filters) = true ↔ f = [35] ∨
      ∃ t rest, topics = t :: rest ∧ t ≠ [35] ∧ (f = [43] ∨ f = t) ∧
        matchesLevels rest filters = true := by
  cases topics with
  | nil =>
    rw [matchesLevels]
    simp
  | cons t rest =>
    rw [matchesLevels]
    grind

/-- **Matching is transitive**, level by level from the front. -/
theorem matchesLevels_trans {first second third : List Bytes}
    (covered : matchesLevels first second = true) (covers : matchesLevels second third = true) :
    matchesLevels first third = true := by
  induction third generalizing first second with
  | nil =>
    -- the second list is empty, and so is the first
    cases second with
    | nil => exact covered
    | cons => cases covers
  | cons h hs ih =>
    rcases matchesLevels_cons.mp covers with multi | ⟨g, gs, rfl, notMulti, level, rest⟩
    · exact matchesLevels_cons.mpr (.inl multi)
    · rcases matchesLevels_cons.mp covered with multi | ⟨f, fs, rfl, notMulti', level', rest'⟩
      · exact absurd multi notMulti
      · refine matchesLevels_cons.mpr (.inr ⟨f, fs, rfl, notMulti', ?_, ih rest' rest⟩)
        rcases level with single | rfl
        · exact .inl single
        · exact level'

theorem matchesLevels_refl (filter : List Bytes) : matchesLevels filter filter = true := by
  induction filter with
  | nil => rfl
  | cons f rest ih =>
    by_cases multi : f = [35]
    · exact matchesLevels_cons.mpr (.inl multi)
    · exact matchesLevels_cons.mpr (.inr ⟨f, rest, rfl, multi, .inr rfl, ih⟩)

theorem matchesFilter_trans {first second third : Bytes} (covered : matchesFilter first second = true)
    (covers : matchesFilter second third = true) : matchesFilter first third = true := by
  simp only [matchesFilter, Bool.if_false_left, Bool.and_eq_true] at *
  exact ⟨covered.1, matchesLevels_trans covered.2 covers.2⟩

/-- **Filter coverage is sound.** Where a valid filter is matched by another, so is every topic that it
matches; and on valid filters that do not start with `$` matching is reflexive and transitive. -/
theorem filter_coverage_sound :
    (∀ f1 f2 topic, validFilter f1 = true → validFilter f2 = true → validTopic topic = true →
      matchesFilter f1 f2 = true → matchesFilter topic f1 = true → matchesFilter topic f2 = true) ∧
    (∀ f, validFilter f = true → f.head? ≠ some 36 → matchesFilter f f = true) ∧
    ∀ f1 f2 f3, validFilter f1 = true → validFilter f2 = true → validFilter f3 = true →
      f1.head? ≠ some 36 → f2.head? ≠ some 36 → f3.head? ≠ some 36 →
      matchesFilter f1 f2 = true → matchesFilter f2 f3 = true → matchesFilter f1 f3 = true := by
  refine ⟨?_, ?_, ?_⟩
  · intro f1 f2 topic _ _ _ covered matched
    exact matchesFilter_trans matched covered
  · intro f _ plain
    exact (if_neg plain).trans (matchesLevels_refl (levels f))
  · intro f1 f2 f3 _ _ _ _ _ _ covered covers
    exact matchesFilter_trans covered covers

/-- `a/+` is covered by `a/#`, and `a/b` is matched by both. -/
theorem filter_coverage_sound_plus :
    validFilter [97, 47, 43] = true ∧ validFilter [97, 47, 35] = true ∧
      matchesFilter [97, 47, 43] [97, 47, 35] = true ∧ matchesFilter [97, 47, 98] [97, 47, 35] = true :=
  ⟨by decide, by decide, by decide,
    filter_coverage_sound.1 [97, 47, 43] [97, 47, 35] [97, 47, 98] (by decide) (by decide) (by decide)
      (by decide) (by decide)⟩

end Rumqtt.Mqttbytes
