import MarkupLint.Proofs.LinePlaces

/-! # Offsets and their locations

The line index turns offsets into locations and back. A location is the number of line feeds before
an offset and the distance from the last of them, so offsets and locations come in the same order,
and each leads back to the other: a location as long as its column lies within its line.
-/
namespace MarkupLint.Source

variable {as bs cs : List Char} {k n start : Nat}

def Location.Before (l m : Location) : Prop :=
  l.line < m.line ∨ l.line = m.line ∧ l.column < m.column

/-- The last line of a text begins at an offset: there the text begins or a line feed has just been
passed, and no line feed follows. -/
structure LastLineAt (cs : List Char) (start : Nat) : Prop where
  inside : start ≤ cs.length
  opens : start = 0 ∨ (cs.take start).getLast? = some '\n'
  unbroken : '\n' ∉ cs.drop start

/-- Where the line that begins at an offset ends: at its line feed, or with the text. -/
def lineEnd (cs : List Char) (start : Nat) : Nat :=
  start + ((cs.drop start).takeWhile (· ≠ '\n')).length

theorem sinceBreak_append (h : '\n' ∉ bs) : sinceBreak (as ++ bs) = sinceBreak as + bs.length := by
  induction bs using List.reverseRecOn with
  | nil => simp
  | append_singleton bs c ih =>
    simp only [List.mem_append, List.mem_singleton, not_or] at h
    rw [← List.append_assoc, sinceBreak_snoc (Ne.symm h.2), ih h.1, List.length_append,
      List.length_singleton, Nat.add_assoc]

theorem lastLineAt_sinceBreak (cs : List Char) : LastLineAt cs (cs.length - sinceBreak cs) := by
  induction cs using List.reverseRecOn with
  | nil => exact ⟨Nat.le_refl _, Or.inl rfl, by simp⟩
  | append_singleton cs c ih =>
    by_cases hc : c = '\n'
    · subst hc
      rw [sinceBreak_snoc_break, Nat.sub_zero]
      exact ⟨Nat.le_refl _, Or.inr (by rw [List.take_length, List.getLast?_concat]), by simp⟩
    · have hle := sinceBreak_le_length cs
      have hstart : (cs ++ [c]).length - sinceBreak (cs ++ [c]) = cs.length - sinceBreak cs := by
        rw [sinceBreak_snoc hc, List.length_append, List.length_singleton]
        omega
      rw [hstart]
      refine ⟨?_, ?_, ?_⟩
      · rw [List.length_append]
        exact Nat.le_trans ih.inside (Nat.le_add_right _ _)
      · rw [List.take_append_of_le_length ih.inside]
        exact ih.opens
      · rw [List.drop_append_of_le_length ih.inside, List.mem_append, List.mem_singleton]
        rintro (h | h)
        · exact ih.unbroken h
        · exact hc h.symm

theorem locationAfter_append (h : '\n' ∉ bs) :
    locationAfter (as ++ bs) =
      ⟨(locationAfter as).line, (locationAfter as).column + bs.length⟩ := by
  simp only [locationAfter, sinceBreak_append h, List.count_append, List.count_eq_zero.mpr h,
    Location.mk.injEq]
  omega

theorem before_locationAfter (h : bs ≠ []) :
    (locationAfter as).Before (locationAfter (as ++ bs)) := by
  by_cases hbreak : '\n' ∈ bs
  · left
    have hcount := List.count_pos_iff.mpr hbreak
    simp only [locationAfter, List.count_append]
    omega
  · right
    have hlength := List.length_pos_iff.mpr h
    rw [locationAfter_append hbreak]
    dsimp only
    omega

theorem before_of_lt {o p : Nat} (hop : o < p) (hp : p ≤ cs.length) :
    (locationAfter (cs.take o)).Before (locationAfter (cs.take p)) := by
  have htake : cs.take p = cs.take o ++ (cs.drop o).take (p - o) := by
    rw [← List.take_add, Nat.add_sub_cancel' (Nat.le_of_lt hop)]
  have hne : (cs.drop o).take (p - o) ≠ [] := by
    rw [← List.length_pos_iff, List.length_take, List.length_drop]
    omega
  rw [htake]
  exact before_locationAfter hne

theorem le_takeWhile_length_iff :
    n ≤ (cs.takeWhile (· ≠ '\n')).length ↔ n ≤ cs.length ∧ '\n' ∉ cs.take n := by
  induction cs generalizing n with
  | nil => simp
  | cons c cs ih =>
    cases n with
    | zero => simp
    | succ n =>
      by_cases hc : c = '\n'
      · simp [hc]
      · have htake : (c :: cs).takeWhile (· ≠ '\n') = c :: cs.takeWhile (· ≠ '\n') :=
          List.takeWhile_cons_of_pos (by simpa using hc)
        rw [htake, List.length_cons, List.length_cons, Nat.add_le_add_iff_right,
          Nat.add_le_add_iff_right, ih, List.take_succ_cons, List.mem_cons, not_or]
        simp [Ne.symm hc]

theorem le_lineEnd_iff (hs : start ≤ cs.length) :
    start + n ≤ lineEnd cs start ↔ start + n ≤ cs.length ∧ '\n' ∉ (cs.drop start).take n := by
  rw [lineEnd, Nat.add_le_add_iff_left, le_takeWhile_length_iff, List.length_drop]
  constructor
  · rintro ⟨hle, hn⟩
    exact ⟨by omega, hn⟩
  · rintro ⟨hle, hn⟩
    exact ⟨by omega, hn⟩

namespace LineIndex

theorem starts_snoc (cs : List Char) (c : Char) :
    (ofChars (cs ++ [c])).starts =
      (ofChars cs).starts ++ if c = '\n' then [cs.length + 1] else [] := by
  simp [ofChars, lineStartsFrom_append, lineStartsFrom]

theorem length_starts (cs : List Char) : (ofChars cs).starts.length = 1 + cs.count '\n' := by
  rw [ofChars, List.length_cons, length_lineStartsFrom, Nat.add_comm]

theorem locationAfter_start (h : (ofChars cs).starts[k]? = some start) :
    start ≤ cs.length ∧ locationAfter (cs.take start) = ⟨1 + k, 1⟩ := by
  induction cs using List.reverseRecOn with
  | nil =>
    cases k with
    | zero =>
      obtain rfl := Option.some.inj h
      exact ⟨Nat.le_refl _, rfl⟩
    | succ k => cases h
  | append_singleton cs c ih =>
    rw [starts_snoc] at h
    by_cases hk : k < (ofChars cs).starts.length
    · rw [List.getElem?_append_left hk] at h
      obtain ⟨hle, hlocation⟩ := ih h
      rw [List.length_append, List.take_append_of_le_length hle]
      exact ⟨Nat.le_trans hle (Nat.le_add_right _ _), hlocation⟩
    · -- a further line starts only after a line feed at the end
      rw [List.getElem?_append_right (Nat.le_of_not_lt hk)] at h
      by_cases hc : c = '\n'
      · subst hc
        rw [if_pos rfl] at h
        have hline := length_starts cs
        obtain ⟨hlt, hstart⟩ := List.getElem?_eq_some_iff.mp h
        rw [List.getElem_singleton] at hstart
        rw [List.length_singleton] at hlt
        subst hstart
        refine ⟨by simp, ?_⟩
        rw [List.take_of_length_le (by simp)]
        simp only [locationAfter, sinceBreak_snoc_break, List.count_append,
          List.count_singleton_self, Location.mk.injEq]
        omega
      · rw [if_neg hc] at h
        cases h

theorem locationOf_eq_none_iff (cs : List Char) (o : Int) :
    (ofChars cs).locationOf o = none ↔ o < 0 ∨ (cs.length : Int) < o := by
  rw [locationOf]
  by_cases h : o < 0 ∨ (cs.length : Int) < o
  · simp [ofChars, h]
  · simp [ofChars, h]

theorem offsetOf_locationAfter {o : Nat} (h : o ≤ cs.length) :
    (ofChars cs).offsetOf (locationAfter (cs.take o)).line
      ((locationAfter (cs.take o)).column - 1) = some (o : Int) := by
  have hback := offsetOf_eq h
  have hcolumn : (locationAfter (cs.take o)).column - 1 = sinceBreak (cs.take o) := by
    simp only [locationAfter]
    omega
  rw [hcolumn, ← hback]
  rfl

theorem offsetOf_start (h : (ofChars cs).starts[k]? = some start) (n : Nat) :
    (ofChars cs).offsetOf ((1 + k : Nat) : Int) n = some ((start + n : Nat) : Int) := by
  have hline : ¬((1 + k : Nat) : Int) < 1 := by omega
  have hindex : (((1 + k : Nat) : Int) - 1).toNat = k := by omega
  rw [offsetOf, if_neg hline, hindex, h]
  rfl

theorem locationOf_start_iff (h : (ofChars cs).starts[k]? = some start) (n : Nat) :
    (ofChars cs).locationOf (start + n : Nat) = some ⟨1 + k, n + 1⟩ ↔
      start + n ≤ lineEnd cs start := by
  obtain ⟨hs, hlocation⟩ := locationAfter_start h
  have htake : cs.take (start + n) = cs.take start ++ (cs.drop start).take n := List.take_add
  rw [le_lineEnd_iff hs]
  constructor
  · intro hfound
    have hle : start + n ≤ cs.length := by
      by_contra hlt
      have hnone := (locationOf_eq_none_iff cs (start + n : Nat)).mpr (Or.inr (by omega))
      cases hnone.symm.trans hfound
    refine ⟨hle, fun hbreak => ?_⟩
    -- a line feed on the way would have led to a later line
    have hcount := List.count_pos_iff.mpr hbreak
    rw [locationOf_eq hle, htake] at hfound
    have hline := congrArg Location.line (Option.some.inj hfound)
    have hfirst := congrArg Location.line hlocation
    simp only [locationAfter, List.count_append] at hline hfirst
    omega
  · rintro ⟨hle, hunbroken⟩
    have hlength : ((cs.drop start).take n).length = n := by
      rw [List.length_take, List.length_drop]
      omega
    rw [locationOf_eq hle, htake, locationAfter_append hunbroken, hlocation, hlength]
    simp only [Option.some.injEq, Location.mk.injEq, true_and]
    omega

end LineIndex

/-- An offset has a location just when it lies in the text or at its end: the number of line feeds
before it and its distance from the beginning of its line. The location leads back to the offset,
and a later offset has a later location. A line and a column lead to an offset with that location
just when the column does not lie beyond the end of the line. -/
theorem locations_exact_and_invertible (text : String) :
    (∀ o : Int, (LineIndex.ofText text).locationOf o = none ↔
        o < 0 ∨ (text.toList.length : Int) < o) ∧
      (∀ o : Nat, o ≤ text.toList.length → ∃ (start : Nat) (l : Location),
        LastLineAt (text.toList.take o) start ∧
          l = ⟨1 + (text.toList.take o).count '\n', (o : Int) - start + 1⟩ ∧
          (LineIndex.ofText text).locationOf o = some l ∧
          (LineIndex.ofText text).offsetOf l.line (l.column - 1) = some (o : Int)) ∧
      (∀ o p : Nat, o < p → p ≤ text.toList.length → ∃ l m : Location,
        (LineIndex.ofText text).locationOf o = some l ∧
          (LineIndex.ofText text).locationOf p = some m ∧ l.Before m) ∧
      ∀ line column : Nat, 1 ≤ line → line ≤ (LineIndex.ofText text).starts.length →
        ∃ start : Nat, (LineIndex.ofText text).starts[line - 1]? = some start ∧
          (LineIndex.ofText text).offsetOf line column = some ((start + column : Nat) : Int) ∧
          ((LineIndex.ofText text).locationOf (start + column : Nat) = some ⟨line, column + 1⟩ ↔
            start + column ≤ lineEnd text.toList start) := by
  refine ⟨LineIndex.locationOf_eq_none_iff text.toList, fun o ho => ?_, fun o p hop hp => ?_,
    fun line column hfirst hlast => ?_⟩
  · have hlength : (text.toList.take o).length = o := List.length_take_of_le ho
    have hle := sinceBreak_le_length (text.toList.take o)
    refine ⟨_, _, lastLineAt_sinceBreak (text.toList.take o), ?_, LineIndex.locationOf_eq ho,
      LineIndex.offsetOf_locationAfter ho⟩
    simp only [locationAfter, Location.mk.injEq, true_and]
    omega
  · exact ⟨_, _, LineIndex.locationOf_eq (by omega), LineIndex.locationOf_eq hp,
      before_of_lt hop hp⟩
  · obtain ⟨k, rfl⟩ := Nat.exists_eq_add_of_le hfirst
    have hk : k < (LineIndex.ofText text).starts.length := by omega
    have hstart := List.getElem?_eq_getElem hk
    refine ⟨_, ?_, LineIndex.offsetOf_start hstart column,
      LineIndex.locationOf_start_iff hstart column⟩
    rw [Nat.add_sub_cancel_left]
    exact hstart

/-- A text with an empty line that ends with a line feed. The end of its third line is the place of
that line feed, and the offset after it opens a fourth line. -/
theorem locations_exact_and_invertible_empty_line :
    (∃ start l, LastLineAt ("a\n\nbc\n".toList.take 6) start ∧ l = ⟨4, 6 - (start : Int) + 1⟩ ∧
        (LineIndex.ofText "a\n\nbc\n").locationOf 6 = some l ∧
        (LineIndex.ofText "a\n\nbc\n").offsetOf l.line (l.column - 1) = some 6) ∧
      (∃ l m, (LineIndex.ofText "a\n\nbc\n").locationOf 1 = some l ∧
        (LineIndex.ofText "a\n\nbc\n").locationOf 2 = some m ∧ l.Before m) ∧
      ∃ start : Nat, (LineIndex.ofText "a\n\nbc\n").starts[2]? = some start ∧
        (LineIndex.ofText "a\n\nbc\n").offsetOf 3 2 = some ((start + 2 : Nat) : Int) ∧
        ((LineIndex.ofText "a\n\nbc\n").locationOf (start + 2 : Nat) = some ⟨3, 3⟩ ↔
          start + 2 ≤ lineEnd "a\n\nbc\n".toList start) := by
  obtain ⟨-, hback, horder, hlines⟩ := locations_exact_and_invertible "a\n\nbc\n"
  exact ⟨hback 6 (by decide), horder 1 2 (by decide) (by decide),
    hlines 3 2 (by decide) (by decide)⟩

end MarkupLint.Source
