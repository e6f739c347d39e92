import Mathlib.Data.List.Induction
import Mathlib.Data.List.TakeWhile
import MarkupLint.Source

/-! # Lines and offsets

An offset of a text, the line feeds before it and the characters since the last of them are three
views of one place. The line index is cut at an offset: the starts up to it are those of the text
before it, and all others lie behind it.
-/
namespace MarkupLint.Source

variable {as bs cs : List Char} {n o : Nat} {c : Char}

def sinceBreak (cs : List Char) : Nat := (cs.reverse.takeWhile (· ≠ '\n')).length

/-- The location that comes after some characters of a text. -/
def locationAfter (cs : List Char) : Location := ⟨1 + cs.count '\n', sinceBreak cs + 1⟩

theorem sinceBreak_snoc_break (cs : List Char) : sinceBreak (cs ++ ['\n']) = 0 := by
  simp [sinceBreak]

theorem sinceBreak_snoc (h : c ≠ '\n') : sinceBreak (cs ++ [c]) = sinceBreak cs + 1 := by
  simp [sinceBreak, h]

theorem sinceBreak_le_length (cs : List Char) : sinceBreak cs ≤ cs.length := by
  have h := (List.takeWhile_prefix (l := cs.reverse) (· ≠ '\n')).length_le
  rwa [List.length_reverse] at h

theorem foldl_after_start (cs : List Char) :
    cs.foldl Position.after .start = ⟨1 + cs.count '\n', sinceBreak cs⟩ := by
  induction cs using List.reverseRecOn with
  | nil => rfl
  | append_singleton cs c ih =>
    rw [List.foldl_append, ih, List.count_append]
    by_cases hc : c = '\n'
    · subst hc
      simp [Position.after, sinceBreak_snoc_break, Nat.add_assoc]
    · simp [Position.after, sinceBreak_snoc hc, hc]

theorem lineStartsFrom_append (n : Nat) (as bs : List Char) :
    lineStartsFrom n (as ++ bs) = lineStartsFrom n as ++ lineStartsFrom (n + as.length) bs := by
  induction as generalizing n with
  | nil => rfl
  | cons a as ih =>
    have hn : n + 1 + as.length = n + (as.length + 1) := by omega
    by_cases ha : a = '\n' <;> simp [lineStartsFrom, ha, ih, hn]

theorem length_lineStartsFrom (n : Nat) (cs : List Char) :
    (lineStartsFrom n cs).length = cs.count '\n' := by
  induction cs generalizing n with
  | nil => rfl
  | cons c cs ih => by_cases hc : c = '\n' <;> simp [lineStartsFrom, hc, ih]

theorem bounds_lineStartsFrom (h : o ∈ lineStartsFrom n cs) : n < o ∧ o ≤ n + cs.length := by
  induction cs generalizing n with
  | nil => simp [lineStartsFrom] at h
  | cons c cs ih =>
    have hrest : o ∈ lineStartsFrom (n + 1) cs → n < o ∧ o ≤ n + (c :: cs).length := by
      intro h
      have := ih h
      simp only [List.length_cons]
      omega
    by_cases hc : c = '\n'
    · simp only [lineStartsFrom, hc, if_true, List.mem_cons] at h
      rcases h with rfl | h
      · simp
      · exact hrest h
    · simp only [lineStartsFrom, hc, if_false] at h
      exact hrest h

/-- The last line begins as many characters before the end as there are since the last line
feed. -/
theorem getLast_lineStarts (cs : List Char) :
    (0 :: lineStartsFrom 0 cs).getLast? = some (cs.length - sinceBreak cs) := by
  induction cs using List.reverseRecOn with
  | nil => rfl
  | append_singleton cs c ih =>
    rw [lineStartsFrom_append, Nat.zero_add]
    by_cases hc : c = '\n'
    · subst hc
      rw [sinceBreak_snoc_break, ← List.cons_append, List.getLast?_append]
      simp [lineStartsFrom]
    · have hle := sinceBreak_le_length cs
      simp only [lineStartsFrom, hc, if_false, List.append_nil, ih, sinceBreak_snoc hc,
        List.length_append, List.length_singleton, Option.some.injEq]
      omega

namespace LineIndex

theorem takeWhile_starts (h : o ≤ cs.length) :
    (ofChars cs).starts.takeWhile (fun start => decide (Int.ofNat start ≤ (o : Int))) =
      0 :: lineStartsFrom 0 (cs.take o) := by
  have hlen : (cs.take o).length = o := by simp [h]
  have hcut : (ofChars cs).starts =
      (0 :: lineStartsFrom 0 (cs.take o)) ++ lineStartsFrom o (cs.drop o) := by
    have happ := lineStartsFrom_append 0 (cs.take o) (cs.drop o)
    rw [List.take_append_drop, hlen, Nat.zero_add] at happ
    simp [ofChars, happ]
  rw [hcut, List.takeWhile_append_of_pos]
  · have hbehind : (lineStartsFrom o (cs.drop o)).takeWhile
        (fun start => decide (Int.ofNat start ≤ (o : Int))) = [] := by
      apply List.takeWhile_eq_nil_iff.mpr
      intro hpos
      have := (bounds_lineStartsFrom (List.get_mem _ ⟨0, hpos⟩)).1
      simp only [decide_eq_true_eq, Int.ofNat_eq_natCast]
      omega
    rw [hbehind, List.append_nil]
  · intro start hs
    rcases List.mem_cons.mp hs with rfl | hs
    · simp
    · have := (bounds_lineStartsFrom hs).2
      simp only [decide_eq_true_eq, Int.ofNat_eq_natCast]
      omega

/-- An offset inside the text, or at its end, has the location that comes after the text before
it. -/
theorem locationOf_eq (h : o ≤ cs.length) :
    (ofChars cs).locationOf o = some (locationAfter (cs.take o)) := by
  have hin : ¬((o : Int) < 0 ∨ ((ofChars cs).length : Int) < o) := by
    simp only [ofChars]
    omega
  have hle := sinceBreak_le_length (cs.take o)
  have hlen : (cs.take o).length = o := by simp [h]
  rw [locationOf, if_neg hin]
  simp only [takeWhile_starts h, getLast_lineStarts, Option.getD_some, hlen, locationAfter,
    List.length_cons, length_lineStartsFrom, Option.some.injEq, Location.mk.injEq]
  omega

/-- The line and column that reading has counted up to an offset lead back to it. -/
theorem offsetOf_eq (h : o ≤ cs.length) :
    (ofChars cs).offsetOf (1 + (cs.take o).count '\n' : Nat) (sinceBreak (cs.take o)) =
      some (o : Int) := by
  have hlen : (cs.take o).length = o := by simp [h]
  have hle := sinceBreak_le_length (cs.take o)
  have hstart : (ofChars cs).starts[(cs.take o).count '\n']? =
      some (o - sinceBreak (cs.take o)) := by
    have hp := List.takeWhile_prefix (l := (ofChars cs).starts)
      (fun start => decide (Int.ofNat start ≤ (o : Int)))
    rw [takeWhile_starts h] at hp
    obtain ⟨rest, hrest⟩ := hp
    have hlast := getLast_lineStarts (cs.take o)
    rw [List.getLast?_eq_getElem?, List.length_cons, length_lineStartsFrom, hlen] at hlast
    rw [← hrest, List.getElem?_append_left, ← hlast]
    · simp
    · simp [length_lineStartsFrom]
  have hline : ¬(((1 + (cs.take o).count '\n' : Nat) : Int) < 1) := by omega
  have hindex :
      (((1 + (cs.take o).count '\n' : Nat) : Int) - 1).toNat = (cs.take o).count '\n' := by
    omega
  rw [offsetOf, if_neg hline, hindex, hstart]
  change some (((o - sinceBreak (cs.take o) : Nat) : Int) + sinceBreak (cs.take o)) = some (o : Int)
  congr 1
  omega

end LineIndex

end MarkupLint.Source
