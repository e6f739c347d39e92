import MarkupLint.Proofs.LibraryScripts
import MarkupLint.Proofs.Words

/-! # The files that links name

A link names what follows the last slash of its longest beginning without a query or a fragment. The
cut that is made looks at the last line only. Read from the front it takes one character after the
other: a mark is cut off with all behind it if no line feed is left but one at the very end, and any
other character stays. So a mark in front of a line feed is not cut off, and neither is a line feed
at the end; where no line feed follows a mark, the link names the file that it should.
-/
namespace MarkupLint.Link

open Text (dropFinalNewline)

variable {cs p q r name : List Char} {c m x : Char}

structure LongestUnmarked (cs p : List Char) : Prop where
  begins : p <+: cs
  unmarked : '#' ∉ p ∧ '?' ∉ p
  longest : ∀ q, q <+: cs → '#' ∉ q → '?' ∉ q → q.length ≤ p.length

def FollowsLastSlash (p name : List Char) : Prop :=
  '/' ∉ name ∧ (p = name ∨ ∃ front, p = front ++ '/' :: name)

/-- The file of a link whose query and fragment are stripped in all its lines. -/
def NamesFile (cs name : List Char) : Prop :=
  ∃ p, LongestUnmarked cs p ∧ FollowsLastSlash p name

/-- A line feed follows a mark. -/
def BrokenSuffix (cs : List Char) : Prop :=
  ∃ p m r, cs = p ++ m :: r ∧ isSuffixMark m = true ∧ '\n' ∈ r

/-- Behind the first mark there is another line, and a slash with the name that stands in front of
the mark. -/
def NamesAgain (cs : List Char) : Prop :=
  ∃ p m r, cs = p ++ m :: r ∧ LongestUnmarked cs p ∧ '\n' ∈ dropFinalNewline r ∧
    '/' ∈ withoutSuffix r ∧ FollowsLastSlash p (afterLast '/' (withoutSuffix r))

/-- Behind a mark there is another line, but no slash. -/
def KeepsMark (cs : List Char) : Prop :=
  ∃ p m r, cs = p ++ m :: r ∧ isSuffixMark m = true ∧ '\n' ∈ dropFinalNewline r ∧
    '/' ∉ withoutSuffix r

section Specification

theorem unmarked_iff : ('#' ∉ p ∧ '?' ∉ p) ↔ ∀ c ∈ p, isSuffixMark c = false := by
  constructor
  · rintro ⟨hnumber, hquestion⟩ c hc
    rw [isSuffixMark, Bool.or_eq_false_iff, beq_eq_false_iff_ne, beq_eq_false_iff_ne]
    exact ⟨fun h => hnumber (h ▸ hc), fun h => hquestion (h ▸ hc)⟩
  · intro h
    exact ⟨fun hc => Bool.noConfusion (h '#' hc), fun hc => Bool.noConfusion (h '?' hc)⟩

theorem longestUnmarked_iff : LongestUnmarked cs p ↔ p = cs.takeWhile (!isSuffixMark ·) := by
  have hfront : cs.takeWhile (!isSuffixMark ·) <+: cs := List.takeWhile_prefix _
  have hfree : ∀ c ∈ cs.takeWhile (!isSuffixMark ·), isSuffixMark c = false := by
    intro c hc
    simpa using List.mem_takeWhile_imp hc
  have hlongest : ∀ q, q <+: cs → '#' ∉ q → '?' ∉ q →
      q.length ≤ (cs.takeWhile (!isSuffixMark ·)).length := by
    rintro q ⟨t, rfl⟩ hnumber hquestion
    have hq := unmarked_iff.mp ⟨hnumber, hquestion⟩
    rw [List.takeWhile_append_of_pos (by simpa using hq), List.length_append]
    omega
  constructor
  · rintro ⟨hbegins, ⟨hnumber, hquestion⟩, hmax⟩
    have hle := hlongest p hbegins hnumber hquestion
    have hge := hmax _ hfront (unmarked_iff.mpr hfree).1 (unmarked_iff.mpr hfree).2
    exact (List.prefix_of_prefix_length_le hbegins hfront hle).eq_of_length_le hge
  · rintro rfl
    exact ⟨hfront, unmarked_iff.mpr hfree, hlongest⟩

theorem afterLast_append_of_mem (h : x ∈ r) : afterLast x (p ++ r) = afterLast x r := by
  have hstop : (r.reverse.takeWhile (· != x)).length ≠ r.reverse.length := by
    intro hlength
    have hall := (List.takeWhile_prefix _).eq_of_length hlength
    have hx := List.takeWhile_eq_self_iff.mp hall x (List.mem_reverse.mpr h)
    simp at hx
  rw [afterLast, List.reverse_append, List.takeWhile_append, if_neg hstop, afterLast]

theorem afterLast_append_of_notMem (h : x ∉ r) : afterLast x (p ++ r) = afterLast x p ++ r := by
  have hall : ∀ c ∈ r.reverse, (c != x) = true := by
    intro c hc
    have hne : c ≠ x := fun heq => h (heq ▸ List.mem_reverse.mp hc)
    simpa using hne
  rw [afterLast, List.reverse_append, List.takeWhile_append_of_pos hall, List.reverse_append,
    List.reverse_reverse, afterLast]

theorem notMem_afterLast (x : Char) (cs : List Char) : x ∉ afterLast x cs := by
  intro h
  have hx := List.mem_takeWhile_imp (List.mem_reverse.mp h)
  simp at hx

theorem afterLast_split (h : x ∉ r) : afterLast x (p ++ x :: r) = r := by
  rw [← List.singleton_append, ← List.append_assoc, afterLast_append_of_notMem h,
    afterLast_append_of_mem List.mem_cons_self]
  simp [afterLast]

theorem afterLast_whole (h : x ∉ cs) : afterLast x cs = cs := afterLast_append_of_notMem (p := []) h

theorem followsLastSlash_iff : FollowsLastSlash p name ↔ name = afterLast '/' p := by
  constructor
  · rintro ⟨hname, rfl | ⟨front, rfl⟩⟩
    · exact (afterLast_whole hname).symm
    · exact (afterLast_split hname).symm
  · rintro rfl
    refine ⟨notMem_afterLast '/' p, ?_⟩
    by_cases hslash : '/' ∈ p
    · -- the first slash from behind
      obtain ⟨s, t, hsplit, hs⟩ := List.eq_append_cons_of_mem (List.mem_reverse.mpr hslash)
      have hp : p = t.reverse ++ '/' :: s.reverse := by
        rw [← List.reverse_reverse p, hsplit]
        simp
      rw [hp, afterLast_split fun h => hs (List.mem_reverse.mp h)]
      exact Or.inr ⟨t.reverse, rfl⟩
    · exact Or.inl (afterLast_whole hslash).symm

theorem namesFile_iff :
    NamesFile cs name ↔ name = afterLast '/' (cs.takeWhile (!isSuffixMark ·)) := by
  simp [NamesFile, longestUnmarked_iff, followsLastSlash_iff]

end Specification

section Cutting

theorem dropFinalNewline_cons (h : r ≠ []) :
    dropFinalNewline (c :: r) = c :: dropFinalNewline r := by
  unfold dropFinalNewline
  rw [List.getLast?_cons_of_ne_nil h]
  split
  · rw [List.dropLast_cons_of_ne_nil h]
  · rfl

theorem dropFinalNewline_append (h : r ≠ []) :
    dropFinalNewline (p ++ r) = p ++ dropFinalNewline r := by
  induction p with
  | nil => rfl
  | cons c p ih =>
    have hrest : p ++ r ≠ [] := by simp [h]
    rw [List.cons_append, dropFinalNewline_cons hrest, ih, List.cons_append]

theorem mem_of_dropFinalNewline (h : c ∈ dropFinalNewline r) : c ∈ r := by
  rcases Text.dropFinalNewline_cases r with hr | hr
  · rwa [hr]
  · rw [hr]
    exact List.mem_append_left _ h

def cutLastLine (cs : List Char) : List Char :=
  cs.take (cs.length - (afterLast '\n' cs).length) ++
    (afterLast '\n' cs).takeWhile (!isSuffixMark ·)

theorem withoutSuffix_eq (cs : List Char) :
    withoutSuffix cs =
      cutLastLine (dropFinalNewline cs) ++ cs.drop (dropFinalNewline cs).length := rfl

@[simp] theorem withoutSuffix_nil : withoutSuffix [] = [] := rfl

theorem cutLastLine_one (h : '\n' ∉ cs) : cutLastLine cs = cs.takeWhile (!isSuffixMark ·) := by
  simp [cutLastLine, afterLast_whole h]

theorem cutLastLine_inner (h : '\n' ∈ cs) : cutLastLine (c :: cs) = c :: cutLastLine cs := by
  have hline : afterLast '\n' (c :: cs) = afterLast '\n' cs := afterLast_append_of_mem (p := [c]) h
  have hlength := (afterLast_isSuffix '\n' cs).length_le
  have hcut : (c :: cs).length - (afterLast '\n' cs).length =
      cs.length - (afterLast '\n' cs).length + 1 := by
    rw [List.length_cons]
    omega
  rw [cutLastLine, hline, hcut, List.take_succ_cons, List.cons_append, cutLastLine]

theorem cutLastLine_feed (h : '\n' ∉ cs) : cutLastLine ('\n' :: cs) = '\n' :: cutLastLine cs := by
  have hline : afterLast '\n' ('\n' :: cs) = cs := afterLast_split (p := []) h
  rw [cutLastLine_one h, cutLastLine, hline, List.length_cons, Nat.add_sub_cancel_left]
  rfl

theorem cutLastLine_keep (h : isSuffixMark c = false ∨ '\n' ∈ cs) :
    cutLastLine (c :: cs) = c :: cutLastLine cs := by
  by_cases hinner : '\n' ∈ cs
  · exact cutLastLine_inner hinner
  · have hmark : isSuffixMark c = false := h.resolve_right hinner
    by_cases hfeed : c = '\n'
    · subst hfeed
      exact cutLastLine_feed hinner
    · have hline : '\n' ∉ c :: cs :=
        List.not_mem_cons_of_ne_of_not_mem (fun heq => hfeed heq.symm) hinner
      rw [cutLastLine_one hline, cutLastLine_one hinner, List.takeWhile_cons, hmark]
      rfl

theorem withoutSuffix_keep (h : isSuffixMark c = false ∨ '\n' ∈ dropFinalNewline r) :
    withoutSuffix (c :: r) = c :: withoutSuffix r := by
  by_cases hr : r = []
  · subst hr
    have hmark : isSuffixMark c = false := h.resolve_right (by decide)
    by_cases hfeed : c = '\n'
    · subst hfeed
      rfl
    · have hbody : dropFinalNewline [c] = [c] := if_neg (by simpa using hfeed)
      rw [withoutSuffix_eq, hbody, cutLastLine_keep (Or.inl hmark)]
      rfl
  · rw [withoutSuffix_eq, dropFinalNewline_cons hr, cutLastLine_keep h, List.length_cons,
      List.drop_succ_cons, List.cons_append, withoutSuffix_eq]

theorem withoutSuffix_cut (hm : isSuffixMark m = true) (h : '\n' ∉ dropFinalNewline r) :
    (r = dropFinalNewline r ∧ withoutSuffix (m :: r) = []) ∨
      (r = dropFinalNewline r ++ ['\n'] ∧ withoutSuffix (m :: r) = ['\n']) := by
  have hfeed : m ≠ '\n' := by
    rintro rfl
    cases hm
  have hbody : dropFinalNewline (m :: r) = m :: dropFinalNewline r := by
    by_cases hr : r = []
    · subst hr
      exact if_neg (by simpa using hfeed)
    · exact dropFinalNewline_cons hr
  have hline : '\n' ∉ m :: dropFinalNewline r := List.not_mem_cons_of_ne_of_not_mem hfeed.symm h
  have hcut : withoutSuffix (m :: r) = r.drop (dropFinalNewline r).length := by
    rw [withoutSuffix_eq, hbody, cutLastLine_one hline, List.takeWhile_cons, hm]
    rfl
  rcases Text.dropFinalNewline_cases r with hr | hr
  · exact Or.inl ⟨hr, by rw [hcut, ← hr, List.drop_length]⟩
  · refine Or.inr ⟨hr, ?_⟩
    rw [hcut]
    nth_rewrite 2 [hr]
    exact List.drop_left

theorem withoutSuffix_front (h : ∀ c ∈ p, isSuffixMark c = false) :
    withoutSuffix (p ++ r) = p ++ withoutSuffix r := by
  induction p with
  | nil => rfl
  | cons c p ih =>
    obtain ⟨hc, hp⟩ := List.forall_mem_cons.mp h
    rw [List.cons_append, withoutSuffix_keep (Or.inl hc), ih hp, List.cons_append]

theorem withoutSuffix_unmarked (h : ∀ c ∈ cs, isSuffixMark c = false) : withoutSuffix cs = cs := by
  have hfront := withoutSuffix_front (r := []) h
  rwa [List.append_nil, withoutSuffix_nil, List.append_nil] at hfront

theorem withoutSuffix_lines (h : '\n' ∈ dropFinalNewline r) :
    withoutSuffix (p ++ r) = p ++ withoutSuffix r := by
  have hr : r ≠ [] := by
    rintro rfl
    cases h
  induction p with
  | nil => rfl
  | cons c p ih =>
    have hinner : '\n' ∈ dropFinalNewline (p ++ r) := by
      rw [dropFinalNewline_append hr]
      exact List.mem_append_right p h
    rw [List.cons_append, withoutSuffix_keep (Or.inr hinner), ih, List.cons_append]

/-- A mark that stays is in an earlier line, and what follows it is cut on its own. -/
theorem kept_mark (hm : isSuffixMark m = true) (h : withoutSuffix cs = p ++ m :: q) :
    ∃ r, cs = p ++ m :: r ∧ '\n' ∈ dropFinalNewline r ∧ withoutSuffix r = q := by
  induction cs generalizing p with
  | nil => simp at h
  | cons c cs ih =>
    by_cases hkeep : isSuffixMark c = false ∨ '\n' ∈ dropFinalNewline cs
    · rw [withoutSuffix_keep hkeep] at h
      cases p with
      | nil =>
        obtain ⟨rfl, hrest⟩ := List.cons.inj h
        exact ⟨cs, rfl, hkeep.resolve_left (by simp [hm]), hrest⟩
      | cons x p =>
        obtain ⟨rfl, hrest⟩ := List.cons.inj h
        obtain ⟨r, rfl, hline, hr⟩ := ih hrest
        exact ⟨r, rfl, hline, hr⟩
    · rw [not_or, Bool.not_eq_false] at hkeep
      have hmem : m ∈ withoutSuffix (c :: cs) := by
        rw [h]
        exact List.mem_append_right p List.mem_cons_self
      rcases withoutSuffix_cut hkeep.1 hkeep.2 with ⟨-, hcut⟩ | ⟨-, hcut⟩
      · rw [hcut] at hmem
        cases hmem
      · rw [hcut, List.mem_singleton] at hmem
        subst hmem
        cases hm

end Cutting

section Names

theorem toList_filename (url : String) :
    (filename url).toList = afterLast '/' (withoutSuffix url.toList) := String.toList_ofList

theorem slash_notMem_cons (hm : isSuffixMark m = true) (h : '/' ∉ r) : '/' ∉ m :: r := by
  apply List.not_mem_cons_of_ne_of_not_mem _ h
  rintro rfl
  cases hm

theorem longestUnmarked_append (hp : ∀ c ∈ p, isSuffixMark c = false)
    (hm : isSuffixMark m = true) : LongestUnmarked (p ++ m :: r) q ↔ q = p := by
  rw [longestUnmarked_iff, List.takeWhile_append_of_pos (by simpa using hp)]
  simp [hm]

theorem brokenSuffix_append (hp : ∀ c ∈ p, isSuffixMark c = false) (hm : isSuffixMark m = true) :
    BrokenSuffix (p ++ m :: r) ↔ '\n' ∈ r := by
  constructor
  · rintro ⟨a, x, b, heq, hx, hfeed⟩
    rcases List.append_eq_append_iff.mp heq with ⟨t, rfl, ht⟩ | ⟨t, rfl, ht⟩
    · cases t with
      | nil =>
        obtain ⟨-, rfl⟩ := List.cons.inj ht
        exact hfeed
      | cons y t =>
        obtain ⟨-, rfl⟩ := List.cons.inj ht
        exact List.mem_append_right t (List.mem_cons_of_mem x hfeed)
    · cases t with
      | nil =>
        obtain ⟨-, rfl⟩ := List.cons.inj ht
        exact hfeed
      | cons y t =>
        obtain ⟨rfl, -⟩ := List.cons.inj ht
        cases hx.symm.trans (hp x (by simp))
  · intro hfeed
    exact ⟨p, m, r, rfl, hm, hfeed⟩

theorem namesAgain_append (hp : ∀ c ∈ p, isSuffixMark c = false) (hm : isSuffixMark m = true) :
    NamesAgain (p ++ m :: r) ↔ '\n' ∈ dropFinalNewline r ∧ '/' ∈ withoutSuffix r ∧
      afterLast '/' (withoutSuffix r) = afterLast '/' p := by
  constructor
  · rintro ⟨a, x, b, heq, ha, hline, hslash, hname⟩
    obtain rfl := (longestUnmarked_append hp hm).mp ha
    obtain ⟨rfl, rfl⟩ := List.cons.inj (List.append_cancel_left heq)
    exact ⟨hline, hslash, followsLastSlash_iff.mp hname⟩
  · rintro ⟨hline, hslash, hname⟩
    exact ⟨p, m, r, rfl, (longestUnmarked_append hp hm).mpr rfl, hline, hslash,
      followsLastSlash_iff.mpr hname⟩

theorem namesFile_append (hp : ∀ c ∈ p, isSuffixMark c = false) (hm : isSuffixMark m = true) :
    NamesFile (p ++ m :: r) name ↔ name = afterLast '/' p := by
  simp [NamesFile, longestUnmarked_append hp hm, followsLastSlash_iff]

/-- The cases are those of the line feeds behind the first mark: none, one at the end, an inner
one. -/
theorem names_cut_iff (cs : List Char) :
    NamesFile cs (afterLast '/' (withoutSuffix cs)) ↔ ¬BrokenSuffix cs ∨ NamesAgain cs := by
  rcases Text.cut_cases isSuffixMark cs with hall | ⟨p, m, r, rfl, hp, hm⟩
  · have htake : cs.takeWhile (!isSuffixMark ·) = cs :=
      List.takeWhile_eq_self_iff.mpr (by simpa using hall)
    have hsound : ¬BrokenSuffix cs := by
      rintro ⟨p, m, r, rfl, hm, -⟩
      cases hm.symm.trans (hall m (by simp))
    rw [namesFile_iff, withoutSuffix_unmarked hall, htake]
    exact iff_of_true rfl (Or.inl hsound)
  rw [namesFile_append hp hm, brokenSuffix_append hp hm, namesAgain_append hp hm,
    withoutSuffix_front hp]
  by_cases hline : '\n' ∈ dropFinalNewline r
  · have hfeed : '\n' ∈ r := mem_of_dropFinalNewline hline
    rw [withoutSuffix_keep (Or.inr hline)]
    by_cases hslash : '/' ∈ withoutSuffix r
    · rw [afterLast_append_of_mem (List.mem_cons_of_mem m hslash),
        ← List.singleton_append, afterLast_append_of_mem hslash]
      simp [hline, hfeed, hslash]
    · rw [afterLast_append_of_notMem (slash_notMem_cons hm hslash)]
      simp [hfeed, hslash]
  · rcases withoutSuffix_cut hm hline with ⟨hr, hcut⟩ | ⟨hr, hcut⟩
    · rw [← hr] at hline
      rw [hcut, List.append_nil]
      exact iff_of_true rfl (Or.inl hline)
    · have hfeed : '\n' ∈ r := by
        rw [hr]
        simp
      rw [hcut, afterLast_append_of_notMem (by decide)]
      simp [hfeed, hline]

theorem marked_iff (cs : List Char) :
    (∃ m ∈ afterLast '/' (withoutSuffix cs), isSuffixMark m = true) ↔ KeepsMark cs := by
  constructor
  · rintro ⟨m, hmem, hm⟩
    obtain ⟨front, hfront⟩ := afterLast_isSuffix '/' (withoutSuffix cs)
    obtain ⟨a, b, hsplit⟩ := List.append_of_mem hmem
    have hcut : withoutSuffix cs = (front ++ a) ++ m :: b := by
      rw [← hfront, hsplit, List.append_assoc]
    have hslash : '/' ∉ b := by
      intro hb
      apply notMem_afterLast '/' (withoutSuffix cs)
      rw [hsplit]
      exact List.mem_append_right a (List.mem_cons_of_mem m hb)
    obtain ⟨r, hcs, hline, rfl⟩ := kept_mark hm hcut
    exact ⟨front ++ a, m, r, hcs, hm, hline, hslash⟩
  · rintro ⟨p, m, r, rfl, hm, hline, hslash⟩
    refine ⟨m, ?_, hm⟩
    have hinner : '\n' ∈ dropFinalNewline (m :: r) := by
      rw [dropFinalNewline_cons]
      · exact List.mem_cons_of_mem m hline
      · rintro rfl
        cases hline
    rw [withoutSuffix_lines hinner, withoutSuffix_keep (Or.inr hline),
      afterLast_append_of_notMem (slash_notMem_cons hm hslash)]
    exact List.mem_append_right _ List.mem_cons_self

end Names

/-- What a link names has no slash. It is the file of the link just where no line feed follows a
mark, or where a later line happens to give the same name again; it has a mark just where one stays
in an earlier line with no slash behind it. -/
theorem filename_strips_suffix_iff (url : String) :
    '/' ∉ (filename url).toList ∧
      (NamesFile url.toList (filename url).toList ↔
        ¬BrokenSuffix url.toList ∨ NamesAgain url.toList) ∧
      ('#' ∉ (filename url).toList ∧ '?' ∉ (filename url).toList ↔ ¬KeepsMark url.toList) := by
  rw [toList_filename]
  refine ⟨notMem_afterLast '/' _, names_cut_iff _, ?_⟩
  rw [unmarked_iff, ← marked_iff]
  simp

/-- A query in the first of two lines stays in the name. -/
theorem query_before_line_feed_stays :
    filename "js/bootstrap.js?a\nb" = "bootstrap.js?a\nb" ∧
      NamesFile "js/bootstrap.js?a\nb".toList "bootstrap.js".toList ∧
      ¬NamesFile "js/bootstrap.js?a\nb".toList (filename "js/bootstrap.js?a\nb").toList ∧
      '?' ∈ (filename "js/bootstrap.js?a\nb").toList := by
  rw [namesFile_iff, namesFile_iff]
  decide

end MarkupLint.Link
