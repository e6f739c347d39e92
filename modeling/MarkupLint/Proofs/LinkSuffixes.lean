import MarkupLint.Proofs.VersionNumbers

/-! # Queries and fragments of links

What follows a question mark or a number sign has no part in the path of a link. A link is cut in
turn at its scheme, its host part and the end of its path, and each cut and check finds the same
with a query or a fragment behind the link, whatever stands in these: the mark in front of them
stops every search before it gets there. So the version that a link mentions is the last segment of
its path that is a number of three parts.
-/
namespace MarkupLint.Link

open Text (splitAt takeWhile_append_stop)

section Cuts

variable {u s cs w : List Char} {p : Char → Bool} {c : Char} {segments : List (List Char)}

/-- Empty, or beginning with the mark of a query or a fragment. -/
def QueryOrFragment (s : List Char) : Prop := ∀ c ∈ s.head?, isSuffixMark c = true

theorem QueryOrFragment.stops (h : QueryOrFragment s) (hp : p '#' = false ∧ p '?' = false) :
    ∀ c ∈ s.head?, p c = false := by
  intro c hc
  have hmark := h c hc
  simp only [isSuffixMark, Bool.or_eq_true, beq_iff_eq] at hmark
  rcases hmark with rfl | rfl
  · exact hp.1
  · exact hp.2

theorem cleaned_append (h : QueryOrFragment s) :
    ∃ t, QueryOrFragment t ∧ cleaned (u ++ s) = cleaned u ++ t := by
  refine ⟨s.filter fun c => c != '\t' && c != '\r' && c != '\n', ?_, ?_⟩
  · cases s with
    | nil => exact h
    | cons c s =>
      have hkept := h.stops (p := fun c => !(c != '\t' && c != '\r' && c != '\n'))
        ⟨rfl, rfl⟩ c rfl
      rw [Bool.not_eq_false'] at hkept
      rw [List.filter_cons, if_pos hkept]
      exact h
  · have hfront : s.dropWhile (fun c => decide (c.toNat ≤ 0x20)) = s :=
      Text.dropWhile_stop (h.stops ⟨rfl, rfl⟩)
    unfold cleaned
    rw [List.dropWhile_append, hfront]
    split
    · next hempty => simp [List.isEmpty_iff.mp hempty]
    · rw [List.filter_append]

theorem splitScheme_append (h : QueryOrFragment s) :
    splitScheme (u ++ s) = ((splitScheme u).1, (splitScheme u).2 ++ s) := by
  by_cases hcolon : (u.takeWhile (· != ':')).length < u.length
  · -- the colon is in the link itself
    have hfront : (u ++ s).takeWhile (· != ':') = u.takeWhile (· != ':') := by
      rw [List.takeWhile_append, if_neg (by omega)]
    have hmore : (u.takeWhile (· != ':')).length < (u ++ s).length := by
      rw [List.length_append]
      omega
    unfold splitScheme
    simp only [hfront, hcolon, hmore, decide_true, Bool.true_and]
    split
    · rw [List.drop_append_of_le_length (by omega)]
    · rfl
  · have hnone : splitScheme u = ("", u) := by
      unfold splitScheme
      simp [hcolon]
    rw [hnone]
    cases s with
    | nil => simpa using hnone
    | cons c s =>
      -- a colon in the suffix has the mark in front of it, which is in no scheme
      have hmark : (c != ':') = true ∧ isSchemeChar c = false := by
        have hstop := h.stops (p := fun c => !(c != ':') || isSchemeChar c) ⟨rfl, rfl⟩ c rfl
        simpa using hstop
      have hmem : c ∈ (u ++ c :: s).takeWhile (· != ':') := by
        have hall : (u.takeWhile (· != ':')).length = u.length :=
          Nat.le_antisymm (List.takeWhile_prefix _).length_le (Nat.not_lt.mp hcolon)
        rw [List.takeWhile_append, if_pos hall]
        simp [hmark.1]
      have hrefused : ((u ++ c :: s).takeWhile (· != ':')).all isSchemeChar = false :=
        List.all_eq_false.mpr ⟨c, hmem, by simp [hmark.2]⟩
      unfold splitScheme
      simp [hrefused]

theorem splitNetloc_slashes (r : List Char) :
    splitNetloc ('/' :: '/' :: r) =
      (r.takeWhile (fun c => c != '/' && c != '?' && c != '#'),
        r.drop (r.takeWhile fun c => c != '/' && c != '?' && c != '#').length) := rfl

theorem splitNetloc_of_ne (h : ∀ r, cs ≠ '/' :: '/' :: r) : splitNetloc cs = ([], cs) := by
  unfold splitNetloc
  split
  · next r => exact absurd rfl (h r)
  · rfl

theorem splitNetloc_append (h : QueryOrFragment s) :
    splitNetloc (u ++ s) = ((splitNetloc u).1, (splitNetloc u).2 ++ s) := by
  have hslash : ∀ r, s ≠ '/' :: r := by
    rintro r rfl
    cases h '/' rfl
  by_cases hu : ∃ r, u = '/' :: '/' :: r
  · obtain ⟨r, rfl⟩ := hu
    have hnetloc : (r ++ s).takeWhile (fun c => c != '/' && c != '?' && c != '#') =
        r.takeWhile fun c => c != '/' && c != '?' && c != '#' :=
      takeWhile_append_stop (h.stops ⟨rfl, rfl⟩)
    rw [List.cons_append, List.cons_append, splitNetloc_slashes, splitNetloc_slashes, hnetloc,
      List.drop_append_of_le_length (List.takeWhile_prefix _).length_le]
  · -- the suffix adds no slash to those at the front
    have hnone : ∀ r, u ++ s ≠ '/' :: '/' :: r := by
      intro r heq
      match u, hu, heq with
      | [], _, heq => exact hslash _ heq
      | [x], _, heq => exact hslash _ (List.cons.inj heq).2
      | x :: y :: u, hu, heq =>
        obtain ⟨rfl, hrest⟩ := List.cons.inj heq
        obtain ⟨rfl, -⟩ := List.cons.inj hrest
        exact hu ⟨u, rfl⟩
    rw [splitNetloc_of_ne hnone, splitNetloc_of_ne fun r hr => hu ⟨r, hr⟩]

theorem segmentsOf_append (h : QueryOrFragment s) : segmentsOf (u ++ s) = segmentsOf u := by
  obtain ⟨t, ht, hcleaned⟩ := cleaned_append (u := u) h
  have hpath : ∀ rest : List Char, (rest ++ t).takeWhile (fun c => c != '#' && c != '?') =
      rest.takeWhile fun c => c != '#' && c != '?' :=
    fun rest => takeWhile_append_stop (ht.stops ⟨rfl, rfl⟩)
  unfold segmentsOf
  rw [hcleaned, splitScheme_append ht]
  dsimp only
  rw [splitNetloc_append ht]
  dsimp only
  rw [hpath]

theorem splitScheme_isSuffix (cs : List Char) : (splitScheme cs).2 <:+ cs := by
  unfold splitScheme
  dsimp only
  split
  · exact List.drop_suffix _ _
  · exact List.suffix_refl cs

theorem splitNetloc_isSuffix (cs : List Char) : (splitNetloc cs).2 <:+ cs := by
  unfold splitNetloc
  split
  · next r =>
    have hslashes : r <:+ '/' :: '/' :: r := (List.suffix_cons _ r).trans (List.suffix_cons _ _)
    exact (List.drop_suffix _ r).trans hslashes
  · exact List.suffix_refl cs

theorem mem_splitAt {sep : Char → Bool} (h : w ∈ splitAt sep cs) (hc : c ∈ w) : c ∈ cs := by
  induction cs generalizing w with
  | nil =>
    obtain rfl := List.mem_singleton.mp h
    exact hc
  | cons x cs ih =>
    rw [splitAt] at h
    split at h
    · rcases List.mem_cons.mp h with rfl | h
      · cases hc
      · exact List.mem_cons_of_mem x (ih h hc)
    · split at h
      · next hnil => exact absurd hnil (Text.splitAt_ne_nil sep cs)
      · next v vs hsplit =>
        rw [hsplit] at ih
        rcases List.mem_cons.mp h with rfl | h
        · rcases List.mem_cons.mp hc with rfl | hc
          · exact List.mem_cons_self
          · exact List.mem_cons_of_mem x (ih List.mem_cons_self hc)
        · exact List.mem_cons_of_mem x (ih (List.mem_cons_of_mem v h) hc)

theorem mem_dropParameters (h : w ∈ dropParameters segments) (hc : c ∈ w) :
    ∃ v ∈ segments, c ∈ v := by
  induction segments with
  | nil => cases h
  | cons v rest ih =>
    cases rest with
    | nil =>
      obtain rfl := List.mem_singleton.mp h
      exact ⟨v, List.mem_cons_self, List.takeWhile_subset _ hc⟩
    | cons x rest =>
      rcases List.mem_cons.mp h with rfl | h
      · exact ⟨w, List.mem_cons_self, hc⟩
      · obtain ⟨y, hy, hcy⟩ := ih h
        exact ⟨y, List.mem_cons_of_mem v hy, hcy⟩

theorem mem_cleaned_of_segment (h : segmentsOf u = .ok segments) (hw : w ∈ segments) (hc : c ∈ w) :
    c ∈ cleaned u := by
  have hpath : ∀ v ∈ splitAt (· == '/') ((splitNetloc (splitScheme (cleaned u)).2).2.takeWhile
      fun c => c != '#' && c != '?'), c ∈ v → c ∈ cleaned u := by
    intro v hv hcv
    apply (splitScheme_isSuffix _).subset
    apply (splitNetloc_isSuffix _).subset
    exact List.takeWhile_subset _ (mem_splitAt hv hcv)
  unfold segmentsOf at h
  dsimp only at h
  cases hb : checkBrackets (splitNetloc (splitScheme (cleaned u)).2).1 with
  | error e =>
    rw [hb] at h
    cases h
  | ok =>
    cases hl : checkLookalikes (splitNetloc (splitScheme (cleaned u)).2).1 with
    | error e =>
      rw [hb, hl] at h
      cases h
    | ok =>
      rw [hb, hl] at h
      obtain rfl := Except.ok.inj h
      split at hw
      · obtain ⟨v, hv, hcv⟩ := mem_dropParameters hw hc
        exact hpath v hv hcv
      · exact hpath w hw hc

end Cuts

section Versions

variable {u s v : String} {segments : List String}

theorem pathSegments_append (h : QueryOrFragment s.toList) :
    pathSegments (u ++ s) = pathSegments u := by
  rw [pathSegments, String.toList_append, segmentsOf_append h, pathSegments]

theorem noNewline_of_segment (h : pathSegments u = .ok segments) (hv : v ∈ segments) :
    '\n' ∉ v.toList := by
  unfold pathSegments at h
  cases hsegments : segmentsOf u.toList with
  | error e =>
    rw [hsegments] at h
    cases h
  | ok ws =>
    rw [hsegments] at h
    obtain rfl := Except.ok.inj h
    obtain ⟨w, hw, rfl⟩ := List.mem_map.mp hv
    rw [String.toList_ofList]
    intro hfeed
    have hkept := (List.mem_filter.mp (mem_cleaned_of_segment hsegments hw hfeed)).2
    cases hkept

/-- In a path no line feed is left to be tolerated behind a version. -/
theorem isVersionSegment_iff_threePart (h : pathSegments u = .ok segments) (hv : v ∈ segments) :
    isVersionSegment v = true ↔ ThreePart v.toList := by
  have hlast : v.toList.getLast? ≠ some '\n' :=
    fun hfeed => noNewline_of_segment h hv (List.mem_of_getLast? hfeed)
  rw [isVersionSegment_iff, Text.dropFinalNewline, if_neg hlast]

/-- The empty link needs no case of its own: its one segment is no version. -/
theorem versionIn_eq (u : String) :
    versionIn? (some u) = (pathSegments u).map fun segments => (versionsIn segments).getLast? := by
  rw [versionIn?]
  split
  · next hempty =>
    obtain rfl : u = "" := by simpa using hempty
    rfl
  · rfl

theorem last_version_iff :
    (versionsIn segments).getLast? = some v ↔ isVersionSegment v = true ∧
      ∃ front back, segments = front ++ v :: back ∧ ∀ w ∈ back, isVersionSegment w = false := by
  rw [versionsIn, List.getLast?_filter, List.find?_eq_some_iff_append]
  apply and_congr_right
  intro _
  constructor
  · rintro ⟨back, front, hsplit, hback⟩
    refine ⟨front.reverse, back.reverse, ?_, fun w hw => ?_⟩
    · rw [← List.reverse_reverse segments, hsplit]
      simp
    · simpa using hback w (List.mem_reverse.mp hw)
  · rintro ⟨front, back, rfl, hback⟩
    refine ⟨back.reverse, front.reverse, by simp, fun w hw => ?_⟩
    simpa using hback w (List.mem_reverse.mp hw)

theorem versionIn_eq_some_iff :
    versionIn? (some u) = .ok (some v) ↔
      ∃ front back, pathSegments u = .ok (front ++ v :: back) ∧ ThreePart v.toList ∧
        ∀ w ∈ back, ¬ThreePart w.toList := by
  rw [versionIn_eq]
  constructor
  · intro h
    cases hsegments : pathSegments u with
    | error e =>
      rw [hsegments] at h
      cases h
    | ok segments =>
      rw [hsegments] at h
      obtain ⟨hv, front, back, rfl, hback⟩ := last_version_iff.mp (Except.ok.inj h)
      refine ⟨front, back, rfl, (isVersionSegment_iff_threePart hsegments (by simp)).mp hv, ?_⟩
      intro w hw
      rw [← isVersionSegment_iff_threePart hsegments (by simp [hw]), hback w hw]
      exact Bool.false_ne_true
  · rintro ⟨front, back, hsegments, hv, hback⟩
    have hlast : (versionsIn (front ++ v :: back)).getLast? = some v := by
      refine last_version_iff.mpr ⟨?_, front, back, rfl, fun w hw => ?_⟩
      · exact (isVersionSegment_iff_threePart hsegments (by simp)).mpr hv
      · rw [← Bool.not_eq_true, isVersionSegment_iff_threePart hsegments (by simp [hw])]
        exact hback w hw
    rw [hsegments]
    exact congrArg Except.ok hlast

/-- A query or a fragment behind a link leaves its segments, its version and its errors as they are.
The version is the last segment of the path that is a number of three parts. -/
theorem suffixes_leave_version (u : String) {s : String}
    (h : s = "" ∨ s.toList.head? = some '?' ∨ s.toList.head? = some '#') :
    pathSegments (u ++ s) = pathSegments u ∧
      versionIn? (some (u ++ s)) = versionIn? (some u) ∧
      ∀ v, versionIn? (some (u ++ s)) = .ok (some v) ↔
        ∃ front back, pathSegments u = .ok (front ++ v :: back) ∧ ThreePart v.toList ∧
          ∀ w ∈ back, ¬ThreePart w.toList := by
  have hsuffix : QueryOrFragment s.toList := by
    intro c hc
    rcases h with rfl | hmark | hmark
    · cases hc
    · obtain rfl := Option.some.inj (hmark.symm.trans hc)
      rfl
    · obtain rfl := Option.some.inj (hmark.symm.trans hc)
      rfl
  have hpath : pathSegments (u ++ s) = pathSegments u := pathSegments_append hsuffix
  have hversion : versionIn? (some (u ++ s)) = versionIn? (some u) := by
    rw [versionIn_eq, versionIn_eq, hpath]
  refine ⟨hpath, hversion, fun v => ?_⟩
  rw [hversion]
  exact versionIn_eq_some_iff

/-- A suffix with marks, brackets and a version of its own, behind a link with two versions and
behind a link whose host is malformed. -/
theorem suffixes_leave_version_crowded :
    versionIn? (some ("//x.org/1.0.0/a/4.1.3/b.js;v" ++ "?c:[/9.9.9#]")) = .ok (some "4.1.3") ∧
      (∃ front back, pathSegments "//x.org/1.0.0/a/4.1.3/b.js;v" = .ok (front ++ "4.1.3" :: back) ∧
        ThreePart "4.1.3".toList ∧ ∀ w ∈ back, ¬ThreePart w.toList) ∧
      versionIn? (some ("http://[/1.0.0" ++ "#]/9.9.9")) = .error .brackets := by
  have hquery : "?c:[/9.9.9#]" = "" ∨ "?c:[/9.9.9#]".toList.head? = some '?' ∨
      "?c:[/9.9.9#]".toList.head? = some '#' := Or.inr (Or.inl rfl)
  have hfragment : "#]/9.9.9" = "" ∨ "#]/9.9.9".toList.head? = some '?' ∨
      "#]/9.9.9".toList.head? = some '#' := Or.inr (Or.inr rfl)
  obtain ⟨-, hversion, hlast⟩ := suffixes_leave_version "//x.org/1.0.0/a/4.1.3/b.js;v" hquery
  obtain ⟨-, herror, -⟩ := suffixes_leave_version "http://[/1.0.0" hfragment
  have hread : versionIn? (some "//x.org/1.0.0/a/4.1.3/b.js;v") = .ok (some "4.1.3") := rfl
  have hfound := hversion.trans hread
  exact ⟨hfound, (hlast _).mp hfound, herror.trans rfl⟩

end Versions

end MarkupLint.Link
