import MarkupLint.Text.Basic

/-! # Words and their joins

Splitting a text at blanks and joining words by single spaces are inverse to each other on lists
of words. A word here is a text that is not empty and has no blank in it, so that no line feed can
be dropped at its end.
-/
namespace MarkupLint.Text

variable {sep : Char → Bool} {w r : List Char} {c d : Char}

theorem cut_cases (sep : Char → Bool) (cs : List Char) :
    (∀ x ∈ cs, sep x = false) ∨
      ∃ w c r, cs = w ++ c :: r ∧ (∀ x ∈ w, sep x = false) ∧ sep c = true := by
  induction cs with
  | nil => exact Or.inl nofun
  | cons x cs ih =>
    by_cases hx : sep x = true
    · exact Or.inr ⟨[], x, cs, rfl, nofun, hx⟩
    · rw [Bool.not_eq_true] at hx
      rcases ih with hall | ⟨w, c, r, rfl, hw, hc⟩
      · exact Or.inl (List.forall_mem_cons.mpr ⟨hx, hall⟩)
      · exact Or.inr ⟨x :: w, c, r, rfl, List.forall_mem_cons.mpr ⟨hx, hw⟩, hc⟩

def Uncut (sep : Char → Bool) (w : List Char) : Prop := w ≠ [] ∧ ∀ c ∈ w, sep c = false

theorem uncut_cons (hc : sep c = false) (h : Uncut sep w) : Uncut sep (c :: w) := by
  refine ⟨by simp, ?_⟩
  simpa [hc] using h.2

theorem uncut_tail (h : Uncut sep (c :: d :: w)) : Uncut sep (d :: w) :=
  ⟨by simp, fun e he => h.2 e (List.mem_cons_of_mem c he)⟩

theorem runs_cons_sep (h : sep c = true) : runs sep (c :: r) = runs sep r := by
  simp [runs, h]

theorem runs_cons_last (hc : sep c = false) (hd : sep d = true) :
    runs sep (c :: d :: r) = [c] :: runs sep r := by
  simp [runs, hc, hd]

theorem runs_ne_nil (hd : sep d = false) : runs sep (d :: r) ≠ [] := by
  unfold runs
  rw [if_neg (by simp [hd])]
  split
  · simp
  · split
    · simp
    · split <;> simp

theorem runs_cons_inner (hc : sep c = false) (hd : sep d = false) :
    ∃ v vs, runs sep (d :: r) = v :: vs ∧ runs sep (c :: d :: r) = (c :: v) :: vs := by
  obtain ⟨v, vs, hr⟩ := List.exists_cons_of_ne_nil (runs_ne_nil (r := r) hd)
  refine ⟨v, vs, hr, ?_⟩
  rw [runs]
  simp [hc, hd, hr]

theorem runs_of_uncut (h : Uncut sep w) : runs sep w = [w] := by
  induction w with
  | nil => exact absurd rfl h.1
  | cons c w ih =>
    have hc := h.2 c List.mem_cons_self
    cases w with
    | nil => simp [runs, hc]
    | cons d w =>
      have ht := uncut_tail h
      obtain ⟨v, vs, hv, hcv⟩ := runs_cons_inner (r := w) hc (ht.2 d List.mem_cons_self)
      rw [ih ht] at hv
      cases hv
      exact hcv

theorem runs_uncut_append (h : Uncut sep w) (hd : sep d = true) :
    runs sep (w ++ d :: r) = w :: runs sep r := by
  induction w with
  | nil => exact absurd rfl h.1
  | cons c w ih =>
    have hc := h.2 c List.mem_cons_self
    cases w with
    | nil => exact runs_cons_last hc hd
    | cons e w =>
      have ht := uncut_tail h
      have hr := ih ht
      obtain ⟨v, vs, hv, hcv⟩ := runs_cons_inner (r := w ++ d :: r) hc (ht.2 e List.mem_cons_self)
      rw [List.cons_append, hv] at hr
      cases hr
      exact hcv

theorem runs_uncut (h : w ∈ runs sep r) : Uncut sep w := by
  induction r generalizing w with
  | nil => simp [runs] at h
  | cons c r ih =>
    by_cases hc : sep c = true
    · rw [runs_cons_sep hc] at h
      exact ih h
    rw [Bool.not_eq_true] at hc
    have hone : Uncut sep [c] := ⟨by simp, by simpa using hc⟩
    cases r with
    | nil =>
      rw [runs_of_uncut hone, List.mem_singleton] at h
      exact h ▸ hone
    | cons d r =>
      by_cases hd : sep d = true
      · rw [runs_cons_last hc hd, List.mem_cons] at h
        rcases h with rfl | h
        · exact hone
        · exact ih (by rwa [runs_cons_sep hd])
      · obtain ⟨v, vs, hv, hcv⟩ := runs_cons_inner (r := r) hc (by simpa using hd)
        rw [hcv, List.mem_cons] at h
        rw [hv] at ih
        rcases h with rfl | h
        · exact uncut_cons hc (ih List.mem_cons_self)
        · exact ih (List.mem_cons_of_mem v h)

theorem runs_intercalate {ws : List (List Char)} (h : ∀ w ∈ ws, Uncut sep w) (hd : sep d = true) :
    runs sep ([d].intercalate ws) = ws := by
  induction ws with
  | nil => rfl
  | cons w ws ih =>
    have hw := h w List.mem_cons_self
    cases ws with
    | nil => simpa using runs_of_uncut hw
    | cons v ws =>
      rw [List.intercalate_cons_cons, List.append_assoc, List.singleton_append,
        runs_uncut_append hw hd, ih fun x hx => h x (List.mem_cons_of_mem w hx)]

/-- A separator cuts a text into two that are split one by one. -/
theorem runs_append_sep (hd : sep d = true) (w r : List Char) :
    runs sep (w ++ d :: r) = runs sep w ++ runs sep r := by
  induction w with
  | nil => exact runs_cons_sep hd
  | cons c w ih =>
    by_cases hc : sep c = true
    · rw [List.cons_append, runs_cons_sep hc, runs_cons_sep hc, ih]
    rw [Bool.not_eq_true] at hc
    cases w with
    | nil =>
      have hone : Uncut sep [c] := ⟨by simp, by simpa using hc⟩
      rw [runs_uncut_append hone hd, runs_of_uncut hone]
      rfl
    | cons e w =>
      by_cases he : sep e = true
      · rw [List.cons_append, runs_cons_sep he, runs_cons_sep he] at ih
        rw [List.cons_append, List.cons_append, runs_cons_last hc he, runs_cons_last hc he, ih]
        rfl
      · -- the run that the first two characters share is the first one of both splits
        rw [Bool.not_eq_true] at he
        obtain ⟨v, vs, hv, hcv⟩ := runs_cons_inner (r := w ++ d :: r) hc he
        obtain ⟨u, us, hu, hcu⟩ := runs_cons_inner (r := w) hc he
        rw [List.cons_append, hv, hu, List.cons_append] at ih
        obtain ⟨rfl, rfl⟩ := List.cons.inj ih
        rw [hcu]
        exact hcv

theorem dropFinalNewline_cases (cs : List Char) :
    cs = dropFinalNewline cs ∨ cs = dropFinalNewline cs ++ ['\n'] := by
  unfold dropFinalNewline
  split
  · next h =>
    obtain ⟨front, rfl⟩ := List.getLast?_eq_some_iff.mp h
    exact Or.inr (by rw [List.dropLast_concat])
  · exact Or.inl rfl

theorem dropFinalNewline_of_notMem (h : '\n' ∉ w) : dropFinalNewline w = w :=
  if_neg fun hlast => h (List.mem_of_getLast? hlast)

theorem dropFinalNewline_concat (w : List Char) : dropFinalNewline (w ++ ['\n']) = w := by
  simp [dropFinalNewline]

def IsWord (w : String) : Prop := Uncut isBlank w.toList

theorem isWord_of_mem_words {s w : String} (h : w ∈ words s) : IsWord w := by
  obtain ⟨v, hv, rfl⟩ := List.mem_map.mp h
  simpa [IsWord] using runs_uncut hv

theorem toList_unwords (ws : List String) :
    (unwords ws).toList = [' '].intercalate (ws.map String.toList) := String.toList_intercalate

theorem words_unwords {ws : List String} (h : ∀ w ∈ ws, IsWord w) : words (unwords ws) = ws := by
  have hr : runs isBlank ([' '].intercalate (ws.map String.toList)) = ws.map String.toList := by
    apply runs_intercalate _ (by decide)
    intro w hw
    obtain ⟨v, hv, rfl⟩ := List.mem_map.mp hw
    exact h v hv
  rw [words, toList_unwords, hr, List.map_map]
  simp [Function.comp_def]

/-- Joined texts have the words of each of them, in order. -/
theorem words_unwords_eq_flatMap (ts : List String) : words (unwords ts) = ts.flatMap words := by
  have hruns : ∀ ts : List (List Char),
      runs isBlank ([' '].intercalate ts) = ts.flatMap (runs isBlank) := by
    intro ts
    induction ts with
    | nil => rfl
    | cons t ts ih =>
      cases ts with
      | nil => simp
      | cons u ts =>
        rw [List.intercalate_cons_cons, List.append_assoc, List.singleton_append,
          runs_append_sep (by decide), ih]
        rfl
  rw [words, toList_unwords, hruns, List.flatMap_map, List.map_flatMap]
  rfl

end MarkupLint.Text
