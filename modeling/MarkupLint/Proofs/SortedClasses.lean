import Mathlib.Data.List.Chain
import MarkupLint.Proofs.SettledClasses

/-! # The sorted form of class attribute values

Sorting writes a normal form. The classes that are no columns stay as they are; behind them stand
the column classes, each once, by tier and within a tier as they first appear. With single spaces
between the classes this settles the text that is written, so a value has one sorted form, and a
sorted value is its own.
-/
namespace MarkupLint

namespace Text

variable {cs : List Char} {ws : List (List Char)}

/-- The only blanks are spaces between other characters, one at a time. -/
structure SingleSpaced (cs : List Char) : Prop where
  spaces : ∀ c ∈ cs, isBlank c = true → c = ' '
  apart : cs.IsChain fun c d => isBlank c = false ∨ isBlank d = false
  front : ∀ c ∈ cs.head?, isBlank c = false
  back : ∀ c ∈ cs.getLast?, isBlank c = false

theorem singleSpaced_of_unblank (h : ∀ c ∈ cs, isBlank c = false) : SingleSpaced cs where
  spaces c hc hblank := by cases hblank.symm.trans (h c hc)
  apart := (List.pairwise_of_forall_mem_list fun c hc _ _ => Or.inl (h c hc)).isChain
  front c hc := h c (List.mem_of_mem_head? hc)
  back c hc := h c (List.mem_of_getLast? hc)

theorem intercalate_ne_nil (h : ∀ w ∈ ws, Uncut isBlank w) (hne : ws ≠ []) :
    [' '].intercalate ws ≠ [] := by
  obtain ⟨w, ws, rfl⟩ := List.exists_cons_of_ne_nil hne
  cases ws with
  | nil => simpa using (h w List.mem_cons_self).1
  | cons v ws => simp [List.intercalate_cons_cons]

theorem singleSpaced_intercalate (h : ∀ w ∈ ws, Uncut isBlank w) :
    SingleSpaced ([' '].intercalate ws) := by
  induction ws with
  | nil => exact singleSpaced_of_unblank nofun
  | cons w ws ih =>
    obtain ⟨hw, hws⟩ := List.forall_mem_cons.mp h
    by_cases hne : ws = []
    · subst hne
      simpa using singleSpaced_of_unblank hw.2
    have hrest := ih hws
    have hfull := intercalate_ne_nil hws hne
    rw [List.intercalate_cons_of_ne_nil hne, List.append_assoc, List.singleton_append]
    refine ⟨?_, ?_, ?_, ?_⟩
    · intro c hc hblank
      rcases List.mem_append.mp hc with hc | hc
      · cases hblank.symm.trans (hw.2 c hc)
      · rcases List.mem_cons.mp hc with rfl | hc
        · rfl
        · exact hrest.spaces c hc hblank
    · refine List.isChain_append.mpr ⟨(singleSpaced_of_unblank hw.2).apart, ?_, ?_⟩
      · exact List.isChain_cons.mpr ⟨fun d hd => Or.inr (hrest.front d hd), hrest.apart⟩
      · intro c hc d _
        exact Or.inl (hw.2 c (List.mem_of_getLast? hc))
    · intro c hc
      rw [List.head?_append_of_ne_nil _ hw.1] at hc
      exact hw.2 c (List.mem_of_mem_head? hc)
    · intro c hc
      rw [List.getLast?_append_of_ne_nil _ (by simp), List.getLast?_cons_of_ne_nil hfull] at hc
      exact hrest.back c hc

theorem SingleSpaced.cut {w r : List Char} {c : Char} (h : SingleSpaced (w ++ c :: r))
    (hc : isBlank c = true) : c = ' ' ∧ w ≠ [] ∧ r ≠ [] ∧ SingleSpaced r := by
  have hr : r ≠ [] := by
    rintro rfl
    cases hc.symm.trans (h.back c (by simp))
  obtain ⟨-, hchain, -⟩ := List.isChain_append.mp h.apart
  obtain ⟨hnext, hapart⟩ := List.isChain_cons.mp hchain
  refine ⟨h.spaces c (by simp) hc, ?_, hr, ?_, hapart, ?_, ?_⟩
  · rintro rfl
    cases hc.symm.trans (h.front c rfl)
  · intro d hd
    exact h.spaces d (by simp [hd])
  · intro d hd
    exact (hnext d hd).resolve_left (by simp [hc])
  · intro d hd
    apply h.back d
    rwa [List.getLast?_append_of_ne_nil _ (by simp), List.getLast?_cons_of_ne_nil hr]

/-- A text with single spaces is its words with spaces between them. -/
theorem intercalate_runs (h : SingleSpaced cs) : [' '].intercalate (runs isBlank cs) = cs := by
  induction hlength : cs.length using Nat.strong_induction_on generalizing cs with
  | _ n ih =>
    rcases cut_cases isBlank cs with hall | ⟨w, c, r, rfl, hw, hc⟩
    · by_cases hne : cs = []
      · subst hne
        rfl
      · rw [runs_of_uncut ⟨hne, hall⟩]
        simp
    · obtain ⟨rfl, hwne, hrne, hrest⟩ := h.cut hc
      have hshort : r.length < n := by
        rw [← hlength, List.length_append, List.length_cons]
        omega
      have hback : [' '].intercalate (runs isBlank r) = r := ih r.length hshort hrest rfl
      have hruns : runs isBlank r ≠ [] := by
        intro hnil
        rw [hnil] at hback
        exact hrne hback.symm
      rw [runs_uncut_append ⟨hwne, hw⟩ hc, List.intercalate_cons_of_ne_nil hruns, hback,
        List.append_assoc]
      rfl

theorem singleSpaced_unwords {ws : List String} (h : ∀ w ∈ ws, IsWord w) :
    SingleSpaced (unwords ws).toList := by
  rw [toList_unwords]
  apply singleSpaced_intercalate
  intro w hw
  obtain ⟨v, hv, rfl⟩ := List.mem_map.mp hw
  exact h v hv

theorem unwords_words {t : String} (h : SingleSpaced t.toList) : unwords (words t) = t := by
  rw [← String.toList_inj, toList_unwords, words, List.map_map]
  simpa [Function.comp_def] using intercalate_runs h

end Text

namespace Grid

variable {s : Option String} {columns others : List Column} {t : String} {c : Column}

structure SortedColumns (s : Option String) (columns : List Column) : Prop where
  read : ∀ c ∈ columns, Column.parse? c.token = some c
  mem : ∀ t, t ∈ columns.map Column.token ↔ t ∈ splitClasses s ∧ isColumnClass t = true
  distinct : (columns.map Column.token).Nodup
  ascending : columns.Pairwise fun c d => c.rank ≤ d.rank
  firstSeen : columns.Pairwise fun c d => c.rank = d.rank →
    (splitClasses s).idxOf c.token < (splitClasses s).idxOf d.token

theorem SortedColumns.ordered (h : SortedColumns s columns) :
    columns.Pairwise (Precedes (splitClasses s)) := by
  refine h.ascending.imp₂ ?_ h.firstSeen
  intro c d hle hseen
  by_cases heq : c.rank = d.rank
  · exact Or.inr ⟨heq, hseen heq⟩
  · exact Or.inl (by omega)

theorem SortedColumns.mem_iff (h : SortedColumns s columns) : c ∈ columns ↔ c ∈ columnsOf s := by
  rw [mem_columnsOf]
  constructor
  · intro hc
    have htoken := (h.mem c.token).mp (List.mem_map_of_mem hc)
    exact ⟨c.token, htoken.1, h.read c hc⟩
  · rintro ⟨t, ht, hp⟩
    have hclass := (isColumnClass_iff (splitClasses_words ht)).mpr ⟨c, hp⟩
    obtain ⟨d, hd, rfl⟩ := List.mem_map.mp ((h.mem t).mpr ⟨ht, hclass⟩)
    obtain rfl := Option.some.inj ((h.read d hd).symm.trans hp)
    exact hd

theorem SortedColumns.unique (h : SortedColumns s columns) (ho : SortedColumns s others) :
    columns = others :=
  ordered_unique (fun _ => h.mem_iff.trans ho.mem_iff.symm) h.ordered ho.ordered

theorem sortedColumns_declared (s : Option String) :
    SortedColumns s (declared (splitClasses s)) where
  read _ hc := parse_declared hc
  mem t := by
    rw [List.mem_map]
    constructor
    · rintro ⟨c, hc, rfl⟩
      obtain ⟨t, ht, hp⟩ := mem_declared.mp hc
      rw [parse_token hp]
      exact ⟨ht, (isColumnClass_iff (splitClasses_words ht)).mpr ⟨c, hp⟩⟩
    · rintro ⟨ht, hclass⟩
      obtain ⟨c, hp⟩ := (isColumnClass_iff (splitClasses_words ht)).mp hclass
      exact ⟨c, mem_declared.mpr ⟨t, ht, hp⟩, parse_token hp⟩
  distinct := declared_nodup _
  ascending := byTier_ascending _
  firstSeen := by
    refine (declared_ordered (splitClasses s)).imp ?_
    rintro c d (hlt | ⟨-, hseen⟩) heq
    · omega
    · exact hseen

theorem othersOf_splitClasses (s : Option String) :
    othersOf (splitClasses s) = (splitClasses s).filter fun t => !isColumnClass t := by
  apply List.filter_congr
  intro t ht
  have hiff := isColumnClass_iff (splitClasses_words ht)
  cases hp : Column.parse? t with
  | none =>
    have hno : isColumnClass t = false := by
      rw [← Bool.not_eq_true, hiff, hp]
      simp
    simp [hno]
  | some c =>
    have hyes : isColumnClass t = true := hiff.mpr ⟨c, hp⟩
    simp [hyes]

/-- The sorted form of a value is the one text with single spaces whose words are the other classes
as they stand and then the sorted column classes. Sorting it changes nothing. -/
theorem sorting_is_normal_form (s : Option String) :
    (∀ t, sortColumns s = t ↔ Text.SingleSpaced t.toList ∧
      ∃ columns, SortedColumns s columns ∧
        splitClasses (some t) =
          (splitClasses s).filter (fun w => !isColumnClass w) ++ columns.map Column.token) ∧
      sortColumns (some (sortColumns s)) = sortColumns s := by
  refine ⟨?_, sortColumns_sortColumns s⟩
  intro t
  rw [← othersOf_splitClasses]
  constructor
  · rintro rfl
    refine ⟨?_, declared (splitClasses s), sortedColumns_declared s, splitClasses_sortColumns s⟩
    exact Text.singleSpaced_unwords fun w hw => splitClasses_words (mem_sortTokens.mp hw)
  · rintro ⟨hspaced, columns, hcolumns, hwords⟩
    rw [hcolumns.unique (sortedColumns_declared s)] at hwords
    calc sortColumns s = Text.unwords (splitClasses (some t)) := by rw [hwords]; rfl
      _ = t := Text.unwords_words hspaced

-- a repeated class that is no column stays twice, a repeated column class is written once
example : sortColumns (some "col-md-6 a\tcol-3 col-md-6  a col-auto") =
    "a a col-3 col-auto col-md-6" := by
  decide +kernel

end Grid

end MarkupLint
