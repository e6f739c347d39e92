import MarkupLint.Proofs.ColumnLayout
import MarkupLint.Proofs.SimplifiedClasses

/-! # Simplified values are settled

A simplified class attribute value cannot be simplified again and is sorted already. No new pair of
neighbouring tiers can arise, since what is kept has nothing right below it among the columns that
were there before, and so none among those that are left. Whether a value is simplified at all does
not depend on the order of its words, on repetitions or on words that are no columns.
-/
namespace MarkupLint.Grid

variable {a b s : Option String} {t : String} {ts us : List String} {c : Column}
  {cs : List Column}

section Reading

theorem mem_columnsOf_congr
    (h : ∀ w, isColumnClass w = true → (w ∈ splitClasses a ↔ w ∈ splitClasses b)) :
    c ∈ columnsOf a ↔ c ∈ columnsOf b := by
  have hread : ∀ {s w}, w ∈ splitClasses s → Column.parse? w = some c →
      isColumnClass w = true :=
    fun hw hp => (isColumnClass_iff (splitClasses_words hw)).mpr ⟨c, hp⟩
  rw [mem_columnsOf, mem_columnsOf]
  constructor
  · rintro ⟨w, hw, hp⟩
    exact ⟨w, (h w (hread hw hp)).mp hw, hp⟩
  · rintro ⟨w, hw, hp⟩
    exact ⟨w, (h w (hread hw hp)).mpr hw, hp⟩

end Reading

section Sorting

theorem eraseDups_eq_self_of_nodup (h : ts.Nodup) : ts.eraseDups = ts := by
  induction ts with
  | nil => rfl
  | cons x ts ih =>
    obtain ⟨hx, hts⟩ := List.nodup_cons.mp h
    have hkeep : ts.filter (fun y => !y == x) = ts := by
      apply List.filter_eq_self.mpr
      rintro y hy
      have hne : y ≠ x := fun heq => hx (heq ▸ hy)
      simpa using hne
    rw [List.eraseDups_cons, hkeep, ih hts]

theorem eraseDups_append_of_disjoint (h : ∀ t ∈ us, t ∉ ts) :
    (ts ++ us).eraseDups = ts.eraseDups ++ us.eraseDups := by
  have hkeep : us.removeAll ts = us := by
    apply List.filter_eq_self.mpr
    intro t ht
    simpa using h t ht
  rw [List.eraseDups_append, hkeep]

theorem filter_byTier (b : Breakpoint) (cs : List Column) :
    (byTier cs).filter (fun c => c.breakpoint = b) = cs.filter fun c => c.breakpoint = b := by
  have htier : ∀ a, (cs.filter fun c => c.breakpoint = a).filter (fun c => c.breakpoint = b) =
      if a = b then cs.filter fun c => c.breakpoint = b else [] := by
    intro a
    split
    · next h =>
      subst h
      simp
    · next h =>
      apply List.filter_eq_nil_iff.mpr
      intro c hc
      have ha : c.breakpoint = a := by simpa using (List.mem_filter.mp hc).2
      simpa [ha] using h
  rw [byTier, List.filter_flatMap]
  simp only [htier]
  cases b <;> simp [Breakpoint.all]

theorem byTier_byTier (cs : List Column) : byTier (byTier cs) = byTier cs :=
  List.flatMap_congr fun b _ => filter_byTier b cs

theorem sortTokens_eq (ts : List String) :
    sortTokens ts = othersOf ts ++ (declared ts).map Column.token := rfl

theorem declared_nodup (ts : List String) : ((declared ts).map Column.token).Nodup :=
  tokens_nodup (declared_ordered ts) fun _ hc => parse_declared hc

theorem declared_sortTokens (ts : List String) : declared (sortTokens ts) = declared ts := by
  have hdisjoint : ∀ t ∈ (declared ts).map Column.token, t ∉ othersOf ts := by
    intro t ht hother
    obtain ⟨c, hc, rfl⟩ := List.mem_map.mp ht
    cases (parse_declared hc).symm.trans (mem_othersOf.mp hother).2
  have hothers : (othersOf ts).eraseDups.filterMap Column.parse? = [] := by
    apply List.filterMap_eq_nil_iff.mpr
    intro t ht
    exact (mem_othersOf.mp (List.mem_eraseDups.mp ht)).2
  calc declared (sortTokens ts)
      = byTier ((othersOf ts ++ (declared ts).map Column.token).eraseDups.filterMap
          Column.parse?) := rfl
    _ = byTier (((declared ts).map Column.token).filterMap Column.parse?) := by
        rw [eraseDups_append_of_disjoint hdisjoint, List.filterMap_append, hothers,
          List.nil_append, eraseDups_eq_self_of_nodup (declared_nodup ts)]
    _ = byTier (declared ts) := by rw [columns_map_token fun c hc => parse_declared hc]
    _ = declared ts := byTier_byTier _

theorem sortTokens_sortTokens (ts : List String) :
    sortTokens (sortTokens ts) = sortTokens ts := by
  rw [sortTokens_eq (sortTokens ts), others_sortTokens, declared_sortTokens, sortTokens_eq]

theorem sortColumns_sortColumns (s : Option String) :
    sortColumns (some (sortColumns s)) = sortColumns s := by
  rw [sortColumns, splitClasses_sortColumns, sortTokens_sortTokens]
  rfl

end Sorting

/-- What is kept has nothing right below it, neither before nor after. -/
theorem simplify_simplify (h : simplify s = some t) : simplify (some t) = none := by
  rw [← Option.not_isSome_iff_eq_none, simplify_isSome_iff]
  rintro ⟨c, hc, b, hb, hwidth, hrank⟩
  have hkept := (mem_columnsOf_simplify h).mp hc
  have hbelow := (mem_columnsOf_simplify h).mp hb
  exact hkept.2 ⟨b, hbelow.1, hwidth, hrank⟩

theorem exists_column_simplify (h : simplify s = some t) : ∃ c, c ∈ columnsOf (some t) := by
  obtain ⟨c, hc, -⟩ := simplify_isSome_iff.mp (Option.isSome_of_mem h)
  obtain ⟨first, hfirst, hlow, -⟩ := exists_chain hc
  exact ⟨first, (mem_columnsOf_simplify h).mpr ⟨hfirst, hlow⟩⟩

/-- A simplified value has a column, is sorted and is not simplified again. Two values with the same
column classes are both simplified or both not. -/
theorem simplify_settles :
    (∀ s t, simplify s = some t →
      simplify (some t) = none ∧ sortColumns (some t) = t ∧
        ∃ w ∈ splitClasses (some t), isColumnClass w = true) ∧
      ∀ a b, (∀ w, isColumnClass w = true → (w ∈ splitClasses a ↔ w ∈ splitClasses b)) →
        (simplify a = none ↔ simplify b = none) := by
  constructor
  · intro s t h
    refine ⟨simplify_simplify h, ?_, ?_⟩
    · rw [simplify_some h, sortColumns_sortColumns]
    · obtain ⟨c, hc⟩ := exists_column_simplify h
      obtain ⟨w, hw, hp⟩ := mem_columnsOf.mp hc
      exact ⟨w, hw, (isColumnClass_iff (splitClasses_words hw)).mpr ⟨c, hp⟩⟩
  · intro a b h
    have hsome := simplify_isSome_of_columns fun c => mem_columnsOf_congr h
    rw [← Option.not_isSome_iff_eq_none, ← Option.not_isSome_iff_eq_none, hsome]

/-- Two runs that share a tier, with repeated classes between them, and a value with the same
columns in another order. -/
theorem simplify_settles_shared_tier :
    simplify (some "col-sm-4 btn col-4 btn col-sm-4 col-md-3 col-sm-3") =
        some "btn btn col-4 col-sm-3" ∧
      (simplify (some "btn btn col-4 col-sm-3") = none ∧
        sortColumns (some "btn btn col-4 col-sm-3") = "btn btn col-4 col-sm-3" ∧
        ∃ w ∈ splitClasses (some "btn btn col-4 col-sm-3"), isColumnClass w = true) ∧
      (simplify (some "col-sm-4 btn col-4 btn col-sm-4 col-md-3 col-sm-3") = none ↔
        simplify (some "col-md-3 col-sm-3 wide col-4 col-sm-4") = none) := by
  have hone : simplify (some "col-sm-4 btn col-4 btn col-sm-4 col-md-3 col-sm-3") =
      some "btn btn col-4 col-sm-3" := by decide +kernel
  have hwords : splitClasses (some "col-sm-4 btn col-4 btn col-sm-4 col-md-3 col-sm-3") =
      ["col-sm-4", "btn", "col-4", "btn", "col-sm-4", "col-md-3", "col-sm-3"] := by decide +kernel
  have hothers : splitClasses (some "col-md-3 col-sm-3 wide col-4 col-sm-4") =
      ["col-md-3", "col-sm-3", "wide", "col-4", "col-sm-4"] := by decide +kernel
  have hbtn : isColumnClass "btn" = false := by decide
  have hwide : isColumnClass "wide" = false := by decide
  refine ⟨hone, simplify_settles.1 _ _ hone, simplify_settles.2 _ _ fun w hw => ?_⟩
  rw [hwords, hothers]
  grind

end MarkupLint.Grid
