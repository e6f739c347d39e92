import MarkupLint.Proofs.ColumnNames
import MarkupLint.Proofs.ColumnRuns

/-! # Sorted and simplified class lists

What the rewritings of a class attribute value leave of its classes. Both write a value whose
words are again known word by word, so every statement here is about lists of classes.
-/
namespace MarkupLint.Grid

variable {c d : Column} {cs : List Column} {t : String} {ts : List String} {s : Option String}

@[simp] theorem mem_byTier : c ∈ byTier cs ↔ c ∈ cs := by
  simp [byTier, mem_all_breakpoints]

theorem byTier_ordered {R : Column → Column → Prop} (h : cs.Pairwise R) :
    (byTier cs).Pairwise fun c d => c.rank < d.rank ∨ c.rank = d.rank ∧ R c d := by
  unfold byTier
  rw [List.pairwise_flatMap]
  constructor
  · intro b _
    refine List.pairwise_filter.mpr (h.imp ?_)
    intro c d hR hc hd
    rw [decide_eq_true_eq] at hc hd
    exact Or.inr ⟨by simp [Column.rank, hc, hd], hR⟩
  · have hall : Breakpoint.all.Pairwise fun a b => a.rank < b.rank := by decide
    refine hall.imp ?_
    intro a b hab c hc d hd
    simp only [List.mem_filter, decide_eq_true_eq] at hc hd
    exact Or.inl (by simpa [Column.rank, hc.2, hd.2] using hab)

theorem byTier_ascending (cs : List Column) :
    (byTier cs).Pairwise fun c d => c.rank ≤ d.rank := by
  have hany : cs.Pairwise fun _ _ => True := List.pairwise_of_forall fun _ _ => trivial
  refine (byTier_ordered hany).imp ?_
  rintro c d (hlt | ⟨heq, -⟩) <;> omega

theorem ranksOf_ascending (cs : List Column) (w : Width) :
    (ranksOf cs w).Pairwise (· ≤ ·) :=
  List.pairwise_map.mpr (byTier_ascending _)

theorem mem_ranksOf {w : Width} {r : Nat} :
    r ∈ ranksOf cs w ↔ ∃ c ∈ cs, c.width = w ∧ c.rank = r := by
  simp [ranksOf, and_assoc]

/-- The tier right below declares the width of a column. -/
def RepeatsBelow (cs : List Column) (c : Column) : Prop :=
  ∃ b ∈ cs, b.width = c.width ∧ b.rank + 1 = c.rank

theorem isRedundant_iff (hc : c ∈ columnsOf s) :
    isRedundant (widthGroups s) c = true ↔ RepeatsBelow (columnsOf s) c := by
  have hg : isRedundant (widthGroups s) c = true ↔
      isRepeated (ranksOf (columnsOf s) c.width) c.rank = true := by
    simp only [isRedundant, widthGroups, List.any_map, List.any_eq_true, List.mem_eraseDups,
      List.mem_map, Function.comp_apply, Bool.and_eq_true, decide_eq_true_eq]
    constructor
    · rintro ⟨w, -, rfl, hr⟩
      exact hr
    · exact fun hr => ⟨c.width, ⟨c, hc, rfl⟩, rfl, hr⟩
  rw [hg, isRepeated_iff (ranksOf_ascending _ _)]
  simp only [mem_ranksOf, RepeatsBelow]
  constructor
  · rintro ⟨-, q, ⟨b, hb, hw, rfl⟩, hq⟩
    exact ⟨b, hb, hw, hq⟩
  · rintro ⟨b, hb, hw, hq⟩
    exact ⟨⟨c, hc, rfl, rfl⟩, b.rank, ⟨b, hb, hw, rfl⟩, hq⟩

theorem mem_othersOf : t ∈ othersOf ts ↔ t ∈ ts ∧ Column.parse? t = none := by
  simp [othersOf]

def declared (ts : List String) : List Column := byTier (ts.eraseDups.filterMap Column.parse?)

theorem mem_declared : c ∈ declared ts ↔ ∃ t ∈ ts, Column.parse? t = some c := by
  simp [declared]

theorem parse_declared (h : c ∈ declared ts) : Column.parse? c.token = some c := by
  obtain ⟨t, -, hp⟩ := mem_declared.mp h
  rw [parse_token hp]
  exact hp

theorem mem_sortTokens : t ∈ sortTokens ts ↔ t ∈ ts := by
  rw [sortTokens, List.mem_append, mem_othersOf]
  change _ ∨ t ∈ (declared ts).map Column.token ↔ _
  simp only [List.mem_map, mem_declared]
  constructor
  · rintro (⟨ht, -⟩ | ⟨c, ⟨u, hu, hp⟩, rfl⟩)
    · exact ht
    · rwa [parse_token hp]
  · intro ht
    cases hp : Column.parse? t with
    | none => exact Or.inl ⟨ht, rfl⟩
    | some c => exact Or.inr ⟨c, ⟨t, ht, hp⟩, parse_token hp⟩

theorem columns_othersOf (ts : List String) : (othersOf ts).filterMap Column.parse? = [] :=
  List.filterMap_eq_nil_iff.mpr fun _ ht => (mem_othersOf.mp ht).2

theorem columns_map_token (h : ∀ c ∈ cs, Column.parse? c.token = some c) :
    (cs.map Column.token).filterMap Column.parse? = cs := by
  induction cs with
  | nil => rfl
  | cons c cs ih =>
    rw [List.map_cons, List.filterMap_cons_some (h c List.mem_cons_self),
      ih fun d hd => h d (List.mem_cons_of_mem c hd)]

theorem columns_sortTokens (ts : List String) :
    (sortTokens ts).filterMap Column.parse? = declared ts := by
  rw [sortTokens, List.filterMap_append, columns_othersOf, List.nil_append]
  exact columns_map_token fun c hc => parse_declared hc

theorem others_sortTokens (ts : List String) : othersOf (sortTokens ts) = othersOf ts := by
  have hd : othersOf ((declared ts).map Column.token) = [] := by
    apply List.filter_eq_nil_iff.mpr
    intro t ht
    obtain ⟨c, hc, rfl⟩ := List.mem_map.mp ht
    simp [parse_declared hc]
  have ho : othersOf (othersOf ts) = othersOf ts := by simp [othersOf]
  have ha : ∀ us vs, othersOf (us ++ vs) = othersOf us ++ othersOf vs := fun us vs =>
    List.filter_append us vs
  rw [sortTokens, ha, ho]
  exact (congrArg _ hd).trans (List.append_nil _)

theorem splitClasses_sortColumns (s : Option String) :
    splitClasses (some (sortColumns s)) = sortTokens (splitClasses s) :=
  Text.words_unwords fun _ ht => splitClasses_words (mem_sortTokens.mp ht)

def keptTokens (s : Option String) : List String :=
  (splitClasses s).filter fun t =>
    match Column.parse? t with
    | some c => !isRedundant (widthGroups s) c
    | none => true

theorem simplify_eq (s : Option String) :
    simplify s =
      if (widthGroups s).all fun g => (runsOf (g.2.map Int.ofNat)).isEmpty then none
      else some (sortColumns (some (Text.unwords (keptTokens s)))) := rfl

/-- A value is simplified exactly if one of its columns repeats the tier right below. -/
theorem simplify_isSome_iff :
    (simplify s).isSome = true ↔ ∃ c ∈ columnsOf s, RepeatsBelow (columnsOf s) c := by
  have hruns : (simplify s).isSome = true ↔
      ∃ c ∈ columnsOf s, runsOf ((ranksOf (columnsOf s) c.width).map Int.ofNat) ≠ [] := by
    rw [simplify_eq]
    split
    · next h => simpa [widthGroups] using h
    · next h => simpa [widthGroups] using h
  have hasc : ∀ w, ((ranksOf (columnsOf s) w).map Int.ofNat).Pairwise (· ≤ ·) := fun w =>
    List.pairwise_map.mpr ((ranksOf_ascending _ w).imp fun h => Int.ofNat_le.mpr h)
  simp only [hruns, runsOf_ne_nil_iff, covered_runsOf, covered_blocks_iff (hasc _), List.mem_map,
    mem_ranksOf]
  constructor
  · rintro ⟨c, -, x, ⟨r, ⟨b, hb, hbw, rfl⟩, hbx⟩, q, ⟨a, ha, haw, rfl⟩, hax⟩
    simp only [Int.ofNat_eq_natCast] at hbx hax
    exact ⟨b, hb, a, ha, haw.trans hbw.symm, by omega⟩
  · rintro ⟨c, hc, b, hb, hbw, hbr⟩
    refine ⟨c, hc, c.rank, ⟨c.rank, ⟨c, hc, rfl, rfl⟩, rfl⟩, b.rank, ⟨b, hb, hbw, rfl⟩, ?_⟩
    simp only [Int.ofNat_eq_natCast]
    omega

/-- Whether a value is simplified is settled by the set of its columns. -/
theorem simplify_isSome_of_columns {t : Option String}
    (h : ∀ c, c ∈ columnsOf s ↔ c ∈ columnsOf t) :
    (simplify s).isSome = (simplify t).isSome := by
  rw [Bool.eq_iff_iff, simplify_isSome_iff, simplify_isSome_iff]
  simp only [RepeatsBelow, h]

theorem simplify_isSome_congr {t : Option String}
    (h : ∀ w, w ∈ splitClasses s ↔ w ∈ splitClasses t) :
    (simplify s).isSome = (simplify t).isSome := by
  apply simplify_isSome_of_columns
  intro c
  rw [mem_columnsOf, mem_columnsOf]
  exact exists_congr fun w => and_congr_left fun _ => h w

theorem mem_keptTokens (hp : Column.parse? t = some c) :
    t ∈ keptTokens s ↔ t ∈ splitClasses s ∧ ¬RepeatsBelow (columnsOf s) c := by
  simp only [keptTokens, List.mem_filter, hp, Bool.not_eq_true']
  refine and_congr_right fun ht => ?_
  rw [← isRedundant_iff (mem_columnsOf.mpr ⟨t, ht, hp⟩), Bool.not_eq_true]

theorem others_keptTokens (s : Option String) :
    othersOf (keptTokens s) = othersOf (splitClasses s) := by
  unfold othersOf keptTokens
  rw [List.filter_filter]
  apply List.filter_congr
  intro t _
  cases Column.parse? t <;> simp

theorem splitClasses_keptTokens (s : Option String) :
    splitClasses (some (Text.unwords (keptTokens s))) = keptTokens s :=
  Text.words_unwords fun _ ht => splitClasses_words (List.mem_filter.mp ht).1

theorem simplify_some (h : simplify s = some t) :
    t = sortColumns (some (Text.unwords (keptTokens s))) := by
  rw [simplify_eq] at h
  split at h
  · cases h
  · exact (Option.some.inj h).symm

theorem splitClasses_simplify (h : simplify s = some t) :
    splitClasses (some t) = sortTokens (keptTokens s) := by
  rw [simplify_some h, splitClasses_sortColumns, splitClasses_keptTokens]

/-- The kept classes declare exactly the columns that do not repeat the tier right below. -/
theorem mem_declared_keptTokens :
    c ∈ declared (keptTokens s) ↔ c ∈ columnsOf s ∧ ¬RepeatsBelow (columnsOf s) c := by
  rw [mem_declared, mem_columnsOf]
  constructor
  · rintro ⟨u, hu, hp⟩
    have hk := (mem_keptTokens hp).mp hu
    exact ⟨⟨u, hk.1, hp⟩, hk.2⟩
  · rintro ⟨⟨u, hu, hp⟩, hn⟩
    exact ⟨u, (mem_keptTokens hp).mpr ⟨hu, hn⟩, hp⟩

theorem mem_columnsOf_simplify (h : simplify s = some t) :
    c ∈ columnsOf (some t) ↔ c ∈ columnsOf s ∧ ¬RepeatsBelow (columnsOf s) c := by
  rw [columnsOf, splitClasses_simplify h, columns_sortTokens, mem_declared_keptTokens]

theorem others_simplify (h : simplify s = some t) :
    othersOf (splitClasses (some t)) = othersOf (splitClasses s) := by
  rw [splitClasses_simplify h, others_sortTokens, others_keptTokens]

end MarkupLint.Grid
