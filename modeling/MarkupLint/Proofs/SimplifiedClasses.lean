import Mathlib.Data.List.Induction
import Mathlib.Data.List.Nodup
import Mathlib.Data.Set.Defs
import MarkupLint.Proofs.ColumnRewriting

/-! # What a simplification writes

The exact result of simplifying a class attribute value, whatever columns it repeats and whatever
widths it gives to one tier. The declarations of a value are a set of tiers with widths, and a
column survives if its width is not declared one tier below. The survivors are listed by tier and,
within a tier, as they first appear; since this order is strict on them, it settles the list.
-/
namespace MarkupLint.Grid

variable {s : Option String} {t u : String} {ts : List String} {c d : Column}
  {kept others : List Column}

def declaredSet (s : Option String) : Set (Nat × Width) :=
  {p | ∃ c ∈ columnsOf s, (c.rank, c.width) = p}

/-- Some width is declared at two tiers in a row. -/
def HasRun (s : Option String) : Prop :=
  ∃ r w, (r, w) ∈ declaredSet s ∧ (r + 1, w) ∈ declaredSet s

/-- A column comes before another one: at a smaller tier, or at the same and seen earlier. -/
def Precedes (ts : List String) (c d : Column) : Prop :=
  c.rank < d.rank ∨ c.rank = d.rank ∧ ts.idxOf c.token < ts.idxOf d.token

/-- The columns of a value whose width is not declared one tier below, each once and in order. -/
structure Survivors (s : Option String) (kept : List Column) : Prop where
  mem : ∀ c, c ∈ kept ↔
    c ∈ columnsOf s ∧ ∀ r, r + 1 = c.rank → (r, c.width) ∉ declaredSet s
  distinct : (kept.map Column.token).Nodup
  ordered : kept.Pairwise (Precedes (splitClasses s))

theorem mem_declaredSet {r : Nat} {w : Width} :
    (r, w) ∈ declaredSet s ↔ ∃ c ∈ columnsOf s, c.width = w ∧ c.rank = r := by
  constructor
  · rintro ⟨c, hc, heq⟩
    obtain ⟨hr, hw⟩ := Prod.mk.inj heq
    exact ⟨c, hc, hw, hr⟩
  · rintro ⟨c, hc, rfl, rfl⟩
    exact ⟨c, hc, rfl⟩

theorem repeatsBelow_iff :
    RepeatsBelow (columnsOf s) c ↔ ∃ r, r + 1 = c.rank ∧ (r, c.width) ∈ declaredSet s := by
  simp only [mem_declaredSet]
  constructor
  · rintro ⟨b, hb, hw, hr⟩
    exact ⟨b.rank, hr, b, hb, hw, rfl⟩
  · rintro ⟨r, hr, b, hb, hw, rfl⟩
    exact ⟨b, hb, hw, hr⟩

theorem hasRun_iff : HasRun s ↔ ∃ c ∈ columnsOf s, RepeatsBelow (columnsOf s) c := by
  constructor
  · rintro ⟨r, w, hr, hnext⟩
    obtain ⟨c, hc, rfl, hcr⟩ := mem_declaredSet.mp hnext
    exact ⟨c, hc, repeatsBelow_iff.mpr ⟨r, hcr.symm, hr⟩⟩
  · rintro ⟨c, hc, hbelow⟩
    obtain ⟨r, hr, hmem⟩ := repeatsBelow_iff.mp hbelow
    exact ⟨r, c.width, hmem, mem_declaredSet.mpr ⟨c, hc, rfl, hr.symm⟩⟩

section FirstSeen

theorem eraseDups_firstSeen (ts : List String) :
    ts.eraseDups.Pairwise fun t u => ts.idxOf t < ts.idxOf u := by
  induction ts using List.reverseRecOn with
  | nil => exact List.Pairwise.nil
  | append_singleton ts x ih =>
    have hold : ∀ t ∈ ts.eraseDups, (ts ++ [x]).idxOf t = ts.idxOf t := by
      intro t ht
      exact List.idxOf_append_of_mem (List.mem_eraseDups.mp ht)
    have hbefore : ts.eraseDups.Pairwise fun t u => (ts ++ [x]).idxOf t < (ts ++ [x]).idxOf u := by
      refine ih.imp_of_mem ?_
      intro t u ht hu hlt
      rwa [hold t ht, hold u hu]
    rw [List.eraseDups_append]
    by_cases hx : x ∈ ts
    · have hnone : [x].removeAll ts = [] := by simp [List.removeAll, hx]
      rw [hnone]
      simpa using hbefore
    · have hone : [x].removeAll ts = [x] := by simp [List.removeAll, hx]
      rw [hone]
      refine List.pairwise_append.mpr ⟨hbefore, List.pairwise_singleton _ _, ?_⟩
      intro t ht u hu
      obtain rfl := List.mem_singleton.mp hu
      have hlt := List.idxOf_lt_length_of_mem (List.mem_eraseDups.mp ht)
      rw [hold t ht, List.idxOf_append_of_notMem hx]
      omega

theorem idxOf_lt_of_filter {p : String → Bool} (ht : p t = true) (hu : p u = true)
    (h : (ts.filter p).idxOf t < (ts.filter p).idxOf u) : ts.idxOf t < ts.idxOf u := by
  induction ts with
  | nil => simp at h
  | cons x ts ih =>
    by_cases hx : p x = true
    · rw [List.filter_cons_of_pos hx] at h
      by_cases hxu : x = u
      · simp [hxu] at h
      · by_cases hxt : x = t
        · rw [List.idxOf_cons_eq _ hxt, List.idxOf_cons_ne _ hxu]
          omega
        · rw [List.idxOf_cons_ne _ hxt, List.idxOf_cons_ne _ hxu] at h ⊢
          have := ih (by omega)
          omega
    · rw [List.filter_cons_of_neg hx] at h
      have hxt : x ≠ t := fun heq => hx (heq ▸ ht)
      have hxu : x ≠ u := fun heq => hx (heq ▸ hu)
      rw [List.idxOf_cons_ne _ hxt, List.idxOf_cons_ne _ hxu]
      have := ih h
      omega

theorem declared_ordered (ts : List String) : (declared ts).Pairwise (Precedes ts) := by
  apply byTier_ordered (R := fun c d => ts.idxOf c.token < ts.idxOf d.token)
  apply List.pairwise_filterMap.mpr
  refine (eraseDups_firstSeen ts).imp ?_
  intro t u hlt c hc d hd
  rwa [parse_token hc, parse_token hd]

end FirstSeen

/-- No column comes before itself, and a token has one column, so the order repeats no token. -/
theorem tokens_nodup (h : kept.Pairwise (Precedes ts))
    (hparse : ∀ c ∈ kept, Column.parse? c.token = some c) : (kept.map Column.token).Nodup := by
  apply List.pairwise_map.mpr
  refine h.imp_of_mem ?_
  intro c d hc hd hlt heq
  have hcd : c = d := by
    have := hparse c hc
    rw [heq, hparse d hd] at this
    exact (Option.some.inj this).symm
  subst hcd
  rcases hlt with hlt | ⟨-, hlt⟩ <;> omega

theorem survivors_keptTokens (s : Option String) : Survivors s (declared (keptTokens s)) := by
  refine ⟨?_, tokens_nodup (declared_ordered _) fun c hc => parse_declared hc, ?_⟩
  · intro c
    rw [mem_declared_keptTokens, repeatsBelow_iff]
    simp
  · refine (declared_ordered (keptTokens s)).imp_of_mem ?_
    intro c d hc hd hlt
    rcases hlt with hlt | ⟨hrank, hlt⟩
    · exact Or.inl hlt
    · -- the filter keeps or drops all copies of a word alike
      obtain ⟨t, ht, hct⟩ := mem_declared.mp hc
      obtain ⟨u, hu, hdu⟩ := mem_declared.mp hd
      refine Or.inr ⟨hrank, ?_⟩
      rw [parse_token hct, parse_token hdu] at hlt ⊢
      exact idxOf_lt_of_filter (List.mem_filter.mp ht).2 (List.mem_filter.mp hu).2 hlt

/-- The order is strict on columns, so it leaves one way to list them. -/
theorem ordered_unique (hmem : ∀ c, c ∈ kept ↔ c ∈ others) (hk : kept.Pairwise (Precedes ts))
    (ho : others.Pairwise (Precedes ts)) : kept = others := by
  have hne : ∀ c d, Precedes ts c d → c ≠ d := by
    rintro c d hlt rfl
    rcases hlt with hlt | ⟨-, hlt⟩ <;> omega
  have hperm : kept.Perm others :=
    (List.perm_ext_iff_of_nodup (hk.imp (hne _ _)) (ho.imp (hne _ _))).mpr hmem
  refine hperm.eq_of_pairwise ?_ hk ho
  intro c d _ _ hcd hdc
  unfold Precedes at hcd hdc
  omega

theorem Survivors.unique (h : Survivors s kept) (ho : Survivors s others) : kept = others :=
  ordered_unique (fun c => (h.mem c).trans (ho.mem c).symm) h.ordered ho.ordered

theorem simplify_writes (h : simplify s = some t) :
    t = Text.unwords
      (othersOf (splitClasses s) ++ (declared (keptTokens s)).map Column.token) := by
  rw [simplify_some h, sortColumns, splitClasses_keptTokens, sortTokens, others_keptTokens]
  rfl

/-- Exactly the values in which a width is declared at two tiers in a row are simplified, and the
result is the other classes as they stand and then the surviving columns. -/
theorem simplify_lists_survivors (s : Option String) :
    (simplify s = none ↔ ¬HasRun s) ∧
      ∀ t, simplify s = some t ↔
        HasRun s ∧ ∃ kept, Survivors s kept ∧
          t = Text.unwords (othersOf (splitClasses s) ++ kept.map Column.token) := by
  have hrun : (simplify s).isSome = true ↔ HasRun s := simplify_isSome_iff.trans hasRun_iff.symm
  refine ⟨?_, ?_⟩
  · rw [← hrun, Option.not_isSome_iff_eq_none]
  · intro t
    constructor
    · intro h
      exact ⟨hrun.mp (by rw [h]; rfl), _, survivors_keptTokens s, simplify_writes h⟩
    · rintro ⟨hhas, kept, hkept, rfl⟩
      obtain ⟨t, ht⟩ := Option.isSome_iff_exists.mp (hrun.mpr hhas)
      rw [ht, simplify_writes ht, hkept.unique (survivors_keptTokens s)]

-- two widths at one tier, repeated classes, and a tier that repeats the one below
example : simplify (some "col-sm-4 btn col-4 btn col-sm-4 col-md-3 col-sm-3") =
    some "btn btn col-4 col-sm-3" := by
  decide +kernel

end MarkupLint.Grid
