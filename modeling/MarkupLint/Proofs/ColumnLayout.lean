import MarkupLint.Proofs.ColumnRewriting
import Mathlib.Data.List.MinMax

/-! # Layouts

A list of columns gives a width to every tier: the one that the greatest tier up to it declares.
Simplifying a class attribute value leaves this layout as it is. The argument looks at one tier at
a time. The column in force there ends a chain of tiers that declare its width without a gap; the
simplification keeps the first column of the chain, and whatever else it keeps up to that tier
lies on the chain too.
-/
namespace MarkupLint.Grid

variable {c : Column} {cs ks : List Column} {r : Nat} {w : Width}

/-- No tier is given two widths. -/
def Consistent (cs : List Column) : Prop :=
  ∀ c ∈ cs, ∀ d ∈ cs, c.breakpoint = d.breakpoint → c.width = d.width

instance (cs : List Column) : Decidable (Consistent cs) :=
  inferInstanceAs (Decidable (∀ c ∈ cs, ∀ d ∈ cs, c.breakpoint = d.breakpoint → c.width = d.width))

/-- The column of the greatest rank up to a rank. -/
def columnAt (cs : List Column) (r : Nat) : Option Column :=
  (cs.filter fun c => c.rank ≤ r).argmax Column.rank

def widthAt (cs : List Column) (r : Nat) : Option Width := (columnAt cs r).map Column.width

theorem breakpoint_of_rank {a b : Breakpoint} (h : a.rank = b.rank) : a = b := by
  revert h
  cases a <;> cases b <;> decide

theorem Consistent.width_eq (h : Consistent cs) {c d : Column} (hc : c ∈ cs) (hd : d ∈ cs)
    (hr : c.rank = d.rank) : c.width = d.width :=
  h c hc d hd (breakpoint_of_rank hr)

/-- A column that no other one up to a rank exceeds. -/
def InForce (cs : List Column) (r : Nat) (c : Column) : Prop :=
  c ∈ cs ∧ c.rank ≤ r ∧ ∀ d ∈ cs, d.rank ≤ r → d.rank ≤ c.rank

theorem inForce_of_columnAt (h : columnAt cs r = some c) : InForce cs r c := by
  have hm := List.argmax_mem h
  simp only [List.mem_filter, decide_eq_true_eq] at hm
  refine ⟨hm.1, hm.2, ?_⟩
  intro d hd hr
  exact List.le_of_mem_argmax (List.mem_filter.mpr ⟨hd, by simpa using hr⟩) h

theorem exists_columnAt (hc : c ∈ cs) (hr : c.rank ≤ r) : ∃ d, columnAt cs r = some d := by
  cases hm : columnAt cs r with
  | none =>
    have hf : c ∈ cs.filter fun c => c.rank ≤ r := List.mem_filter.mpr ⟨hc, by simpa using hr⟩
    simp [List.argmax_eq_none.mp hm] at hf
  | some d => exact ⟨d, rfl⟩

theorem exists_inForce (hc : c ∈ cs) (hr : c.rank ≤ r) : ∃ d, InForce cs r d := by
  obtain ⟨d, hd⟩ := exists_columnAt hc hr
  exact ⟨d, inForce_of_columnAt hd⟩

/-- Where no tier has two widths, the choice among columns of one tier does not matter. -/
theorem widthAt_eq_some (h : Consistent cs) :
    widthAt cs r = some w ↔ ∃ c, InForce cs r c ∧ c.width = w := by
  constructor
  · intro hw
    obtain ⟨c, hc, rfl⟩ := Option.map_eq_some_iff.mp hw
    exact ⟨c, inForce_of_columnAt hc, rfl⟩
  · rintro ⟨c, ⟨hc, hcr, hmax⟩, rfl⟩
    obtain ⟨d, hm⟩ := exists_columnAt hc hcr
    obtain ⟨hd, hdr, hdmax⟩ := inForce_of_columnAt hm
    have hr := Nat.le_antisymm (hmax d hd hdr) (hdmax c hc hcr)
    rw [widthAt, hm, Option.map_some, h.width_eq hd hc hr]

/-- Every column ends a chain of tiers that declare its width, from one that repeats nothing. -/
theorem exists_chain (hc : c ∈ cs) :
    ∃ f ∈ cs, ¬RepeatsBelow cs f ∧ f.rank ≤ c.rank ∧
      ∀ q, f.rank ≤ q → q ≤ c.rank → ∃ d ∈ cs, d.rank = q ∧ d.width = c.width := by
  induction hn : c.rank using Nat.strong_induction_on generalizing c with
  | h n ih =>
    by_cases hb : RepeatsBelow cs c
    · obtain ⟨b, hbc, hw, hr⟩ := hb
      obtain ⟨f, hf, hfr, hle, hchain⟩ := ih b.rank (by omega) hbc rfl
      refine ⟨f, hf, hfr, by omega, ?_⟩
      intro q hq hqn
      by_cases hqc : q = n
      · exact ⟨c, hc, by omega, rfl⟩
      · rw [← hw]
        exact hchain q hq (by omega)
    · refine ⟨c, hc, hb, by omega, ?_⟩
      intro q hq hqn
      exact ⟨c, hc, by omega, rfl⟩

theorem inForce_width {m : Column} (h : Consistent cs)
    (hk : ∀ c, c ∈ ks ↔ c ∈ cs ∧ ¬RepeatsBelow cs c)
    (hm : InForce ks r m) (hc : InForce cs r c) : m.width = c.width := by
  obtain ⟨hmk, hmr, hmax⟩ := hm
  obtain ⟨hcs, hcr, hcmax⟩ := hc
  have hmc := ((hk m).mp hmk).1
  obtain ⟨f, hf, hfr, hfc, hchain⟩ := exists_chain hcs
  -- the kept column is no lower than the start of the chain, so it shares a tier with the chain
  have hfm := hmax f ((hk f).mpr ⟨hf, hfr⟩) (Nat.le_trans hfc hcr)
  obtain ⟨d, hd, hdm, hdw⟩ := hchain m.rank hfm (hcmax m hmc hmr)
  rw [← hdw]
  exact h.width_eq hmc hd hdm.symm

theorem widthAt_irredundant (h : Consistent cs)
    (hk : ∀ c, c ∈ ks ↔ c ∈ cs ∧ ¬RepeatsBelow cs c) (r : Nat) :
    widthAt ks r = widthAt cs r := by
  have hks : Consistent ks := fun c hc d hd => h c ((hk c).mp hc).1 d ((hk d).mp hd).1
  apply Option.ext
  intro w
  rw [widthAt_eq_some hks, widthAt_eq_some h]
  constructor
  · rintro ⟨m, hm, rfl⟩
    obtain ⟨c, hc⟩ := exists_inForce ((hk m).mp hm.1).1 hm.2.1
    exact ⟨c, hc, (inForce_width h hk hm hc).symm⟩
  · rintro ⟨c, hc, rfl⟩
    obtain ⟨f, hf, hfr, hfc, -⟩ := exists_chain hc.1
    obtain ⟨m, hm⟩ := exists_inForce ((hk f).mpr ⟨hf, hfr⟩) (Nat.le_trans hfc hc.2.1)
    exact ⟨m, hm, inForce_width h hk hm hc⟩

/-- A simplified value gives every tier the width that it had before, and has the same other
classes in the same order. -/
theorem simplify_keeps_layout {s : Option String} {t : String}
    (h : Consistent (columnsOf s)) (ht : simplify s = some t) :
    (∀ r, widthAt (columnsOf (some t)) r = widthAt (columnsOf s) r) ∧
      othersOf (splitClasses (some t)) = othersOf (splitClasses s) :=
  ⟨widthAt_irredundant h fun _ => mem_columnsOf_simplify ht, others_simplify ht⟩

theorem simplify_keeps_layout_two_runs :
    Consistent (columnsOf (some "col-sm-3 btn col-3 col-xl-auto col-lg-auto  col-3 active")) ∧
      simplify (some "col-sm-3 btn col-3 col-xl-auto col-lg-auto  col-3 active") =
        some "btn active col-3 col-lg-auto" ∧
      (∀ r, widthAt (columnsOf (some "btn active col-3 col-lg-auto")) r =
        widthAt (columnsOf (some "col-sm-3 btn col-3 col-xl-auto col-lg-auto  col-3 active")) r) ∧
      othersOf (splitClasses (some "btn active col-3 col-lg-auto")) =
        othersOf (splitClasses
          (some "col-sm-3 btn col-3 col-xl-auto col-lg-auto  col-3 active")) := by
  have hc : Consistent
      (columnsOf (some "col-sm-3 btn col-3 col-xl-auto col-lg-auto  col-3 active")) := by
    decide +kernel
  have hs : simplify (some "col-sm-3 btn col-3 col-xl-auto col-lg-auto  col-3 active") =
      some "btn active col-3 col-lg-auto" := by decide +kernel
  exact ⟨hc, hs, simplify_keeps_layout hc hs⟩

end MarkupLint.Grid
