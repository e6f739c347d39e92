import Mathlib.Data.List.Forall2
import Mathlib.Data.List.SplitBy
import MarkupLint.Proofs.ColumnRuns

/-! # Blocks of ranks

A list of numbers, in whatever order, is cut in one way into blocks that count up by one and do not
go on in the next block. The scan for runs finds the first and last numbers of the blocks that hold
at least two numbers. The argument takes the list block by block: a whole block in front adds one
pair, and the width of that pair is the length of the block.
-/
namespace MarkupLint.Grid

variable {a : Int} {b rs : List Int} {p : Int × Int} {cut : List (List Int)}

def CountsUp (b : List Int) : Prop := b.IsChain fun r s => s = r + 1

/-- The blocks of a list: joined they are the list, each of them counts up, and none goes on in the
next one. -/
structure Cut (rs : List Int) (cut : List (List Int)) : Prop where
  joined : rs = cut.flatten
  nonempty : [] ∉ cut
  countsUp : ∀ b ∈ cut, CountsUp b
  maximal : cut.IsChain fun b c => ∃ (hb : b ≠ []) (hc : c ≠ []), c.head hc ≠ b.getLast hb + 1

def Ends (b : List Int) (p : Int × Int) : Prop := b.head? = some p.1 ∧ b.getLast? = some p.2

theorem cut_iff : Cut rs cut ↔ cut = rs.splitBy fun r s => s == r + 1 := by
  rw [eq_comm, List.splitBy_eq_iff]
  simp only [beq_iff_eq, beq_eq_false_iff_ne]
  constructor
  · intro h
    exact ⟨h.joined, h.nonempty, h.countsUp, h.maximal⟩
  · rintro ⟨hjoined, hnonempty, hup, hmaximal⟩
    exact ⟨hjoined, hnonempty, hup, hmaximal⟩

theorem Ends.length_pos (h : Ends b p) : 0 < b.length := by
  cases b with
  | nil => cases h.1
  | cons r b => exact Nat.succ_pos b.length

theorem Ends.width (h : Ends b p) (hup : CountsUp b) : p.2 + 1 = p.1 + b.length := by
  induction b generalizing p with
  | nil => cases h.1
  | cons r b ih =>
    obtain ⟨first, last⟩ := p
    obtain ⟨hfirst, hlast⟩ := h
    obtain rfl : r = first := Option.some.inj hfirst
    cases b with
    | nil =>
      obtain rfl : r = last := Option.some.inj hlast
      rfl
    | cons s b =>
      obtain ⟨hs, hup⟩ := List.isChain_cons_cons.mp hup
      have hrest := ih (p := (s, last)) ⟨rfl, hlast⟩ hup
      simp only [List.length_cons] at hrest ⊢
      omega

theorem blocks_cons_apart (h : ∀ s ∈ rs.head?, s ≠ a + 1) :
    blocks (a :: rs) = (a, a) :: blocks rs := by
  cases rs with
  | nil => rfl
  | cons s rs => exact joinFront_apart (h s rfl)

theorem blocks_cons_next {last : Int} {rest : List (Int × Int)}
    (h : blocks rs = (a + 1, last) :: rest) : blocks (a :: rs) = (a, last) :: rest := by
  rw [blocks, h]
  exact if_pos rfl

theorem blocks_append (hb : b ≠ []) (hup : CountsUp b)
    (hnext : ∀ s ∈ rs.head?, s ≠ b.getLast hb + 1) :
    ∃ p, Ends b p ∧ blocks (b ++ rs) = p :: blocks rs := by
  induction b with
  | nil => exact absurd rfl hb
  | cons r b ih =>
    cases b with
    | nil => exact ⟨(r, r), ⟨rfl, rfl⟩, blocks_cons_apart hnext⟩
    | cons s b =>
      obtain ⟨rfl, hup⟩ := List.isChain_cons_cons.mp hup
      obtain ⟨⟨first, last⟩, ⟨hfirst, hlast⟩, hblocks⟩ := ih (List.cons_ne_nil _ _) hup hnext
      obtain rfl := Option.some.inj hfirst
      exact ⟨(r, last), ⟨rfl, hlast⟩, blocks_cons_next hblocks⟩

theorem Cut.next_ne (h : Cut rs (b :: cut)) (hb : b ≠ []) :
    ∀ s ∈ cut.flatten.head?, s ≠ b.getLast hb + 1 := by
  intro s hs
  cases cut with
  | nil => cases hs
  | cons c cut =>
    obtain ⟨⟨_, hc, hne⟩, -⟩ := List.isChain_cons_cons.mp h.maximal
    rw [List.flatten_cons, List.head?_append_of_ne_nil _ hc, List.head?_eq_some_head hc] at hs
    obtain rfl := Option.some.inj hs
    exact hne

theorem Cut.tail (h : Cut rs (b :: cut)) : Cut cut.flatten cut where
  joined := rfl
  nonempty := fun hmem => h.nonempty (List.mem_cons_of_mem b hmem)
  countsUp := fun c hc => h.countsUp c (List.mem_cons_of_mem b hc)
  maximal := h.maximal.tail

theorem Cut.ends (h : Cut rs cut) :
    List.Forall₂ (fun b p => CountsUp b ∧ Ends b p) cut (blocks rs) := by
  induction cut generalizing rs with
  | nil =>
    rw [h.joined]
    exact List.Forall₂.nil
  | cons b cut ih =>
    have hb : b ≠ [] := fun hnil => h.nonempty (hnil ▸ List.mem_cons_self)
    have hup := h.countsUp b List.mem_cons_self
    obtain ⟨p, hends, hblocks⟩ := blocks_append hb hup (h.next_ne hb)
    rw [h.joined, List.flatten_cons, hblocks]
    exact List.Forall₂.cons ⟨hup, hends⟩ (ih h.tail)

theorem Cut.runs (h : Cut rs cut) :
    List.Forall₂ Ends (cut.filter fun b => 2 ≤ b.length) (runsOf rs) := by
  have hfilter : List.Forall₂ (fun b p => CountsUp b ∧ Ends b p)
      (cut.filter fun b => 2 ≤ b.length) (wide (blocks rs)) := by
    refine List.rel_filter ?_ h.ends
    rintro b p ⟨hup, hends⟩
    have hpos := hends.length_pos
    have hwidth := hends.width hup
    change decide (2 ≤ b.length) = true ↔ decide (p.1 ≠ p.2) = true
    rw [decide_eq_true_eq, decide_eq_true_eq]
    omega
  rw [runsOf_eq]
  exact hfilter.imp fun b p hbp => hbp.2

/-- What the scan finds in a list of numbers are the ends of its blocks of at least two numbers, in
order. If the list never descends, the places of the runs after their first ones are the numbers
that are listed together with their predecessors. -/
theorem runs_exact (rs : List Int) :
    ∃ cut, (∀ other, Cut rs other ↔ other = cut) ∧
      List.Forall₂ Ends (cut.filter fun b => 2 ≤ b.length) (runsOf rs) ∧
      (rs.Pairwise (· ≤ ·) →
        ∀ r, (∃ p ∈ runsOf rs, p.1 + 1 ≤ r ∧ r ≤ p.2) ↔ r ∈ rs ∧ r - 1 ∈ rs) := by
  refine ⟨rs.splitBy fun r s => s == r + 1, fun other => cut_iff, (cut_iff.mpr rfl).runs, ?_⟩
  intro hs r
  rw [← covered_blocks_iff hs, ← covered_runsOf]
  rfl

/-- A repeated number opens a run of its own, which covers the same places. -/
theorem runs_exact_repeated_rank :
    ([0, 1, 1, 2, 4] : List Int).Pairwise (· ≤ ·) ∧
      runsOf [0, 1, 1, 2, 4] = [(0, 1), (1, 2)] ∧
      ∀ r, (∃ p ∈ runsOf [0, 1, 1, 2, 4], p.1 + 1 ≤ r ∧ r ≤ p.2) ↔
        r ∈ ([0, 1, 1, 2, 4] : List Int) ∧ r - 1 ∈ ([0, 1, 1, 2, 4] : List Int) := by
  obtain ⟨cut, -, -, hcovered⟩ := runs_exact [0, 1, 1, 2, 4]
  have hs : ([0, 1, 1, 2, 4] : List Int).Pairwise (· ≤ ·) := by decide
  exact ⟨hs, rfl, hcovered hs⟩

end MarkupLint.Grid
