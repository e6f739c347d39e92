import MarkupLint.Grid.ClassList

/-! # Runs of ranks

The scan for runs carries the run that is going on and closes it where the numbers do not go on. It
gives the blocks of consecutive numbers that the list is made of, those of one number aside. On an
ascending list of ranks, the places of the runs after their first ones are exactly the ranks whose
predecessor is listed too. Repeated ranks cut a run in two, but the cut never hides a place: the
copy of a rank opens a run that covers the same places.
-/
namespace MarkupLint.Grid

variable {a b x : Int} {rs : List Int}

/-- A block in front of others; it takes in the next one if that goes on where it ends. -/
def joinFront (p : Int × Int) : List (Int × Int) → List (Int × Int)
  | [] => [p]
  | q :: rest => if q.1 = p.2 + 1 then (p.1, q.2) :: rest else p :: q :: rest

/-- The maximal blocks in which every number is one more than the one before, as pairs of the
first and the last number. -/
def blocks : List Int → List (Int × Int)
  | [] => []
  | r :: rs => joinFront (r, r) (blocks rs)

def wide (bs : List (Int × Int)) : List (Int × Int) := bs.filter fun b => b.1 ≠ b.2

theorem blocks_cons (a : Int) (rs : List Int) :
    ∃ last rest, blocks (a :: rs) = (a, last) :: rest ∧ a ≤ last := by
  induction rs generalizing a with
  | nil => exact ⟨a, [], rfl, Int.le_refl a⟩
  | cons b rs ih =>
    obtain ⟨last, rest, hb, hle⟩ := ih b
    rw [blocks, hb]
    by_cases h : b = a + 1
    · exact ⟨last, rest, if_pos h, by omega⟩
    · exact ⟨a, (b, last) :: rest, if_neg h, Int.le_refl a⟩

theorem joinFront_apart (h : x ≠ b + 1) :
    joinFront (a, b) (blocks (x :: rs)) = (a, b) :: blocks (x :: rs) := by
  obtain ⟨last, rest, hx, -⟩ := blocks_cons x rs
  rw [hx]
  exact if_neg h

theorem joinFront_next : joinFront (a, b) (blocks ((b + 1) :: rs)) =
    joinFront (a, b + 1) (blocks rs) := by
  rw [blocks]
  cases blocks rs with
  | nil => exact if_pos rfl
  | cons q rest =>
    by_cases hq : q.1 = b + 1 + 1
    · simp [joinFront, hq]
    · simp [joinFront, hq]

theorem RunScan.flush_some (runs : List (Int × Int)) (a b : Int) :
    RunScan.flush ⟨runs, some (a, b)⟩ = runs ++ wide [(a, b)] := by
  by_cases h : a = b
  · simp [flush, wide, h]
  · simp [flush, wide, h]

/-- What a scan still finds: the run that goes on is the front of the blocks to come. -/
theorem RunScan.flush_foldl (runs : List (Int × Int)) (a b : Int) (rs : List Int) :
    (rs.foldl step ⟨runs, some (a, b)⟩).flush =
      runs ++ wide (joinFront (a, b) (blocks rs)) := by
  induction rs generalizing runs a b with
  | nil => exact flush_some runs a b
  | cons r rs ih =>
    by_cases h : r = b + 1
    · subst h
      have hstep : step ⟨runs, some (a, b)⟩ (b + 1) = ⟨runs, some (a, b + 1)⟩ := by simp [step]
      rw [List.foldl_cons, hstep, ih, joinFront_next]
    · have hstep : step ⟨runs, some (a, b)⟩ r = ⟨runs ++ wide [(a, b)], some (r, r)⟩ := by
        rw [← flush_some]
        simp [step, h]
      rw [List.foldl_cons, hstep, ih, joinFront_apart h, List.append_assoc]
      congr 1
      exact (List.filter_append (p := fun b => decide (b.1 ≠ b.2)) [(a, b)] (blocks (r :: rs))).symm

theorem runsOf_eq (rs : List Int) : runsOf rs = wide (blocks rs) := by
  cases rs with
  | nil => rfl
  | cons r rs => exact RunScan.flush_foldl [] r r rs

/-- A number lies in one of the blocks, after its first place. -/
def Covered (bs : List (Int × Int)) (x : Int) : Prop := ∃ p ∈ bs, p.1 < x ∧ x ≤ p.2

theorem covered_cons {p : Int × Int} {bs : List (Int × Int)} :
    Covered (p :: bs) x ↔ p.1 < x ∧ x ≤ p.2 ∨ Covered bs x := by
  simp [Covered]

/-- A number in front adds at most one covered place: its successor, if that comes next. -/
theorem covered_blocks_cons (a b : Int) (rs : List Int) :
    Covered (blocks (a :: b :: rs)) x ↔ Covered (blocks (b :: rs)) x ∨ (b = a + 1 ∧ x = b) := by
  obtain ⟨last, rest, hb, hle⟩ := blocks_cons b rs
  rw [blocks, hb]
  by_cases h : b = a + 1
  · subst h
    simp only [joinFront, ite_true, covered_cons]
    constructor
    · rintro (hx | hx)
      · by_cases hxa : x = a + 1
        · exact Or.inr ⟨trivial, hxa⟩
        · exact Or.inl (Or.inl (by omega))
      · exact Or.inl (Or.inr hx)
    · rintro ((hx | hx) | ⟨-, hx⟩)
      · exact Or.inl (by omega)
      · exact Or.inr hx
      · exact Or.inl (by omega)
  · simp only [joinFront, h, ite_false, covered_cons, false_and, or_false]
    constructor
    · rintro (hx | hx)
      · omega
      · exact hx
    · exact Or.inr

theorem covered_blocks_iff (hs : rs.Pairwise (· ≤ ·)) :
    Covered (blocks rs) x ↔ x ∈ rs ∧ x - 1 ∈ rs := by
  induction rs with
  | nil => simp [blocks, Covered]
  | cons a rs ih =>
    obtain ⟨ha, hs⟩ := List.pairwise_cons.mp hs
    cases rs with
    | nil =>
      simp only [blocks, joinFront, Covered, List.mem_singleton, exists_eq_left]
      omega
    | cons b rs =>
      rw [covered_blocks_cons, ih hs]
      have hab := ha b List.mem_cons_self
      have hbs := (List.pairwise_cons.mp hs).1
      constructor
      · rintro (⟨hx, hy⟩ | ⟨hb, rfl⟩)
        · exact ⟨List.mem_cons_of_mem a hx, List.mem_cons_of_mem a hy⟩
        · exact ⟨by simp, by simp [hb]⟩
      · rintro ⟨hx, hy⟩
        rcases List.mem_cons.mp hx with rfl | hx
        · -- the least number has no listed predecessor
          rcases List.mem_cons.mp hy with hy | hy
          · omega
          · have := ha _ hy
            omega
        rcases List.mem_cons.mp hy with hy | hy
        · rcases List.mem_cons.mp hx with rfl | hx'
          · exact Or.inr ⟨by omega, rfl⟩
          · -- then the second number is a copy of the first or its successor
            have := hbs x hx'
            by_cases hb : b = a
            · exact Or.inl ⟨hx, by simp [hy, hb]⟩
            · exact Or.inr ⟨by omega, by omega⟩
        · exact Or.inl ⟨hx, hy⟩

theorem covered_runsOf : Covered (runsOf rs) x ↔ Covered (blocks rs) x := by
  rw [runsOf_eq]
  constructor
  · rintro ⟨p, hp, hx⟩
    exact ⟨p, (List.mem_filter.mp hp).1, hx⟩
  · rintro ⟨p, hp, hx⟩
    refine ⟨p, List.mem_filter.mpr ⟨hp, ?_⟩, hx⟩
    simp only [ne_eq, decide_eq_true_eq]
    omega

theorem le_of_mem_blocks {p : Int × Int} (h : p ∈ blocks rs) : p.1 ≤ p.2 := by
  induction rs generalizing p with
  | nil => cases h
  | cons a rs ih =>
    cases hb : blocks rs with
    | nil =>
      simp only [blocks, hb, joinFront, List.mem_singleton] at h
      simp [h]
    | cons q rest =>
      have hq : q.1 ≤ q.2 := ih (by simp [hb])
      simp only [blocks, hb, joinFront] at h
      split at h
      · rcases List.mem_cons.mp h with rfl | h
        · dsimp only
          omega
        · exact ih (by simp [hb, h])
      · rcases List.mem_cons.mp h with rfl | h
        · exact Int.le_refl a
        · exact ih (by simpa [hb] using h)

theorem runsOf_ne_nil_iff : runsOf rs ≠ [] ↔ ∃ x, Covered (runsOf rs) x := by
  constructor
  · intro h
    obtain ⟨p, hp⟩ := List.exists_mem_of_ne_nil _ h
    have hwide := hp
    rw [runsOf_eq] at hwide
    obtain ⟨hmem, hne⟩ := List.mem_filter.mp hwide
    have hle := le_of_mem_blocks hmem
    rw [decide_eq_true_eq] at hne
    exact ⟨p.2, p, hp, by omega, Int.le_refl _⟩
  · rintro ⟨x, p, hp, -⟩ hnil
    simp [hnil] at hp

theorem isRepeated_iff {ranks : List Nat} (hs : ranks.Pairwise (· ≤ ·)) (r : Nat) :
    isRepeated ranks r = true ↔ r ∈ ranks ∧ ∃ q ∈ ranks, q + 1 = r := by
  have hi : (ranks.map Int.ofNat).Pairwise (· ≤ ·) :=
    List.pairwise_map.mpr (hs.imp fun h => Int.ofNat_le.mpr h)
  have hc : isRepeated ranks r = true ↔ Covered (runsOf (ranks.map Int.ofNat)) r := by
    simp [isRepeated, Covered]
  rw [hc, covered_runsOf, covered_blocks_iff hi]
  simp only [List.mem_map, Int.ofNat_eq_natCast]
  constructor
  · rintro ⟨⟨p, hp, hpr⟩, q, hq, hqr⟩
    obtain rfl : p = r := by omega
    exact ⟨hp, q, hq, by omega⟩
  · rintro ⟨hr, q, hq, hqr⟩
    exact ⟨⟨r, hr, rfl⟩, q, hq, by omega⟩

end MarkupLint.Grid
