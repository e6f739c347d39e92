import Mathlib.Data.List.Induction
import MarkupLint.Document.Element

/-! # Lists without repetitions

What is left of a list of elements when each is kept where it is first met. The lemmas take the
list apart at its end: the last element is kept if none before it is the same. So what is left comes
in the order in which it is first met, and its numbers ascend just when every element that is new
has a larger number than all before it.
-/
namespace MarkupLint

open Document (Element)

variable {es : List Element} {e x : Element}

theorem eraseDups_loop_snoc (es seen : List Element) (x : Element) :
    List.eraseDupsBy.loop Element.same (es ++ [x]) seen =
      if (List.eraseDupsBy.loop Element.same es seen).any x.same then
        List.eraseDupsBy.loop Element.same es seen
      else List.eraseDupsBy.loop Element.same es seen ++ [x] := by
  induction es generalizing seen with
  | nil =>
    cases h : seen.any x.same <;> simp [List.eraseDupsBy.loop, h]
  | cons e es ih =>
    cases h : seen.any e.same <;> simp only [List.cons_append, List.eraseDupsBy.loop, h, ih]

theorem eraseDups_snoc (es : List Element) (x : Element) :
    (es ++ [x]).eraseDupsBy Element.same =
      if (es.eraseDupsBy Element.same).any x.same then es.eraseDupsBy Element.same
      else es.eraseDupsBy Element.same ++ [x] :=
  eraseDups_loop_snoc es [] x

theorem any_same_iff : es.any x.same = true ↔ ∃ e ∈ es, e.index = x.index := by
  rw [List.any_eq_true]
  refine exists_congr fun e => and_congr_right fun _ => ?_
  rw [Element.same, beq_iff_eq, eq_comm]

theorem eraseDups_sublist (es : List Element) : (es.eraseDupsBy Element.same).Sublist es := by
  induction es using List.reverseRecOn with
  | nil => exact List.Sublist.slnil
  | append_singleton es x ih =>
    rw [eraseDups_snoc]
    split
    · exact ih.trans (List.sublist_append_left es [x])
    · exact ih.append (List.Sublist.refl [x])

theorem exists_mem_eraseDups (h : e ∈ es) :
    ∃ x ∈ es.eraseDupsBy Element.same, x.index = e.index := by
  induction es using List.reverseRecOn with
  | nil => cases h
  | append_singleton es y ih =>
    rw [eraseDups_snoc]
    rcases List.mem_append.mp h with h | h
    · obtain ⟨x, hx, he⟩ := ih h
      split
      · exact ⟨x, hx, he⟩
      · exact ⟨x, List.mem_append_left _ hx, he⟩
    · obtain rfl := List.mem_singleton.mp h
      split
      · next hs => exact any_same_iff.mp hs
      · exact ⟨e, by simp, rfl⟩

theorem forall_eraseDups_ne :
    (∀ e ∈ es.eraseDupsBy Element.same, e.index ≠ x.index) ↔ ∀ e ∈ es, e.index ≠ x.index := by
  constructor
  · intro h e he heq
    obtain ⟨y, hy, hye⟩ := exists_mem_eraseDups he
    exact h y hy (hye.trans heq)
  · exact fun h e he => h e ((eraseDups_sublist es).subset he)

theorem eraseDups_snoc_met (h : ∃ e ∈ es, e.index = x.index) :
    (es ++ [x]).eraseDupsBy Element.same = es.eraseDupsBy Element.same := by
  obtain ⟨e, he, heq⟩ := h
  obtain ⟨y, hy, hye⟩ := exists_mem_eraseDups he
  rw [eraseDups_snoc, if_pos (any_same_iff.mpr ⟨y, hy, hye.trans heq⟩)]

theorem eraseDups_snoc_new (h : ∀ e ∈ es, e.index ≠ x.index) :
    (es ++ [x]).eraseDupsBy Element.same = es.eraseDupsBy Element.same ++ [x] := by
  rw [eraseDups_snoc, if_neg]
  rw [any_same_iff]
  rintro ⟨e, he, heq⟩
  exact forall_eraseDups_ne.mpr h e he heq

theorem eraseDups_eq_self (h : es.Pairwise fun e f => e.index ≠ f.index) :
    es.eraseDupsBy Element.same = es := by
  induction es using List.reverseRecOn with
  | nil => rfl
  | append_singleton es x ih =>
    obtain ⟨hes, -, hx⟩ := List.pairwise_append.mp h
    rw [eraseDups_snoc_new fun e he => hx e he x List.mem_cons_self, ih hes]

theorem eraseDups_distinct (es : List Element) :
    (es.eraseDupsBy Element.same).Pairwise fun e f => e.index ≠ f.index := by
  induction es using List.reverseRecOn with
  | nil => exact List.Pairwise.nil
  | append_singleton es x ih =>
    by_cases hx : ∃ e ∈ es, e.index = x.index
    · rw [eraseDups_snoc_met hx]
      exact ih
    · have hnew : ∀ e ∈ es, e.index ≠ x.index := fun e he heq => hx ⟨e, he, heq⟩
      rw [eraseDups_snoc_new hnew]
      refine List.pairwise_append.mpr ⟨ih, List.pairwise_singleton _ _, ?_⟩
      intro e he y hy
      obtain rfl := List.mem_singleton.mp hy
      exact forall_eraseDups_ne.mpr hnew e he

/-- An element is met before every copy of another one. -/
def MetBefore (es : List Element) (p q : Element) : Prop :=
  ∃ before after, es = before ++ p :: after ∧ ∀ e ∈ before, e.index ≠ q.index

theorem MetBefore.append {p q : Element} (h : MetBefore es p q) (fs : List Element) :
    MetBefore (es ++ fs) p q := by
  obtain ⟨before, after, rfl, hnew⟩ := h
  exact ⟨before, after ++ fs, by simp, hnew⟩

/-- What is left comes in the order in which it is first met. -/
theorem eraseDups_metBefore (es : List Element) :
    (es.eraseDupsBy Element.same).Pairwise (MetBefore es) := by
  induction es using List.reverseRecOn with
  | nil => exact List.Pairwise.nil
  | append_singleton es x ih =>
    have hold := ih.imp fun h => h.append [x]
    by_cases hx : ∃ e ∈ es, e.index = x.index
    · rw [eraseDups_snoc_met hx]
      exact hold
    · have hnew : ∀ e ∈ es, e.index ≠ x.index := fun e he heq => hx ⟨e, he, heq⟩
      rw [eraseDups_snoc_new hnew]
      refine List.pairwise_append.mpr ⟨hold, List.pairwise_singleton _ _, ?_⟩
      intro p hp y hy
      obtain rfl := List.mem_singleton.mp hy
      obtain ⟨before, after, rfl⟩ := List.append_of_mem ((eraseDups_sublist es).subset hp)
      refine ⟨before, after ++ [y], by simp, fun e he => hnew e ?_⟩
      exact List.mem_append_left _ he

/-- An element that is met for the first time has a larger number than all that were met. -/
def FirstMetAscending (es : List Element) : Prop :=
  ∀ before x after, es = before ++ x :: after →
    (∀ e ∈ before, e.index ≠ x.index) → ∀ e ∈ before, e.index < x.index

theorem firstMetAscending_snoc :
    FirstMetAscending (es ++ [x]) ↔
      FirstMetAscending es ∧
        ((∀ e ∈ es, e.index ≠ x.index) → ∀ e ∈ es, e.index < x.index) := by
  constructor
  · intro h
    refine ⟨?_, h es x [] rfl⟩
    rintro before y after rfl
    exact h before y (after ++ [x]) (by simp)
  · rintro ⟨h, hx⟩ before y after heq
    -- the met element is the last one, or it stands in the list before
    rcases List.eq_nil_or_concat after with rfl | ⟨rest, z, rfl⟩
    · obtain ⟨rfl, hy⟩ := List.append_inj' heq rfl
      obtain rfl := List.singleton_inj.mp hy
      exact hx
    · have hcut : es ++ [x] = (before ++ y :: rest) ++ [z] := by simpa using heq
      obtain ⟨rfl, -⟩ := List.append_inj' hcut rfl
      exact h before y rest rfl

theorem eraseDups_ascending_iff :
    ((es.eraseDupsBy Element.same).Pairwise fun e f => e.index < f.index) ↔
      FirstMetAscending es := by
  induction es using List.reverseRecOn with
  | nil =>
    refine ⟨fun _ before x after h => ?_, fun _ => List.Pairwise.nil⟩
    simp at h
  | append_singleton es x ih =>
    rw [firstMetAscending_snoc]
    by_cases hx : ∃ e ∈ es, e.index = x.index
    · rw [eraseDups_snoc_met hx, ih]
      obtain ⟨e, he, heq⟩ := hx
      exact ⟨fun h => ⟨h, fun hnew => absurd heq (hnew e he)⟩, And.left⟩
    · have hnew : ∀ e ∈ es, e.index ≠ x.index := fun e he heq => hx ⟨e, he, heq⟩
      rw [eraseDups_snoc_new hnew, List.pairwise_append, ih]
      constructor
      · rintro ⟨h, -, hlt⟩
        refine ⟨h, fun _ e he => ?_⟩
        obtain ⟨y, hy, hye⟩ := exists_mem_eraseDups he
        rw [← hye]
        exact hlt y hy x List.mem_cons_self
      · rintro ⟨h, hlt⟩
        refine ⟨h, List.pairwise_singleton _ _, fun e he y hy => ?_⟩
        obtain rfl := List.mem_singleton.mp hy
        exact hlt hnew e ((eraseDups_sublist es).subset he)

end MarkupLint
