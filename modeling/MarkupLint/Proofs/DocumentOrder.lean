import Mathlib.Data.List.Nodup
import Mathlib.Data.List.Sort
import MarkupLint.Document.Basic

/-! # Document order

The elements of a document are numbered as they are listed, and the numbers inside an element
follow its own without a gap. So the numbers of two elements tell whether one stands around the
other, and a list of elements without repetition is in document order just when its numbers
ascend.
-/
namespace MarkupLint.Document

variable {c : Content} {around : List Node} {n : Nat} {d : Document} {e p x : Element}
  {es : List Element}

/-- The number of an element is among those that follow the number of another one inside it. -/
def Element.Spans (p x : Element) : Prop :=
  p.index < x.index ∧ x.index ≤ p.index + p.content.size

theorem Content.bounds_of_mem (h : e ∈ c.elements around n) :
    n ≤ e.index ∧ e.index + e.content.size < n + c.size := by
  induction c generalizing around n with
  | nil => simp [elements] at h
  | data _ rest ih => exact ih h
  | element tag inner rest hinner hrest =>
    simp only [elements, List.mem_cons, List.mem_append] at h
    simp only [size]
    rcases h with rfl | h | h
    · dsimp only
      omega
    · have := hinner h
      omega
    · have := hrest h
      omega

theorem Content.elements_ascending (c : Content) (around : List Node) (n : Nat) :
    (c.elements around n).Pairwise fun e f => e.index < f.index := by
  induction c generalizing around n with
  | nil => exact List.Pairwise.nil
  | data _ rest ih => exact ih around n
  | element tag inner rest hinner hrest =>
    simp only [elements, List.pairwise_cons, List.pairwise_append, List.mem_append]
    refine ⟨?_, hinner _ _, hrest _ _, ?_⟩
    · rintro e (h | h)
      · exact (bounds_of_mem h).1
      · have := (bounds_of_mem h).1
        omega
    · intro e he f hf
      have := (bounds_of_mem he).2
      have := (bounds_of_mem hf).1
      omega

theorem Content.parents_cases (h : x ∈ c.elements around n) (hp : p ∈ x.parents) :
    p ∈ enclosing around ∨ p ∈ c.elements around n ∧ p.Spans x := by
  induction c generalizing around n with
  | nil => simp [elements] at h
  | data _ rest ih => exact ih h
  | element tag inner rest hinner hrest =>
    simp only [elements, List.mem_cons, List.mem_append] at h ⊢
    rcases h with rfl | h | h
    · exact Or.inl hp
    · rcases hinner h with ho | ⟨hm, hs⟩
      · rcases List.mem_cons.mp ho with rfl | ho
        · have := bounds_of_mem h
          refine Or.inr ⟨Or.inl rfl, ?_, ?_⟩ <;> dsimp only <;> omega
        · exact Or.inl ho
      · exact Or.inr ⟨Or.inr (Or.inl hm), hs⟩
    · rcases hrest h with ho | ⟨hm, hs⟩
      · exact Or.inl ho
      · exact Or.inr ⟨Or.inr (Or.inr hm), hs⟩

theorem Content.enclosing_subset (h : x ∈ c.elements around n) (hp : p ∈ enclosing around) :
    p ∈ x.parents := by
  induction c generalizing around n with
  | nil => simp [elements] at h
  | data _ rest ih => exact ih h hp
  | element tag inner rest hinner hrest =>
    simp only [elements, List.mem_cons, List.mem_append] at h
    rcases h with rfl | h | h
    · exact hp
    · exact hinner h (List.mem_cons_of_mem _ hp)
    · exact hrest h hp

theorem Content.mem_descendants_of_spans (hp : p ∈ c.elements around n)
    (hx : x ∈ c.elements around n) (hs : p.Spans x) : x ∈ p.descendants := by
  induction c generalizing around n with
  | nil => cases hp
  | data _ rest ih => exact ih hp hx
  | element tag inner rest hinner hrest =>
    obtain ⟨hlt, hle⟩ := hs
    simp only [elements, List.mem_cons, List.mem_append] at hp hx
    -- the extent of `p` says in which of the three parts of the content `x` can be
    rcases hp with rfl | hp | hp
    · dsimp only at hlt hle
      rcases hx with rfl | hx | hx
      · dsimp only at hlt
        omega
      · exact hx
      · have := bounds_of_mem hx
        omega
    · have hb := bounds_of_mem hp
      rcases hx with rfl | hx | hx
      · dsimp only at hlt
        omega
      · exact hinner hp hx
      · have := bounds_of_mem hx
        omega
    · have hb := bounds_of_mem hp
      rcases hx with rfl | hx | hx
      · dsimp only at hlt
        omega
      · have := bounds_of_mem hx
        omega
      · exact hrest hp hx

theorem Content.mem_parents_of_spans (hp : p ∈ c.elements around n)
    (hx : x ∈ c.elements around n) (hs : p.Spans x) : p ∈ x.parents :=
  enclosing_subset (mem_descendants_of_spans hp hx hs) List.mem_cons_self

theorem elements_ascending (d : Document) :
    d.elements.Pairwise fun e f => e.index < f.index :=
  d.content.elements_ascending [] 0

theorem parent_spans (hx : x ∈ d.elements) (hp : p ∈ x.parents) :
    p ∈ d.elements ∧ p.Spans x := by
  rcases Content.parents_cases hx hp with h | h
  · simp [enclosing] at h
  · exact h

/-- An element stands around another one just when it spans that one's number. -/
theorem mem_parents_iff (hp : p ∈ d.elements) (hx : x ∈ d.elements) :
    p ∈ x.parents ↔ p.Spans x :=
  ⟨fun h => (parent_spans hx h).2, Content.mem_parents_of_spans hp hx⟩

theorem Element.mem_parents_of_parent (h : x.parent? = some p) : p ∈ x.parents := by
  unfold parent? at h
  unfold parents
  split at h
  · cases h
  · next hx =>
    obtain rfl := Option.some.inj h
    rw [hx]
    exact List.mem_cons_self

theorem parent_mem (hx : x ∈ d.elements) (hp : x.parent? = some p) : p ∈ d.elements :=
  (parent_spans hx (Element.mem_parents_of_parent hp)).1

theorem eq_of_index_eq (he : e ∈ d.elements) (hx : x ∈ d.elements) (h : e.index = x.index) :
    e = x := by
  have hn : (d.elements.map fun e => e.index).Nodup :=
    List.pairwise_map.mpr (d.elements_ascending.imp Nat.ne_of_lt)
  exact List.inj_on_of_nodup_map hn he hx h

/-- Elements of a document as they follow each other in it, none of them twice. -/
def InOrder (d : Document) (es : List Element) : Prop := es.Sublist d.elements

instance (d : Document) (es : List Element) : Decidable (d.InOrder es) :=
  inferInstanceAs (Decidable (es.Sublist d.elements))

theorem inOrder_iff :
    d.InOrder es ↔ (∀ e ∈ es, e ∈ d.elements) ∧ es.Pairwise fun e f => e.index < f.index := by
  constructor
  · exact fun h => ⟨fun _ he => h.subset he, d.elements_ascending.sublist h⟩
  · rintro ⟨hm, ha⟩
    have : Std.Antisymm fun e f : Element => e.index < f.index :=
      ⟨fun _ _ h h' => absurd (Nat.lt_trans h h') (Nat.lt_irrefl _)⟩
    have hn : es.Nodup := by
      refine ha.imp ?_
      rintro e _ h rfl
      exact Nat.lt_irrefl _ h
    exact List.sublist_of_subperm_of_pairwise (List.subperm_of_subset hn hm) ha
      d.elements_ascending

end MarkupLint.Document
