import MarkupLint.Proofs.DocumentOrder

/-! # Parents, children and descendants

The elements inside another one are the elements of the document that have it around them, and its
children are those that have it as their parent. The argument goes through the tree once, with
arbitrary elements around it: whatever is listed in a content has these around it, so how many
elements stand around an element tells at which depth of the content it is.
-/
namespace MarkupLint.Document

variable {c : Content} {around : List Node} {n : Nat} {d : Document} {e f p x : Element}

namespace Content

theorem around_suffix (h : e ∈ c.elements around n) : around <:+ e.ancestors := by
  induction c generalizing around n with
  | nil => cases h
  | data _ rest ih => exact ih h
  | element tag inner rest hinner hrest =>
    simp only [elements, List.mem_cons, List.mem_append] at h
    rcases h with rfl | h | h
    · exact List.suffix_refl around
    · exact (List.suffix_cons _ around).trans (hinner h)
    · exact hrest h

theorem mem_children :
    e ∈ c.children around n ↔ e ∈ c.elements around n ∧ e.ancestors = around := by
  induction c generalizing n with
  | nil => simp [children, elements]
  | data _ rest ih => exact ih
  | element tag inner rest _ hrest =>
    simp only [children, elements, List.mem_cons, List.mem_append, hrest]
    constructor
    · rintro (rfl | ⟨h, ha⟩)
      · exact ⟨Or.inl rfl, rfl⟩
      · exact ⟨Or.inr (Or.inr h), ha⟩
    · rintro ⟨rfl | h | h, ha⟩
      · exact Or.inl rfl
      · -- an inner element has one more element around it
        have hlength := (around_suffix h).length_le
        rw [ha, List.length_cons] at hlength
        omega
      · exact Or.inr ⟨h, ha⟩

theorem descendants_subset (hp : p ∈ c.elements around n) (hx : x ∈ p.descendants) :
    x ∈ c.elements around n := by
  induction c generalizing around n with
  | nil => cases hp
  | data _ rest ih => exact ih hp
  | element tag inner rest hinner hrest =>
    simp only [elements, List.mem_cons, List.mem_append] at hp ⊢
    rcases hp with rfl | hp | hp
    · exact Or.inr (Or.inl hx)
    · exact Or.inr (Or.inl (hinner hp))
    · exact Or.inr (Or.inr (hrest hp))

end Content

theorem mem_descendants_iff (hp : p ∈ d.elements) :
    x ∈ p.descendants ↔ x ∈ d.elements ∧ p ∈ x.parents := by
  constructor
  · intro hx
    exact ⟨Content.descendants_subset hp hx, Content.enclosing_subset hx List.mem_cons_self⟩
  · rintro ⟨hx, hpx⟩
    exact Content.mem_descendants_of_spans hp hx (parent_spans hx hpx).2

theorem Element.parent_eq_some_iff :
    e.parent? = some p ↔ e.ancestors = p.toNode :: p.ancestors := by
  obtain ⟨node, ancestors⟩ := e
  cases ancestors with
  | nil => simp [parent?]
  | cons m outer =>
    obtain ⟨q, around⟩ := p
    simp [parent?]

theorem Element.parent_eq_none_iff : e.parent? = none ↔ e.ancestors = [] := by
  obtain ⟨node, ancestors⟩ := e
  cases ancestors <;> simp [parent?]

/-- The first of the elements around an element is its parent, and the others stand around that. -/
theorem Element.parents_cons {rest : List Element} (h : e.parents = p :: rest) :
    e.parent? = some p ∧ p.parents = rest := by
  obtain ⟨node, ancestors⟩ := e
  cases ancestors with
  | nil => cases h
  | cons m outer =>
    obtain ⟨rfl, rfl⟩ := List.cons.inj h
    exact ⟨rfl, rfl⟩

theorem mem_children_iff (hp : p ∈ d.elements) :
    x ∈ p.children ↔ x ∈ d.elements ∧ x.parent? = some p := by
  have hinside : x ∈ p.children ↔ x ∈ p.descendants ∧ x.ancestors = p.toNode :: p.ancestors :=
    Content.mem_children
  rw [hinside, mem_descendants_iff hp, ← Element.parent_eq_some_iff]
  constructor
  · rintro ⟨⟨hx, -⟩, hparent⟩
    exact ⟨hx, hparent⟩
  · rintro ⟨hx, hparent⟩
    exact ⟨⟨hx, Element.mem_parents_of_parent hparent⟩, hparent⟩

theorem mem_topElements_iff : x ∈ d.topElements ↔ x ∈ d.elements ∧ x.parent? = none := by
  rw [Element.parent_eq_none_iff]
  exact Content.mem_children

end MarkupLint.Document
