import MarkupLint.Proofs.DocumentOrder
import MarkupLint.Proofs.SelectorViews
import MarkupLint.Rules.Grid

/-! # Clean grids

Two rules watch over rows and columns from opposite sides: one looks at the children of rows, which
a selector finds, the other at the parents of columns. Where neither of them has anything to report,
the columns are just the children of rows, the elements aside that one of the rules lets pass.
-/
namespace MarkupLint

open Document (Element Content)

section Silence

variable {d : Document} {id name message : String} {s : Selector} {bad : Document → Element → Bool}
  {es : List Element}

theorem Rule.reportAny_eq_nil : reportAny message es = [] ↔ es = [] := by
  cases es <;> simp [reportAny]

theorem Rule.offenders_silent_iff :
    ((offenders id name message s bad).check d).reports = [] ↔
      ∀ e ∈ d.elements, s.holds d 0 (.element e) = true → bad d e = false := by
  change reportAny message ((d.select s).filter (bad d)) = [] ↔ _
  simp only [reportAny_eq_nil, Document.select, List.filter_eq_nil_iff, List.mem_filter, and_imp,
    Bool.not_eq_true]

theorem Selector.holds_child_cls (d : Document) (scope : Nat) (c : String) (e : Element) :
    (child (cls c) any).holds d scope (.element e) = true ↔
      ∃ p, e.parent? = some p ∧ c ∈ (Place.element p).classes := by
  rw [holds_child rfl]
  simp [holds]

end Silence

namespace Rules

variable {d : Document}

/-- An element without classes is no column, so looking at the elements with a class attribute
misses none. -/
theorem columns_eq (d : Document) : columns d = d.elements.filter Element.isColumn := by
  unfold columns Document.select
  rw [List.filter_filter]
  apply List.filter_congr
  intro e _
  by_cases hcolumn : e.isColumn = true
  · rw [hcolumn, Bool.true_and]
    obtain ⟨token, htoken, -⟩ := List.any_eq_true.mp hcolumn
    rw [Element.classes_eq] at htoken
    cases hfound : e.tag.attributes.find? fun a => "class" == a.1 with
    | none =>
      rw [hfound] at htoken
      cases htoken
    | some a =>
      have hname : "class" = a.1 := by simpa using List.find?_some hfound
      have hseen : (e.tag.attributes.find? fun b =>
          decide (Text.lowerAscii b.1 = Text.lowerAscii "class")).isSome = true :=
        List.find?_isSome.mpr ⟨a, List.mem_of_find?_eq_some hfound, by rw [← hname]; simp⟩
      obtain ⟨b, hb⟩ := Option.isSome_iff_exists.mp hseen
      simp [Selector.withAttr, Selector.holds, Place.attribute?, Place.tagAttribute?, hb,
        Comparison.test]
  · rw [Bool.not_eq_true] at hcolumn
    rw [hcolumn, Bool.false_and]

theorem rowChildren_silent_iff :
    (rowChildren.check d).reports = [] ↔ ∀ e ∈ d.elements, ∀ p, e.parent? = some p →
      "row" ∈ (Place.element p).classes ∨ "form-row" ∈ (Place.element p).classes →
        isRowChild e = true := by
  have hrow : ∀ e : Element, (Selector.child (.cls "row") .any |||
      Selector.child (.cls "form-row") .any).holds d 0 (.element e) = true ↔
      ∃ p, e.parent? = some p ∧
        ("row" ∈ (Place.element p).classes ∨ "form-row" ∈ (Place.element p).classes) := by
    intro e
    change (_ || _) = true ↔ _
    rw [Bool.or_eq_true, Selector.holds_child_cls, Selector.holds_child_cls, ← exists_or]
    simp only [and_or_left]
  rw [rowChildren, Rule.offenders_silent_iff]
  constructor
  · intro h e he p hp hseen
    simpa using h e he ((hrow e).mpr ⟨p, hp, hseen⟩)
  · intro h e he hholds
    obtain ⟨p, hp, hseen⟩ := (hrow e).mp hholds
    simpa using h e he p hp hseen

theorem columnParents_silent_iff :
    (columnParents.check d).reports = [] ↔ ∀ e ∈ d.elements, e.isColumn = true → ∀ p,
      e.parent? = some p → e.name ∈ exemptColumns ∨ p.hasClass "row" = true ∨
        p.hasClass "form-row" = true := by
  have hstray : ∀ e : Element, isStrayColumn e = false ↔ ∀ p, e.parent? = some p →
      e.name ∈ exemptColumns ∨ p.hasClass "row" = true ∨ p.hasClass "form-row" = true := by
    intro e
    unfold isStrayColumn
    cases e.parent? with
    | none => simp
    | some p => simp [or_iff_not_imp_left]
  change Rule.reportAny _ ((columns d).filter isStrayColumn) = [] ↔ _
  simp only [Rule.reportAny_eq_nil, columns_eq, List.filter_eq_nil_iff, List.mem_filter, and_imp,
    Bool.not_eq_true, hstray]

/-- In a parsed document without findings of either rule, an element that neither lets pass is a
column just when its parent is a row. -/
theorem column_iff_parent_row {text : String} (h : Content.parse .split text = .ok d.content)
    (hchildren : (rowChildren.check d).reports = [])
    (hparents : (columnParents.check d).reports = []) {e p : Element} (he : e ∈ d.elements)
    (hp : e.parent? = some p) (hname : e.name ∉ ["col", "th", "td", "script"])
    (hclear : e.hasClass "clearfix" = false) :
    e.isColumn = true ↔ p.hasClass "row" = true ∨ p.hasClass "form-row" = true := by
  have hmem : p ∈ d.elements :=
    (Document.parent_spans he (Element.mem_parents_of_parent hp)).1
  have hseen : ∀ c, c ∈ (Place.element p).classes ↔ p.hasClass c = true := by
    intro c
    rw [Document.seen_classes h hmem, Element.hasClass, List.contains_iff_mem]
  constructor
  · intro hcolumn
    rcases columnParents_silent_iff.mp hparents e he hcolumn p hp with hexempt | hrow
    · exact absurd (List.mem_append_left ["script"] hexempt) hname
    · exact hrow
  · intro hrow
    rw [← hseen, ← hseen] at hrow
    have hchild := rowChildren_silent_iff.mp hchildren e he p hp hrow
    have hscript : e.name ≠ "script" := fun hs => hname (by simp [hs])
    simpa [isRowChild, hclear, hscript] using hchild

/-- A row of a form with a column and a script in it, and a cell with a column class beside it. -/
def formRowText : String :=
  "<div CLASS=\"wide form-row\"><p class=\"col-6\"></p><script></script></div><td class=col>"

def formRow : Document where
  content := .element ⟨"div", [("class", .words ["wide", "form-row"])], some ⟨1, 0⟩⟩
    (.element ⟨"p", [("class", .words ["col-6"])], some ⟨1, 27⟩⟩ .nil
      (.element ⟨"script", [], some ⟨1, 48⟩⟩ .nil .nil))
    (.element ⟨"td", [("class", .words ["col"])], some ⟨1, 71⟩⟩ .nil .nil)
  source := some formRowText

theorem column_iff_parent_row_form :
    Content.parse .split formRowText = .ok formRow.content ∧
      (rowChildren.check formRow).reports = [] ∧ (columnParents.check formRow).reports = [] ∧
      ∃ e ∈ formRow.elements, ∃ p, e.parent? = some p ∧ e.name = "p" ∧ p.name = "div" ∧
        (e.isColumn = true ↔ p.hasClass "row" = true ∨ p.hasClass "form-row" = true) := by
  have hparse : Content.parse .split formRowText = .ok formRow.content := by decide +kernel
  have hsilent : (rowChildren.check formRow).reports = [] ∧
      (columnParents.check formRow).reports = [] := by decide +kernel
  have he : formRow.elements.get ⟨1, by decide⟩ ∈ formRow.elements := List.get_mem _ _
  refine ⟨hparse, hsilent.1, hsilent.2, _, he, formRow.elements.get ⟨0, by decide⟩, rfl, rfl, rfl,
    ?_⟩
  exact column_iff_parent_row hparse hsilent.1 hsilent.2 he rfl (by decide) (by decide)

end Rules

end MarkupLint
