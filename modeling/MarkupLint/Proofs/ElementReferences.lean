import MarkupLint.Proofs.Deliveries
import MarkupLint.Proofs.DocumentOrder
import MarkupLint.Proofs.Repetitions

/-! # References to elements

A report may name its elements in any order and as often as it likes. The problem that it becomes
refers to each of them once, where it is first met. Elements are told apart by their numbers, not by
how they look, so nothing is merged that only looks the same. Whoever hands a problem on and adds
the locations keeps the references and all else as they are.
-/
namespace MarkupLint

open Document (Element)

variable {d : Document} {es : List Element} {refs : List ElementRef}

/-- Different elements with the same name, attributes and content. -/
structure Document.Element.Twins (x y : Element) : Prop where
  different : x.same y = false
  name : x.name = y.name
  attributes : x.tag.attributes = y.tag.attributes
  content : x.content = y.content

/-- References to the elements of a list, each once and in the order in which they are first
met. -/
structure ElementRef.ListsOnce (refs : List ElementRef) (es : List Element) : Prop where
  distinct : refs.Pairwise fun r s => r.same s = false
  listed : ∀ r ∈ refs, r.element ∈ es
  complete : ∀ e ∈ es, ∃ r ∈ refs, r.element.same e = true
  ordered : refs.Pairwise fun r s => MetBefore es r.element s.element

/-- A problem is another one with the locations of its elements in a document. -/
structure Problem.Annotates (d : Document) (p q : Problem) : Prop where
  others : q.withElements p.elements = p
  sequence : q.elements.map ElementRef.element = p.elements.map ElementRef.element
  located : ∀ r ∈ q.elements, r.location = d.locationOf? r.element

theorem Document.Element.same_iff {x y : Element} : x.same y = true ↔ x.index = y.index := by
  rw [same, beq_iff_eq]

theorem Document.Element.same_eq_false_iff {x y : Element} :
    x.same y = false ↔ x.index ≠ y.index := by
  rw [same, beq_eq_false_iff_ne]

namespace ElementRef

theorem listsOnce_ofElements (es : List Element) : ListsOnce (ofElements es) es where
  distinct := by
    refine List.pairwise_map.mpr ((eraseDups_distinct es).imp ?_)
    exact fun h => Element.same_eq_false_iff.mpr h
  listed := by
    intro r hr
    obtain ⟨e, he, rfl⟩ := List.mem_map.mp hr
    exact (eraseDups_sublist es).subset he
  complete := by
    intro e he
    obtain ⟨x, hx, hindex⟩ := exists_mem_eraseDups he
    exact ⟨⟨x, none⟩, List.mem_map_of_mem hx, Element.same_iff.mpr hindex⟩
  ordered := List.pairwise_map.mpr (eraseDups_metBefore es)

variable {x y : Element}

theorem ListsOnce.mem_iff (h : ListsOnce refs es) (hes : ∀ e ∈ es, e ∈ d.elements) :
    x ∈ refs.map element ↔ x ∈ es := by
  rw [List.mem_map]
  constructor
  · rintro ⟨r, hr, rfl⟩
    exact h.listed r hr
  · intro hx
    obtain ⟨r, hr, hsame⟩ := h.complete x hx
    have helement := hes r.element (h.listed r hr)
    exact ⟨r, hr, Document.eq_of_index_eq helement (hes x hx) (Element.same_iff.mp hsame)⟩

theorem ListsOnce.nodup (h : ListsOnce refs es) : (refs.map element).Nodup := by
  refine List.pairwise_map.mpr (h.distinct.imp ?_)
  intro r s hrs heq
  exact Element.same_eq_false_iff.mp hrs (congrArg (fun e => e.index) heq)

theorem ListsOnce.keeps_twins (h : ListsOnce refs es) (hx : x ∈ es) (hy : y ∈ es)
    (htwins : x.Twins y) :
    ∃ r ∈ refs, ∃ s ∈ refs,
      r.element.same x = true ∧ s.element.same y = true ∧ r.same s = false := by
  obtain ⟨r, hr, hrx⟩ := h.complete x hx
  obtain ⟨s, hs, hsy⟩ := h.complete y hy
  refine ⟨r, hr, s, hs, hrx, hsy, ?_⟩
  have hxy := Element.same_eq_false_iff.mp htwins.different
  rw [← Element.same_iff.mp hrx, ← Element.same_iff.mp hsy] at hxy
  exact Element.same_eq_false_iff.mpr hxy

end ElementRef

theorem Document.locationOf_unknown (h : d.hasSource = false) (e : Element) :
    d.locationOf? e = none := by
  rw [hasSource, Option.isSome_eq_false_iff, Option.isNone_iff_eq_none] at h
  rw [locationOf?, h]

theorem Problem.delivered_annotates (d : Document) (e : Entry) (r : Report) :
    Problem.Annotates d (e.problem r) ((e.problem r).delivered d) := by
  have hfields := Problem.delivered_fields d (e.problem r)
  refine ⟨?_, hfields.2.2.2.2, ?_⟩
  · unfold delivered
    split <;> rfl
  · intro s hs
    unfold delivered at hs
    split at hs
    · obtain ⟨t, -, rfl⟩ := List.mem_map.mp hs
      rfl
    · next hsource =>
      rw [Document.locationOf_unknown (Bool.eq_false_iff.mpr hsource)]
      obtain ⟨x, -, rfl⟩ := List.mem_map.mp hs
      rfl

/-- The problem of a report refers to the reported elements, each once and in the order in which
they are first met, whatever the rule is and whatever elements it names how often. Twins are both
kept, and of elements of the document none is lost and none is added. A linter hands on the problems
of the reports that it hears, each with its references and all else as they are, and adds only the
locations. -/
theorem references_kept_once (e : Entry) (r : Report) (d : Document) :
    ElementRef.ListsOnce (e.problem r).elements r.elements ∧
      (∀ x ∈ r.elements, ∀ y ∈ r.elements, x.Twins y →
        ∃ s ∈ (e.problem r).elements, ∃ t ∈ (e.problem r).elements,
          s.element.same x = true ∧ t.element.same y = true ∧ s.same t = false) ∧
      ((∀ x ∈ r.elements, x ∈ d.elements) →
        ((e.problem r).elements.map ElementRef.element).Nodup ∧
          ∀ x, x ∈ (e.problem r).elements.map ElementRef.element ↔ x ∈ r.elements) ∧
      ∀ (l : Linter) (disabled : Option Disabled), ∃ sources : List (Entry × Report),
        (∀ s ∈ sources, s.1 ∈ l.registry.entries ∧ s.2 ∈ (s.1.rule.check d).reports) ∧
        (l.registry.run d (l.disabledBy disabled)).problems =
          sources.map (fun s => s.1.problem s.2) ∧
        List.Forall₂ (Problem.Annotates d) (l.registry.run d (l.disabledBy disabled)).problems
          (l.lintDocument d disabled).problems := by
  have hlists := ElementRef.listsOnce_ofElements r.elements
  refine ⟨hlists, fun x hx y hy htwins => hlists.keeps_twins hx hy htwins, fun hes => ?_, ?_⟩
  · exact ⟨hlists.nodup, fun x => hlists.mem_iff hes⟩
  · intro l disabled
    have hrun : (l.registry.run d (l.disabledBy disabled)).problems =
        (heard d (l.enabled disabled)).map fun s => s.1.problem s.2 := problems_eq_heard d _
    refine ⟨heard d (l.enabled disabled), ?_, hrun, ?_⟩
    · intro s hs
      obtain ⟨hentry, hreport⟩ := mem_heard hs
      exact ⟨(Linter.mem_enabled.mp hentry).1, hreport⟩
    · rw [hrun, l.problems_eq, List.forall₂_map_left_iff, List.forall₂_map_right_iff,
        List.forall₂_same]
      exact fun s _ => Problem.delivered_annotates d s.1 s.2

def twinParagraphs : Document where
  content := .element ⟨"p", [], some ⟨1, 0⟩⟩ .nil (.element ⟨"p", [], some ⟨1, 7⟩⟩ .nil .nil)
  source := some "<p></p><p></p>"

/-- A rule that names all elements backward and then again forward. -/
def bothWays : Entry :=
  ⟨"E100", .error, "", .total "E100" "BothWays" fun d => [⟨"", d.elements.reverse ++ d.elements⟩]⟩

def bothWaysReport : Report :=
  ⟨"", twinParagraphs.elements.reverse ++ twinParagraphs.elements⟩

theorem references_kept_once_paragraphs :
    bothWays.rule.check twinParagraphs = .ok [bothWaysReport] ∧
      (∀ x ∈ bothWaysReport.elements, x ∈ twinParagraphs.elements) ∧
      (bothWays.problem bothWaysReport).elements.map (fun s => s.element.index) = [1, 0] ∧
      (∀ x, x ∈ (bothWays.problem bothWaysReport).elements.map ElementRef.element ↔
        x ∈ bothWaysReport.elements) ∧
      (twinParagraphs.elements.get ⟨0, by decide⟩).Twins
        (twinParagraphs.elements.get ⟨1, by decide⟩) ∧
      ∃ s ∈ (bothWays.problem bothWaysReport).elements,
        ∃ t ∈ (bothWays.problem bothWaysReport).elements,
          s.element.same (twinParagraphs.elements.get ⟨0, by decide⟩) = true ∧
          t.element.same (twinParagraphs.elements.get ⟨1, by decide⟩) = true ∧
          s.same t = false := by
  obtain ⟨-, htwins, hexact, -⟩ := references_kept_once bothWays bothWaysReport twinParagraphs
  have hown : ∀ x ∈ bothWaysReport.elements, x ∈ twinParagraphs.elements := by
    intro x hx
    rcases List.mem_append.mp hx with hx | hx
    · exact List.mem_reverse.mp hx
    · exact hx
  have hpair : (twinParagraphs.elements.get ⟨0, by decide⟩).Twins
      (twinParagraphs.elements.get ⟨1, by decide⟩) := ⟨rfl, rfl, rfl, rfl⟩
  have hmem : ∀ i, twinParagraphs.elements.get i ∈ bothWaysReport.elements :=
    fun i => List.mem_append_right _ (List.get_mem _ i)
  exact ⟨rfl, hown, rfl, (hexact hown).2, hpair, htwins _ (hmem _) _ (hmem _) hpair⟩

end MarkupLint
