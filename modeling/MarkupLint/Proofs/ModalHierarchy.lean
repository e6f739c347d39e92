import MarkupLint.Proofs.CleanGrids
import MarkupLint.Proofs.Kinship
import MarkupLint.Proofs.SingleFindings

/-! # The hierarchy of modal parts

The rule on the parts of modals goes through a table of parts and holders. For each row it has at
most one problem, about the parents of the parts that are not held as the row demands. Where it has
no problem at all, the rows chain: a title that stands deep enough is held by a header, that by a
content, that by a dialog, and that by a modal.
-/
namespace MarkupLint

open Document (Element)

namespace Rules

variable {d : Document} {part holder : String} {e p : Element}

def Shows (c : String) (e : Element) : Prop := c ∈ (Place.element e).classes

structure Misplaced (d : Document) (part holder : String) (e p : Element) : Prop where
  mem : e ∈ d.elements
  isPart : Shows part e
  parent : e.parent? = some p
  wrong : ¬Shows holder p

/-- The wrong parents of the parts in a document, each once, in the order of their first misplaced
parts. -/
structure WrongParents (d : Document) (part holder : String) (parents : List Element) : Prop where
  mem : ∀ p, p ∈ parents ↔ ∃ e, Misplaced d part holder e p
  distinct : parents.Pairwise fun p q => p.index ≠ q.index
  ordered : parents.Pairwise fun p q =>
    ∃ e, Misplaced d part holder e p ∧ ∀ f, Misplaced d part holder f q → e.index < f.index

theorem mem_misplaced :
    (e, p) ∈ misplaced d part holder ↔ Misplaced d part holder e p := by
  have hselect : ∀ x, x ∈ d.select (.cls part) ↔ x ∈ d.elements ∧ Shows part x := by
    intro x
    simp [Document.select, Selector.holds, Shows]
  have hwrong : ∀ x, wrongParent? d holder x = some p ↔
      x.parent? = some p ∧ ¬Shows holder p := by
    intro x
    simp [wrongParent?, Option.filter_eq_some_iff, Selector.accepts, Selector.holds, Shows]
  constructor
  · intro h
    obtain ⟨x, hx, hpair⟩ := List.mem_filterMap.mp h
    obtain ⟨y, hy, heq⟩ := Option.map_eq_some_iff.mp hpair
    obtain ⟨rfl, rfl⟩ := Prod.mk.inj heq
    obtain ⟨hmem, hpart⟩ := (hselect x).mp hx
    obtain ⟨hparent, hne⟩ := (hwrong x).mp hy
    exact ⟨hmem, hpart, hparent, hne⟩
  · intro h
    refine List.mem_filterMap.mpr ⟨e, (hselect e).mpr ⟨h.mem, h.isPart⟩, ?_⟩
    rw [(hwrong e).mpr ⟨h.parent, h.wrong⟩]
    rfl

theorem wrongParents_mem :
    p ∈ wrongParents d part holder ↔ ∃ e, Misplaced d part holder e p := by
  rw [wrongParents_eq]
  constructor
  · intro h
    obtain ⟨x, hx, rfl⟩ := List.mem_map.mp ((eraseDups_sublist _).subset h)
    exact ⟨x.1, mem_misplaced.mp hx⟩
  · rintro ⟨e, he⟩
    have hpair := mem_misplaced.mpr he
    obtain ⟨q, hq, hindex⟩ := exists_mem_eraseDups (List.mem_map_of_mem (f := Prod.snd) hpair)
    obtain ⟨y, hy, rfl⟩ := List.mem_map.mp ((eraseDups_sublist _).subset hq)
    -- the one that is kept has the same number, and a number belongs to one element
    obtain rfl := Document.eq_of_index_eq (misplaced_spans hy).1 (misplaced_spans hpair).1 hindex
    exact hq

/-- Parents that are met in turn have their first misplaced parts in turn, since the parts come in
document order. -/
theorem first_misplaced_of_metBefore {q : Element}
    (h : MetBefore ((misplaced d part holder).map Prod.snd) p q) (hne : p.index ≠ q.index) :
    ∃ e, Misplaced d part holder e p ∧ ∀ f, Misplaced d part holder f q → e.index < f.index := by
  obtain ⟨before, after, hcut, hnew⟩ := h
  obtain ⟨parts, rest, hparts, rfl, hrest⟩ := List.map_eq_append_iff.mp hcut
  obtain ⟨z, later, rfl, rfl, -⟩ := List.map_eq_cons_iff.mp hrest
  have hz : z ∈ misplaced d part holder := by simp [hparts]
  refine ⟨z.1, mem_misplaced.mp hz, fun f hf => ?_⟩
  have hpair := mem_misplaced.mpr hf
  have hasc := misplaced_ascending d part holder
  rw [hparts] at hpair hasc
  -- a misplaced part of `q` is neither before the first one of `p` nor that part itself
  rcases List.mem_append.mp hpair with hpair | hpair
  · exact absurd rfl (hnew q (List.mem_map_of_mem (f := Prod.snd) hpair))
  · rcases List.mem_cons.mp hpair with heq | hpair
    · rw [← heq] at hne
      exact absurd rfl hne
    · exact (List.pairwise_cons.mp (List.pairwise_append.mp hasc).2.1).1 _ hpair

theorem wrongParents_spec (d : Document) (part holder : String) :
    WrongParents d part holder (wrongParents d part holder) := by
  have hdistinct : (wrongParents d part holder).Pairwise fun p q => p.index ≠ q.index :=
    eraseDups_distinct _
  refine ⟨fun p => wrongParents_mem, hdistinct, ?_⟩
  have hmet := eraseDups_metBefore ((misplaced d part holder).map Prod.snd)
  rw [← wrongParents_eq] at hmet
  exact (hmet.and hdistinct).imp fun h => first_misplaced_of_metBefore h.1 h.2

theorem filter_rows {α : Type} {rows : List α} {message : α → String}
    {elements : α → List Element} (h : (rows.map message).Nodup) {x : α} (hx : x ∈ rows) :
    (rows.flatMap fun r => Rule.reportAny (message r) (elements r)).filter
        (fun report => report.message = message x) =
      Rule.reportAny (message x) (elements x) := by
  have hown : ∀ r, (Rule.reportAny (message r) (elements r)).filter
      (fun report => report.message = message r) = Rule.reportAny (message r) (elements r) := by
    intro r
    apply List.filter_eq_self.mpr
    intro report hreport
    simpa using (elements_of_reportAny hreport).1
  have hother : ∀ r, message r ≠ message x → (Rule.reportAny (message r) (elements r)).filter
      (fun report => report.message = message x) = [] := by
    intro r hne
    apply List.filter_eq_nil_iff.mpr
    intro report hreport
    rw [(elements_of_reportAny hreport).1]
    simpa using hne
  induction rows with
  | nil => cases hx
  | cons r rows ih =>
    obtain ⟨hr, hrows⟩ := List.nodup_cons.mp h
    rw [List.flatMap_cons, List.filter_append]
    rcases List.mem_cons.mp hx with rfl | hx
    · rw [hown, List.filter_flatMap, List.flatMap_eq_nil_iff.mpr, List.append_nil]
      intro q hq
      apply hother
      intro heq
      exact hr (List.mem_map.mpr ⟨q, hq, heq⟩)
    · rw [hother, ih hrows hx, List.nil_append]
      intro heq
      exact hr (List.mem_map.mpr ⟨x, hx, heq.symm⟩)

theorem modalStructure_reports (d : Document) :
    (modalStructure.check d).reports = modalParts.flatMap fun x =>
      Rule.reportAny (misplacedMessage x.1 x.2) (wrongParents d x.1 x.2) := rfl

theorem problems_of_row (entry : Entry) (hrule : entry.rule = modalStructure) (d : Document)
    {x : String × String} (hx : x ∈ modalParts) :
    ((entry.problems d).filter fun p => p.message = misplacedMessage x.1 x.2).map
        (fun p => p.elements.map ElementRef.element) =
      if wrongParents d x.1 x.2 = [] then [] else [wrongParents d x.1 x.2] := by
  have hmessages : (modalParts.map fun x => misplacedMessage x.1 x.2).Nodup := by decide
  have hrow : ((modalStructure.check d).reports.filter fun report =>
      report.message = misplacedMessage x.1 x.2) =
        Rule.reportAny (misplacedMessage x.1 x.2) (wrongParents d x.1 x.2) := by
    rw [modalStructure_reports]
    exact filter_rows hmessages hx
  have hkept := eraseDups_eq_self (wrongParents_spec d x.1 x.2).distinct
  have hfilter : (entry.problems d).filter (fun p => p.message = misplacedMessage x.1 x.2) =
      (Rule.reportAny (misplacedMessage x.1 x.2) (wrongParents d x.1 x.2)).map entry.problem := by
    rw [Entry.problems, hrule, List.filter_map]
    exact congrArg (List.map entry.problem) hrow
  rw [hfilter, Rule.reportAny]
  by_cases hempty : wrongParents d x.1 x.2 = []
  · simp [hempty]
  · simp [hempty, elements_problem, hkept]

theorem holder_of_silent (h : (modalStructure.check d).reports = [])
    (hx : (part, holder) ∈ modalParts) (he : e ∈ d.elements) (hpart : Shows part e)
    (hp : e.parent? = some p) : Shows holder p := by
  have hnone : wrongParents d part holder = [] := by
    rw [modalStructure_reports] at h
    exact Rule.reportAny_eq_nil.mp (List.flatMap_eq_nil_iff.mp h _ hx)
  by_contra hwrong
  have hmem := wrongParents_mem.mpr ⟨e, he, hpart, hp, hwrong⟩
  rw [hnone] at hmem
  cases hmem

theorem hierarchy_of_silent (h : (modalStructure.check d).reports = []) (he : e ∈ d.elements)
    (htitle : Shows "modal-title" e) {header content dialog modal : Element} {rest : List Element}
    (hparents : e.parents = header :: content :: dialog :: modal :: rest) :
    Shows "modal-header" header ∧ Shows "modal-content" content ∧ Shows "modal-dialog" dialog ∧
      Shows "modal" modal := by
  have hmem : ∀ x ∈ e.parents, x ∈ d.elements := fun x hx => (Document.parent_spans he hx).1
  simp only [hparents, List.forall_mem_cons] at hmem
  obtain ⟨hheader, hcontent, hdialog, -⟩ := hmem
  obtain ⟨hp₁, h₁⟩ := Element.parents_cons hparents
  obtain ⟨hp₂, h₂⟩ := Element.parents_cons h₁
  obtain ⟨hp₃, h₃⟩ := Element.parents_cons h₂
  obtain ⟨hp₄, -⟩ := Element.parents_cons h₃
  have hs₁ : Shows "modal-header" header := holder_of_silent h (by decide) he htitle hp₁
  have hs₂ : Shows "modal-content" content := holder_of_silent h (by decide) hheader hs₁ hp₂
  have hs₃ : Shows "modal-dialog" dialog := holder_of_silent h (by decide) hcontent hs₂ hp₃
  have hs₄ : Shows "modal" modal := holder_of_silent h (by decide) hdialog hs₃ hp₄
  exact ⟨hs₁, hs₂, hs₃, hs₄⟩

/-- However the rule on the parts of modals is registered, it goes through every document and has,
for each row of its table, at most one problem, about the wrong parents of the misplaced parts.
Where it has no problem, the four elements around a title are a header, a content, a dialog and a
modal. -/
theorem modal_rows_reported (d : Document) (id : String) (severity : Severity) (url : String) :
    Entry.Completes d ⟨id, severity, url, modalStructure⟩ ∧
      (∀ p ∈ Entry.problems d ⟨id, severity, url, modalStructure⟩,
        ∃ x ∈ modalParts, p.message = misplacedMessage x.1 x.2) ∧
      (∀ x ∈ modalParts, ∃ parents, WrongParents d x.1 x.2 parents ∧
        ((Entry.problems d ⟨id, severity, url, modalStructure⟩).filter fun p =>
            p.message = misplacedMessage x.1 x.2).map
          (fun p => p.elements.map ElementRef.element) =
            if parents = [] then [] else [parents]) ∧
      (Entry.problems d ⟨id, severity, url, modalStructure⟩ = [] →
        ∀ e ∈ d.elements, Shows "modal-title" e → ∀ header content dialog modal rest,
          e.parents = header :: content :: dialog :: modal :: rest →
            Shows "modal-header" header ∧ Shows "modal-content" content ∧
              Shows "modal-dialog" dialog ∧ Shows "modal" modal) := by
  refine ⟨rfl, ?_, ?_, ?_⟩
  · intro p hp
    obtain ⟨report, hreport, rfl⟩ := List.mem_map.mp hp
    obtain ⟨x, hx, hrow⟩ := List.mem_flatMap.mp hreport
    exact ⟨x, hx, (elements_of_reportAny hrow).1⟩
  · intro x hx
    exact ⟨_, wrongParents_spec d x.1 x.2, problems_of_row _ rfl d hx⟩
  · intro h e he htitle header content dialog modal rest hparents
    exact hierarchy_of_silent (List.map_eq_nil_iff.mp h) he htitle hparents

def nestedModal : Document :=
  .ofContent (.element (division ["modal"])
    (.element (division ["modal-dialog"])
      (.element (division ["modal-content"])
        (.element (division ["modal-header"])
          (.element (division ["modal-title"]) .nil .nil) .nil) .nil) .nil) .nil)

/-- Two equal divisions, each with a misplaced part. -/
def twinParents : Document :=
  .ofContent (.element (division []) (.element (division ["modal-body"]) .nil .nil)
    (.element (division []) (.element (division ["modal-body"]) .nil .nil) .nil))

theorem modal_rows_reported_nested :
    Entry.problems nestedModal ⟨"E032", .error, "", modalStructure⟩ = [] ∧
      (∃ e ∈ nestedModal.elements, Shows "modal-title" e ∧
        ∃ header content dialog modal,
          e.parents = [header, content, dialog, modal] ∧ Shows "modal-header" header ∧
            Shows "modal-content" content ∧ Shows "modal-dialog" dialog ∧ Shows "modal" modal) ∧
      ∃ parents, WrongParents twinParents "modal-body" "modal-content" parents ∧
        parents.map (fun p => p.index) = [0, 2] := by
  have hsilent : Entry.problems nestedModal ⟨"E032", .error, "", modalStructure⟩ = [] := rfl
  have htitle : nestedModal.elements.get ⟨4, by decide⟩ ∈ nestedModal.elements := List.get_mem _ _
  have hshows : Shows "modal-title" (nestedModal.elements.get ⟨4, by decide⟩) := by
    change "modal-title" ∈ ["modal-title"]
    exact List.mem_cons_self
  refine ⟨hsilent, ⟨_, htitle, hshows, _, _, _, _, rfl, ?_⟩, ?_⟩
  · obtain ⟨-, -, -, hchain⟩ := modal_rows_reported nestedModal "E032" .error ""
    exact hchain hsilent _ htitle hshows _ _ _ _ _ rfl
  · obtain ⟨-, -, hrows, -⟩ := modal_rows_reported twinParents "E032" .error ""
    obtain ⟨parents, hparents, hlisted⟩ :=
      hrows ("modal-body", "modal-content") (by decide)
    refine ⟨parents, hparents, ?_⟩
    have hnumbers : (((Entry.problems twinParents ⟨"E032", .error, "", modalStructure⟩).filter
        fun p => p.message = misplacedMessage "modal-body" "modal-content").map
          (fun p => p.elements.map ElementRef.element)).map (List.map fun e => e.index) =
            [[0, 2]] := by decide +kernel
    rw [hlisted] at hnumbers
    by_cases hempty : parents = []
    · simp [hempty] at hnumbers
    · simpa [hempty] using hnumbers

end Rules

end MarkupLint
