import MarkupLint.Proofs.SelectorViews
import MarkupLint.Rules.Action

/-! # Buttons that are checked and labels that are active

In a button group the label of a check box or radio button is to be active just when the input is
checked. The rule looks for the two ways to disagree by one selector each, for both kinds of input.
The four alternatives together select the inputs for which exactly one of the two marks is set, in
any tree. In a parsed document the tests of names and marks are read off the elements.
-/
namespace MarkupLint.Rules

open Document (Element Content ValueMode)
open Selector

variable {d : Document} {e label : Element} {text type : String} {mode : ValueMode}

/-- An input of a type whose label is the given element, and that stands directly in a button
group. -/
structure GroupInput (d : Document) (type : String) (e label : Element) : Prop where
  input : (tag "input").accepts d e = true
  typed : (attrIs "type" .equals type).accepts d e = true
  labelled : (tag "label").accepts d label = true
  grouped : ∃ g ∈ label.parent?, (attrIs "data-toggle" .equals "buttons").accepts d g = true

instance (d : Document) (type : String) (e label : Element) :
    Decidable (GroupInput d type e label) :=
  decidable_of_iff ((tag "input").accepts d e = true ∧
      (attrIs "type" .equals type).accepts d e = true ∧ (tag "label").accepts d label = true ∧
      ∃ g ∈ label.parent?, (attrIs "data-toggle" .equals "buttons").accepts d g = true)
    ⟨fun h => ⟨h.1, h.2.1, h.2.2.1, h.2.2.2⟩,
      fun h => ⟨h.input, h.typed, h.labelled, h.grouped⟩⟩

/-- Exactly one of the two marks is set: the label is active, or the input is checked. -/
def Disagree (d : Document) (e label : Element) : Prop :=
  Xor ((cls "active").accepts d label = true) ((withAttr "checked").accepts d e = true)

instance (d : Document) (e label : Element) : Decidable (Disagree d e label) :=
  inferInstanceAs (Decidable (Xor _ _))

/-- A check box or radio button of a button group that disagrees with the label around it. -/
def Mismatched (d : Document) (e : Element) : Prop :=
  ∃ label ∈ e.parent?,
    (GroupInput d "checkbox" e label ∨ GroupInput d "radio" e label) ∧ Disagree d e label

instance (d : Document) : DecidablePred (Mismatched d) :=
  fun e => inferInstanceAs (Decidable (∃ label ∈ e.parent?, _))

theorem holds_groupInput {s : Selector} :
    (groupInput s type).holds d 0 (.element e) = true ↔
      ∃ label, e.parent? = some label ∧ GroupInput d type e label ∧
        s.holds d 0 (.element label) = true := by
  have hgroup : (child (attrIs "data-toggle" .equals "buttons") (tag "label" &&& s)).holds d 0
      .document = false := rfl
  rw [groupInput, holds_child hgroup]
  change ((tag "input").holds d 0 (.element e) &&
    (attrIs "type" .equals type).holds d 0 (.element e)) = true ∧ _ ↔ _
  rw [Bool.and_eq_true]
  constructor
  · rintro ⟨⟨hinput, htype⟩, label, hparent, hlabel⟩
    rw [holds_child rfl] at hlabel
    obtain ⟨hboth, g, hg, htoggle⟩ := hlabel
    obtain ⟨hname, hs⟩ := Bool.and_eq_true_iff.mp hboth
    exact ⟨label, hparent, ⟨hinput, htype, hname, g, hg, htoggle⟩, hs⟩
  · rintro ⟨label, hparent, ⟨hinput, htype, hname, g, hg, htoggle⟩, hs⟩
    refine ⟨⟨hinput, htype⟩, label, hparent, (holds_child rfl).mpr ⟨?_, g, hg, htoggle⟩⟩
    exact Bool.and_eq_true_iff.mpr ⟨hname, hs⟩

theorem holds_mismatchedInput :
    (mismatchedInput type).holds d 0 (.element e) = true ↔
      ∃ label, e.parent? = some label ∧ GroupInput d type e label ∧ Disagree d e label := by
  change ((groupInput (.not (cls "active")) type).holds d 0 (.element e) &&
      (withAttr "checked").holds d 0 (.element e) ||
    (groupInput (cls "active") type).holds d 0 (.element e) &&
      !(withAttr "checked").holds d 0 (.element e)) = true ↔ _
  have hchecked : (withAttr "checked").holds d 0 (.element e) = true ↔
      (withAttr "checked").accepts d e = true := Iff.rfl
  have hidle : ∀ label, (Selector.not (cls "active")).holds d 0 (.element label) = true ↔
      ¬(cls "active").accepts d label = true := by
    intro label
    change (!(cls "active").accepts d label) = true ↔ _
    rw [Bool.not_eq_true', Bool.not_eq_true]
  rw [Bool.or_eq_true, Bool.and_eq_true, Bool.and_eq_true, Bool.not_eq_true', ← Bool.not_eq_true,
    hchecked, holds_groupInput, holds_groupInput]
  constructor
  · rintro (⟨⟨label, hparent, hinput, hnot⟩, hmark⟩ | ⟨⟨label, hparent, hinput, hactive⟩, hmark⟩)
    · exact ⟨label, hparent, hinput, Or.inr ⟨hmark, (hidle label).mp hnot⟩⟩
    · exact ⟨label, hparent, hinput, Or.inl ⟨hactive, hmark⟩⟩
  · rintro ⟨label, hparent, hinput, ⟨hactive, hmark⟩ | ⟨hmark, hnot⟩⟩
    · exact Or.inr ⟨⟨label, hparent, hinput, hactive⟩, hmark⟩
    · exact Or.inl ⟨⟨label, hparent, hinput, (hidle label).mpr hnot⟩, hmark⟩

theorem holds_mismatched_iff :
    (mismatchedInput "checkbox" ||| mismatchedInput "radio").holds d 0 (.element e) = true ↔
      Mismatched d e := by
  change ((mismatchedInput "checkbox").holds d 0 (.element e) ||
    (mismatchedInput "radio").holds d 0 (.element e)) = true ↔ _
  rw [Bool.or_eq_true, holds_mismatchedInput, holds_mismatchedInput, ← exists_or]
  refine exists_congr fun label => ?_
  rw [← and_or_left, ← or_and_right]
  rfl

theorem accepts_cls_iff (h : Content.parse .split text = .ok d.content) (he : e ∈ d.elements)
    (c : String) : (cls c).accepts d e = true ↔ e.hasClass c = true := by
  change (Place.element e).classes.contains c = true ↔ _
  rw [Document.seen_classes h he]
  rfl

/-- The rule makes one report about the mismatched inputs of a document, in document order and each
once, if there are any. In a parsed document the tests that make an input mismatched are those of
its name and of its attributes, and where class values are split into words, a label is active just
when it has the class. -/
theorem mismatched_inputs_reported (d : Document) :
    (∃ message, checkedActive.check d =
      .ok (Rule.reportAny message (d.elements.filter fun e => Mismatched d e))) ∧
    (d.elements.filter fun e => Mismatched d e).Pairwise (fun e f => e.index < f.index) ∧
    ∀ mode text, Content.parse mode text = .ok d.content → ∀ e ∈ d.elements,
      (∀ name, (tag name).accepts d e = true ↔ e.name = name) ∧
      ((withAttr "checked").accepts d e = true ↔ (e.attribute? "checked").isSome = true) ∧
      (mode = .split → ((cls "active").accepts d e = true ↔ e.hasClass "active" = true)) := by
  have hselect : d.select (mismatchedInput "checkbox" ||| mismatchedInput "radio") =
      d.elements.filter fun e => Mismatched d e := by
    apply List.filter_congr
    intro e he
    rw [Bool.eq_iff_iff, holds_mismatched_iff, decide_eq_true_eq]
  have hcheck : ∃ message, checkedActive.check d = .ok (Rule.reportAny message
      (d.select (mismatchedInput "checkbox" ||| mismatchedInput "radio"))) := ⟨_, rfl⟩
  rw [hselect] at hcheck
  refine ⟨hcheck, d.elements_ascending.sublist List.filter_sublist, ?_⟩
  intro mode text h e he
  refine ⟨fun name => holds_tag h he, holds_withAttr h he (by decide), ?_⟩
  rintro rfl
  exact accepts_cls_iff h he "active"

/-- A group with an idle label around two radio buttons, one of them checked, and an active label
around a box that is not checked. -/
def marksText : String :=
  "<p data-toggle=buttons><label><input type=RADIO checked><input type=radio></label>" ++
    "<label class=active><input type=checkbox></label>"

def marks : Document where
  content :=
    .element ⟨"p", [("data-toggle", .text "buttons")], some ⟨1, 0⟩⟩
      (.element ⟨"label", [], some ⟨1, 23⟩⟩
        (.element ⟨"input", [("type", .text "RADIO"), ("checked", .text "")], some ⟨1, 30⟩⟩ .nil
          (.element ⟨"input", [("type", .text "radio")], some ⟨1, 56⟩⟩ .nil .nil))
        (.element ⟨"label", [("class", .words ["active"])], some ⟨1, 82⟩⟩
          (.element ⟨"input", [("type", .text "checkbox")], some ⟨1, 102⟩⟩ .nil .nil) .nil))
      .nil
  source := some marksText

theorem mismatched_inputs_reported_marks :
    Content.parse .split marksText = .ok marks.content ∧
      (marks.elements.filter fun e => Mismatched marks e).map (fun e => e.index) = [2, 5] ∧
      (∃ message, checkedActive.check marks =
        .ok (Rule.reportAny message (marks.elements.filter fun e => Mismatched marks e))) ∧
      ∀ label ∈ marks.elements,
        (cls "active").accepts marks label = true ↔ label.hasClass "active" = true := by
  have hparse : Content.parse .split marksText = .ok marks.content := by decide +kernel
  obtain ⟨hreport, -, hparsed⟩ := mismatched_inputs_reported marks
  refine ⟨hparse, by decide +kernel, hreport, ?_⟩
  intro label hlabel
  exact (hparsed .split marksText hparse label hlabel).2.2 rfl

end MarkupLint.Rules
