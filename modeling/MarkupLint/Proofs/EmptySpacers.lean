import MarkupLint.Proofs.CleanGrids
import MarkupLint.Proofs.Kinship
import MarkupLint.Proofs.TextKinds

/-! # Empty spacer columns

A column that only makes room is one that another element follows, that may hold something, and that
holds neither an element nor text. The rule asks for the text of the column, and not all that an
element holds counts as its text: inside a template or an annotation of ruby text only the text of
that element itself does, and there character data sections do not. So the rule also reports columns
with text that it overlooks. It is said exactly which columns are reported, and on which documents
these are the empty ones.
-/
namespace MarkupLint

namespace Document

def Data.hasInk : Data → Bool
  | text _ s => !Text.isBlankText s
  | cdata s => !Text.isBlankText s
  | _ => false

def Element.ownKind (e : Element) : Bool := (TextKind.ofName? e.name).isSome

/-- Whether a piece of character data that an element holds does not count as its text. -/
def Element.overlooks (e : Element) : Data → Bool
  | .text _ _ => !e.ownKind && e.parents.any Element.ownKind
  | .cdata _ => e.ownKind
  | _ => false

end Document

open Document (Element Content Data Node TextKind ValueMode)

section Texts

variable {c : Content} {around : List Node} {n : Nat} {d : Document} {e f : Element} {x : Data}
  {text : String} {mode : ValueMode}

theorem Document.Content.gather_of_childless {keep : Data → Option String}
    (h : c.children around n = []) : c.gather keep = c.topData.filterMap keep := by
  induction c with
  | nil => rfl
  | data x rest ih =>
    rw [gather, topData, List.filterMap_cons, ih h]
    cases keep x <;> rfl
  | element tag inner rest _ _ => cases h

theorem Document.Element.text_isEmpty_iff (h : e.children = []) :
    e.text.isEmpty = true ↔ ∀ x ∈ e.content.topData, ∀ s,
      countedText e.name x = some s → Text.isBlankText s = true := by
  rw [text_isEmpty, Content.gather_of_childless h, List.all_eq_true]
  constructor
  · intro hall x hx s hs
    exact hall s (List.mem_filterMap.mpr ⟨x, hx, hs⟩)
  · intro hall s hs
    obtain ⟨x, hx, hs⟩ := List.mem_filterMap.mp hs
    exact hall x hx s hs

theorem Document.any_ownKind_iff (e : Element) :
    e.parents.any Element.ownKind = true ↔ kindIn (e.parents.map Element.name) ≠ .plain := by
  rw [Ne, kindIn_eq_plain_iff]
  simp [Element.ownKind, Option.isSome_iff_ne_none]

theorem Document.counted_blank_iff (h : Content.parse mode text = .ok d.content)
    (he : e ∈ d.elements) (hx : x ∈ e.content.topData) :
    (∀ s, Element.countedText e.name x = some s → Text.isBlankText s = true) ↔
      (x.hasInk = true → e.overlooks x = true) := by
  have hkind := parse_kinds h he hx
  cases x with
  | text kind s =>
    change kind = _ at hkind
    rw [kindIn_cons] at hkind
    -- the element gives the kind itself, or leaves it to the elements around it
    cases hname : TextKind.ofName? e.name with
    | some own =>
      obtain rfl : kind = own := by simpa [hname] using hkind
      simp [Element.countedText, hname, Data.hasInk, Element.overlooks, Element.ownKind]
    | none =>
      rw [hname, Option.getD_none] at hkind
      by_cases hplain : kind = .plain
      · have hnone : ¬e.parents.any Element.ownKind = true := by
          rw [any_ownKind_iff, ← hkind]
          exact fun hne => hne hplain
        simp [Element.countedText, hname, hplain, Data.hasInk, Element.overlooks, hnone]
      · have hsome : e.parents.any Element.ownKind = true := by
          rw [any_ownKind_iff, ← hkind]
          exact hplain
        have hcounted : Element.countedText e.name (.text kind s) = none := by
          cases kind <;> simp_all [Element.countedText]
        simp [hcounted, Element.overlooks, Element.ownKind, hname, hsome]
  | cdata s =>
    cases hname : TextKind.ofName? e.name <;>
      simp [Element.countedText, hname, Data.hasInk, Element.overlooks, Element.ownKind]
  | _ =>
    cases hname : TextKind.ofName? e.name <;> simp [Element.countedText, hname, Data.hasInk]

theorem Place.mem_later_iff (he : e ∈ d.elements) :
    f ∈ (Place.element e).later d ↔
      f ∈ d.elements ∧ f.parent? = e.parent? ∧ e.index < f.index := by
  have hsiblings : f ∈ (Place.element e).siblings d ↔ f ∈ d.elements ∧ f.parent? = e.parent? := by
    unfold Place.siblings Place.holder?
    dsimp only
    cases hp : e.parent? with
    | none => exact Document.mem_topElements_iff
    | some p =>
      exact Document.mem_children_iff (Document.parent_mem he hp)
  rw [Place.later, List.mem_filter, hsiblings, decide_eq_true_eq, and_assoc]

end Texts

namespace Rules

variable {d : Document} {e : Element} {text : String} {mode : ValueMode}

/-- A column that an element follows under the same parent, that may hold something, and that holds
no element. -/
structure BareColumn (d : Document) (e : Element) : Prop where
  column : e.isColumn = true
  followed : ∃ f ∈ d.elements, f.parent? = e.parent? ∧ e.index < f.index
  mayHold : Document.isVoid e.name = false
  childless : ∀ f ∈ d.elements, f.parent? ≠ some e

instance (d : Document) (e : Element) : Decidable (BareColumn d e) :=
  decidable_of_iff (e.isColumn = true ∧
      (∃ f ∈ d.elements, f.parent? = e.parent? ∧ e.index < f.index) ∧
      Document.isVoid e.name = false ∧ ∀ f ∈ d.elements, f.parent? ≠ some e)
    ⟨fun h => ⟨h.1, h.2.1, h.2.2.1, h.2.2.2⟩,
      fun h => ⟨h.column, h.followed, h.mayHold, h.childless⟩⟩

/-- A bare column without text that is more than blanks. -/
def EmptySpacer (d : Document) (e : Element) : Prop :=
  BareColumn d e ∧ ∀ x ∈ e.content.topData, x.hasInk = false

/-- A bare column of whose text all that is more than blanks is overlooked. -/
def SeemsEmpty (d : Document) (e : Element) : Prop :=
  BareColumn d e ∧ ∀ x ∈ e.content.topData, x.hasInk = true → e.overlooks x = true

instance (d : Document) (e : Element) : Decidable (EmptySpacer d e) :=
  inferInstanceAs (Decidable (_ ∧ _))

instance (d : Document) (e : Element) : Decidable (SeemsEmpty d e) :=
  inferInstanceAs (Decidable (_ ∧ _))

def spacerReport (e : Element) : Report :=
  ⟨"Using empty spacer columns isn't necessary with Bootstrap's grid.", [e]⟩

theorem bareColumn_iff (he : e ∈ d.elements) :
    BareColumn d e ↔ e.isColumn = true ∧ Selector.last.accepts d e = false ∧
      Document.isVoid e.name = false ∧ e.children = [] := by
  have hfollowed : Selector.last.accepts d e = false ↔
      ∃ f ∈ d.elements, f.parent? = e.parent? ∧ e.index < f.index := by
    change ((Place.element e).later d).isEmpty = false ↔ _
    rw [List.isEmpty_eq_false_iff_exists_mem]
    exact exists_congr fun f => Place.mem_later_iff he
  have hchildless : e.children = [] ↔ ∀ f ∈ d.elements, f.parent? ≠ some e := by
    rw [List.eq_nil_iff_forall_not_mem]
    refine forall_congr' fun f => ?_
    rw [Document.mem_children_iff he, not_and]
  rw [hfollowed, hchildless]
  exact ⟨fun h => ⟨h.column, h.followed, h.mayHold, h.childless⟩,
    fun h => ⟨h.1, h.2.1, h.2.2.1, h.2.2.2⟩⟩

theorem seemsEmpty_iff (h : Content.parse mode text = .ok d.content) (he : e ∈ d.elements) :
    (e.isColumn && isSpacer d e) = true ↔ SeemsEmpty d e := by
  have htext : e.children = [] → (e.text.isEmpty = true ↔
      ∀ x ∈ e.content.topData, x.hasInk = true → e.overlooks x = true) := by
    intro hchildless
    rw [Element.text_isEmpty_iff hchildless]
    exact forall₂_congr fun x hx => Document.counted_blank_iff h he hx
  rw [SeemsEmpty, bareColumn_iff he, isSpacer]
  simp only [Bool.and_eq_true, Bool.not_eq_true', List.isEmpty_iff]
  constructor
  · rintro ⟨hcolumn, ⟨⟨hlast, hvoid⟩, hchildless⟩, hempty⟩
    exact ⟨⟨hcolumn, hlast, hvoid, hchildless⟩, (htext hchildless).mp hempty⟩
  · rintro ⟨⟨hcolumn, hlast, hvoid, hchildless⟩, hseems⟩
    exact ⟨hcolumn, ⟨⟨hlast, hvoid⟩, hchildless⟩, (htext hchildless).mpr hseems⟩

theorem check_emptySpacers (h : Content.parse mode text = .ok d.content) :
    emptySpacers.check d =
      .ok ((d.elements.filter fun e => SeemsEmpty d e).map spacerReport) := by
  have hfilter : (columns d).filter (isSpacer d) = d.elements.filter fun e => SeemsEmpty d e := by
    rw [columns_eq, List.filter_filter]
    apply List.filter_congr
    intro e he
    rw [Bool.eq_iff_iff, Bool.and_comm, seemsEmpty_iff h he, decide_eq_true_eq]
  change Outcome.ok (((columns d).filter (isSpacer d)).map spacerReport) = _
  rw [hfilter]

theorem reports_eq_iff {P Q : Element → Prop} [DecidablePred P] [DecidablePred Q]
    (es : List Element) :
    Outcome.ok ((es.filter fun e => P e).map spacerReport) =
        .ok ((es.filter fun e => Q e).map spacerReport) ↔ ∀ e ∈ es, P e ↔ Q e := by
  constructor
  · intro h e he
    have hinjective : Function.Injective spacerReport := by
      intro x y hxy
      exact List.singleton_inj.mp (congrArg Report.elements hxy)
    have hsame := hinjective.list_map (congrArg Outcome.reports h)
    have hmem : e ∈ (es.filter fun e => P e) ↔ e ∈ es.filter fun e => Q e := by rw [hsame]
    simpa [he] using hmem
  · intro h
    congr 2
    apply List.filter_congr
    intro e he
    rw [decide_eq_decide]
    exact h e he

theorem emptySpacer_seemsEmpty (h : EmptySpacer d e) : SeemsEmpty d e := by
  refine ⟨h.1, fun x hx hink => ?_⟩
  cases (h.2 x hx).symm.trans hink

/-- What seems empty is empty just if text that is there is not overlooked as a whole. -/
theorem seemsEmpty_iff_emptySpacer :
    (SeemsEmpty d e ↔ EmptySpacer d e) ↔
      (BareColumn d e → (∃ x ∈ e.content.topData, x.hasInk = true) →
        ∃ x ∈ e.content.topData, x.hasInk = true ∧ e.overlooks x = false) := by
  constructor
  · rintro hiff hbare ⟨x, hx, hink⟩
    by_contra hnone
    have hseems : SeemsEmpty d e := by
      refine ⟨hbare, fun y hy hyink => ?_⟩
      by_contra hseen
      exact hnone ⟨y, hy, hyink, by simpa using hseen⟩
    cases ((hiff.mp hseems).2 x hx).symm.trans hink
  · intro hseen
    refine ⟨fun h => ⟨h.1, fun x hx => ?_⟩, emptySpacer_seemsEmpty⟩
    by_contra hink
    obtain ⟨y, hy, hyink, hyseen⟩ := hseen h.1 ⟨x, hx, by simpa using hink⟩
    cases hyseen.symm.trans (h.2 y hy hyink)

/-- In a parsed document the rule reports, in document order and one by one, the bare columns that
seem empty. These are the empty ones just where no bare column has text that is all overlooked. -/
theorem spacers_reported_iff (h : Content.parse mode text = .ok d.content) :
    emptySpacers.check d = .ok ((d.elements.filter fun e => SeemsEmpty d e).map spacerReport) ∧
      (emptySpacers.check d = .ok ((d.elements.filter fun e => EmptySpacer d e).map spacerReport) ↔
        ∀ e ∈ d.elements, BareColumn d e → (∃ x ∈ e.content.topData, x.hasInk = true) →
          ∃ x ∈ e.content.topData, x.hasInk = true ∧ e.overlooks x = false) := by
  refine ⟨check_emptySpacers h, ?_⟩
  rw [check_emptySpacers h, reports_eq_iff]
  exact forall₂_congr fun e _ => seemsEmpty_iff_emptySpacer

/-- A column with a blank and a comment, one with ruby text of its own, and an empty one at the
end. -/
def rubyColumnsText : String :=
  "<b><i class=\"col-1\"> <!--x--></i><rt class=\"col-2\">x</rt><i class=\"col-3\"></i></b>"

def rubyColumns : Document where
  content :=
    .element ⟨"b", [], some ⟨1, 0⟩⟩
      (.element ⟨"i", [("class", .words ["col-1"])], some ⟨1, 3⟩⟩
        (.data (.text .plain " ") (.data (.comment "x") .nil))
        (.element ⟨"rt", [("class", .words ["col-2"])], some ⟨1, 33⟩⟩
          (.data (.text .rubyText "x") .nil)
          (.element ⟨"i", [("class", .words ["col-3"])], some ⟨1, 57⟩⟩ .nil .nil)))
      .nil
  source := some rubyColumnsText

theorem spacers_reported_iff_ruby :
    Content.parse .split rubyColumnsText = .ok rubyColumns.content ∧
      emptySpacers.check rubyColumns =
        .ok ((rubyColumns.elements.filter fun e => EmptySpacer rubyColumns e).map spacerReport) ∧
      (rubyColumns.elements.filter fun e => EmptySpacer rubyColumns e).map (fun e => e.index) =
        [1] := by
  have hparse : Content.parse .split rubyColumnsText = .ok rubyColumns.content := by
    decide +kernel
  refine ⟨hparse, (spacers_reported_iff hparse).2.mpr ?_, ?_⟩
  · decide +kernel
  · decide +kernel

/-- A column with text inside a template, and after it a template that is a column and holds a
character data section. -/
def templateColumnsText : String :=
  "<template><div class=\"col-3\">x</div><p></p></template>" ++
    "<template class=\"col-9\"><![CDATA[x]]></template><p></p>"

def templateColumns : Document where
  content :=
    .element ⟨"template", [], some ⟨1, 0⟩⟩
      (.element ⟨"div", [("class", .words ["col-3"])], some ⟨1, 10⟩⟩
        (.data (.text .template "x") .nil)
        (.element ⟨"p", [], some ⟨1, 36⟩⟩ .nil .nil))
      (.element ⟨"template", [("class", .words ["col-9"])], some ⟨1, 54⟩⟩
        (.data (.cdata "x") .nil)
        (.element ⟨"p", [], some ⟨1, 102⟩⟩ .nil .nil))
  source := some templateColumnsText

theorem overlooked_text_reported :
    (Document.read none templateColumnsText).toOption = some templateColumns ∧
      (templateColumns.elements.filter fun e => EmptySpacer templateColumns e) = [] ∧
      (emptySpacers.check templateColumns).reports.map (fun r => r.elements.map fun e => e.index) =
        [[1], [3]] := by
  decide +kernel

end Rules

end MarkupLint
