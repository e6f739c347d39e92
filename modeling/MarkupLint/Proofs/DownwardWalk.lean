import MarkupLint.Proofs.FindingOrder

/-! # One walk from the top down

Eight rules look at the elements around an element, each upward from the element itself. A single
walk from the top of the document finds the same elements if it carries along what it has passed.
What it carries is settled by the elements around the one it stands at, by induction on these, and
what it meets are the elements of the document, by induction on the tree.
-/
namespace MarkupLint

open Document (Element Content Node Tag)

namespace Document

def Tag.alone (t : Tag) : Element := ⟨⟨0, t, .nil⟩, []⟩

def Tag.sees (t : Tag) (c : String) : Bool := (Place.element t.alone).classes.contains c

end Document

/-- What a walk carries along its path: how many cards it has passed, which of the other holders it
has passed, and whether the element passed last is a column, if there is one. -/
structure Trail where
  cards : Nat := 0
  container : Bool := false
  feedback : Bool := false
  media : Bool := false
  navbar : Bool := false
  column : Option Bool := none
  deriving DecidableEq, Repr

def Trail.enter (w : Trail) (t : Tag) : Trail where
  cards := w.cards + if t.sees "card" then 1 else 0
  container := w.container || Rules.isContainer t.alone
  feedback := w.feedback || (t.sees "form-group" && t.sees "has-feedback")
  media := w.media || t.sees "media"
  navbar := w.navbar || t.sees "navbar"
  column := some t.alone.isColumn

structure Stop where
  number : Nat
  tag : Tag
  trail : Trail
  deriving DecidableEq, Repr

namespace Stop

def isOutsideRow (s : Stop) : Bool :=
  s.tag.sees "row" && s.trail.column = some false && !s.trail.container

/-- A part of a card for which the number of cards, itself included, is not one. -/
def isStrayCardPart (part : String) (s : Stop) : Bool :=
  s.tag.sees part && (s.trail.enter s.tag).cards ≠ 1

def isStrayFeedback (s : Stop) : Bool :=
  s.tag.sees "form-control-feedback" && !(s.trail.enter s.tag).feedback

def isStrayMediaPart (s : Stop) : Bool :=
  (s.tag.sees "media-left" || s.tag.sees "media-right") && !s.trail.media

def isStrayNavbarPart (s : Stop) : Bool :=
  (s.tag.sees "navbar-left" || s.tag.sees "navbar-right") && !s.trail.navbar

end Stop

def Document.Content.walk (w : Trail) (n : Nat) : Content → List Stop
  | nil => []
  | data _ rest => rest.walk w n
  | element tag inner rest =>
    ⟨n, tag, w⟩ :: (inner.walk (w.enter tag) (n + 1) ++ rest.walk w (n + 1 + inner.size))

def Rule.reported (r : Rule) (d : Document) : List Element :=
  (r.check d).reports.flatMap Report.elements

/-- A rule goes through a document and reports, at most once, just the elements at which a test
holds in one walk from the top down, in the order of the walk. -/
structure FoundByWalk (d : Document) (r : Rule) (test : Stop → Bool) : Prop where
  complete : (r.check d).fault = none
  once : (r.check d).reports.length ≤ 1
  own : ∀ e ∈ r.reported d, e ∈ d.elements
  found : (r.reported d).map (fun e => (e.index, e.tag)) =
    ((d.content.walk {} 0).filter test).map fun s => (s.number, s.tag)

section Trails

variable {d : Document} {e : Element} {ns : List Node}

def trailOf : List Node → Trail
  | [] => {}
  | n :: outer => (trailOf outer).enter n.tag

def Document.Element.stop (e : Element) : Stop := ⟨e.index, e.tag, trailOf e.ancestors⟩

theorem Document.Content.walk_eq (c : Content) (around : List Node) (n : Nat) :
    c.walk (trailOf around) n = (c.elements around n).map Element.stop := by
  induction c generalizing around n with
  | nil => rfl
  | data _ rest ih => exact ih around n
  | element tag inner rest hinner hrest =>
    have henter := hinner (⟨n, tag, inner⟩ :: around) (n + 1)
    rw [trailOf] at henter
    rw [walk, elements, List.map_cons, List.map_append, henter, hrest]
    rfl

/-- A mark that every tag of a kind sets tells whether an element of the kind was passed. -/
theorem trailOf_any {mark : Trail → Bool} {test : Element → Bool} (hstart : mark {} = false)
    (henter : ∀ w n outer, mark (w.enter n.tag) = (mark w || test ⟨n, outer⟩)) (ns : List Node) :
    mark (trailOf ns) = (Document.enclosing ns).any test := by
  induction ns with
  | nil => exact hstart
  | cons n outer ih =>
    rw [trailOf, henter _ n outer, ih, Bool.or_comm, Document.enclosing, List.any_cons]

theorem trailOf_cards (d : Document) (ns : List Node) :
    (trailOf ns).cards =
      (Document.enclosing ns).countP fun e => (Selector.cls "card").accepts d e := by
  induction ns with
  | nil => rfl
  | cons n outer ih =>
    rw [Document.enclosing, List.countP_cons, ← ih]
    rfl

theorem Document.Element.stop_column (e : Element) :
    e.stop.trail.column = e.parent?.map Element.isColumn := by
  obtain ⟨node, ancestors⟩ := e
  cases ancestors <;> rfl

theorem Document.isSome_closest (d : Document) (s : Selector) (e : Element) :
    (d.closest? s e).isSome = (e :: e.parents).any fun f => s.accepts d f := by
  rw [closest?, List.any_eq, Bool.eq_iff_iff]
  simp

theorem Rules.standsWithin_eq (d : Document) (s : Selector) (e : Element) :
    standsWithin d s e = e.parents.any fun f => s.accepts d f := by
  obtain ⟨node, ancestors⟩ := e
  cases ancestors with
  | nil => rfl
  | cons n outer => exact d.isSome_closest s ⟨n, outer⟩

end Trails

section Rules

variable {id name message : String} {s : Selector} {bad : Document → Element → Bool}
  {test : Stop → Bool} {d : Document}

theorem Document.walk_eq (d : Document) : d.content.walk {} 0 = d.elements.map Element.stop :=
  d.content.walk_eq [] 0

theorem Rule.reported_offenders (d : Document) :
    (Rule.offenders id name message s bad).reported d = (d.select s).filter (bad d) := by
  dsimp only [reported, offenders, total, Outcome.ok, reportAny]
  cases (d.select s).filter (bad d) <;> simp

theorem Rule.offenders_foundByWalk
    (h : ∀ e : Element, (s.holds d 0 (.element e) && bad d e) = test e.stop) :
    FoundByWalk d (Rule.offenders id name message s bad) test := by
  have hreported : (Rule.offenders id name message s bad).reported d =
      d.elements.filter (test ∘ Element.stop) := by
    rw [reported_offenders, Document.select, List.filter_filter]
    apply List.filter_congr
    intro e _
    rw [Bool.and_comm, h]
    rfl
  refine ⟨rfl, ?_, ?_, ?_⟩
  · dsimp only [offenders, total, Outcome.ok, reportAny]
    split <;> simp
  · intro e he
    rw [hreported] at he
    exact (List.mem_filter.mp he).1
  · rw [hreported, d.walk_eq, List.filter_map, List.map_map]
    rfl

namespace Rules

theorem rowsOutside_foundByWalk (d : Document) : FoundByWalk d rowsOutside Stop.isOutsideRow := by
  apply Rule.offenders_foundByWalk
  intro e
  have hcontainer : e.stop.trail.container = e.parents.any isContainer :=
    trailOf_any rfl (fun _ _ _ => rfl) e.ancestors
  have hrow : e.stop.tag.sees "row" = (Selector.cls "row").holds d 0 (.element e) := rfl
  rw [Stop.isOutsideRow, hcontainer, e.stop_column, hrow, Bool.and_assoc]
  congr 1
  unfold isOutsideRow
  cases e.parent? with
  | none => rfl
  | some p => cases p.isColumn <;> simp

theorem cardPart_foundByWalk (d : Document) (id name part message : String) :
    FoundByWalk d (cardPart id name part message) (Stop.isStrayCardPart part) := by
  apply Rule.offenders_foundByWalk
  intro e
  have hcards : (e.stop.trail.enter e.stop.tag).cards = d.countFrom (Selector.cls "card") e :=
    trailOf_cards d (e.toNode :: e.ancestors)
  rw [Stop.isStrayCardPart, hcards]
  rfl

theorem feedback_foundByWalk (d : Document) : FoundByWalk d feedback Stop.isStrayFeedback := by
  apply Rule.offenders_foundByWalk
  intro e
  have hgroup : (e.stop.trail.enter e.stop.tag).feedback =
      (e :: e.parents).any fun f =>
        (Selector.cls "form-group" &&& Selector.cls "has-feedback").accepts d f :=
    trailOf_any rfl (fun _ _ _ => rfl) (e.toNode :: e.ancestors)
  rw [Stop.isStrayFeedback, hgroup, ← d.isSome_closest, Option.not_isSome]
  rfl

theorem mediaPulls_foundByWalk (d : Document) : FoundByWalk d mediaPulls Stop.isStrayMediaPart := by
  apply Rule.offenders_foundByWalk
  intro e
  have hmedia : e.stop.trail.media = e.parents.any fun f => (Selector.cls "media").accepts d f :=
    trailOf_any rfl (fun _ _ _ => rfl) e.ancestors
  rw [Stop.isStrayMediaPart, hmedia, ← standsWithin_eq]
  rfl

theorem navbarPulls_foundByWalk (d : Document) :
    FoundByWalk d navbarPulls Stop.isStrayNavbarPart := by
  apply Rule.offenders_foundByWalk
  intro e
  have hnavbar : e.stop.trail.navbar = e.parents.any fun f => (Selector.cls "navbar").accepts d f :=
    trailOf_any rfl (fun _ _ _ => rfl) e.ancestors
  rw [Stop.isStrayNavbarPart, hnavbar, ← standsWithin_eq]
  rfl

end Rules

end Rules

/-- One walk from the top down finds, in document order, just the elements that the rules on rows
outside of containers, on the parts of cards, on feedback, on media objects and on navigation bars
report by looking upward from each element. -/
theorem upward_rules_are_one_walk (d : Document) :
    FoundByWalk d Rules.rowsOutside Stop.isOutsideRow ∧
      FoundByWalk d Rules.cardBody (Stop.isStrayCardPart "card-body") ∧
      FoundByWalk d Rules.cardHeader (Stop.isStrayCardPart "card-header") ∧
      FoundByWalk d Rules.cardFooter (Stop.isStrayCardPart "card-footer") ∧
      FoundByWalk d Rules.cardTitle (Stop.isStrayCardPart "card-title") ∧
      FoundByWalk d Rules.feedback Stop.isStrayFeedback ∧
      FoundByWalk d Rules.mediaPulls Stop.isStrayMediaPart ∧
      FoundByWalk d Rules.navbarPulls Stop.isStrayNavbarPart :=
  ⟨Rules.rowsOutside_foundByWalk d, Rules.cardPart_foundByWalk d _ _ _ _,
    Rules.cardPart_foundByWalk d _ _ _ _, Rules.cardPart_foundByWalk d _ _ _ _,
    Rules.cardPart_foundByWalk d _ _ _ _, Rules.feedback_foundByWalk d,
    Rules.mediaPulls_foundByWalk d, Rules.navbarPulls_foundByWalk d⟩

end MarkupLint
