import Mathlib.Data.List.Forall2
import MarkupLint.Rules.Component
import MarkupLint.Proofs.Kinship
import MarkupLint.Proofs.WrittenSelectors

/-! # Questions about the elements around an element

Whoever follows the parents of an element comes to the top, and passes exactly the elements that it
stands inside of. The nearest match, the number of matches and the question whether anything around
the element matches are asked on this way, so that they agree. A query is tested on one element
after the other, and a test may fail. The nearest match then fails only if it is not found before,
while a number of matches fails in any case.
-/
namespace MarkupLint

open Document (Element)

variable {d : Document} {e f p : Element} {es above : List Element} {q : Query} {s : Selector}
  {passed : Element → Prop}

namespace Document

section Chain

/-- The elements that are passed when the parents of an element are followed up to the top. -/
inductive Climb : Element → List Element → Prop where
  | top {e : Element} (h : e.parent? = none) : Climb e []
  | up {e p : Element} {above : List Element} (h : e.parent? = some p) (rest : Climb p above) :
      Climb e (p :: above)

/-- A list holds the elements that an element stands inside of, from the inside out. -/
structure Lineage (d : Document) (e : Element) (chain : List Element) : Prop where
  climbed : ∀ above, Climb e above ↔ above = chain
  members : ∀ p, p ∈ chain ↔ p ∈ d.elements ∧ e ∈ p.descendants
  nested : (e :: chain).Pairwise fun x p => x ∈ p.descendants
  order : d.InOrder (e :: chain).reverse

theorem Element.parents_of_top (h : e.parent? = none) : e.parents = [] := by
  rw [parents, parent_eq_none_iff.mp h]
  rfl

theorem Element.parents_of_parent (h : e.parent? = some p) : e.parents = p :: p.parents := by
  rw [parents, parent_eq_some_iff.mp h]
  rfl

theorem climb_iff : Climb e above ↔ above = e.parents := by
  constructor
  · intro h
    induction h with
    | top h => exact (Element.parents_of_top h).symm
    | up h _ ih => rw [Element.parents_of_parent h, ih]
  · rintro rfl
    obtain ⟨node, ancestors⟩ := e
    induction ancestors generalizing node with
    | nil => exact .top rfl
    | cons n outer ih => exact .up rfl (ih n)

theorem mem_parents_iff_inside (he : e ∈ d.elements) :
    p ∈ e.parents ↔ p ∈ d.elements ∧ e ∈ p.descendants := by
  constructor
  · intro hp
    have hmem := (parent_spans he hp).1
    exact ⟨hmem, (mem_descendants_iff hmem).mpr ⟨he, hp⟩⟩
  · rintro ⟨hp, hinside⟩
    exact ((mem_descendants_iff hp).mp hinside).2

theorem Climb.inside (h : Climb e above) (he : e ∈ d.elements) (hp : p ∈ above) :
    e ∈ p.descendants := by
  rw [climb_iff.mp h] at hp
  exact ((mem_parents_iff_inside he).mp hp).2

theorem Climb.nested (h : Climb e above) (he : e ∈ d.elements) :
    (e :: above).Pairwise fun x p => x ∈ p.descendants := by
  induction h with
  | top _ => exact List.pairwise_singleton _ _
  | up h rest ih =>
    have hrest := ih (parent_mem he h)
    exact List.pairwise_cons.mpr ⟨fun x hx => (Climb.up h rest).inside he hx, hrest⟩

theorem lineage_parents (he : e ∈ d.elements) : d.Lineage e e.parents := by
  have hnested := (climb_iff.mpr rfl : Climb e e.parents).nested he
  refine ⟨fun above => climb_iff, fun p => mem_parents_iff_inside he, hnested, ?_⟩
  have hmem : ∀ x ∈ e :: e.parents, x ∈ d.elements := by
    intro x hx
    rcases List.mem_cons.mp hx with rfl | hx
    · exact he
    · exact ((mem_parents_iff_inside he).mp hx).1
  refine inOrder_iff.mpr ⟨fun x hx => hmem x (List.mem_reverse.mp hx), ?_⟩
  rw [List.pairwise_reverse]
  -- what stands inside an element has a larger number
  refine hnested.imp_of_mem ?_
  intro x p hx hp hinside
  exact (parent_spans (hmem x hx) ((mem_descendants_iff (hmem p hp)).mp hinside).2).2.1

end Chain

def searchWithin (d : Document) (q : Query) (e : Element) : Except SearchFault Bool :=
  match e.parent? with
  | none => .ok false
  | some p => (d.searchClosest? q p).map Option.isSome

end Document

/-- An element is met in a list after elements of one kind only. -/
def MetAfter (passed : Element → Prop) (es : List Element) (e : Element) : Prop :=
  ∃ before after, es = before ++ e :: after ∧ ∀ x ∈ before, passed x

theorem metAfter_self (passed : Element → Prop) (e : Element) (es : List Element) :
    MetAfter passed (e :: es) e :=
  ⟨[], es, rfl, List.forall_mem_nil _⟩

theorem MetAfter.cons (h : MetAfter passed es f) (he : passed e) : MetAfter passed (e :: es) f := by
  obtain ⟨before, after, rfl, hbefore⟩ := h
  exact ⟨e :: before, after, rfl, List.forall_mem_cons.mpr ⟨he, hbefore⟩⟩

theorem MetAfter.mem (h : MetAfter passed es f) : f ∈ es := by
  obtain ⟨before, after, rfl, -⟩ := h
  simp

namespace Query

def Answers (q : Query) (d : Document) (e : Element) : Prop := ∃ holds, q.accepts d e = .ok holds

def affirms (q : Query) (d : Document) (e : Element) : Bool :=
  match q.accepts d e with
  | .ok holds => holds
  | .error _ => false

/-- What comes of looking for the first match in a list: it is found, there is none, or a test
before it fails. -/
def FindsFirst (q : Query) (d : Document) (es : List Element) :
    Except SearchFault (Option Element) → Prop
  | .ok (some f) => MetAfter (fun x => q.accepts d x = .ok false) es f ∧ q.accepts d f = .ok true
  | .ok none => ∀ x ∈ es, q.accepts d x = .ok false
  | .error fault =>
    ∃ f, MetAfter (fun x => q.accepts d x = .ok false) es f ∧ q.accepts d f = .error fault

/-- What comes of counting the matches in a list: their number if all tests answer, or the fault of
the first test that fails. -/
def CountsAll (q : Query) (d : Document) (es : List Element) : Except SearchFault Nat → Prop
  | .ok n => (∀ x ∈ es, q.Answers d x) ∧ n = es.countP (q.affirms d)
  | .error fault => ∃ f, MetAfter (q.Answers d) es f ∧ q.accepts d f = .error fault

section Outcomes

variable {found : Except SearchFault (Option Element)} {count : Except SearchFault Nat}
  {holds : Bool}

theorem affirms_of_ok (h : q.accepts d e = .ok holds) : q.affirms d e = holds := by
  rw [affirms, h]

theorem FindsFirst.cons (h : q.FindsFirst d es found) (e : Element) :
    q.FindsFirst d (e :: es)
      (q.accepts d e >>= fun holds => if holds then .ok (some e) else found) := by
  cases he : q.accepts d e with
  | error fault => exact ⟨e, metAfter_self _ e es, he⟩
  | ok holds =>
    cases holds with
    | true => exact ⟨metAfter_self _ e es, he⟩
    | false =>
      change q.FindsFirst d (e :: es) found
      rcases found with fault | _ | f
      · obtain ⟨f, hmet, hf⟩ := h
        exact ⟨f, hmet.cons he, hf⟩
      · exact List.forall_mem_cons.mpr ⟨he, h⟩
      · exact ⟨h.1.cons he, h.2⟩

theorem CountsAll.cons (h : q.CountsAll d es count) (e : Element) :
    q.CountsAll d (e :: es)
      (q.accepts d e >>= fun holds => count.map fun n => n + holds.toNat) := by
  cases he : q.accepts d e with
  | error fault => exact ⟨e, metAfter_self _ e es, he⟩
  | ok holds =>
    change q.CountsAll d (e :: es) (count.map fun n => n + holds.toNat)
    rcases count with fault | n
    · obtain ⟨f, hmet, hf⟩ := h
      exact ⟨f, hmet.cons ⟨holds, he⟩, hf⟩
    · obtain ⟨hall, rfl⟩ := h
      refine ⟨List.forall_mem_cons.mpr ⟨⟨holds, he⟩, hall⟩, ?_⟩
      rw [List.countP_cons, affirms_of_ok he]
      cases holds <;> rfl

theorem not_all_denied {answer : Except SearchFault Bool} (hf : f ∈ es)
    (h : q.accepts d f = answer) (hne : answer ≠ .ok false) :
    ¬∀ x ∈ es, q.accepts d x = .ok false :=
  fun hall => hne (h.symm.trans (hall f hf))

theorem FindsFirst.none_iff (h : q.FindsFirst d es found) :
    found = .ok none ↔ ∀ x ∈ es, q.accepts d x = .ok false := by
  rcases found with fault | _ | f
  · obtain ⟨f, hmet, hf⟩ := h
    exact iff_of_false nofun (not_all_denied hmet.mem hf nofun)
  · exact iff_of_true rfl h
  · exact iff_of_false nofun (not_all_denied h.1.mem h.2 nofun)

theorem CountsAll.zero_iff (h : q.CountsAll d es count) :
    count = .ok 0 ↔ ∀ x ∈ es, q.accepts d x = .ok false := by
  rcases count with fault | n
  · obtain ⟨f, hmet, hf⟩ := h
    exact iff_of_false nofun (not_all_denied hmet.mem hf nofun)
  · obtain ⟨hall, rfl⟩ := h
    rw [Except.ok.injEq, List.countP_eq_zero]
    refine forall₂_congr fun x hx => ?_
    obtain ⟨holds, hx⟩ := hall x hx
    rw [affirms_of_ok hx, hx]
    simp

theorem FindsFirst.of_answers (h : q.FindsFirst d es found) (hall : ∀ x ∈ es, q.Answers d x) :
    ∃ first, found = .ok first := by
  rcases found with fault | first
  · obtain ⟨f, hmet, hf⟩ := h
    obtain ⟨holds, hok⟩ := hall f hmet.mem
    cases hf.symm.trans hok
  · exact ⟨first, rfl⟩

end Outcomes

end Query

section Steps

variable {α ε : Type} (test : α → Except ε Bool)

theorem findM_cons (a : α) (as : List α) :
    (a :: as).findM? test = test a >>= fun holds =>
      if holds then .ok (some a) else as.findM? test := by
  rw [List.findM?]
  congr 1
  funext holds
  cases holds <;> rfl

theorem length_filterAuxM (as kept : List α) :
    (List.filterAuxM test as kept).map List.length =
      ((List.filterAuxM test as []).map List.length).map fun n => n + kept.length := by
  induction as generalizing kept with
  | nil => exact congrArg Except.ok (Nat.zero_add kept.length).symm
  | cons a as ih =>
    rw [List.filterAuxM, List.filterAuxM]
    cases test a with
    | error fault => rfl
    | ok holds =>
      change (List.filterAuxM test as (cond holds (a :: kept) kept)).map List.length =
        ((List.filterAuxM test as (cond holds [a] [])).map List.length).map fun n => n + kept.length
      rw [ih, ih (cond holds [a] [])]
      cases List.filterAuxM test as [] with
      | error fault => rfl
      | ok rest =>
        refine congrArg Except.ok ?_
        cases holds
        · rfl
        · simp only [cond_true, List.length_cons, List.length_nil]
          omega

theorem length_filterM (as : List α) :
    (as.filterM test).map List.length = (List.filterAuxM test as []).map List.length := by
  rw [List.filterM]
  cases List.filterAuxM test as [] with
  | error fault => rfl
  | ok rest => exact congrArg Except.ok List.length_reverse

theorem length_filterM_cons (a : α) (as : List α) :
    ((a :: as).filterM test).map List.length = test a >>= fun holds =>
      ((as.filterM test).map List.length).map fun n => n + holds.toNat := by
  rw [length_filterM, length_filterM, List.filterAuxM]
  cases test a with
  | error fault => rfl
  | ok holds =>
    change (List.filterAuxM test as (cond holds [a] [])).map List.length = _
    rw [length_filterAuxM]
    cases holds <;> rfl

end Steps

namespace Document

theorem searchClosest_top (h : e.parent? = none) :
    d.searchClosest? q e = q.accepts d e >>= fun holds =>
      if holds then .ok (some e) else .ok none := by
  rw [searchClosest?, Element.parents_of_top h, findM_cons]
  rfl

theorem searchClosest_up (h : e.parent? = some p) :
    d.searchClosest? q e = q.accepts d e >>= fun holds =>
      if holds then .ok (some e) else d.searchClosest? q p := by
  rw [searchClosest?, Element.parents_of_parent h, findM_cons]
  rfl

theorem searchCountFrom_eq (d : Document) (q : Query) (e : Element) :
    d.searchCountFrom q e = q.accepts d e >>= fun holds =>
      (d.searchCountAround q e).map fun n => n + holds.toNat :=
  length_filterM_cons _ e e.parents

theorem searchCountAround_top (h : e.parent? = none) : d.searchCountAround q e = .ok 0 := by
  rw [searchCountAround, Element.parents_of_top h]
  rfl

theorem searchCountAround_up (h : e.parent? = some p) :
    d.searchCountAround q e = d.searchCountFrom q p := by
  rw [searchCountAround, Element.parents_of_parent h]
  rfl

theorem searchWithin_top (h : e.parent? = none) : d.searchWithin q e = .ok false := by
  rw [searchWithin, h]

theorem searchWithin_up (h : e.parent? = some p) :
    d.searchWithin q e = (d.searchClosest? q p).map Option.isSome := by
  rw [searchWithin, h]

theorem Climb.findsFirst (h : Climb e above) :
    q.FindsFirst d (e :: above) (d.searchClosest? q e) := by
  induction h with
  | top h =>
    rw [searchClosest_top h]
    have hnone : q.FindsFirst d [] (.ok none) := List.forall_mem_nil _
    exact hnone.cons _
  | up h _ ih =>
    rw [searchClosest_up h]
    exact ih.cons _

theorem Climb.countsAll (h : Climb e above) :
    q.CountsAll d above (d.searchCountAround q e) ∧
      q.CountsAll d (e :: above) (d.searchCountFrom q e) := by
  have hfrom : ∀ {e above}, q.CountsAll d above (d.searchCountAround q e) →
      q.CountsAll d (e :: above) (d.searchCountFrom q e) := by
    intro e above haround
    rw [searchCountFrom_eq]
    exact haround.cons e
  induction h with
  | top h =>
    have hnone : q.CountsAll d [] (.ok 0) := ⟨List.forall_mem_nil _, rfl⟩
    rw [← searchCountAround_top h] at hnone
    exact ⟨hnone, hfrom hnone⟩
  | up h _ ih =>
    have haround := ih.2
    rw [← searchCountAround_up h] at haround
    exact ⟨haround, hfrom haround⟩

theorem Climb.within_false_iff (h : Climb e above) :
    d.searchWithin q e = .ok false ↔ ∀ x ∈ above, q.accepts d x = .ok false := by
  cases h with
  | top h => exact iff_of_true (searchWithin_top h) (List.forall_mem_nil _)
  | up h rest =>
    rw [searchWithin_up h, ← rest.findsFirst.none_iff]
    rcases d.searchClosest? q _ with fault | _ | f
    · exact iff_of_false nofun nofun
    · exact iff_of_true rfl rfl
    · exact iff_of_false nofun nofun

theorem Climb.within_of_answers (h : Climb e above) (hall : ∀ x ∈ above, q.Answers d x) :
    ∃ holds, d.searchWithin q e = .ok holds := by
  cases h with
  | top h => exact ⟨false, searchWithin_top h⟩
  | up h rest =>
    obtain ⟨first, hfirst⟩ := rest.findsFirst.of_answers hall
    exact ⟨first.isSome, by rw [searchWithin_up h, hfirst]; rfl⟩

theorem within_true_iff {n : Nat} (hn : d.searchCountAround q e = .ok n) :
    d.searchWithin q e = .ok true ↔ 0 < n := by
  have hclimb : Climb e e.parents := climb_iff.mpr rfl
  have hcount : q.CountsAll d e.parents (d.searchCountAround q e) := hclimb.countsAll.1
  have hfalse := hclimb.within_false_iff.trans hcount.zero_iff.symm
  rw [hn] at hcount hfalse
  obtain ⟨holds, hholds⟩ := hclimb.within_of_answers hcount.1
  rw [hholds] at hfalse ⊢
  cases holds with
  | false =>
    have hzero : n = 0 := Except.ok.inj (hfalse.mp rfl)
    exact iff_of_false nofun (by omega)
  | true =>
    have hne : n ≠ 0 := fun hzero => nomatch hfalse.mpr (congrArg Except.ok hzero)
    exact iff_of_true rfl (by omega)

end Document

section Formulas

theorem Query.Means.accepts_eq (h : q.Means s) (d : Document) (e : Element) :
    q.accepts d e = .ok (s.accepts d e) := by
  rw [accepts, h]
  rfl

theorem Query.CountsAll.of_means {count : Except SearchFault Nat} (h : q.CountsAll d es count)
    (hs : q.Means s) : count = .ok (es.countP fun x => s.accepts d x) := by
  rcases count with fault | n
  · obtain ⟨f, -, hf⟩ := h
    cases hf.symm.trans (hs.accepts_eq d f)
  · rw [h.2]
    refine congrArg Except.ok (List.countP_congr fun x _ => ?_)
    rw [affirms_of_ok (hs.accepts_eq d x)]

theorem Document.searchClosest_of_means (hs : q.Means s) (d : Document) (e : Element) :
    d.searchClosest? q e = .ok (d.closest? s e) := by
  have htests : (fun f => q.accepts d f) = fun f => pure (s.accepts d f) :=
    funext fun f => hs.accepts_eq d f
  rw [searchClosest?, htests, List.findM?_pure]
  rfl

theorem Document.searchWithin_of_means (hs : q.Means s) (d : Document) (e : Element) :
    d.searchWithin q e = .ok (Rules.standsWithin d s e) := by
  rw [Rules.standsWithin]
  cases h : e.parent? with
  | none => exact searchWithin_top h
  | some p =>
    rw [searchWithin_up h, searchClosest_of_means hs]
    rfl

end Formulas

/-- The elements around an element are those that it stands inside of, from the inside out, and
nothing else is passed on the way to the top. The nearest match is the first one on the way that
begins with the element, and the matches are counted on that way or on its part above the element;
whichever test fails first is what comes of it. There is no nearest match just when none is counted
from the element on, and nothing around the element matches just when none is counted around it; if
they can be counted, something matches just when there are any. The formulas of the rules never
fail, and for them all of these are what the rules ask. -/
theorem ancestor_queries_agree {d : Document} {e : Element} (he : e ∈ d.elements) (q : Query) :
    d.Lineage e e.parents ∧
      q.FindsFirst d (e :: e.parents) (d.searchClosest? q e) ∧
      q.CountsAll d (e :: e.parents) (d.searchCountFrom q e) ∧
      q.CountsAll d e.parents (d.searchCountAround q e) ∧
      (d.searchClosest? q e = .ok none ↔ d.searchCountFrom q e = .ok 0) ∧
      (d.searchWithin q e = .ok false ↔ d.searchCountAround q e = .ok 0) ∧
      (∀ n, d.searchCountAround q e = .ok n → (d.searchWithin q e = .ok true ↔ 0 < n)) ∧
      ∀ s, q.Means s →
        d.searchClosest? q e = .ok (d.closest? s e) ∧
        d.searchCountFrom q e = .ok (d.countFrom s e) ∧
        d.searchCountAround q e = .ok (d.countAround s e) ∧
        d.searchWithin q e = .ok (Rules.standsWithin d s e) := by
  have hclimb : Document.Climb e e.parents := Document.climb_iff.mpr rfl
  have hfound : q.FindsFirst d (e :: e.parents) (d.searchClosest? q e) := hclimb.findsFirst
  obtain ⟨haround, hfrom⟩ : q.CountsAll d e.parents (d.searchCountAround q e) ∧
      q.CountsAll d (e :: e.parents) (d.searchCountFrom q e) := hclimb.countsAll
  refine ⟨Document.lineage_parents he, hfound, hfrom, haround, ?_, ?_, ?_, ?_⟩
  · rw [hfound.none_iff, hfrom.zero_iff]
  · rw [hclimb.within_false_iff, haround.zero_iff]
  · exact fun n hn => Document.within_true_iff hn
  · intro s hs
    exact ⟨Document.searchClosest_of_means hs d e, hfrom.of_means hs, haround.of_means hs,
      Document.searchWithin_of_means hs d e⟩

def nestedCards : Document :=
  .ofContent (.element ⟨"div", [("class", .words ["card"])], none⟩
    (.element ⟨"p", [("class", .words ["card", "x"])], none⟩
      (.element ⟨"b", [("class", .words ["x"])], none⟩ .nil .nil) .nil) .nil)

theorem ancestor_queries_agree_nested_cards :
    nestedCards.elements.get ⟨2, by decide⟩ ∈ nestedCards.elements ∧
      nestedCards.Lineage (nestedCards.elements.get ⟨2, by decide⟩)
        [nestedCards.elements.get ⟨1, by decide⟩, nestedCards.elements.get ⟨0, by decide⟩] ∧
      nestedCards.searchClosest? (.plain (.cls "card")) (nestedCards.elements.get ⟨2, by decide⟩) =
        .ok (some (nestedCards.elements.get ⟨1, by decide⟩)) ∧
      nestedCards.searchCountAround (.plain (.cls "card"))
        (nestedCards.elements.get ⟨2, by decide⟩) = .ok 2 ∧
      nestedCards.searchWithin (.plain (.cls "card")) (nestedCards.elements.get ⟨2, by decide⟩) =
        .ok true := by
  have hmem := List.get_mem nestedCards.elements ⟨2, by decide⟩
  obtain ⟨hlineage, -, -, -, -, -, hwithin, hformula⟩ :=
    ancestor_queries_agree hmem (.plain (.cls "card"))
  obtain ⟨hclosest, -, haround, -⟩ := hformula _ (Query.Means.plain _)
  have hcount : nestedCards.countAround (.cls "card")
      (nestedCards.elements.get ⟨2, by decide⟩) = 2 := by decide +kernel
  rw [hcount] at haround
  exact ⟨hmem, hlineage, hclosest, haround, (hwithin 2 haround).mpr (by decide)⟩

/-- The characters of a selector that names `b` and every place up to one with 310 digits. -/
def distantChars : List Char :=
  "b,:nth-child(-n+1".toList ++ List.replicate 309 '0' ++ [')']

def distantQuery : Query :=
  .either (.plain (.tag "b")) (.nth ⟨-1, Int.ofNat (Nat.pow 10 309), false, false⟩ (.plain .any))

def threeDeep : Document where
  content :=
    .element ⟨"i", [], some ⟨1, 0⟩⟩
      (.element ⟨"b", [], some ⟨1, 3⟩⟩ (.element ⟨"u", [], some ⟨1, 6⟩⟩ .nil .nil) .nil) .nil
  source := some "<i><b><u></u></b></i>"

theorem Selector.parse_ofList {cs : List Char} (h : Char.ofNat 0 ∉ cs) :
    Selector.parse (String.ofList cs) =
      (Selector.lexemesFrom (Selector.marginLength cs) (Selector.gapLength 0 cs) cs).foldlM
        Selector.Reader.step ⟨.opened .whole, []⟩ >>= Selector.Reader.finish := by
  have hkeep : ∀ c ∈ cs, (if c = Char.ofNat 0 then Text.replacement else c) = c := by
    intro c hc
    apply if_neg
    rintro rfl
    exact h hc
  rw [Selector.parse, Selector.lexemes, String.toList_ofList, List.map_congr_left hkeep,
    List.map_id']

/-- The selector is read, and `b` matches it, so it is the nearest match from itself on and stands
around `u`. But the test of the outermost element fails, and no match is counted for either. -/
theorem distant_place_ends_count :
    (Selector.parse (String.ofList distantChars)).toOption = some distantQuery ∧
      threeDeep.elements.get ⟨1, by decide⟩ ∈ threeDeep.elements ∧
      (Document.read none "<i><b><u></u></b></i>").toOption = some threeDeep ∧
      threeDeep.searchClosest? distantQuery (threeDeep.elements.get ⟨1, by decide⟩) =
        .ok (some (threeDeep.elements.get ⟨1, by decide⟩)) ∧
      threeDeep.searchCountFrom distantQuery (threeDeep.elements.get ⟨1, by decide⟩) =
        .error .longDistance ∧
      threeDeep.searchWithin distantQuery (threeDeep.elements.get ⟨2, by decide⟩) = .ok true ∧
      threeDeep.searchCountAround distantQuery (threeDeep.elements.get ⟨2, by decide⟩) =
        .error .longDistance := by
  refine ⟨?_, List.get_mem _ _, by decide +kernel⟩
  rw [Selector.parse_ofList (by decide +kernel)]
  decide +kernel

end MarkupLint
