import MarkupLint.Proofs.WrittenSelectors
import MarkupLint.Rules.Carousel

/-! # The targets of carousel controls

The rule on carousel controls uses the target of each control as a selector. A target that is
malformed finds nothing, and the control is reported. Other targets that cannot be used, such as
pseudo-elements or escapes of code points that do not exist, end the rule, and the controls after
them are not looked at. The outcome is given exactly: each control that misses is reported, in
document order and once, up to the first one that ends the rule.
-/
namespace MarkupLint

open Document (Element)

namespace Outcome

variable {α : Type} {inspect : α → Except Fault (List Report)} {found : α → List Report}
  {items before after : List α} {a : α} {f : Fault}

theorem each_ok (h : ∀ a ∈ items, inspect a = .ok (found a)) :
    each inspect items = ok (items.flatMap found) := by
  induction items with
  | nil => rfl
  | cons a items ih =>
    rw [each, h a List.mem_cons_self, ih fun b hb => h b (List.mem_cons_of_mem a hb)]
    rfl

theorem each_fail (h : ∀ x ∈ before, inspect x = .ok (found x)) (ha : inspect a = .error f) :
    each inspect (before ++ a :: after) = ⟨before.flatMap found, some f⟩ := by
  induction before with
  | nil => rw [List.nil_append, each, ha]; rfl
  | cons x before ih =>
    rw [List.cons_append, each, h x List.mem_cons_self,
      ih fun y hy => h y (List.mem_cons_of_mem x hy)]
    rfl

theorem each_cases (inspect : α → Except Fault (List Report)) (items : List α) :
    (∀ a ∈ items, ∃ reports, inspect a = .ok reports) ∨
      ∃ before a after f, items = before ++ a :: after ∧
        (∀ x ∈ before, ∃ reports, inspect x = .ok reports) ∧ inspect a = .error f := by
  induction items with
  | nil => exact Or.inl (by simp)
  | cons a items ih =>
    cases ha : inspect a with
    | error f => exact Or.inr ⟨[], a, items, f, rfl, by simp, ha⟩
    | ok reports =>
      rcases ih with hall | ⟨before, x, after, f, rfl, hbefore, hx⟩
      · left
        intro b hb
        rcases List.mem_cons.mp hb with rfl | hb
        · exact ⟨reports, ha⟩
        · exact hall b hb
      · right
        refine ⟨a :: before, x, after, f, rfl, ?_, hx⟩
        intro b hb
        rcases List.mem_cons.mp hb with rfl | hb
        · exact ⟨reports, ha⟩
        · exact hbefore b hb

end Outcome

namespace Rules

variable {d : Document} {e : Element} {f : Fault}

/-- A control misses: it has no target, or its target cannot be used, finds nothing, or finds an
element that is no carousel. -/
def Misses (d : Document) (e : Element) : Prop :=
  controlTarget e = "" ∨ (∃ f, d.find (controlTarget e) = .error f) ∨
    ∃ found, d.find (controlTarget e) = .ok found ∧
      (found = [] ∨ ∃ c ∈ found, c.hasClass "carousel" = false)

instance (d : Document) (e : Element) : Decidable (Misses d e) :=
  match h : d.find (controlTarget e) with
  | .error f => isTrue (Or.inr (Or.inl ⟨f, h⟩))
  | .ok found =>
    decidable_of_iff
      (controlTarget e = "" ∨ found = [] ∨ ∃ c ∈ found, c.hasClass "carousel" = false)
      (by simp [Misses, h])

/-- A control ends the rule: its target is refused and yet not malformed, or the search for it
fails. -/
def Balks (d : Document) (e : Element) (f : Fault) : Prop :=
  (∃ s, Selector.parse (controlTarget e) = .error s ∧ s ≠ .malformed ∧ f = .selector s) ∨
    ∃ q s, Selector.parse (controlTarget e) = .ok q ∧ d.search q = .error s ∧ f = .search s

def missReport (e : Element) : Report :=
  ⟨"Carousel controls and indicators should use `href` or `data-target` to " ++
    "reference an element with class `.carousel`.", [e]⟩

def missReports (d : Document) (controls : List Element) : List Report :=
  (controls.filter fun e => Misses d e).map missReport

theorem find_error_iff (text : String) :
    d.find text = .error f ↔
      (∃ s, Selector.parse text = .error s ∧ f = .selector s) ∨
        ∃ q s, Selector.parse text = .ok q ∧ d.search q = .error s ∧ f = .search s := by
  unfold Document.find
  cases hparse : Selector.parse text with
  | error s =>
    simp only [Except.error.injEq, exists_eq_left', reduceCtorEq, false_and, exists_false, or_false]
    exact eq_comm
  | ok q =>
    dsimp only
    cases hsearch : d.search q with
    | error s =>
      change (Except.error (Fault.search s) : Except Fault (List Element)) = .error f ↔ _
      simp [hsearch, eq_comm]
    | ok found =>
      change Except.ok found = .error f ↔ _
      simp [hsearch]

theorem balks_iff : Balks d e f ↔
    d.find (controlTarget e) = .error f ∧ f ≠ .selector .malformed := by
  rw [find_error_iff]
  constructor
  · rintro (⟨s, hs, hne, rfl⟩ | ⟨q, s, hq, hs, rfl⟩)
    · exact ⟨Or.inl ⟨s, hs, rfl⟩, fun h => hne (Fault.selector.inj h)⟩
    · exact ⟨Or.inr ⟨q, s, hq, hs, rfl⟩, nofun⟩
  · rintro ⟨⟨s, hs, rfl⟩ | h, hne⟩
    · exact Or.inl ⟨s, hs, fun h => hne (congrArg _ h), rfl⟩
    · exact Or.inr h

/-- An empty target is malformed as a selector, so it ends nothing. -/
theorem find_empty (d : Document) : d.find "" = .error (.selector .malformed) := by
  have hparse : Selector.parse "" = .error .malformed := rfl
  rw [Document.find, hparse]

theorem targetElements_error_iff :
    targetElements d (controlTarget e) = .error f ↔ Balks d e f := by
  rw [balks_iff]
  unfold targetElements
  split
  · next h =>
    rw [String.isEmpty_iff.mp h, find_empty]
    constructor
    · intro h
      cases h
    · rintro ⟨h, hne⟩
      exact absurd (Except.error.inj h).symm hne
  · split
    · next h =>
      rw [h]
      constructor
      · intro h
        cases h
      · rintro ⟨h, hne⟩
        exact absurd (Except.error.inj h).symm hne
    · next hother =>
      constructor
      · intro h
        refine ⟨h, ?_⟩
        rintro rfl
        exact hother h
      · exact And.left

theorem controlReports_of_found {found : List Element}
    (h : targetElements d (controlTarget e) = .ok found) :
    controlReports d e =
      .ok (if found = [] ∨ ∃ c ∈ found, c.hasClass "carousel" = false then [missReport e]
        else []) := by
  have hbad : (found.isEmpty || !found.all fun c => c.hasClass "carousel") = true ↔
      found = [] ∨ ∃ c ∈ found, c.hasClass "carousel" = false := by
    simp
  unfold controlReports
  rw [h]
  change (if _ then _ else _) = _
  simp only [hbad]
  split <;> rfl

theorem controlReports_error_iff : controlReports d e = .error f ↔ Balks d e f := by
  rw [← targetElements_error_iff]
  cases h : targetElements d (controlTarget e) with
  | error g =>
    unfold controlReports
    rw [h]
    simp [bind, Except.bind]
  | ok found =>
    rw [controlReports_of_found h]
    simp

theorem misses_iff {found : List Element} (h : targetElements d (controlTarget e) = .ok found) :
    Misses d e ↔ found = [] ∨ ∃ c ∈ found, c.hasClass "carousel" = false := by
  unfold targetElements at h
  split at h
  · next hempty =>
    obtain rfl := Except.ok.inj h
    simp [Misses, String.isEmpty_iff.mp hempty]
  · next hsome =>
    have hne : controlTarget e ≠ "" := fun heq => hsome (String.isEmpty_iff.mpr heq)
    split at h
    · next hfind =>
      obtain rfl := Except.ok.inj h
      simp [Misses, hfind]
    · simp [Misses, hne, h]

theorem controlReports_ok (h : ∀ f, ¬Balks d e f) :
    controlReports d e = .ok (missReports d [e]) := by
  cases htarget : targetElements d (controlTarget e) with
  | error f => exact absurd (targetElements_error_iff.mp htarget) (h f)
  | ok found =>
    rw [controlReports_of_found htarget]
    simp only [← misses_iff htarget, missReports]
    by_cases hmiss : Misses d e
    · simp [hmiss]
    · simp [hmiss]

/-- The written selector of the controls finds just what the rule goes through. -/
theorem find_carouselControls (d : Document) :
    d.find ".carousel-indicators > li, .carousel-control" = .ok (d.select carouselControls) := by
  apply Document.find_of_means
    (q := .either (.both (.plain (.tag "li")) (.after .child (.plain (.cls "carousel-indicators"))))
      (.plain (.cls "carousel-control")))
  · rfl
  · exact (((Query.Means.plain _).both (Query.Means.plain _).afterChild)).either
      (Query.Means.plain _)

theorem flatMap_missReports (d : Document) (controls : List Element) :
    controls.flatMap (fun e => missReports d [e]) = missReports d controls := by
  induction controls with
  | nil => rfl
  | cons e controls ih =>
    rw [List.flatMap_cons, ih]
    by_cases h : Misses d e <;> simp [missReports, h]

theorem not_balks_of_ok {reports : List Report} (h : controlReports d e = .ok reports) :
    ∀ f, ¬Balks d e f := by
  intro f hf
  cases h.symm.trans (controlReports_error_iff.mpr hf)

theorem check_controls_ok {controls : List Element} (h : ∀ e ∈ controls, ∀ f, ¬Balks d e f) :
    Outcome.each (controlReports d) controls = .ok (missReports d controls) := by
  rw [Outcome.each_ok fun e he => controlReports_ok (h e he), flatMap_missReports]

theorem check_controls_fail {before after : List Element}
    (h : ∀ x ∈ before, ∀ f, ¬Balks d x f) (he : Balks d e f) :
    Outcome.each (controlReports d) (before ++ e :: after) = ⟨missReports d before, some f⟩ := by
  rw [Outcome.each_fail (fun x hx => controlReports_ok (h x hx)) (controlReports_error_iff.mpr he),
    flatMap_missReports]

theorem controls_cases (d : Document) (controls : List Element) :
    (∀ e ∈ controls, ∀ f, ¬Balks d e f) ∨
      ∃ before e after f, controls = before ++ e :: after ∧
        (∀ x ∈ before, ∀ g, ¬Balks d x g) ∧ Balks d e f := by
  rcases Outcome.each_cases (controlReports d) controls with
    hall | ⟨before, e, after, f, hcut, hbefore, he⟩
  · left
    intro e he
    obtain ⟨reports, hok⟩ := hall e he
    exact not_balks_of_ok hok
  · right
    refine ⟨before, e, after, f, hcut, ?_, controlReports_error_iff.mp he⟩
    intro x hx
    obtain ⟨reports, hok⟩ := hbefore x hx
    exact not_balks_of_ok hok

/-- Every control that misses is reported, once and in document order, and the rule goes through,
just where no target balks. Otherwise the rule ends at the first control whose target does, with the
reports of the controls before it. -/
theorem control_targets_outcome (d : Document) :
    d.find ".carousel-indicators > li, .carousel-control" = .ok (d.select carouselControls) ∧
      (controlTargets.check d = .ok (missReports d (d.select carouselControls)) ↔
        ∀ e ∈ d.select carouselControls, ∀ f, ¬Balks d e f) ∧
      ∀ reports f, controlTargets.check d = ⟨reports, some f⟩ ↔
        ∃ before e after, d.select carouselControls = before ++ e :: after ∧
          (∀ x ∈ before, ∀ g, ¬Balks d x g) ∧ Balks d e f ∧ reports = missReports d before := by
  have hcheck : controlTargets.check d =
      Outcome.each (controlReports d) (d.select carouselControls) := rfl
  rw [hcheck]
  refine ⟨find_carouselControls d, ⟨?_, check_controls_ok⟩, fun reports f => ⟨?_, ?_⟩⟩
  · intro h
    rcases controls_cases d (d.select carouselControls) with
      hnone | ⟨before, e, after, f, hcut, hbefore, hbalks⟩
    · exact hnone
    · rw [hcut, check_controls_fail hbefore hbalks] at h
      cases congrArg Outcome.fault h
  · intro h
    rcases controls_cases d (d.select carouselControls) with
      hnone | ⟨before, e, after, g, hcut, hbefore, hbalks⟩
    · rw [check_controls_ok hnone] at h
      cases congrArg Outcome.fault h
    · rw [hcut, check_controls_fail hbefore hbalks] at h
      cases h
      exact ⟨before, e, after, hcut, hbefore, hbalks, rfl⟩
  · rintro ⟨before, e, after, hcut, hbefore, hbalks, rfl⟩
    rw [hcut, check_controls_fail hbefore hbalks]

/-- A control without a target, one whose target is a pseudo-element, and again one without a
target. -/
def pseudoTargetText : String :=
  "<a class=\"carousel-control\"></a>\n<a class=\"carousel-control\" href=\"::before\"></a>\n" ++
    "<a class=\"carousel-control\"></a>"

def pseudoTarget : Document where
  content :=
    .element ⟨"a", [("class", .words ["carousel-control"])], some ⟨1, 0⟩⟩ .nil
      (.data (.text .plain "\n")
        (.element ⟨"a", [("class", .words ["carousel-control"]), ("href", .text "::before")],
            some ⟨2, 0⟩⟩ .nil
          (.data (.text .plain "\n")
            (.element ⟨"a", [("class", .words ["carousel-control"])], some ⟨3, 0⟩⟩ .nil .nil))))
  source := some pseudoTargetText

def farTarget : Document :=
  .ofContent (.element ⟨"a", [("class", .words ["carousel-control"]),
    ("href", .text "#\\110000")], none⟩ .nil .nil)

def toleratedTargets : Document :=
  .ofContent (.element ⟨"div", [("class", .words ["carousel"]), ("id", .text "c")], none⟩ .nil
    (.element ⟨"a", [("class", .words ["carousel-control"]), ("href", .text "#c")], none⟩ .nil
      (.element ⟨"a", [("class", .words ["carousel-control"]), ("href", .text "!!!")], none⟩ .nil
        .nil)))

theorem control_targets_outcome_both :
    (∀ e ∈ toleratedTargets.select carouselControls, ∀ f, ¬Balks toleratedTargets e f) ∧
      (missReports toleratedTargets (toleratedTargets.select carouselControls)).length = 1 ∧
      ∃ before e after, pseudoTarget.select carouselControls = before ++ e :: after ∧
        Balks pseudoTarget e (.selector .unsupported) ∧
        (controlTargets.check pseudoTarget).reports = missReports pseudoTarget before := by
  have htolerated : controlTargets.check toleratedTargets =
      .ok (missReports toleratedTargets (toleratedTargets.select carouselControls)) := by
    decide +kernel
  have hended : (controlTargets.check pseudoTarget).fault = some (.selector .unsupported) := by
    decide +kernel
  refine ⟨(control_targets_outcome toleratedTargets).2.1.mp htolerated, by decide +kernel, ?_⟩
  obtain ⟨before, e, after, hcut, -, hbalks, hreports⟩ :=
    ((control_targets_outcome pseudoTarget).2.2 _ _).mp
      (congrArg (Outcome.mk (controlTargets.check pseudoTarget).reports) hended)
  exact ⟨before, e, after, hcut, hbalks, hreports⟩

/-- All three controls miss, but the second one ends the rule, and the third is not reported. -/
theorem pseudo_target_ends_rule :
    (Document.read none pseudoTargetText).toOption = some pseudoTarget ∧
      (missReports pseudoTarget (pseudoTarget.select carouselControls)).length = 3 ∧
      (controlTargets.check pseudoTarget).reports.length = 1 ∧
      (controlTargets.check pseudoTarget).fault = some (.selector .unsupported) ∧
      (missReports farTarget (farTarget.select carouselControls)).length = 1 ∧
      controlTargets.check farTarget = ⟨[], some (.selector .codePoint)⟩ := by
  decide +kernel

end Rules

end MarkupLint
