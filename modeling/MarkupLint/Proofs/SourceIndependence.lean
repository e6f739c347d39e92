import MarkupLint.Linter
import MarkupLint.Proofs.Passes

/-! # Passes with and without the text of a document

Only the locations of a pass, and the one rule on written classes, depend on the text that a
document was read from. Selectors and queries are asked of the tree alone, by induction on what
they say; every other rule asks nothing else.
-/
namespace MarkupLint

open Document (Element)

def Document.forgetSource (d : Document) : Document := .ofContent d.content

section Searches

variable (d : Document) (p : Place)

theorem Place.earlier_forgetSource : p.earlier d.forgetSource = p.earlier d := rfl

theorem Place.later_forgetSource : p.later d.forgetSource = p.later d := rfl

theorem Place.children_forgetSource : p.children d.forgetSource = p.children d := rfl

theorem Place.descendants_forgetSource : p.descendants d.forgetSource = p.descendants d := rfl

theorem Selector.holds_forgetSource (s : Selector) (scope : Nat) :
    s.holds d.forgetSource scope p = s.holds d scope p := by
  induction s generalizing p with
  | both s t hs ht => simp only [holds, hs, ht]
  | either s t hs ht => simp only [holds, hs, ht]
  | not s hs => simp only [holds, hs]
  | after relation s hs =>
    cases relation <;> simp only [holds, hs, Place.earlier_forgetSource]
  | has relation s hs =>
    cases relation <;> simp only [holds, hs, Place.later_forgetSource,
      Place.children_forgetSource, Place.descendants_forgetSource]
  | scope => cases p <;> rfl
  | _ => rfl

@[simp] theorem Selector.accepts_forgetSource (s : Selector) (e : Element) :
    s.accepts d.forgetSource e = s.accepts d e :=
  s.holds_forgetSource d (.element e) e.index

def Aim.forgetSource (a : Aim) : Aim := { a with document := a.document.forgetSource }

theorem Query.test_forgetSource (q : Query) (a : Aim) : q.test a.forgetSource p = q.test a p := by
  induction q generalizing a p with
  | plain s =>
    simp only [test]
    exact congrArg pure (s.holds_forgetSource a.document p a.scope)
  | nth series among ih =>
    simp only [test, ih]
    rfl
  | framed q ih => exact ih p { a with framed := true }
  | both q r hq hr => simp only [test, hq, hr]
  | jointly q r hq hr => simp only [test, hq, hr]
  | either q r hq hr => simp only [test, hq, hr]
  | denied q ih => simp only [test, ih]
  | after relation q ih =>
    cases relation <;> simp only [test, ih] <;> rfl
  | has relation q ih =>
    cases relation <;> simp only [test, ih] <;> rfl
  | _ => rfl

theorem Document.select_forgetSource (s : Selector) :
    d.forgetSource.select s = d.select s :=
  List.filter_congr fun e _ => s.holds_forgetSource d (.element e) 0

theorem Document.selectUnder_forgetSource (s : Selector) (e : Element) :
    d.forgetSource.selectUnder s e = d.selectUnder s e :=
  List.filter_congr fun f _ => s.holds_forgetSource d (.element f) e.index

theorem Document.selectChildren_forgetSource (s : Selector) (e : Element) :
    d.forgetSource.selectChildren s e = d.selectChildren s e :=
  List.filter_congr fun f _ => s.accepts_forgetSource d f

theorem Document.closest_forgetSource (s : Selector) (e : Element) :
    d.forgetSource.closest? s e = d.closest? s e := by
  simp only [closest?, Selector.accepts_forgetSource]

theorem Document.countFrom_forgetSource (s : Selector) (e : Element) :
    d.forgetSource.countFrom s e = d.countFrom s e := by
  simp only [countFrom, Selector.accepts_forgetSource]

theorem Document.find_forgetSource (text : String) : d.forgetSource.find text = d.find text := by
  have hs : ∀ q, d.forgetSource.search q = d.search q := by
    intro q
    have ht : (fun e => q.test ⟨d.forgetSource, 0, false⟩ (.element e)) =
        fun e => q.test ⟨d, 0, false⟩ (.element e) :=
      funext fun e => Query.test_forgetSource (.element e) q ⟨d, 0, false⟩
    unfold search
    rw [ht]
    rfl
  simp only [find, hs]

end Searches

def Rule.IgnoresSource (r : Rule) : Prop := ∀ d : Document, r.check d.forgetSource = r.check d

section Rules

variable {id name message : String} {s : Selector}

theorem Rule.total_ignoresSource {reports : Document → List Report}
    (h : ∀ d : Document, reports d.forgetSource = reports d) :
    (Rule.total id name reports).IgnoresSource :=
  fun d => congrArg Outcome.ok (h d)

theorem Rule.selected_ignoresSource : (Rule.selected id name message s).IgnoresSource :=
  total_ignoresSource fun d => by rw [d.select_forgetSource]

theorem Rule.offenders_ignoresSource {bad : Document → Element → Bool}
    (h : ∀ (d : Document) e, bad d.forgetSource e = bad d e) :
    (Rule.offenders id name message s bad).IgnoresSource := by
  refine total_ignoresSource fun d => ?_
  rw [d.select_forgetSource, funext (h d)]

theorem Rules.columns_forgetSource (d : Document) : columns d.forgetSource = columns d := by
  rw [columns, d.select_forgetSource]
  rfl

theorem Rules.standsWithin_forgetSource (d : Document) (s : Selector) (e : Element) :
    standsWithin d.forgetSource s e = standsWithin d s e := by
  rw [standsWithin, funext (d.closest_forgetSource s)]
  rfl

theorem Rules.headRules_ignoreSource : ∀ r ∈ headRules, r.IgnoresSource := by
  simp only [headRules, List.forall_mem_cons, List.not_mem_nil, false_implies, implies_true,
    and_true]
  refine ⟨Rule.total_ignoresSource fun d => rfl, Rule.total_ignoresSource fun d => ?_,
    Rule.total_ignoresSource fun d => ?_⟩
  · simp only [charsetMetas, missingCharset, Document.select_forgetSource]
  · simp only [Document.select_forgetSource]

theorem Rules.bootstrapScripts_forgetSource (d : Document) :
    bootstrapScripts d.forgetSource = bootstrapScripts d := by
  unfold bootstrapScripts scriptsNamed scriptsHolding
  rw [d.select_forgetSource, d.select_forgetSource]

theorem Rules.jqueryScripts_forgetSource (d : Document) :
    jqueryScripts d.forgetSource = jqueryScripts d :=
  d.select_forgetSource _

theorem Rules.libraryRules_ignoreSource (settings : Settings) :
    ∀ r ∈ libraryRules settings, r.IgnoresSource := by
  simp only [libraryRules, List.forall_mem_cons, List.not_mem_nil, false_implies, implies_true,
    and_true]
  refine ⟨fun d => ?_, fun d => ?_, fun d => ?_⟩
  · simp only [duplicateScripts, bootstrapScripts_forgetSource]
  · unfold jquery
    dsimp only
    rw [bootstrapScripts_forgetSource, jqueryScripts_forgetSource]
  · simp only [outdatedBootstrap, Document.select_forgetSource]

theorem Rules.gridRules_ignoreSource :
    ∀ r ∈ gridRules, r.id ≠ .text "E029" → r.IgnoresSource := by
  simp only [gridRules, List.forall_mem_cons, List.not_mem_nil, false_implies, implies_true,
    and_true]
  refine ⟨fun _ => Rule.offenders_ignoresSource fun d e => rfl,
    fun _ => Rule.offenders_ignoresSource fun d e => rfl,
    fun _ => Rule.offenders_ignoresSource fun d e => rfl,
    fun _ => Rule.offenders_ignoresSource fun d e => rfl,
    fun _ => Rule.total_ignoresSource fun d => ?_, fun h => absurd rfl h,
    fun _ => Rule.selected_ignoresSource, fun _ => Rule.total_ignoresSource fun d => ?_,
    fun _ => Rule.total_ignoresSource fun d => ?_, fun _ => Rule.total_ignoresSource fun d => ?_⟩
  · simp only [columns_forgetSource]
  · simp only [columns_forgetSource]
  · simp only [Document.select_forgetSource]
  · have hs : isSpacer d.forgetSource = isSpacer d := by
      funext e
      simp only [isSpacer, Selector.accepts_forgetSource]
    simp only [columns_forgetSource, hs]

theorem Rules.formRules_ignoreSource : ∀ r ∈ formRules, r.IgnoresSource := by
  simp only [formRules, List.forall_mem_cons, List.not_mem_nil, false_implies, implies_true,
    and_true]
  have hblock : ∀ id name kind, (blockChoice id name kind).IgnoresSource := fun id name kind =>
    Rule.offenders_ignoresSource fun d e => by simp only [Selector.accepts_forgetSource]
  have hinline : ∀ id name kind, (inlineChoice id name kind).IgnoresSource := fun id name kind =>
    Rule.total_ignoresSource fun d => by
      simp only [Document.select_forgetSource, Document.selectChildren_forgetSource]
  refine ⟨Rule.total_ignoresSource fun d => ?_, Rule.selected_ignoresSource,
    Rule.offenders_ignoresSource fun d e => ?_, Rule.selected_ignoresSource, hblock _ _ _,
    hblock _ _ _, hinline _ _ _, hinline _ _ _, Rule.offenders_ignoresSource fun d e => ?_,
    Rule.selected_ignoresSource, Rule.total_ignoresSource fun d => ?_,
    Rule.offenders_ignoresSource fun d e => ?_, Rule.selected_ignoresSource,
    Rule.selected_ignoresSource⟩
  · simp only [Document.select_forgetSource]
  · simp only [Document.selectUnder_forgetSource]
  · simp only [Document.closest_forgetSource]
  · simp only [Document.select_forgetSource]
  · simp only [Document.selectChildren_forgetSource]

theorem Rules.actionRules_ignoreSource : ∀ r ∈ actionRules, r.IgnoresSource := by
  simp only [actionRules, List.forall_mem_cons, List.not_mem_nil, false_implies, implies_true,
    and_true]
  exact ⟨Rule.selected_ignoresSource, Rule.selected_ignoresSource, Rule.selected_ignoresSource,
    Rule.selected_ignoresSource, Rule.selected_ignoresSource, Rule.selected_ignoresSource,
    Rule.selected_ignoresSource, Rule.selected_ignoresSource⟩

theorem Rules.wrongParents_forgetSource (d : Document) (part holder : String) :
    wrongParents d.forgetSource part holder = wrongParents d part holder := by
  have hp : wrongParent? d.forgetSource holder = wrongParent? d holder := by
    funext e
    simp only [wrongParent?, Selector.accepts_forgetSource]
  rw [wrongParents, d.select_forgetSource, hp]
  rfl

theorem Rules.modalRules_ignoreSource : ∀ r ∈ modalRules, r.IgnoresSource := by
  simp only [modalRules, List.forall_mem_cons, List.not_mem_nil, false_implies, implies_true,
    and_true]
  refine ⟨Rule.selected_ignoresSource, Rule.total_ignoresSource fun d => ?_,
    Rule.selected_ignoresSource, Rule.selected_ignoresSource, Rule.selected_ignoresSource,
    Rule.selected_ignoresSource⟩
  simp only [wrongParents_forgetSource]

theorem Rules.controlReports_forgetSource (d : Document) :
    controlReports d.forgetSource = controlReports d := by
  funext e
  simp only [controlReports, targetElements, Document.find_forgetSource]

theorem Rules.carouselRules_ignoreSource : ∀ r ∈ carouselRules, r.IgnoresSource := by
  simp only [carouselRules, List.forall_mem_cons, List.not_mem_nil, false_implies, implies_true,
    and_true]
  refine ⟨Rule.total_ignoresSource fun d => ?_, fun d => ?_⟩
  · simp only [Document.select_forgetSource, Document.selectChildren_forgetSource]
  · simp only [controlTargets, controlReports_forgetSource, Document.select_forgetSource]

theorem Rules.componentRules_ignoreSource : ∀ r ∈ componentRules, r.IgnoresSource := by
  simp only [componentRules, List.forall_mem_cons, List.not_mem_nil, false_implies, implies_true,
    and_true]
  have hcard : ∀ id name part message, (cardPart id name part message).IgnoresSource :=
    fun id name part message => Rule.offenders_ignoresSource fun d e => by
      rw [d.countFrom_forgetSource]
  have hpull : ∀ (s : Selector) (d : Document) e,
      (!standsWithin d.forgetSource s e) = !standsWithin d s e := fun s d e => by
    rw [standsWithin_forgetSource]
  exact ⟨hcard _ _ _ _, hcard _ _ _ _, hcard _ _ _ _, hcard _ _ _ _,
    Rule.selected_ignoresSource, Rule.offenders_ignoresSource (hpull _),
    Rule.offenders_ignoresSource (hpull _), Rule.selected_ignoresSource⟩

theorem Rules.retiredRules_ignoreSource : ∀ r ∈ retiredRules, r.IgnoresSource := by
  intro r hr
  obtain rfl := List.mem_singleton.mp hr
  exact Rule.offenders_ignoresSource fun d e => rfl

/-- Of the built-in rules only the one on written classes looks at the text. -/
theorem catalogue_ignoresSource (settings : Settings) :
    ∀ r ∈ catalogue settings, r.id ≠ .text "E029" → r.IgnoresSource :=
  catalogue_cases settings (fun r h _ => Rules.headRules_ignoreSource r h)
    (fun r h _ => Rules.libraryRules_ignoreSource settings r h) Rules.gridRules_ignoreSource
    (fun r h _ => Rules.formRules_ignoreSource r h)
    (fun r h _ => Rules.actionRules_ignoreSource r h)
    (fun r h _ => Rules.modalRules_ignoreSource r h)
    (fun r h _ => Rules.carouselRules_ignoreSource r h)
    (fun r h _ => Rules.componentRules_ignoreSource r h)
    (fun r h _ => Rules.retiredRules_ignoreSource r h)

end Rules

section Linters

variable {settings : Settings} {d : Document} {e : Entry} {es : List Entry} {p : Problem}

def Problem.unlocated (p : Problem) : Problem :=
  p.withElements (p.elements.map fun r => r.withLocation none)

def PassResult.unlocated (result : PassResult) : PassResult :=
  { result with problems := result.problems.map Problem.unlocated }

def Linter.lintTree (l : Linter) (text : String) (disabled : Option Disabled) :
    Except LintError PassResult :=
  ((Document.readContent .split text).mapError .read).map fun content =>
    l.lintDocument (.ofContent content) disabled

theorem Problem.location_of_unlocated (h : p.unlocated = p) {r : ElementRef}
    (hr : r ∈ p.elements) : r.location = none := by
  rw [← h] at hr
  obtain ⟨q, -, rfl⟩ := List.mem_map.mp hr
  rfl

theorem Problem.unlocated_locate (d : Document) (p : Problem) :
    (p.locate d).unlocated = p.unlocated := by
  simp only [unlocated, locate, withElements, List.map_map]
  rfl

theorem Entry.problem_unlocated (e : Entry) (r : Report) :
    (e.problem r).unlocated = e.problem r := by
  simp only [Entry.problem, Problem.unlocated, Problem.withElements, ElementRef.ofElements,
    List.map_map]
  rfl

theorem mem_runEntries (h : p ∈ (runEntries d es).problems) : ∃ e ∈ es, p ∈ e.problems d := by
  rcases runEntries_cases d es with hc | ⟨before, e, after, f, rfl, hb, he⟩
  · rw [runEntries_complete hc] at h
    exact List.mem_flatMap.mp h
  · rw [runEntries_fail hb he] at h
    rcases List.mem_append.mp h with h | h
    · obtain ⟨x, hx, hp⟩ := List.mem_flatMap.mp h
      exact ⟨x, List.mem_append_left _ hx, hp⟩
    · exact ⟨e, by simp, h⟩

theorem Registry.run_unlocated (reg : Registry) (disabled : Disabled)
    (h : p ∈ (reg.run d disabled).problems) : p.unlocated = p := by
  obtain ⟨e, -, hp⟩ := mem_runEntries h
  obtain ⟨r, -, rfl⟩ := List.mem_map.mp hp
  exact e.problem_unlocated r

theorem Registry.run_forgetSource {disabled : Disabled} (h : "E029" ∈ disabled.ids)
    (d : Document) :
    (Registry.standard settings).run d.forgetSource disabled =
      (Registry.standard settings).run d disabled := by
  refine runEntries_congr fun e he => ?_
  obtain ⟨he, hs⟩ := List.mem_filter.mp he
  obtain ⟨r, hr, hre⟩ := Registry.mem_ofRules_origin he
  obtain ⟨rfl, hid⟩ := entry_spec hre
  apply catalogue_ignoresSource settings _ hr
  intro hx
  rw [hid, RuleId.text.injEq] at hx
  simp [hx, h] at hs

theorem Linter.lintDocument_unlocated (l : Linter) (d : Document) (disabled : Option Disabled) :
    (l.lintDocument d disabled).unlocated = l.registry.run d (l.disabledBy disabled) := by
  have hp : (l.registry.run d (l.disabledBy disabled)).problems.map Problem.unlocated =
      (l.registry.run d (l.disabledBy disabled)).problems :=
    (List.map_congr_left fun p h => l.registry.run_unlocated _ h).trans (List.map_id _)
  have hl : Problem.unlocated ∘ Problem.locate d = Problem.unlocated :=
    funext (Problem.unlocated_locate d)
  unfold lintDocument PassResult.unlocated
  dsimp only
  split
  · rw [List.map_map, hl, hp]
  · rw [hp]

theorem Document.read_known {reader : String} (h : reader = "" ∨ reader ∈ readerNames)
    (text : String) :
    Document.read (some reader) text =
      (readContent .split text).map fun content => ⟨content, some text⟩ := by
  unfold Document.read
  refine if_pos ?_
  rcases h with rfl | h
  · rfl
  · simp [h]

/-- Once the rule on written classes is disabled, the text that a document was read from settles
nothing but locations. The pass over the tree alone has none of them, and otherwise delivers the
same problems in the same order about the same elements and ends the same way. -/
theorem text_settles_only_locations (settings : Settings) (text : String)
    (disabled : Option Disabled)
    (hr : settings.reader = "" ∨ settings.reader ∈ Document.readerNames)
    (hd : "E029" ∈ ((Linter.standard settings).disabledBy disabled).ids) :
    (Linter.standard settings).lintTree text disabled =
        ((Linter.standard settings).lintText text disabled).map PassResult.unlocated ∧
      ∀ result, (Linter.standard settings).lintTree text disabled = .ok result →
        ∀ p ∈ result.problems, ∀ r ∈ p.elements, r.location = none := by
  have hread : Document.read (some (Linter.standard settings).settings.reader) text =
      (Document.readContent .split text).map fun content => ⟨content, some text⟩ :=
    Document.read_known hr text
  unfold Linter.lintTree Linter.lintText
  rw [hread]
  cases Document.readContent .split text with
  | error f => exact ⟨rfl, fun result h => nomatch h⟩
  | ok content =>
    constructor
    · refine congrArg Except.ok ?_
      rw [Linter.lintDocument_unlocated]
      exact Registry.run_forgetSource hd ⟨content, some text⟩
    · intro result h p hp r hrp
      obtain rfl := Except.ok.inj h
      exact Problem.location_of_unlocated (Registry.run_unlocated _ _ hp) hrp

theorem text_settles_only_locations_default :
    (({} : Settings).reader = "" ∨ ({} : Settings).reader ∈ Document.readerNames) ∧
      "E029" ∈ ((Linter.standard {}).disabledBy (some (.one "E029"))).ids ∧
      (Linter.standard {}).lintTree "<br>\n<div class=\"row\"></div>" (some (.one "E029")) =
        ((Linter.standard {}).lintText "<br>\n<div class=\"row\"></div>"
          (some (.one "E029"))).map PassResult.unlocated :=
  have hr : ({} : Settings).reader = "" ∨ ({} : Settings).reader ∈ Document.readerNames := by decide
  have hd : "E029" ∈ ((Linter.standard {}).disabledBy (some (.one "E029"))).ids := by decide
  ⟨hr, hd, (text_settles_only_locations {} _ _ hr hd).1⟩

end Linters

end MarkupLint
