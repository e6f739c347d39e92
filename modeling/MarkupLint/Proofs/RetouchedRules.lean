import MarkupLint.Proofs.Registration
import MarkupLint.Proofs.Repetitions
import MarkupLint.Proofs.Retouching
import MarkupLint.Proofs.ScriptSearches

/-! # Rules on retouched documents

A built-in rule reports of a retouched document what it reports of the document itself, about the
retouched elements. Two rules are left out: the one on written column classes repeats the classes
in its message, and the one on the targets of controls runs selectors that a document writes down.
-/
namespace MarkupLint

open Document (Element Content Node Data Tag Value Retouch)
open Selector

def Report.retouch (R : Retouch) (r : Report) : Report :=
  ⟨r.message, r.elements.map (Element.retouch R)⟩

def Outcome.retouch (R : Retouch) (o : Outcome) : Outcome :=
  ⟨o.reports.map (Report.retouch R), o.fault⟩

/-- A rule does with a retouched document what it does with the document itself. -/
def Rule.SeesThrough (R : Retouch) (r : Rule) : Prop :=
  ∀ d : Document, r.check (d.retouch R) = (r.check d).retouch R

variable {R : Retouch}

section Reports

variable {id name message : String} {s : Selector}

theorem eraseDups_retouch (R : Retouch) (es : List Element) :
    (es.map (Element.retouch R)).eraseDupsBy Element.same =
      (es.eraseDupsBy Element.same).map (Element.retouch R) := by
  induction es using List.reverseRecOn with
  | nil => rfl
  | append_singleton es x ih =>
    have hmet : (x.retouch R).same ∘ Element.retouch R = x.same := rfl
    rw [List.map_append, List.map_singleton, eraseDups_snoc, eraseDups_snoc, ih,
      List.any_map, hmet]
    split
    · rfl
    · rw [List.map_append, List.map_singleton]

theorem Rule.reportAny_retouch (message : String) (es : List Element) :
    reportAny message (es.map (Element.retouch R)) =
      (reportAny message es).map (Report.retouch R) := by
  cases es <;> rfl

theorem Rule.total_seesThrough {reports : Document → List Report}
    (h : ∀ d : Document, reports (d.retouch R) = (reports d).map (Report.retouch R)) :
    (Rule.total id name reports).SeesThrough R :=
  fun d => congrArg Outcome.ok (h d)

theorem Rule.selected_seesThrough (h : s.isPlain = true) :
    (Rule.selected id name message s).SeesThrough R := by
  refine total_seesThrough fun d => ?_
  rw [d.select_retouch R h, reportAny_retouch]

theorem Rule.offenders_seesThrough {bad : Document → Element → Bool} (h : s.isPlain = true)
    (hbad : ∀ (d : Document) e, bad (d.retouch R) (e.retouch R) = bad d e) :
    (Rule.offenders id name message s bad).SeesThrough R := by
  refine total_seesThrough fun d => ?_
  rw [d.select_retouch R h, filter_retouch (hbad d), reportAny_retouch]

/-- Items are inspected one by one, so a retouch may be seen through item by item. -/
theorem Outcome.each_retouch {inspect test : Element → Except Fault (List Report)}
    (h : ∀ e, inspect (e.retouch R) = (test e).map (List.map (Report.retouch R)))
    (es : List Element) :
    Outcome.each inspect (es.map (Element.retouch R)) = (Outcome.each test es).retouch R := by
  induction es with
  | nil => rfl
  | cons e es ih =>
    simp only [List.map_cons, each, h, ih]
    cases test e with
    | error f => rfl
    | ok reports => simp [Except.map, retouch]

end Reports

namespace Rules

variable (R)

theorem doctype_retouch (d : Document) : (d.retouch R).doctype? = d.doctype? := by
  have htext : (d.retouch R).doctypeText? = d.doctypeText? := by
    simp only [Document.doctypeText?, Document.retouch, Content.topData_retouch]
    induction d.content.topData with
    | nil => rfl
    | cons x xs ih =>
      by_cases hk : R.keep x = true
      · simp only [List.filter_cons, hk, if_true, List.findSome?_cons, ih]
      · have hx := R.dropped x (by simpa using hk)
        cases x with
        | doctype t => cases hx
        | _ => simp [hk, ih]
  rw [Document.doctype?, htext]
  rfl

theorem missingCharset_retouch (d : Document) :
    missingCharset (d.retouch R) = (missingCharset d).map (Report.retouch R) := by
  have hdeclares : declaresUtf8 ∘ Element.retouch R = declaresUtf8 := by
    funext e
    simp only [Function.comp_apply, declaresUtf8,
      e.attribute_retouch R "http-equiv" (by decide), e.attribute_retouch R "content" (by decide)]
  unfold missingCharset
  rw [d.select_retouch R rfl, List.any_map, hdeclares]
  split <;> rfl

theorem charsetMetas_retouch (d : Document) :
    charsetMetas (d.retouch R) = (charsetMetas d).map (Element.retouch R) :=
  d.select_retouch R rfl

theorem charset_seesThrough : charset.SeesThrough R := by
  refine Rule.total_seesThrough fun d => ?_
  have hvalue : (charsetMetas (d.retouch R)).head?.bind (fun e => e.attribute? "charset") =
      (charsetMetas d).head?.bind fun e => e.attribute? "charset" := by
    rw [charsetMetas_retouch, List.head?_map]
    cases (charsetMetas d).head? with
    | none => rfl
    | some e => exact e.attribute_retouch R "charset" (by decide)
  rw [hvalue, charsetMetas_retouch, missingCharset_retouch]
  split
  · rfl
  · split
    · rfl
    · split <;> rfl

theorem headRules_seeThrough : ∀ r ∈ headRules, r.SeesThrough R := by
  simp only [headRules, List.forall_mem_cons, List.not_mem_nil, false_implies, implies_true,
    and_true]
  refine ⟨Rule.total_seesThrough fun d => ?_, charset_seesThrough R,
    Rule.total_seesThrough fun d => ?_⟩
  · rw [doctype_retouch]
    split
    · rfl
    · split <;> rfl
  · rw [d.select_retouch R rfl, List.isEmpty_map]
    split <;> rfl

theorem scriptsHolding_retouch (word : String) (d : Document) :
    scriptsHolding word (d.retouch R) = (scriptsHolding word d).map (Element.retouch R) :=
  d.select_retouch R rfl

theorem namedScripts_retouch (file : String) (d : Document) :
    namedScripts file (d.retouch R) = (namedScripts file d).map (Element.retouch R) := by
  unfold namedScripts
  rw [scriptsHolding_retouch]
  apply filter_retouch
  intro e
  rw [decide_eq_decide, LinkNames, e.attribute_retouch R "src" (by decide), LinkNames]

theorem sourcesPresent_retouch (d : Document) :
    SourcesPresent (d.retouch R) ↔ SourcesPresent d := by
  have hlinked : ∀ e : Element, Linked (e.retouch R) ↔ Linked e := by
    intro e
    rw [Linked, e.attribute_retouch R "src" (by decide), Linked]
  simp only [SourcesPresent, scriptsHolding_retouch, List.forall_mem_map, hlinked]

def retouchScripts (scripts : List Element × List Element) : List Element × List Element :=
  (scripts.1.map (Element.retouch R), scripts.2.map (Element.retouch R))

theorem bootstrapScripts_retouch (d : Document) :
    bootstrapScripts (d.retouch R) = (bootstrapScripts d).map (retouchScripts R) := by
  by_cases h : SourcesPresent d
  · rw [bootstrapScripts_present ((sourcesPresent_retouch R d).mpr h), bootstrapScripts_present h,
      namedScripts_retouch, namedScripts_retouch]
    rfl
  · rw [bootstrapScripts_missing fun hr => h ((sourcesPresent_retouch R d).mp hr),
      bootstrapScripts_missing h]
    rfl

/-- A rule that reports on the scripts that load Bootstrap sees through a retouch if its report
does. -/
theorem ofScripts_retouch {reports : List Element × List Element → List Report}
    (h : ∀ scripts, reports (retouchScripts R scripts) =
      (reports scripts).map (Report.retouch R)) (d : Document) :
    Outcome.ofExcept ((bootstrapScripts (d.retouch R)).map reports) =
      (Outcome.ofExcept ((bootstrapScripts d).map reports)).retouch R := by
  rw [bootstrapScripts_retouch]
  cases bootstrapScripts d with
  | error f => rfl
  | ok scripts => exact congrArg Outcome.ok (h scripts)

theorem jquery_seesThrough (settings : Settings) : (jquery settings).SeesThrough R := by
  intro d
  have hscripts : jqueryScripts (d.retouch R) = (jqueryScripts d).map (Element.retouch R) :=
    d.select_retouch R rfl
  have hold : ∀ e : Element, loadsOldJQuery settings.minJQueryVersion (e.retouch R) =
      loadsOldJQuery settings.minJQueryVersion e := by
    intro e
    unfold loadsOldJQuery
    rw [e.attribute_retouch R "src" (by decide)]
  have hmissing : ∀ scripts, missingReports (retouchScripts R scripts) =
      (missingReports scripts).map (Report.retouch R) := by
    intro scripts
    simp only [missingReports, retouchScripts, List.isEmpty_map]
    rfl
  unfold jquery
  dsimp only
  rw [hscripts, List.isEmpty_map]
  split
  · exact ofScripts_retouch R hmissing d
  · apply Outcome.each_retouch
    intro e
    rw [hold]
    rcases loadsOldJQuery settings.minJQueryVersion e with _ | _ | _ <;> rfl

theorem outdatedBootstrap_seesThrough (settings : Settings) :
    (outdatedBootstrap settings).SeesThrough R := by
  intro d
  have hlink : ∀ e : Element, bootstrapLink (e.retouch R) = bootstrapLink e := by
    intro e
    unfold bootstrapLink
    rw [e.name_retouch R]
    split
    · exact e.attribute_retouch R "href" (by decide)
    · exact e.attribute_retouch R "src" (by decide)
  unfold outdatedBootstrap
  dsimp only
  rw [d.select_retouch R rfl]
  apply Outcome.each_retouch
  intro e
  rw [hlink]
  rcases (Link.versionIn? (bootstrapLink e)).mapError Fault.link with _ | _ | version
  · rfl
  · rfl
  · dsimp only [bind, Except.bind]
    rcases isOutdated version settings.currentBootstrapVersion with _ | _ | _ <;> rfl

theorem libraryRules_seeThrough (settings : Settings) :
    ∀ r ∈ libraryRules settings, r.SeesThrough R := by
  simp only [libraryRules, List.forall_mem_cons, List.not_mem_nil, false_implies, implies_true,
    and_true]
  refine ⟨fun d => ofScripts_retouch R (fun scripts => ?_) d, jquery_seesThrough R settings,
    outdatedBootstrap_seesThrough R settings⟩
  simp only [duplicateReports, retouchScripts, List.isEmpty_map]
  split
  · rfl
  · simp [Report.retouch]

theorem columns_retouch (d : Document) :
    columns (d.retouch R) = (columns d).map (Element.retouch R) := by
  unfold columns
  rw [d.select_retouch R rfl]
  exact filter_retouch (fun e => e.isColumn_retouch R) _

theorem isOutsideRow_retouch (e : Element) : isOutsideRow (e.retouch R) = isOutsideRow e := by
  have hcontainer : isContainer ∘ Element.retouch R = isContainer := by
    funext f
    simp [isContainer]
  unfold isOutsideRow
  rw [e.parent_retouch R, e.parents_retouch R, List.any_map, hcontainer]
  cases e.parent? with
  | none => rfl
  | some p => simp

theorem isStrayColumn_retouch (e : Element) : isStrayColumn (e.retouch R) = isStrayColumn e := by
  unfold isStrayColumn
  rw [e.parent_retouch R, e.name_retouch R]
  cases e.parent? with
  | none => rfl
  | some p => simp

theorem hasFloatStyle_retouch (e : Element) : hasFloatStyle (e.retouch R) = hasFloatStyle e := by
  unfold hasFloatStyle
  rw [e.attribute_retouch R "style" (by decide)]

theorem isSpacer_retouch (d : Document) (e : Element) :
    isSpacer (d.retouch R) (e.retouch R) = isSpacer d e := by
  unfold isSpacer
  rw [Selector.accepts_retouch R d rfl, e.name_retouch R, e.children_retouch R, List.isEmpty_map,
    e.text_isEmpty_retouch R]

theorem gridRules_seeThrough : ∀ r ∈ gridRules, r.id ≠ .text "E029" → r.SeesThrough R := by
  have hfloat : ∀ e : Element, ((e.retouch R).hasClass "float-left" ||
      (e.retouch R).hasClass "float-right") =
      (e.hasClass "float-left" || e.hasClass "float-right") := by
    simp
  simp only [gridRules, List.forall_mem_cons, List.not_mem_nil, false_implies, implies_true,
    and_true]
  refine ⟨fun _ => Rule.offenders_seesThrough rfl fun _ e => isOutsideRow_retouch R e,
    fun _ => Rule.offenders_seesThrough rfl fun _ e => e.isColumn_retouch R,
    fun _ => Rule.offenders_seesThrough rfl fun _ e => e.isColumn_retouch R,
    fun _ => Rule.offenders_seesThrough rfl fun _ e => ?_,
    fun _ => Rule.total_seesThrough fun d => ?_, fun h => absurd rfl h,
    fun _ => Rule.selected_seesThrough rfl,
    fun _ => Rule.total_seesThrough fun d => ?_, fun _ => Rule.total_seesThrough fun d => ?_,
    fun _ => Rule.total_seesThrough fun d => ?_⟩
  · simp [isRowChild]
  · rw [columns_retouch, filter_retouch (isStrayColumn_retouch R), Rule.reportAny_retouch]
  · rw [columns_retouch, filter_retouch hfloat, filter_retouch (hasFloatStyle_retouch R),
      Rule.reportAny_retouch, Rule.reportAny_retouch, List.map_append]
  · rw [d.select_retouch R rfl, d.select_retouch R rfl,
      filter_retouch (hasFloatStyle_retouch R), Rule.reportAny_retouch, Rule.reportAny_retouch,
      List.map_append]
  · rw [columns_retouch, filter_retouch (isSpacer_retouch R d), List.map_map, List.map_map]
    rfl

theorem blockChoice_seesThrough (id name kind : String) :
    (blockChoice id name kind).SeesThrough R := by
  refine Rule.offenders_seesThrough rfl fun d e => ?_
  rw [Selector.accepts_retouch R d (by rfl)]

theorem inlineChoice_seesThrough (id name kind : String) :
    (inlineChoice id name kind).SeesThrough R := by
  refine Rule.total_seesThrough fun d => ?_
  have hempty : ∀ e : Element,
      ((d.retouch R).selectChildren (inputOf kind) (e.retouch R)).isEmpty =
        (d.selectChildren (inputOf kind) e).isEmpty := by
    intro e
    rw [d.selectChildren_retouch R (by rfl), List.isEmpty_map]
  rw [d.select_retouch R rfl, d.select_retouch R rfl, filter_retouch hempty,
    Rule.reportAny_retouch, Rule.reportAny_retouch, List.map_append]

theorem formRules_seeThrough : ∀ r ∈ formRules, r.SeesThrough R := by
  simp only [formRules, List.forall_mem_cons, List.not_mem_nil, false_implies, implies_true,
    and_true]
  refine ⟨Rule.total_seesThrough fun d => ?_, Rule.selected_seesThrough rfl,
    Rule.offenders_seesThrough rfl fun d e => ?_, Rule.selected_seesThrough rfl,
    blockChoice_seesThrough R _ _ _, blockChoice_seesThrough R _ _ _,
    inlineChoice_seesThrough R _ _ _, inlineChoice_seesThrough R _ _ _,
    Rule.offenders_seesThrough rfl fun d e => ?_, Rule.selected_seesThrough rfl,
    Rule.total_seesThrough fun d => ?_, Rule.offenders_seesThrough rfl fun d e => ?_,
    Rule.selected_seesThrough rfl, Rule.selected_seesThrough rfl⟩
  · rw [d.select_retouch R rfl, d.select_retouch R rfl, Rule.reportAny_retouch,
      Rule.reportAny_retouch, List.map_append]
  · rw [d.selectUnder_retouch R rfl, List.length_map]
  · rw [d.closest_retouch R rfl, Option.isNone_map]
  · rw [d.select_retouch R rfl, d.select_retouch R rfl, Rule.reportAny_retouch,
      Rule.reportAny_retouch, List.map_append]
  · rw [d.selectChildren_retouch R rfl, d.selectChildren_retouch R rfl, List.isEmpty_map,
      List.isEmpty_map]

theorem actionRules_seeThrough : ∀ r ∈ actionRules, r.SeesThrough R := by
  simp only [actionRules, List.forall_mem_cons, List.not_mem_nil, false_implies, implies_true,
    and_true]
  and_intros <;> exact Rule.selected_seesThrough rfl

theorem wrongParents_retouch (d : Document) (part holder : String) :
    wrongParents (d.retouch R) part holder =
      (wrongParents d part holder).map (Element.retouch R) := by
  have hparent : wrongParent? (d.retouch R) holder ∘ Element.retouch R =
      fun e => (wrongParent? d holder e).map (Element.retouch R) := by
    funext e
    simp only [Function.comp_apply, wrongParent?, e.parent_retouch R]
    cases e.parent? with
    | none => rfl
    | some p =>
      have hholder := Selector.accepts_retouch R d (s := cls holder) rfl p
      simp only [Option.map_some, Option.filter_some, hholder]
      split <;> rfl
  unfold wrongParents
  rw [d.select_retouch R rfl, List.filterMap_map, hparent, ← List.map_filterMap,
    eraseDups_retouch]

theorem modalRules_seeThrough : ∀ r ∈ modalRules, r.SeesThrough R := by
  simp only [modalRules, List.forall_mem_cons, List.not_mem_nil, false_implies, implies_true,
    and_true]
  refine ⟨Rule.selected_seesThrough rfl, Rule.total_seesThrough fun d => ?_,
    Rule.selected_seesThrough rfl, Rule.selected_seesThrough rfl,
    Rule.selected_seesThrough rfl, Rule.selected_seesThrough rfl⟩
  simp only [wrongParents_retouch, Rule.reportAny_retouch, List.map_flatMap]

theorem carouselRules_seeThrough :
    ∀ r ∈ carouselRules, r.id ≠ .text "W014" → r.SeesThrough R := by
  simp only [carouselRules, List.forall_mem_cons, List.not_mem_nil, false_implies, implies_true,
    and_true]
  refine ⟨fun _ => Rule.total_seesThrough fun d => ?_, fun h => absurd rfl h⟩
  have hcount : ∀ (s : Selector), s.isPlain = true → ∀ e : Element,
      decide (((d.retouch R).selectChildren s (e.retouch R)).length ≠ 1) =
        decide ((d.selectChildren s e).length ≠ 1) := by
    intro s hs e
    rw [d.selectChildren_retouch R hs, List.length_map]
  rw [d.select_retouch R rfl, d.select_retouch R rfl,
    filter_retouch (hcount (cls "carousel-inner") rfl),
    filter_retouch (hcount (cls "item" &&& cls "active") rfl), Rule.reportAny_retouch,
    Rule.reportAny_retouch, List.map_append]

theorem standsWithin_retouch (d : Document) (s : Selector) (hs : s.isPlain = true) (e : Element) :
    standsWithin (d.retouch R) s (e.retouch R) = standsWithin d s e := by
  unfold standsWithin
  rw [e.parent_retouch R]
  cases e.parent? with
  | none => rfl
  | some p =>
    simp only [Option.map_some, Option.bind_some, d.closest_retouch R hs, Option.isSome_map]

theorem componentRules_seeThrough : ∀ r ∈ componentRules, r.SeesThrough R := by
  have hcard : ∀ id name part message, (cardPart id name part message).SeesThrough R := by
    intro id name part message
    refine Rule.offenders_seesThrough rfl fun d e => ?_
    rw [d.countFrom_retouch R rfl]
  simp only [componentRules, List.forall_mem_cons, List.not_mem_nil, false_implies, implies_true,
    and_true]
  refine ⟨hcard _ _ _ _, hcard _ _ _ _, hcard _ _ _ _, hcard _ _ _ _,
    Rule.selected_seesThrough rfl, Rule.offenders_seesThrough rfl fun d e => ?_,
    Rule.offenders_seesThrough rfl fun d e => ?_, Rule.selected_seesThrough rfl⟩
  · rw [standsWithin_retouch R d _ rfl]
  · rw [standsWithin_retouch R d _ rfl]

theorem retiredRules_seeThrough : ∀ r ∈ retiredRules, r.SeesThrough R := by
  intro r hr
  obtain rfl := List.mem_singleton.mp hr
  exact Rule.offenders_seesThrough rfl fun _ e => e.any_classes_retouch R isRetired

end Rules

theorem catalogue_seesThrough (R : Retouch) (settings : Settings) : ∀ r ∈ catalogue settings,
    r.id ≠ .text "E029" → r.id ≠ .text "W014" → r.SeesThrough R :=
  catalogue_cases settings (fun r h _ _ => Rules.headRules_seeThrough R r h)
    (fun r h _ _ => Rules.libraryRules_seeThrough R settings r h)
    (fun r h hwritten _ => Rules.gridRules_seeThrough R r h hwritten)
    (fun r h _ _ => Rules.formRules_seeThrough R r h)
    (fun r h _ _ => Rules.actionRules_seeThrough R r h)
    (fun r h _ _ => Rules.modalRules_seeThrough R r h)
    (fun r h _ htargets => Rules.carouselRules_seeThrough R r h htargets)
    (fun r h _ _ => Rules.componentRules_seeThrough R r h)
    (fun r h _ _ => Rules.retiredRules_seeThrough R r h)

end MarkupLint
