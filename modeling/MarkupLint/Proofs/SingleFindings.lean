import MarkupLint.Proofs.SourceIndependence
import MarkupLint.Proofs.FindingOrder

/-! # No finding twice

What a pass says of single elements is a list of findings: the id of a rule, a message and the
number of an element. A rule lists each element once for a message; where it reports several
times, the messages differ or the elements do. The rules of a pass have ids of their own, so no
finding comes up again later in the pass.
-/
namespace MarkupLint

open Document (Element)

/-- What problems say of single elements: id, message and the number of the element. -/
def findings (problems : List Problem) : List (String × String × Nat) :=
  problems.flatMap fun p => p.elements.map fun r => (p.id, p.message, r.element.index)

def bareProblems (id : String) (problems : List Problem) : List Problem :=
  problems.filter fun p => p.id = id && p.elements.isEmpty

/-- No element is found twice for one id and message, and no id has two problems without
elements. -/
structure FoundOnce (problems : List Problem) : Prop where
  distinct : (findings problems).Nodup
  bare : ∀ id, (bareProblems id problems).length ≤ 1

section Reports

variable {d : Document} {es fs : List Element} {reports : List Report}
  {message message' : String}

def Report.says (r : Report) : List (String × Nat) :=
  (r.elements.eraseDupsBy Element.same).map fun e => (r.message, e.index)

/-- No element is reported twice with one message, and at most one report has no elements. -/
structure SaidOnce (reports : List Report) : Prop where
  distinct : (reports.flatMap Report.says).Nodup
  bare : (reports.filter fun r => r.elements.isEmpty).length ≤ 1

theorem Report.says_nodup (r : Report) : r.says.Nodup := by
  refine List.pairwise_map.mpr ((eraseDups_distinct r.elements).imp ?_)
  intro e f hne heq
  exact hne (congrArg Prod.snd heq)

theorem Report.message_of_says {r : Report} {x : String × Nat} (h : x ∈ r.says) :
    x.1 = r.message := by
  obtain ⟨e, -, rfl⟩ := List.mem_map.mp h
  rfl

theorem saidOnce_of_length (h : reports.length ≤ 1) : SaidOnce reports := by
  refine ⟨?_, (List.length_filter_le _ _).trans h⟩
  cases reports with
  | nil => exact List.nodup_nil
  | cons r rest =>
    obtain rfl : rest = [] := by
      rw [← List.length_eq_zero_iff]
      simpa using h
    simpa using r.says_nodup

theorem saidOnce_of_messages (hm : (reports.map Report.message).Nodup)
    (hne : ∀ r ∈ reports, r.elements ≠ []) : SaidOnce reports := by
  constructor
  · refine List.nodup_flatMap.mpr ⟨fun r _ => r.says_nodup, (List.pairwise_map.mp hm).imp ?_⟩
    intro r q hrq x hr hq
    exact hrq ((Report.message_of_says hr).symm.trans (Report.message_of_says hq))
  · rw [List.filter_eq_nil_iff.mpr]
    · exact Nat.zero_le 1
    · intro r hr
      rw [List.isEmpty_iff]
      exact hne r hr

theorem reportAny_length (message : String) (es : List Element) :
    (Rule.reportAny message es).length ≤ 1 := by
  unfold Rule.reportAny
  split <;> simp

theorem elements_of_reportAny {r : Report} (h : r ∈ Rule.reportAny message es) :
    r.message = message ∧ r.elements ≠ [] := by
  unfold Rule.reportAny at h
  split at h
  · cases h
  · next hne =>
    obtain rfl := List.mem_singleton.mp h
    rw [List.isEmpty_iff] at hne
    exact ⟨rfl, hne⟩

theorem saidOnce_flatMap {α : Type} {parts : List α} {message : α → String}
    {elements : α → List Element} (h : (parts.map message).Nodup) :
    SaidOnce (parts.flatMap fun p => Rule.reportAny (message p) (elements p)) := by
  have hsub : ((parts.flatMap fun p => Rule.reportAny (message p) (elements p)).map
      Report.message).Sublist (parts.map message) := by
    clear h
    induction parts with
    | nil => exact List.Sublist.slnil
    | cons p parts ih =>
      rw [List.flatMap_cons, List.map_append, List.map_cons]
      unfold Rule.reportAny
      split
      · exact ih.cons _
      · exact ih.cons_cons _
  apply saidOnce_of_messages (h.sublist hsub)
  intro r hr
  obtain ⟨p, -, hp⟩ := List.mem_flatMap.mp hr
  exact (elements_of_reportAny hp).2

theorem saidOnce_two (h : message ≠ message') :
    SaidOnce (Rule.reportAny message es ++ Rule.reportAny message' fs) := by
  have hparts : SaidOnce ([(message, es), (message', fs)].flatMap fun p =>
      Rule.reportAny p.1 p.2) := saidOnce_flatMap (by simpa using h)
  simpa using hparts

theorem ReportsSingly.saidOnce (h : ReportsSingly d reports) : SaidOnce reports := by
  obtain ⟨xs, hxs, rfl⟩ := h
  obtain ⟨-, hasc⟩ := Document.inOrder_iff.mp hxs
  rw [List.pairwise_map] at hasc
  constructor
  · rw [List.flatMap_map]
    refine List.nodup_flatMap.mpr ⟨fun x _ => Report.says_nodup _, hasc.imp ?_⟩
    intro x y hlt z hx hy
    obtain rfl := List.mem_singleton.mp hx
    obtain heq := List.mem_singleton.mp hy
    exact Nat.ne_of_lt hlt (congrArg Prod.snd heq)
  · rw [List.filter_eq_nil_iff.mpr]
    · exact Nat.zero_le 1
    · intro r hr
      obtain ⟨x, -, rfl⟩ := List.mem_map.mp hr
      simp

def Rule.SaysOnce (r : Rule) : Prop := ∀ d : Document, SaidOnce (r.check d).reports

theorem Rule.selected_saysOnce {id name : String} {s : Selector} :
    (Rule.selected id name message s).SaysOnce :=
  fun _ => saidOnce_of_length (reportAny_length _ _)

theorem Rule.offenders_saysOnce {id name : String} {s : Selector}
    {bad : Document → Element → Bool} : (Rule.offenders id name message s bad).SaysOnce :=
  fun _ => saidOnce_of_length (reportAny_length _ _)

end Reports

namespace Rules

theorem headRules_sayOnce : ∀ r ∈ headRules, r.SaysOnce := by
  have hmissing : ∀ d, (missingCharset d).length ≤ 1 := by
    intro d
    unfold missingCharset
    split <;> simp
  simp only [headRules, List.forall_mem_cons, List.not_mem_nil, false_implies, implies_true,
    and_true]
  refine ⟨fun d => saidOnce_of_length ?_, fun d => saidOnce_of_length ?_,
    fun d => saidOnce_of_length ?_⟩
  · dsimp only [doctype, Rule.total, Outcome.ok]
    split
    · simp
    · split <;> simp
  · dsimp only [charset, Rule.total, Outcome.ok]
    split
    · exact hmissing d
    · split
      · exact hmissing d
      · split <;> simp
  · dsimp only [viewport, Rule.total, Outcome.ok]
    split <;> simp

theorem libraryRules_sayOnce (settings : Settings) : ∀ r ∈ libraryRules settings, r.SaysOnce := by
  simp only [libraryRules, List.forall_mem_cons, List.not_mem_nil, false_implies, implies_true,
    and_true]
  refine ⟨fun d => saidOnce_of_length ?_, fun d => ?_,
    fun d => (outdatedBootstrap_reports settings d).saidOnce⟩
  · rcases bootstrapScripts_cases d with h | h
    · rw [check_duplicateScripts_ok h]
      dsimp only [Outcome.ok, duplicateReports]
      split <;> simp
    · rw [check_duplicateScripts_error h]
      simp
  · rcases jquery_reports settings d with ⟨message, h⟩ | h
    · exact saidOnce_of_length (by simp [h])
    · exact h.saidOnce

theorem gridRules_sayOnce : ∀ r ∈ gridRules, r.SaysOnce := by
  simp only [gridRules, List.forall_mem_cons, List.not_mem_nil, false_implies, implies_true,
    and_true]
  exact ⟨Rule.offenders_saysOnce, Rule.offenders_saysOnce, Rule.offenders_saysOnce,
    Rule.offenders_saysOnce, fun d => saidOnce_of_length (reportAny_length _ _),
    fun d => (redundantColumns_reports d).saidOnce, Rule.selected_saysOnce,
    fun d => saidOnce_two (by decide), fun d => saidOnce_two (by decide),
    fun d => (emptySpacers_reports d).saidOnce⟩

theorem formRules_sayOnce : ∀ r ∈ formRules, r.SaysOnce := by
  simp only [formRules, List.forall_mem_cons, List.not_mem_nil, false_implies, implies_true,
    and_true]
  exact ⟨fun d => saidOnce_two (by decide), Rule.selected_saysOnce, Rule.offenders_saysOnce,
    Rule.selected_saysOnce, Rule.offenders_saysOnce, Rule.offenders_saysOnce,
    fun d => saidOnce_two (by decide), fun d => saidOnce_two (by decide),
    Rule.offenders_saysOnce, Rule.selected_saysOnce, fun d => saidOnce_two (by decide),
    Rule.offenders_saysOnce, Rule.selected_saysOnce, Rule.selected_saysOnce⟩

theorem actionRules_sayOnce : ∀ r ∈ actionRules, r.SaysOnce := by
  simp only [actionRules, List.forall_mem_cons, List.not_mem_nil, false_implies, implies_true,
    and_true]
  and_intros <;> exact Rule.selected_saysOnce

theorem modalRules_sayOnce : ∀ r ∈ modalRules, r.SaysOnce := by
  simp only [modalRules, List.forall_mem_cons, List.not_mem_nil, false_implies, implies_true,
    and_true]
  exact ⟨Rule.selected_saysOnce, fun d => saidOnce_flatMap (by decide), Rule.selected_saysOnce,
    Rule.selected_saysOnce, Rule.selected_saysOnce, Rule.selected_saysOnce⟩

theorem carouselRules_sayOnce : ∀ r ∈ carouselRules, r.SaysOnce := by
  simp only [carouselRules, List.forall_mem_cons, List.not_mem_nil, false_implies, implies_true,
    and_true]
  exact ⟨fun d => saidOnce_two (by decide), fun d => (controlTargets_reports d).saidOnce⟩

theorem componentRules_sayOnce : ∀ r ∈ componentRules, r.SaysOnce := by
  simp only [componentRules, List.forall_mem_cons, List.not_mem_nil, false_implies, implies_true,
    and_true]
  exact ⟨Rule.offenders_saysOnce, Rule.offenders_saysOnce, Rule.offenders_saysOnce,
    Rule.offenders_saysOnce, Rule.selected_saysOnce, Rule.offenders_saysOnce,
    Rule.offenders_saysOnce, Rule.selected_saysOnce⟩

theorem retiredRules_sayOnce : ∀ r ∈ retiredRules, r.SaysOnce := by
  intro r hr
  obtain rfl := List.mem_singleton.mp hr
  exact Rule.offenders_saysOnce

end Rules

theorem catalogue_saysOnce (settings : Settings) : ∀ r ∈ catalogue settings, r.SaysOnce :=
  catalogue_cases settings Rules.headRules_sayOnce (Rules.libraryRules_sayOnce settings)
    Rules.gridRules_sayOnce Rules.formRules_sayOnce Rules.actionRules_sayOnce
    Rules.modalRules_sayOnce Rules.carouselRules_sayOnce Rules.componentRules_sayOnce
    Rules.retiredRules_sayOnce

section Passes

variable {settings : Settings} {d : Document} {e : Entry} {es : List Entry} {p : Problem}
  {ps qs : List Problem}

theorem id_of_mem_problems (h : p ∈ e.problems d) : p.id = e.id := by
  obtain ⟨r, -, rfl⟩ := List.mem_map.mp h
  rfl

theorem problem_isEmpty (e : Entry) (r : Report) :
    (e.problem r).elements.isEmpty = r.elements.isEmpty := by
  have hkept : (r.elements.eraseDupsBy Element.same).isEmpty = r.elements.isEmpty := by
    cases r.elements with
    | nil => rfl
    | cons x xs =>
      have hx : x ∈ x :: xs := List.mem_cons_self
      obtain ⟨y, hy, -⟩ := exists_mem_eraseDups hx
      rw [List.isEmpty_cons, List.isEmpty_eq_false_iff]
      exact List.ne_nil_of_mem hy
  exact List.isEmpty_map.trans hkept

theorem SaidOnce.foundOnce (h : SaidOnce (e.rule.check d).reports) : FoundOnce (e.problems d) := by
  have hfindings : findings (e.problems d) =
      ((e.rule.check d).reports.flatMap Report.says).map fun x => (e.id, x) := by
    simp only [findings, Entry.problems, List.flatMap_map, List.map_flatMap, Report.says,
      Entry.problem, ElementRef.ofElements, List.map_map]
    rfl
  constructor
  · rw [hfindings]
    exact h.distinct.map fun _ _ heq => (Prod.mk.inj heq).2
  · intro id
    rw [bareProblems, Entry.problems, List.filter_map, List.length_map]
    refine Nat.le_trans (List.monotone_filter_right _ ?_).length_le h.bare
    intro r hr
    obtain ⟨-, hempty⟩ := Bool.and_eq_true_iff.mp hr
    rwa [problem_isEmpty] at hempty

theorem foundOnce_append (hp : FoundOnce ps) (hq : FoundOnce qs)
    (hid : ∀ p ∈ ps, ∀ q ∈ qs, p.id ≠ q.id) : FoundOnce (ps ++ qs) := by
  have hsaid : ∀ {xs : List Problem} {x}, x ∈ findings xs → ∃ p ∈ xs, p.id = x.1 := by
    intro xs x hx
    obtain ⟨p, hmem, hx⟩ := List.mem_flatMap.mp hx
    obtain ⟨r, -, rfl⟩ := List.mem_map.mp hx
    exact ⟨p, hmem, rfl⟩
  constructor
  · rw [findings, List.flatMap_append]
    refine List.nodup_append'.mpr ⟨hp.distinct, hq.distinct, ?_⟩
    intro x hx hy
    obtain ⟨p, hpmem, hpid⟩ := hsaid hx
    obtain ⟨q, hqmem, hqid⟩ := hsaid hy
    exact hid p hpmem q hqmem (hpid.trans hqid.symm)
  · intro id
    rw [bareProblems, List.filter_append, List.length_append]
    by_cases hnone : bareProblems id ps = []
    · have hlength := hq.bare id
      rw [bareProblems] at hnone hlength
      rw [hnone]
      simpa using hlength
    · -- the id is one of the first problems, so none of the others has it
      obtain ⟨p, hpmem⟩ := List.exists_mem_of_ne_nil _ hnone
      obtain ⟨hpmem, htest⟩ := List.mem_filter.mp hpmem
      have hother : qs.filter (fun q => q.id = id && q.elements.isEmpty) = [] := by
        refine List.filter_eq_nil_iff.mpr fun q hqmem hq => hid p hpmem q hqmem ?_
        simp only [Bool.and_eq_true, decide_eq_true_eq] at htest hq
        exact htest.1.trans hq.1.symm
      rw [hother]
      exact hp.bare id

/-- By induction on the entries: the ids ascend, so what an entry finds is found by none after
it. -/
theorem runEntries_foundOnce (hasc : Ascending es) (h : ∀ e ∈ es, e.rule.SaysOnce) :
    FoundOnce (runEntries d es).problems := by
  induction es with
  | nil => exact ⟨List.nodup_nil, fun _ => Nat.zero_le 1⟩
  | cons e es ih =>
    obtain ⟨hlt, hrest⟩ := List.pairwise_cons.mp hasc
    have hfirst : FoundOnce (e.problems d) := (h e List.mem_cons_self d).foundOnce
    cases hf : (e.rule.check d).fault with
    | some f =>
      rw [runEntries_cons_fail hf]
      exact hfirst
    | none =>
      rw [runEntries_cons_complete hf]
      refine foundOnce_append hfirst (ih hrest fun x hx => h x (List.mem_cons_of_mem e hx)) ?_
      intro p hp q hq heq
      obtain ⟨x, hx, hqx⟩ := mem_runEntries hq
      rw [id_of_mem_problems hp, id_of_mem_problems hqx] at heq
      have hless := hlt x hx
      rw [heq] at hless
      exact String.lt_irrefl _ hless

theorem FoundOnce.locate (h : FoundOnce ps) (d : Document) :
    FoundOnce (ps.map (Problem.locate d)) := by
  have hfindings : findings (ps.map (Problem.locate d)) = findings ps := by
    simp only [findings, List.flatMap_map, Problem.locate, Problem.withElements, List.map_map]
    rfl
  constructor
  · rw [hfindings]
    exact h.distinct
  · intro id
    have hbare : (fun p : Problem => decide (p.id = id) && p.elements.isEmpty) ∘
        Problem.locate d = fun p => decide (p.id = id) && p.elements.isEmpty := by
      funext p
      exact congrArg (decide (p.id = id) && ·) List.isEmpty_map
    rw [bareProblems, List.filter_map, List.length_map, hbare]
    exact h.bare id

theorem Registry.standard_foundOnce (settings : Settings) (d : Document) (disabled : Disabled) :
    FoundOnce ((Registry.standard settings).run d disabled).problems := by
  apply runEntries_foundOnce
  · exact (entries_ascending (catalogue_wellIdentified settings)).filter _
  · intro e he
    obtain ⟨r, hr, hentry⟩ := mem_ofRules_origin (List.mem_filter.mp he).1
    obtain ⟨rfl, -⟩ := entry_spec hentry
    exact catalogue_saysOnce settings e.rule hr

end Passes

/-- No pass of the built-in rules says the same thing of an element twice, be it in one problem or
in two, and no rule has more than one problem without elements. This holds with any settings,
whatever is disabled, and with and without locations. -/
theorem no_finding_twice (settings : Settings) (d : Document) :
    (∀ disabled : Disabled, FoundOnce ((Registry.standard settings).run d disabled).problems) ∧
      ∀ named : Option Disabled,
        FoundOnce ((Linter.standard settings).lintDocument d named).problems := by
  refine ⟨Registry.standard_foundOnce settings d, fun named => ?_⟩
  have hrun := Registry.standard_foundOnce settings d ((Linter.standard settings).disabledBy named)
  unfold Linter.lintDocument
  dsimp only
  split
  · exact hrun.locate d
  · exact hrun

end MarkupLint
