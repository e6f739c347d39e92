import MarkupLint.Proofs.DocumentOrder
import MarkupLint.Proofs.Passes
import MarkupLint.Proofs.Repetitions
import MarkupLint.Proofs.ScriptSearches

/-! # The order of findings

A problem lists its elements each once, in the order in which they are first met. Most rules meet
them in document order, since they go through what a selector matches. Two do not: one lists the
scripts of one kind before those of another, and one lists the parents of what it goes through.
For both it is said exactly on which documents their elements still come in document order.
-/
namespace MarkupLint

open Document (Element)

namespace Rules

open Selector

variable {d : Document} {part holder : String}

theorem select_inOrder (d : Document) (s : Selector) : d.InOrder (d.select s) :=
  List.filter_sublist

theorem namedScripts_inOrder (file : String) (d : Document) :
    d.InOrder (namedScripts file d) :=
  List.filter_sublist.trans (select_inOrder d _)

/-- Every readable copy of Bootstrap's script stands before every minified one, if these scripts are
found. -/
def LonghandFirst (d : Document) : Prop :=
  ∀ scripts ∈ (bootstrapScripts d).toOption, ∀ l ∈ scripts.1, ∀ m ∈ scripts.2, l.index < m.index

instance (d : Document) : Decidable (LonghandFirst d) :=
  inferInstanceAs (Decidable (∀ scripts ∈ (bootstrapScripts d).toOption,
    ∀ l ∈ scripts.1, ∀ m ∈ scripts.2, l.index < m.index))

theorem longhandFirst_iff {scripts : List Element × List Element}
    (h : bootstrapScripts d = .ok scripts) :
    LonghandFirst d ↔ ∀ l ∈ scripts.1, ∀ m ∈ scripts.2, l.index < m.index := by
  rw [LonghandFirst, h]
  exact ⟨fun hall => hall scripts rfl, fun hall _ hsome => Option.some.inj hsome ▸ hall⟩

theorem scripts_inOrder_iff {scripts : List Element × List Element}
    (h : bootstrapScripts d = .ok scripts) :
    d.InOrder ((scripts.1 ++ scripts.2).eraseDupsBy Element.same) ↔ LonghandFirst d := by
  rw [longhandFirst_iff h]
  obtain rfl := of_bootstrapScripts h
  obtain ⟨hlm, hl⟩ := Document.inOrder_iff.mp (namedScripts_inOrder "bootstrap.js" d)
  obtain ⟨hmm, hm⟩ := Document.inOrder_iff.mp (namedScripts_inOrder "bootstrap.min.js" d)
  have hne : ∀ l ∈ namedScripts "bootstrap.js" d, ∀ m ∈ namedScripts "bootstrap.min.js" d,
      l.index ≠ m.index := by
    intro l hl m hm heq
    obtain rfl := Document.eq_of_index_eq (hlm l hl) (hmm m hm) heq
    exact absurd (file_eq_of_mem hl hm) (by decide)
  have hdistinct : (namedScripts "bootstrap.js" d ++ namedScripts "bootstrap.min.js" d).Pairwise
      fun e f => e.index ≠ f.index :=
    List.pairwise_append.mpr ⟨hl.imp Nat.ne_of_lt, hm.imp Nat.ne_of_lt, hne⟩
  rw [eraseDups_eq_self hdistinct, Document.inOrder_iff, List.pairwise_append]
  constructor
  · exact fun h => h.2.2.2
  · refine fun h => ⟨fun e he => ?_, hl, hm, h⟩
    rcases List.mem_append.mp he with he | he
    · exact hlm e he
    · exact hmm e he

def misplaced (d : Document) (part holder : String) : List (Element × Element) :=
  (d.select (cls part)).filterMap fun e => (wrongParent? d holder e).map fun p => (e, p)

/-- Where the wrong parent of a misplaced part stands inside that of another one, the outer parent
has a misplaced part before it. -/
def OuterFirst (d : Document) (part holder : String) : Prop :=
  ∀ x ∈ misplaced d part holder, ∀ y ∈ misplaced d part holder, y.2 ∈ x.2.parents →
    ∃ z ∈ misplaced d part holder, z.2 = y.2 ∧ z.1.index < x.1.index

instance (d : Document) (part holder : String) : Decidable (OuterFirst d part holder) :=
  inferInstanceAs (Decidable (∀ x ∈ misplaced d part holder, ∀ y ∈ misplaced d part holder,
    y.2 ∈ x.2.parents → ∃ z ∈ misplaced d part holder, z.2 = y.2 ∧ z.1.index < x.1.index))

theorem wrongParents_eq (d : Document) (part holder : String) :
    wrongParents d part holder =
      ((misplaced d part holder).map Prod.snd).eraseDupsBy Element.same := by
  rw [wrongParents, misplaced, List.map_filterMap]
  congr 2
  funext e
  cases wrongParent? d holder e <;> rfl

theorem misplaced_ascending (d : Document) (part holder : String) :
    (misplaced d part holder).Pairwise fun x y => x.1.index < y.1.index := by
  refine List.pairwise_filterMap.mpr ((Document.inOrder_iff.mp (select_inOrder d _)).2.imp ?_)
  intro e f hlt x hx y hy
  obtain ⟨p, -, rfl⟩ := Option.map_eq_some_iff.mp hx
  obtain ⟨q, -, rfl⟩ := Option.map_eq_some_iff.mp hy
  exact hlt

theorem misplaced_spans {x : Element × Element} (h : x ∈ misplaced d part holder) :
    x.2 ∈ d.elements ∧ x.2.Spans x.1 := by
  obtain ⟨e, he, hx⟩ := List.mem_filterMap.mp h
  obtain ⟨p, hp, rfl⟩ := Option.map_eq_some_iff.mp hx
  have hparent : e.parent? = some p := (Option.filter_eq_some_iff.mp hp).1
  exact Document.parent_spans ((select_inOrder d _).subset he)
    (Element.mem_parents_of_parent hparent)

theorem outerFirst_of_firstMetAscending
    (h : FirstMetAscending ((misplaced d part holder).map Prod.snd)) :
    OuterFirst d part holder := by
  intro x hx y hy hyx
  obtain ⟨hxd, -⟩ := misplaced_spans hx
  have hlt : y.2.index < x.2.index := (Document.parent_spans hxd hyx).2.1
  obtain ⟨before, after, hcut, hnew⟩ :=
    List.eq_append_cons_of_mem (List.mem_map_of_mem (f := Prod.snd) hy)
  have hdiff : ∀ p ∈ before, p.index ≠ y.2.index := by
    intro p hp heq
    have hpm : p ∈ (misplaced d part holder).map Prod.snd := by simp [hcut, hp]
    obtain ⟨w, hw, rfl⟩ := List.mem_map.mp hpm
    exact hnew (Document.eq_of_index_eq (misplaced_spans hw).1 (misplaced_spans hy).1 heq ▸ hp)
  -- cut the misplaced parts where the outer parent is met for the first time
  obtain ⟨parts, rest, hparts, rfl, hrest⟩ := List.map_eq_append_iff.mp hcut
  obtain ⟨z, later, rfl, hz, -⟩ := List.map_eq_cons_iff.mp hrest
  have hzm : z ∈ misplaced d part holder := by simp [hparts]
  refine ⟨z, hzm, hz, ?_⟩
  have hasc := misplaced_ascending d part holder
  rw [hparts] at hasc hx
  rcases List.mem_append.mp hx with hx | hx
  · have := h _ _ _ hcut hdiff x.2 (List.mem_map_of_mem hx)
    omega
  · rcases List.mem_cons.mp hx with rfl | hx
    · rw [hz] at hlt
      omega
    · exact (List.pairwise_cons.mp (List.pairwise_append.mp hasc).2.1).1 x hx

theorem firstMetAscending_of_outerFirst (h : OuterFirst d part holder) :
    FirstMetAscending ((misplaced d part holder).map Prod.snd) := by
  intro before q after hcut hnew p hp
  obtain ⟨parts, rest, hparts, rfl, hrest⟩ := List.map_eq_append_iff.mp hcut
  obtain ⟨y, later, rfl, rfl, -⟩ := List.map_eq_cons_iff.mp hrest
  obtain ⟨x, hx, rfl⟩ := List.mem_map.mp hp
  have hxm : x ∈ misplaced d part holder := by simp [hparts, hx]
  have hym : y ∈ misplaced d part holder := by simp [hparts]
  obtain ⟨hxd, hxs⟩ := misplaced_spans hxm
  obtain ⟨hyd, hys⟩ := misplaced_spans hym
  have hasc := misplaced_ascending d part holder
  rw [hparts] at hasc
  obtain ⟨-, hcons, hcross⟩ := List.pairwise_append.mp hasc
  have hxy : x.1.index < y.1.index := hcross x hx y List.mem_cons_self
  apply Nat.lt_of_not_le
  intro hle
  have hlt : y.2.index < x.2.index := Nat.lt_of_le_of_ne hle (hnew x.2 hp).symm
  -- the later parent begins before the earlier one and ends after it, so it stands around it
  have hspan : y.2.Spans x.2 := ⟨hlt, by have := hxs.1; have := hys.2; omega⟩
  obtain ⟨z, hz, hzy, hzx⟩ := h x hxm y hym ((Document.mem_parents_iff hyd hxd).mpr hspan)
  rw [hparts] at hz
  rcases List.mem_append.mp hz with hz | hz
  · exact hnew z.2 (List.mem_map_of_mem hz) (by rw [hzy])
  · rcases List.mem_cons.mp hz with rfl | hz
    · omega
    · have := (List.pairwise_cons.mp hcons).1 z hz
      omega

theorem wrongParents_inOrder_iff :
    d.InOrder ((wrongParents d part holder).eraseDupsBy Element.same) ↔
      OuterFirst d part holder := by
  rw [wrongParents_eq, eraseDups_eq_self (eraseDups_distinct _), Document.inOrder_iff,
    eraseDups_ascending_iff]
  constructor
  · exact fun h => outerFirst_of_firstMetAscending h.2
  · refine fun h => ⟨fun p hp => ?_, firstMetAscending_of_outerFirst h⟩
    obtain ⟨x, hx, rfl⟩ := List.mem_map.mp ((eraseDups_sublist _).subset hp)
    exact (misplaced_spans hx).1

end Rules

section Reports

variable {id name message : String} {d : Document} {s : Selector} {es : List Element}
  {reports others : List Report}

def ReportsInOrder (d : Document) (reports : List Report) : Prop :=
  ∀ report ∈ reports, d.InOrder report.elements

theorem reportsInOrder_nil : ReportsInOrder d [] := fun _ h => nomatch h

theorem reportsInOrder_one (h : d.InOrder es) : ReportsInOrder d [⟨message, es⟩] := by
  intro report hr
  obtain rfl := List.mem_singleton.mp hr
  exact h

theorem reportsInOrder_none : ReportsInOrder d [⟨message, []⟩] :=
  reportsInOrder_one (List.nil_sublist _)

theorem reportsInOrder_append (h : ReportsInOrder d reports) (ho : ReportsInOrder d others) :
    ReportsInOrder d (reports ++ others) := by
  intro report hr
  rcases List.mem_append.mp hr with hr | hr
  · exact h report hr
  · exact ho report hr

theorem reportsInOrder_any (h : d.InOrder es) : ReportsInOrder d (Rule.reportAny message es) := by
  unfold Rule.reportAny
  split
  · exact reportsInOrder_nil
  · exact reportsInOrder_one h

def ReportsSingly (d : Document) (reports : List Report) : Prop :=
  ∃ xs : List (String × Element), d.InOrder (xs.map Prod.snd) ∧
    reports = xs.map fun x => ⟨x.1, [x.2]⟩

theorem ReportsSingly.inOrder (h : ReportsSingly d reports) : ReportsInOrder d reports := by
  obtain ⟨xs, hxs, rfl⟩ := h
  intro report hr
  obtain ⟨x, hx, rfl⟩ := List.mem_map.mp hr
  exact List.singleton_sublist.mpr (hxs.subset (List.mem_map_of_mem hx))

def InspectsOne (inspect : Element → Except Fault (List Report)) : Prop :=
  ∀ e reports, inspect e = .ok reports → reports = [] ∨ ∃ message, reports = [⟨message, [e]⟩]

theorem InspectsOne.each_reports {inspect : Element → Except Fault (List Report)}
    (h : InspectsOne inspect) (es : List Element) :
    ∃ xs : List (String × Element), (xs.map Prod.snd).Sublist es ∧
      (Outcome.each inspect es).reports = xs.map fun x => ⟨x.1, [x.2]⟩ := by
  induction es with
  | nil => exact ⟨[], List.Sublist.slnil, rfl⟩
  | cons e es ih =>
    obtain ⟨xs, hxs, hrest⟩ := ih
    unfold Outcome.each
    split
    · exact ⟨[], List.nil_sublist _, rfl⟩
    · next reports hr =>
      rcases h e reports hr with rfl | ⟨message, rfl⟩
      · exact ⟨xs, hxs.cons e, hrest⟩
      · exact ⟨(message, e) :: xs, hxs.cons_cons e, congrArg _ hrest⟩

theorem InspectsOne.reportsSingly {inspect : Element → Except Fault (List Report)}
    (h : InspectsOne inspect) (hes : d.InOrder es) :
    ReportsSingly d (Outcome.each inspect es).reports := by
  obtain ⟨xs, hxs, hreports⟩ := h.each_reports es
  exact ⟨xs, hxs.trans hes, hreports⟩

def Rule.ListsInOrder (r : Rule) : Prop := ∀ d : Document, ReportsInOrder d (r.check d).reports

theorem Rule.selected_listsInOrder : (Rule.selected id name message s).ListsInOrder :=
  fun d => reportsInOrder_any (Rules.select_inOrder d s)

theorem Rule.offenders_listsInOrder {bad : Document → Element → Bool} :
    (Rule.offenders id name message s bad).ListsInOrder :=
  fun d => reportsInOrder_any (List.filter_sublist.trans (Rules.select_inOrder d s))

end Reports

namespace Rules

theorem columns_inOrder (d : Document) : d.InOrder (columns d) :=
  List.filter_sublist.trans (select_inOrder d _)

theorem bind_eq_ok {α β : Type} {a : Except Fault α} {f : α → Except Fault β} {b : β}
    (h : (a >>= f) = .ok b) : ∃ x, a = .ok x ∧ f x = .ok b := by
  cases a with
  | error fault => cases h
  | ok x => exact ⟨x, rfl, h⟩

theorem headRules_listInOrder : ∀ r ∈ headRules, r.ListsInOrder := by
  simp only [headRules, List.forall_mem_cons, List.not_mem_nil, false_implies, implies_true,
    and_true]
  have hmissing : ∀ d, ReportsInOrder d (missingCharset d) := by
    intro d
    unfold missingCharset
    split
    · exact reportsInOrder_nil
    · exact reportsInOrder_none
  refine ⟨fun d => ?_, fun d => ?_, fun d => ?_⟩
  · dsimp only [doctype, Rule.total, Outcome.ok]
    split
    · exact reportsInOrder_none
    · split
      · exact reportsInOrder_nil
      · exact reportsInOrder_none
  · dsimp only [charset, Rule.total, Outcome.ok]
    split
    · exact hmissing d
    · split
      · exact hmissing d
      · split
        · exact reportsInOrder_nil
        · exact reportsInOrder_one (select_inOrder d _)
  · dsimp only [viewport, Rule.total, Outcome.ok]
    split
    · exact reportsInOrder_none
    · exact reportsInOrder_nil

theorem jquery_reports (settings : Settings) (d : Document) :
    (∃ message, ((jquery settings).check d).reports = [⟨message, []⟩]) ∨
      ReportsSingly d ((jquery settings).check d).reports := by
  dsimp only [jquery]
  split
  · rcases bootstrapScripts_cases d with h | h
    · rw [h]
      exact Or.inl ⟨_, rfl⟩
    · rw [h]
      exact Or.inr ⟨[], List.nil_sublist _, rfl⟩
  · refine Or.inr (InspectsOne.reportsSingly (fun e reports h => ?_) (select_inOrder d _))
    obtain ⟨old, -, h⟩ := bind_eq_ok h
    split at h <;> obtain rfl := Except.ok.inj h
    · exact Or.inr ⟨_, rfl⟩
    · exact Or.inl rfl

theorem outdatedBootstrap_reports (settings : Settings) (d : Document) :
    ReportsSingly d ((outdatedBootstrap settings).check d).reports := by
  refine InspectsOne.reportsSingly (fun e reports h => ?_) (select_inOrder d _)
  obtain ⟨version, -, h⟩ := bind_eq_ok h
  split at h
  · exact Or.inl (Except.ok.inj h).symm
  · obtain ⟨old, -, h⟩ := bind_eq_ok h
    split at h <;> obtain rfl := Except.ok.inj h
    · exact Or.inr ⟨_, rfl⟩
    · exact Or.inl rfl

theorem redundantColumns_reports (d : Document) :
    ReportsSingly d (redundantColumns.check d).reports := by
  refine InspectsOne.reportsSingly (fun e reports h => ?_) (columns_inOrder d)
  unfold redundantReports at h
  split at h
  · cases h
  · dsimp only at h
    split at h <;> obtain rfl := Except.ok.inj h
    · exact Or.inr ⟨_, rfl⟩
    · exact Or.inl rfl

theorem emptySpacers_reports (d : Document) :
    ReportsSingly d (emptySpacers.check d).reports := by
  refine ⟨((columns d).filter (isSpacer d)).map fun e =>
    ("Using empty spacer columns isn't necessary with Bootstrap's grid.", e), ?_, ?_⟩
  · rw [List.map_map]
    exact (List.map_id _).symm ▸ List.filter_sublist.trans (columns_inOrder d)
  · rw [List.map_map]
    rfl

theorem controlTargets_reports (d : Document) :
    ReportsSingly d (controlTargets.check d).reports := by
  refine InspectsOne.reportsSingly (fun e reports h => ?_) (select_inOrder d _)
  obtain ⟨found, -, h⟩ := bind_eq_ok h
  split at h <;> obtain rfl := Except.ok.inj h
  · exact Or.inr ⟨_, rfl⟩
  · exact Or.inl rfl

/-- All rules on libraries but the one on two copies of a script. -/
theorem libraryRules_listInOrder (settings : Settings) :
    ∀ r ∈ libraryRules settings, r.id ≠ .text "E007" → r.ListsInOrder := by
  simp only [libraryRules, List.forall_mem_cons, List.not_mem_nil, false_implies, implies_true,
    and_true]
  refine ⟨fun h => absurd rfl h, fun _ d => ?_,
    fun _ d => (outdatedBootstrap_reports settings d).inOrder⟩
  rcases jquery_reports settings d with ⟨message, h⟩ | h
  · rw [h]
    exact reportsInOrder_none
  · exact h.inOrder

theorem gridRules_listInOrder : ∀ r ∈ gridRules, r.ListsInOrder := by
  simp only [gridRules, List.forall_mem_cons, List.not_mem_nil, false_implies, implies_true,
    and_true]
  have hcolumns : ∀ (d : Document) (p : Element → Bool), d.InOrder ((columns d).filter p) :=
    fun d p => List.filter_sublist.trans (columns_inOrder d)
  exact ⟨Rule.offenders_listsInOrder, Rule.offenders_listsInOrder, Rule.offenders_listsInOrder,
    Rule.offenders_listsInOrder, fun d => reportsInOrder_any (hcolumns d _),
    fun d => (redundantColumns_reports d).inOrder, Rule.selected_listsInOrder,
    fun d => reportsInOrder_append (reportsInOrder_any (hcolumns d _))
      (reportsInOrder_any (hcolumns d _)),
    fun d => reportsInOrder_append (reportsInOrder_any (select_inOrder d _))
      (reportsInOrder_any (List.filter_sublist.trans (select_inOrder d _))),
    fun d => (emptySpacers_reports d).inOrder⟩

theorem formRules_listInOrder : ∀ r ∈ formRules, r.ListsInOrder := by
  simp only [formRules, List.forall_mem_cons, List.not_mem_nil, false_implies, implies_true,
    and_true]
  have hinline : ∀ id name kind, (inlineChoice id name kind).ListsInOrder :=
    fun id name kind d => reportsInOrder_append (reportsInOrder_any (select_inOrder d _))
      (reportsInOrder_any (List.filter_sublist.trans (select_inOrder d _)))
  have htwo : ∀ (d : Document) (s t : Selector) (message message' : String),
      ReportsInOrder d (Rule.reportAny message (d.select s) ++
        Rule.reportAny message' (d.select t)) :=
    fun d s t _ _ => reportsInOrder_append (reportsInOrder_any (select_inOrder d s))
      (reportsInOrder_any (select_inOrder d t))
  exact ⟨fun d => htwo d _ _ _ _, Rule.selected_listsInOrder, Rule.offenders_listsInOrder,
    Rule.selected_listsInOrder, Rule.offenders_listsInOrder, Rule.offenders_listsInOrder,
    hinline _ _ _, hinline _ _ _, Rule.offenders_listsInOrder, Rule.selected_listsInOrder,
    fun d => htwo d _ _ _ _, Rule.offenders_listsInOrder, Rule.selected_listsInOrder,
    Rule.selected_listsInOrder⟩

theorem actionRules_listInOrder : ∀ r ∈ actionRules, r.ListsInOrder := by
  simp only [actionRules, List.forall_mem_cons, List.not_mem_nil, false_implies, implies_true,
    and_true]
  exact ⟨Rule.selected_listsInOrder, Rule.selected_listsInOrder, Rule.selected_listsInOrder,
    Rule.selected_listsInOrder, Rule.selected_listsInOrder, Rule.selected_listsInOrder,
    Rule.selected_listsInOrder, Rule.selected_listsInOrder⟩

theorem modalRules_listInOrder :
    ∀ r ∈ modalRules, r.id ≠ .text "E032" → r.ListsInOrder := by
  simp only [modalRules, List.forall_mem_cons, List.not_mem_nil, false_implies, implies_true,
    and_true]
  exact ⟨fun _ => Rule.selected_listsInOrder, fun h => absurd rfl h,
    fun _ => Rule.selected_listsInOrder, fun _ => Rule.selected_listsInOrder,
    fun _ => Rule.selected_listsInOrder, fun _ => Rule.selected_listsInOrder⟩

theorem carouselRules_listInOrder : ∀ r ∈ carouselRules, r.ListsInOrder := by
  simp only [carouselRules, List.forall_mem_cons, List.not_mem_nil, false_implies, implies_true,
    and_true]
  exact ⟨fun d => reportsInOrder_append
    (reportsInOrder_any (List.filter_sublist.trans (select_inOrder d _)))
    (reportsInOrder_any (List.filter_sublist.trans (select_inOrder d _))),
    fun d => (controlTargets_reports d).inOrder⟩

theorem componentRules_listInOrder : ∀ r ∈ componentRules, r.ListsInOrder := by
  simp only [componentRules, List.forall_mem_cons, List.not_mem_nil, false_implies, implies_true,
    and_true]
  exact ⟨Rule.offenders_listsInOrder, Rule.offenders_listsInOrder, Rule.offenders_listsInOrder,
    Rule.offenders_listsInOrder, Rule.selected_listsInOrder, Rule.offenders_listsInOrder,
    Rule.offenders_listsInOrder, Rule.selected_listsInOrder⟩

theorem retiredRules_listInOrder : ∀ r ∈ retiredRules, r.ListsInOrder := by
  intro r hr
  obtain rfl := List.mem_singleton.mp hr
  exact Rule.offenders_listsInOrder

theorem duplicateScripts_inOrder_iff (d : Document) :
    (∀ report ∈ (duplicateScripts.check d).reports,
        d.InOrder (report.elements.eraseDupsBy Element.same)) ↔ LonghandFirst d := by
  cases hfound : bootstrapScripts d with
  | error f =>
    rw [check_duplicateScripts_error hfound, LonghandFirst, hfound]
    constructor
    · intro _ scripts hnone
      cases hnone
    · intro _ report hr
      cases hr
  | ok scripts =>
    rw [check_duplicateScripts_ok hfound]
    dsimp only [Outcome.ok, duplicateReports]
    split
    · next h =>
      refine ⟨fun _ => (longhandFirst_iff hfound).mpr fun l hl m hm => ?_,
        fun _ report hr => nomatch hr⟩
      rw [Bool.or_eq_true, List.isEmpty_iff, List.isEmpty_iff] at h
      rcases h with h | h
      · rw [h] at hl
        cases hl
      · rw [h] at hm
        cases hm
    · rw [← scripts_inOrder_iff hfound]
      simp only [List.mem_singleton, forall_eq]

theorem modalStructure_inOrder_iff (d : Document) :
    (∀ report ∈ (modalStructure.check d).reports,
        d.InOrder (report.elements.eraseDupsBy Element.same)) ↔
      ∀ x ∈ modalParts, OuterFirst d x.1 x.2 := by
  dsimp only [modalStructure, Rule.total, Outcome.ok]
  simp only [List.mem_flatMap, ← wrongParents_inOrder_iff]
  constructor
  · intro h x hx
    by_cases hempty : (wrongParents d x.1 x.2).isEmpty
    · rw [List.isEmpty_iff.mp hempty]
      exact List.nil_sublist _
    · exact h ⟨misplacedMessage x.1 x.2, wrongParents d x.1 x.2⟩
        ⟨x, hx, by simp [Rule.reportAny, hempty]⟩
  · rintro h report ⟨x, hx, hr⟩
    unfold Rule.reportAny at hr
    split at hr
    · cases hr
    · obtain rfl := List.mem_singleton.mp hr
      exact h x hx

end Rules

section Findings

variable {settings : Settings} {d : Document} {r : Rule} {e : Entry}

theorem catalogue_listsInOrder (settings : Settings) :
    ∀ r ∈ catalogue settings, r.id ≠ .text "E007" → r.id ≠ .text "E032" → r.ListsInOrder :=
  catalogue_cases settings (fun r h _ _ => Rules.headRules_listInOrder r h)
    (fun r h hscripts _ => Rules.libraryRules_listInOrder settings r h hscripts)
    (fun r h _ _ => Rules.gridRules_listInOrder r h)
    (fun r h _ _ => Rules.formRules_listInOrder r h)
    (fun r h _ _ => Rules.actionRules_listInOrder r h)
    (fun r h _ hparts => Rules.modalRules_listInOrder r h hparts)
    (fun r h _ _ => Rules.carouselRules_listInOrder r h)
    (fun r h _ _ => Rules.componentRules_listInOrder r h)
    (fun r h _ _ => Rules.retiredRules_listInOrder r h)

theorem catalogue_eq_of_id {q : Rule} (hr : r ∈ catalogue settings) (hq : q ∈ catalogue settings)
    (h : r.id = q.id) : r = q :=
  List.inj_on_of_nodup_map (catalogue_wellIdentified settings).1 hr hq h

theorem elements_problem (e : Entry) (report : Report) :
    (e.problem report).elements.map ElementRef.element =
      report.elements.eraseDupsBy Element.same := by
  simp [Entry.problem, ElementRef.ofElements, Function.comp_def]

theorem problems_inOrder_iff :
    (∀ p ∈ e.problems d, d.InOrder (p.elements.map ElementRef.element)) ↔
      ∀ report ∈ (e.rule.check d).reports,
        d.InOrder (report.elements.eraseDupsBy Element.same) := by
  simp only [Entry.problems, List.forall_mem_map, elements_problem]

/-- The elements of every problem of a built-in rule come in document order, with two exceptions.
The rule on two copies of a script keeps the order just on documents where all readable copies
stand before the minified ones. The rule on the parts of modals keeps it just where no wrong
parent inside another one has a misplaced part before all those of the outer one. -/
theorem findings_inOrder_iff (settings : Settings) (d : Document) (e : Entry)
    (he : e.rule ∈ catalogue settings) :
    (∀ p ∈ e.problems d, d.InOrder (p.elements.map ElementRef.element)) ↔
      (e.rule.id = .text "E007" → Rules.LonghandFirst d) ∧
        (e.rule.id = .text "E032" →
          ∀ x ∈ Rules.modalParts, Rules.OuterFirst d x.1 x.2) := by
  have hne : RuleId.text "E007" ≠ .text "E032" := by decide
  rw [problems_inOrder_iff]
  by_cases hscripts : e.rule.id = .text "E007"
  · have hr : e.rule = Rules.duplicateScripts :=
      catalogue_eq_of_id he (by simp [catalogue, Rules.libraryRules]) hscripts
    rw [hr, Rules.duplicateScripts_inOrder_iff]
    exact ⟨fun h => ⟨fun _ => h, fun hid => absurd hid hne⟩, fun h => h.1 rfl⟩
  · by_cases hparts : e.rule.id = .text "E032"
    · have hr : e.rule = Rules.modalStructure :=
        catalogue_eq_of_id he (by simp [catalogue, Rules.modalRules]) hparts
      rw [hr, Rules.modalStructure_inOrder_iff]
      exact ⟨fun h => ⟨fun hid => absurd hid.symm hne, fun _ => h⟩, fun h => h.2 rfl⟩
    · refine ⟨fun _ => ⟨fun h => absurd h hscripts, fun h => absurd h hparts⟩, ?_⟩
      intro _ report hr
      exact (eraseDups_sublist _).trans
        (catalogue_listsInOrder settings e.rule he hscripts hparts d report hr)

def scriptTag (file : String) : Document.Tag := ⟨"script", [("src", .text file)], none⟩

def minifiedFirst : Document :=
  .ofContent (.element (scriptTag "bootstrap.min.js") .nil
    (.element (scriptTag "bootstrap.js") .nil .nil))

def division (classes : List String) : Document.Tag := ⟨"div", [("class", .words classes)], none⟩

/-- A wrong parent inside another one, whose own misplaced part comes last. -/
def innerPartFirst : Document :=
  .ofContent (.element (division [])
    (.element (division []) (.element (division ["modal-body"]) .nil .nil)
      (.element (division ["modal-body"]) .nil .nil)) .nil)

theorem findings_inOrder_iff_modal_parts :
    Rules.modalStructure ∈ catalogue {} ∧
      ¬∀ p ∈ Entry.problems innerPartFirst ⟨"E032", .error, "", Rules.modalStructure⟩,
        innerPartFirst.InOrder (p.elements.map ElementRef.element) := by
  have hr : Rules.modalStructure ∈ catalogue {} := by simp [catalogue, Rules.modalRules]
  refine ⟨hr, fun h => ?_⟩
  have hparts := ((findings_inOrder_iff {} innerPartFirst
    ⟨"E032", .error, "", Rules.modalStructure⟩ hr).mp h).2 rfl ("modal-body", "modal-content")
  exact absurd (hparts (by decide)) (by decide +kernel)

/-- Both exceptions occur: a readable copy is listed before a minified one that precedes it, and an
inner parent before the outer one. -/
theorem findings_out_of_order :
    (∃ p ∈ Entry.problems minifiedFirst ⟨"E007", .error, "", Rules.duplicateScripts⟩,
        ¬minifiedFirst.InOrder (p.elements.map ElementRef.element)) ∧
      ∃ p ∈ Entry.problems innerPartFirst ⟨"E032", .error, "", Rules.modalStructure⟩,
        ¬innerPartFirst.InOrder (p.elements.map ElementRef.element) := by
  decide +kernel

end Findings

end MarkupLint
