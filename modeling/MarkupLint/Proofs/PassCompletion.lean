import MarkupLint.Proofs.FindingOrder
import MarkupLint.Proofs.LibraryScripts
import MarkupLint.Proofs.WrittenValues

/-! # Passes that complete

Of the built-in rules, those that read the versions in links and the one that follows the targets
of controls can fail. Two more read what may not be there. The rule on written column classes reads
the text of start tags; it goes through if no reference in the text is too long. The rule on two
copies of Bootstrap reads the links of scripts; it goes through where every script that a selector
takes for a copy has a link, and in a parsed document they all have. All others cannot fail, so a
pass over a parsed document is ended by one of the three rules or goes through.
-/
namespace MarkupLint

open Document (Content)

variable {settings : Settings} {d : Document} {e : Entry}

/-- The ids of the rules that read versions in links or the targets of controls. -/
def fallibleIds : List String := ["W005", "W013", "W014"]

def Rule.Completes (r : Rule) (d : Document) : Prop := (r.check d).fault = none

theorem Rule.total_completes {id name : String} {reports : Document → List Report}
    (d : Document) : (Rule.total id name reports).Completes d :=
  rfl

theorem Outcome.each_completes {α : Type} {inspect : α → Except Fault (List Report)}
    (items : List α) (h : ∀ a ∈ items, ∃ reports, inspect a = .ok reports) :
    (Outcome.each inspect items).fault = none := by
  induction items with
  | nil => rfl
  | cons a items ih =>
    obtain ⟨reports, ha⟩ := h a List.mem_cons_self
    have hrest := ih fun b hb => h b (List.mem_cons_of_mem a hb)
    simp only [Outcome.each, ha, hrest]

namespace Rules

theorem plainRules_complete (d : Document) :
    ∀ rules ∈ [headRules, formRules, actionRules, modalRules, componentRules, retiredRules],
      ∀ r ∈ rules, r.Completes d := by
  simp only [headRules, formRules, actionRules, modalRules, componentRules, retiredRules,
    List.forall_mem_cons, List.not_mem_nil, false_implies, implies_true, and_true]
  and_intros <;> exact Rule.total_completes d

theorem duplicateScripts_completes_iff (d : Document) :
    duplicateScripts.Completes d ↔ SourcesPresent d := by
  unfold Rule.Completes
  by_cases h : SourcesPresent d
  · rw [check_duplicateScripts_ok (bootstrapScripts_present h)]
    exact ⟨fun _ => h, fun _ => rfl⟩
  · rw [check_duplicateScripts_error (bootstrapScripts_missing h)]
    constructor
    · intro hnone
      cases hnone
    · intro hpresent
      exact absurd hpresent h

/-- Of the rules on libraries only the one on two copies of Bootstrap is left, and it has a
condition of its own. -/
theorem libraryRules_complete (d : Document) : ∀ r ∈ libraryRules settings,
    (∀ id ∈ fallibleIds, r.id ≠ .text id) → r.id ≠ .text "E007" → r.Completes d := by
  simp only [libraryRules, List.forall_mem_cons, List.not_mem_nil, false_implies, implies_true,
    and_true]
  refine ⟨fun _ h => absurd rfl h, fun h => ?_, fun h => ?_⟩
  · exact absurd rfl (h "W005" (by decide))
  · exact absurd rfl (h "W013" (by decide))

theorem carouselRules_complete (d : Document) : ∀ r ∈ carouselRules,
    (∀ id ∈ fallibleIds, r.id ≠ .text id) → r.Completes d := by
  simp only [carouselRules, List.forall_mem_cons, List.not_mem_nil, false_implies, implies_true,
    and_true]
  refine ⟨fun _ => Rule.total_completes d, fun h => ?_⟩
  exact absurd rfl (h "W014" (by decide))

theorem redundantReports_ok (h : d.LimitedReferences) (e : Document.Element) :
    ∃ reports, redundantReports d e = .ok reports := by
  obtain ⟨value, hvalue⟩ := h.rawAttribute_ok e "class"
  simp only [redundantReports, hvalue]
  split
  · exact ⟨_, rfl⟩
  · exact ⟨_, rfl⟩

theorem gridRules_complete (h : d.LimitedReferences) : ∀ r ∈ gridRules, r.Completes d := by
  have hwritten : redundantColumns.Completes d :=
    Outcome.each_completes _ fun e _ => redundantReports_ok h e
  simp only [gridRules, List.forall_mem_cons, List.not_mem_nil, false_implies, implies_true,
    and_true]
  refine ⟨?_, ?_, ?_, ?_, ?_, hwritten, ?_, ?_, ?_, ?_⟩ <;> exact Rule.total_completes d

end Rules

theorem catalogue_completes (h : d.LimitedReferences) : ∀ r ∈ catalogue settings,
    (∀ id ∈ fallibleIds, r.id ≠ .text id) → r.id ≠ .text "E007" → r.Completes d := by
  have hplain := Rules.plainRules_complete d
  exact catalogue_cases settings (fun r hr _ _ => hplain _ (by simp) r hr)
    (Rules.libraryRules_complete d) (fun r hr _ _ => Rules.gridRules_complete h r hr)
    (fun r hr _ _ => hplain _ (by simp) r hr) (fun r hr _ _ => hplain _ (by simp) r hr)
    (fun r hr _ _ => hplain _ (by simp) r hr)
    (fun r hr hid _ => Rules.carouselRules_complete d r hr hid)
    (fun r hr _ _ => hplain _ (by simp) r hr) (fun r hr _ _ => hplain _ (by simp) r hr)

theorem catalogue_completes_iff (h : d.LimitedReferences) : ∀ r ∈ catalogue settings,
    (∀ id ∈ fallibleIds, r.id ≠ .text id) →
      (r.Completes d ↔ (r.id = .text "E007" → Rules.SourcesPresent d)) := by
  intro r hr hid
  by_cases hscripts : r.id = .text "E007"
  · have heq : r = Rules.duplicateScripts :=
      catalogue_eq_of_id hr (by simp [catalogue, Rules.libraryRules]) hscripts
    rw [heq, Rules.duplicateScripts_completes_iff]
    exact ⟨fun hpresent _ => hpresent, fun hpresent => hpresent rfl⟩
  · exact ⟨fun _ heq => absurd heq hscripts, fun _ => catalogue_completes h r hr hid hscripts⟩

theorem catalogue_infallible_count (settings : Settings) :
    ((catalogue settings).filter fun r => ∀ id ∈ fallibleIds, r.id ≠ .text id).length = 52 := by
  have hcount : (((catalogue settings).map Rule.id).filter fun i =>
      ∀ id ∈ fallibleIds, i ≠ .text id).length = 52 := by
    rw [catalogue_ids]
    decide +kernel
  rw [List.filter_map, List.length_map] at hcount
  exact hcount

namespace Registry

def enabled (reg : Registry) (disabled : Disabled) : List Entry :=
  reg.entries.filter fun e => !disabled.ids.contains e.id

theorem standard_completes (h : d.LimitedReferences) (hp : Rules.SourcesPresent d)
    (he : e ∈ (Registry.standard settings).entries) (hid : e.id ∉ fallibleIds) :
    e.Completes d := by
  obtain ⟨r, hr, hentry⟩ := mem_ofRules_origin he
  obtain ⟨rfl, hrid⟩ := entry_spec hentry
  refine (catalogue_completes_iff h _ hr ?_).mpr fun _ => hp
  intro id hmem heq
  rw [hrid] at heq
  obtain rfl := RuleId.text.inj heq
  exact hid hmem

theorem standard_enabled_ascending (settings : Settings) (disabled : Disabled) :
    Ascending ((Registry.standard settings).enabled disabled) :=
  (entries_ascending (catalogue_wellIdentified settings)).filter _

end Registry

/-- All built-in rules are registered, and 52 of them go through every parsed document; a tree that
is not parsed can only fail the rule on two copies of Bootstrap, and does so just where a script
that a selector takes for a copy has no link. A pass over a parsed document that fails is ended by
one of the other three rules; where these are disabled a pass delivers the problems of all enabled
rules, and no fault. -/
theorem only_link_and_target_rules_fail (settings : Settings) (d : Document)
    (h : d.LimitedReferences) :
    ((Builder.empty settings).registerAll (catalogue settings)).2 = none ∧
      ((catalogue settings).filter fun r => ∀ id ∈ fallibleIds, r.id ≠ .text id).length = 52 ∧
      (∀ r ∈ catalogue settings, (∀ id ∈ fallibleIds, r.id ≠ .text id) →
        ((r.check d).fault = none ↔ (r.id = .text "E007" → Rules.SourcesPresent d))) ∧
      ∀ mode text, Content.parse mode text = .ok d.content →
        (∀ r ∈ catalogue settings, (∀ id ∈ fallibleIds, r.id ≠ .text id) →
          (r.check d).fault = none) ∧
        ∀ disabled : Disabled,
          (∀ f, ((Registry.standard settings).run d disabled).fault = some f →
            ∃ e, e.id ∈ fallibleIds ∧
              StopsAt d ((Registry.standard settings).enabled disabled) e f
                ((Registry.standard settings).run d disabled)) ∧
          (fallibleIds ⊆ disabled.ids →
            (Registry.standard settings).run d disabled =
              ⟨((Registry.standard settings).enabled disabled).flatMap (Entry.problems d),
                none⟩) := by
  refine ⟨?_, catalogue_infallible_count settings, catalogue_completes_iff h, ?_⟩
  · rw [Registry.registerAll_empty (catalogue_wellIdentified settings)]
  intro mode text hparse
  have hp : Rules.SourcesPresent d := (Rules.linksSeen_of_parse hparse).sourcesPresent
  refine ⟨fun r hr hid => (catalogue_completes_iff h r hr hid).mpr fun _ => hp, ?_⟩
  intro disabled
  constructor
  · intro f hf
    obtain ⟨e, hstop⟩ :=
      stopsAt_of_fault (Registry.standard_enabled_ascending settings disabled) hf
    refine ⟨e, ?_, hstop⟩
    by_cases hid : e.id ∈ fallibleIds
    · exact hid
    · have hmem := (List.mem_filter.mp hstop.registered).1
      have hcompletes := Registry.standard_completes h hp hmem hid
      cases hcompletes.symm.trans hstop.fails
  · intro hdisabled
    apply runEntries_complete
    intro e he
    obtain ⟨hmem, henabled⟩ := List.mem_filter.mp he
    apply Registry.standard_completes h hp hmem
    intro hid
    simp [hdisabled hid] at henabled

/-- A column whose written class holds a decimal reference. -/
def numberedColumn : Document where
  content := .element ⟨"div", [("class", .words ["col-1", "col-sm-1"])], some ⟨1, 0⟩⟩ .nil .nil
  source := some "<div class=\"col-&#49; col-sm-1\"></div>"

theorem only_link_and_target_rules_fail_numbered_column :
    Content.parse .split "<div class=\"col-&#49; col-sm-1\"></div>" =
        .ok numberedColumn.content ∧
      numberedColumn.LimitedReferences ∧
      (Rules.redundantColumns.check numberedColumn).reports.length = 1 ∧
      (Rules.redundantColumns.check numberedColumn).fault = none ∧
      ((Registry.standard {}).run numberedColumn (.many fallibleIds)).fault = none := by
  have hlimited : numberedColumn.LimitedReferences := by
    intro text htext
    obtain rfl := Option.some.inj htext
    exact Text.limitedReferences_of_length (by decide +kernel)
  have hparse : Content.parse .split "<div class=\"col-&#49; col-sm-1\"></div>" =
      .ok numberedColumn.content := by decide +kernel
  obtain ⟨-, -, -, hparsed⟩ := only_link_and_target_rules_fail {} numberedColumn hlimited
  obtain ⟨hrules, hpass⟩ := hparsed _ _ hparse
  refine ⟨hparse, hlimited, by decide +kernel, ?_, ?_⟩
  · exact hrules _ (by simp [catalogue, Rules.gridRules]) (by decide)
  · rw [(hpass (.many fallibleIds)).2 fun _ h => h]

end MarkupLint
