import MarkupLint.Proofs.ClassSets

/-! # Comments and blank text

Two trees that differ in comments and blank text alone have one swept form in common, in which
none of it is left. All rules but the one on the targets of controls report of a swept tree what
they report of the tree itself, so a pass over the one finds what a pass over the other finds.
-/
namespace MarkupLint

open Document (Element Content Data Tag Retouch SameAttribute)

variable {R : Retouch} {c c' : Content} {d : Document} {es : List Entry}

section Sweeping

/-- Two trees have the same elements, and differ at most in comments and blank text anywhere
between them and in the places of start tags. -/
inductive Document.Content.SameSubstance : Content → Content → Prop where
  | nil : SameSubstance .nil .nil
  | data (x : Data) {rest rest' : Content} : SameSubstance rest rest' →
    SameSubstance (.data x rest) (.data x rest')
  | element {t u : Tag} {inner inner' rest rest' : Content} : t.name = u.name →
    t.attributes = u.attributes → SameSubstance inner inner' → SameSubstance rest rest' →
    SameSubstance (.element t inner rest) (.element u inner' rest')
  | inserted {x : Data} {rest rest' : Content} : x.isInvisible = true →
    SameSubstance rest rest' → SameSubstance rest (.data x rest')
  | removed {x : Data} {rest rest' : Content} : x.isInvisible = true →
    SameSubstance rest rest' → SameSubstance (.data x rest) rest'

/-- The retouch that drops comments and blank text and forgets the places of start tags. -/
def sweep : Retouch where
  tag t := { t with place := none }
  keep x := !x.isInvisible
  name_tag _ := rfl
  attributes_tag t := List.forall₂_same.mpr fun a _ => SameAttribute.refl a
  dropped _ h := by simpa using h

theorem sweep_drops {x : Data} (h : x.isInvisible = true) (rest : Content) :
    (Content.data x rest).retouch sweep = rest.retouch sweep := by
  have hkeep : sweep.keep x = false := by simp [sweep, h]
  simp [Content.retouch, hkeep]

theorem Document.Content.SameSubstance.swept_eq (h : c.SameSubstance c') :
    c.retouch sweep = c'.retouch sweep := by
  induction h with
  | nil => rfl
  | data x _ ih => simp only [retouch, ih]
  | element hname hattributes _ _ hi hr =>
    simp only [retouch, sweep] at hi hr ⊢
    rw [hname, hattributes, hi, hr]
  | inserted hx _ ih => rw [ih, sweep_drops hx]
  | removed hx _ ih => rw [sweep_drops hx, ih]

end Sweeping

section Passes

def Problem.retouch (R : Retouch) (p : Problem) : Problem :=
  p.withElements (p.elements.map fun r => ⟨r.element.retouch R, r.location⟩)

def PassResult.retouch (R : Retouch) (result : PassResult) : PassResult :=
  ⟨result.problems.map (Problem.retouch R), result.fault⟩

theorem Entry.problem_retouch (e : Entry) (r : Report) :
    e.problem (r.retouch R) = (e.problem r).retouch R := by
  simp only [Entry.problem, Report.retouch, Problem.retouch, Problem.withElements,
    ElementRef.ofElements, eraseDups_retouch, List.map_map]
  rfl

theorem Entry.problems_retouch {e : Entry}
    (h : e.rule.check (d.retouch R) = (e.rule.check d).retouch R) :
    e.problems (d.retouch R) = (e.problems d).map (Problem.retouch R) := by
  simp only [Entry.problems, h, Outcome.retouch, List.map_map]
  exact List.map_congr_left fun r _ => e.problem_retouch r

theorem runEntries_retouch
    (h : ∀ e ∈ es, e.rule.check (d.retouch R) = (e.rule.check d).retouch R) :
    runEntries (d.retouch R) es = (runEntries d es).retouch R := by
  induction es with
  | nil => rfl
  | cons e es ih =>
    have he := h e List.mem_cons_self
    have hrest := ih fun x hx => h x (List.mem_cons_of_mem e hx)
    have hfault : (e.rule.check (d.retouch R)).fault = (e.rule.check d).fault := by
      rw [he]
      rfl
    cases hf : (e.rule.check d).fault with
    | none =>
      rw [runEntries_cons_complete hf, runEntries_cons_complete (hfault.trans hf), hrest,
        Entry.problems_retouch he]
      simp only [PassResult.retouch, List.map_append]
    | some f =>
      rw [runEntries_cons_fail hf, runEntries_cons_fail (hfault.trans hf),
        Entry.problems_retouch he]
      rfl

theorem Problem.sameFinding_of_retouch {p q : Problem} (h : p.retouch R = q.retouch R) :
    p.SameFinding q ∧ p.message = q.message := by
  obtain ⟨hid, hseverity, hmessage, hurl, helements⟩ := Problem.mk.inj h
  refine ⟨⟨hid, hseverity, hurl, ?_, fun _ => hmessage⟩, hmessage⟩
  have hnumbers := congrArg (List.map fun r => (r.element.index, r.location)) helements
  rw [List.map_map, List.map_map] at hnumbers
  exact hnumbers

end Passes

namespace Rules

theorem writtenReports_sweep (e : Element) :
    writtenReports (e.retouch sweep) = (writtenReports e).map (Report.retouch sweep) := by
  have hwritten : writtenClasses (e.retouch sweep) = writtenClasses e := rfl
  unfold writtenReports
  rw [hwritten]
  cases Grid.simplify (some (writtenClasses e)) <;> rfl

theorem redundantColumns_sweep (c : Content) :
    redundantColumns.check ((Document.ofContent c).retouch sweep) =
      (redundantColumns.check (.ofContent c)).retouch sweep := by
  have hcolumns := columns_retouch sweep (.ofContent c)
  change redundantColumns.check (.ofContent (c.retouch sweep)) = _
  rw [check_redundantColumns, check_redundantColumns]
  change columns (.ofContent (c.retouch sweep)) = _ at hcolumns
  simp only [hcolumns, Outcome.ok, Outcome.retouch, List.flatMap_map, List.map_flatMap,
    writtenReports_sweep]

end Rules

variable {settings : Settings}

theorem Registry.standard_sweep {e : Entry} (he : e ∈ (Registry.standard settings).entries)
    (htargets : e.id ≠ "W014") (c : Content) :
    e.rule.check ((Document.ofContent c).retouch sweep) =
      (e.rule.check (.ofContent c)).retouch sweep := by
  obtain ⟨r, hr, hentry⟩ := mem_ofRules_origin he
  obtain ⟨rfl, hid⟩ := entry_spec hentry
  by_cases hwritten : e.id = "E029"
  · have hrule : e.rule = Rules.redundantColumns :=
      catalogue_eq_of_id hr (by simp [catalogue, Rules.gridRules]) (hid.trans (congrArg _ hwritten))
    rw [hrule]
    exact Rules.redundantColumns_sweep c
  · apply catalogue_seesThrough sweep settings e.rule hr
    · simpa [hid] using hwritten
    · simpa [hid] using htargets

theorem Registry.run_sweep {disabled : Disabled} (htargets : "W014" ∈ disabled.ids)
    (c : Content) :
    (Registry.standard settings).run ((Document.ofContent c).retouch sweep) disabled =
      ((Registry.standard settings).run (.ofContent c) disabled).retouch sweep := by
  apply runEntries_retouch
  intro e he
  obtain ⟨hmem, henabled⟩ := List.mem_filter.mp he
  refine Registry.standard_sweep hmem ?_ c
  intro hid
  simp [hid, htargets] at henabled

/-- Comments and blank text make no difference. Two trees that differ in nothing else give passes
with the same problems, messages included, about the same elements in the same order, and the same
fault; the rule on the targets of controls is left out. -/
theorem comments_and_blanks_are_invisible (settings : Settings) {c c' : Content}
    (h : c.SameSubstance c') {disabled : Disabled} (htargets : "W014" ∈ disabled.ids) :
    List.Forall₂ (fun p q : Problem => p.SameFinding q ∧ p.message = q.message)
        ((Registry.standard settings).run (.ofContent c) disabled).problems
        ((Registry.standard settings).run (.ofContent c') disabled).problems ∧
      ((Registry.standard settings).run (.ofContent c) disabled).fault =
        ((Registry.standard settings).run (.ofContent c') disabled).fault := by
  have hdocument : (Document.ofContent c).retouch sweep = (Document.ofContent c').retouch sweep :=
    congrArg Document.ofContent h.swept_eq
  have hrun : ((Registry.standard settings).run (.ofContent c) disabled).retouch sweep =
      ((Registry.standard settings).run (.ofContent c') disabled).retouch sweep := by
    rw [← Registry.run_sweep htargets, ← Registry.run_sweep htargets, hdocument]
  obtain ⟨hproblems, hfault⟩ := PassResult.mk.inj hrun
  rw [← List.forall₂_eq_eq_eq, List.forall₂_map_left_iff, List.forall₂_map_right_iff] at hproblems
  exact ⟨hproblems.imp fun _ _ => Problem.sameFinding_of_retouch, hfault⟩

/-- A row with an empty column before another one, given what stands before the document type, in
the empty column and behind it. -/
def spacedRow (front inside behind : Content → Content) : Content :=
  front <| .data (.doctype "html") <| .element (division ["row"])
    (.element (division ["col-1", "col-sm-1"]) (inside .nil) <| behind <|
      .element (division ["col-2"]) .nil .nil) .nil

theorem comments_and_blanks_are_invisible_spaced_row :
    (spacedRow id id id).SameSubstance
        (spacedRow (.data (.comment "top")) (.data (.text .plain "\n\t"))
          (.data (.comment "") ∘ .data (.cdata " "))) ∧
      (Rules.emptySpacers.check (.ofContent (spacedRow id id id))).reports.length = 1 ∧
      List.Forall₂ (fun p q : Problem => p.SameFinding q ∧ p.message = q.message)
        ((Registry.standard {}).run (.ofContent (spacedRow id id id)) (.one "W014")).problems
        ((Registry.standard {}).run (.ofContent
          (spacedRow (.data (.comment "top")) (.data (.text .plain "\n\t"))
            (.data (.comment "") ∘ .data (.cdata " ")))) (.one "W014")).problems := by
  have hsame : (spacedRow id id id).SameSubstance
      (spacedRow (.data (.comment "top")) (.data (.text .plain "\n\t"))
        (.data (.comment "") ∘ .data (.cdata " "))) :=
    .inserted rfl <| .data _ <| .element rfl rfl
      (.element rfl rfl (.inserted (by decide) .nil) <| .inserted rfl <| .inserted (by decide) <|
        .element rfl rfl .nil .nil) .nil
  exact ⟨hsame, by decide +kernel, (comments_and_blanks_are_invisible {} hsame (by decide)).1⟩

end MarkupLint
