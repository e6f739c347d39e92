import MarkupLint.Rules.Library

/-! # Searches for scripts

The search for the scripts that load Bootstrap reads the link of every script that a selector takes
to hold the name of a file. It fails where such a script has no link, and gives the scripts whose
link names the file otherwise. All that other modules need of the search is said here once.
-/
namespace MarkupLint.Rules

open Document (Element)

variable {file : String} {d : Document} {e : Element} {f : Fault}
  {scripts : List Element × List Element}

def LinkNames (file : String) (e : Element) : Prop :=
  (e.attribute? "src").map Link.filename = some file

instance (file : String) : DecidablePred (LinkNames file) :=
  fun e => inferInstanceAs (Decidable ((e.attribute? "src").map Link.filename = some file))

def Linked (e : Element) : Prop := (e.attribute? "src").isSome = true

instance : DecidablePred Linked :=
  fun e => inferInstanceAs (Decidable ((e.attribute? "src").isSome = true))

/-- Every script that a selector takes for a copy of Bootstrap has a link. -/
def SourcesPresent (d : Document) : Prop :=
  ∀ file ∈ ["bootstrap.js", "bootstrap.min.js"], ∀ e ∈ scriptsHolding file d, Linked e

instance (d : Document) : Decidable (SourcesPresent d) :=
  inferInstanceAs (Decidable (∀ file ∈ ["bootstrap.js", "bootstrap.min.js"],
    ∀ e ∈ scriptsHolding file d, Linked e))

/-- What a search for a file finds if it does not fail. -/
def namedScripts (file : String) (d : Document) : List Element :=
  (scriptsHolding file d).filter fun e => LinkNames file e

theorem loadsFile_linked (h : Linked e) : loadsFile file e = .ok (decide (LinkNames file e)) := by
  obtain ⟨src, hsrc⟩ := Option.isSome_iff_exists.mp h
  simp [loadsFile, LinkNames, hsrc]

theorem loadsFile_unlinked (h : ¬Linked e) : loadsFile file e = .error (.missing "src") := by
  rw [Linked, Option.not_isSome_iff_eq_none] at h
  rw [loadsFile, h]

theorem filterAuxM_loadsFile (es kept : List Element) :
    es.filterAuxM (loadsFile file) kept =
      if ∀ e ∈ es, Linked e then .ok ((es.filter fun e => LinkNames file e).reverse ++ kept)
      else .error (.missing "src") := by
  induction es generalizing kept with
  | nil => rfl
  | cons e es ih =>
    by_cases he : Linked e
    · rw [List.filterAuxM, loadsFile_linked he]
      change es.filterAuxM (loadsFile file) (cond (LinkNames file e) (e :: kept) kept) = _
      rw [ih]
      simp only [List.forall_mem_cons, he, true_and]
      by_cases hname : LinkNames file e
      · simp [hname]
      · simp [hname]
    · rw [List.filterAuxM, loadsFile_unlinked he, if_neg]
      · rfl
      · exact fun hall => he (hall e List.mem_cons_self)

theorem scriptsNamed_eq (file : String) (d : Document) :
    scriptsNamed file d =
      if ∀ e ∈ scriptsHolding file d, Linked e then .ok (namedScripts file d)
      else .error (.missing "src") := by
  rw [scriptsNamed, List.filterM, filterAuxM_loadsFile]
  split
  · change Except.ok _ = _
    rw [List.append_nil, List.reverse_reverse]
    rfl
  · rfl

theorem sourcesPresent_iff_both :
    SourcesPresent d ↔ (∀ e ∈ scriptsHolding "bootstrap.js" d, Linked e) ∧
      ∀ e ∈ scriptsHolding "bootstrap.min.js" d, Linked e := by
  simp [SourcesPresent]

theorem bootstrapScripts_present (h : SourcesPresent d) :
    bootstrapScripts d =
      .ok (namedScripts "bootstrap.js" d, namedScripts "bootstrap.min.js" d) := by
  obtain ⟨hl, hm⟩ := sourcesPresent_iff_both.mp h
  rw [bootstrapScripts, scriptsNamed_eq, scriptsNamed_eq, if_pos hl, if_pos hm]
  rfl

theorem bootstrapScripts_missing (h : ¬SourcesPresent d) :
    bootstrapScripts d = .error (.missing "src") := by
  rw [bootstrapScripts, scriptsNamed_eq, scriptsNamed_eq]
  by_cases hl : ∀ e ∈ scriptsHolding "bootstrap.js" d, Linked e
  · have hm : ¬∀ e ∈ scriptsHolding "bootstrap.min.js" d, Linked e :=
      fun hm => h (sourcesPresent_iff_both.mpr ⟨hl, hm⟩)
    rw [if_pos hl, if_neg hm]
    rfl
  · rw [if_neg hl]
    rfl

theorem bootstrapScripts_cases (d : Document) :
    bootstrapScripts d = .ok (namedScripts "bootstrap.js" d, namedScripts "bootstrap.min.js" d) ∨
      bootstrapScripts d = .error (.missing "src") := by
  by_cases h : SourcesPresent d
  · exact Or.inl (bootstrapScripts_present h)
  · exact Or.inr (bootstrapScripts_missing h)

theorem bootstrapScripts_error_iff :
    bootstrapScripts d = .error f ↔ f = .missing "src" ∧ ¬SourcesPresent d := by
  by_cases h : SourcesPresent d
  · rw [bootstrapScripts_present h]
    constructor
    · intro hf
      cases hf
    · intro hf
      exact absurd h hf.2
  · rw [bootstrapScripts_missing h]
    constructor
    · intro hf
      exact ⟨(Except.error.inj hf).symm, h⟩
    · rintro ⟨rfl, -⟩
      rfl

theorem of_bootstrapScripts (h : bootstrapScripts d = .ok scripts) :
    scripts = (namedScripts "bootstrap.js" d, namedScripts "bootstrap.min.js" d) := by
  rcases bootstrapScripts_cases d with hok | hfail
  · exact Except.ok.inj (h.symm.trans hok)
  · cases h.symm.trans hfail

theorem linkNames_of_mem (h : e ∈ namedScripts file d) : LinkNames file e :=
  of_decide_eq_true (List.mem_filter.mp h).2

theorem file_eq_of_mem {other : String} (h : e ∈ namedScripts file d)
    (ho : e ∈ namedScripts other d) : file = other :=
  Option.some.inj ((linkNames_of_mem h).symm.trans (linkNames_of_mem ho))

theorem check_duplicateScripts_ok (h : bootstrapScripts d = .ok scripts) :
    duplicateScripts.check d = .ok (duplicateReports scripts) := by
  change Outcome.ofExcept ((bootstrapScripts d).map duplicateReports) = _
  rw [h]
  rfl

theorem check_duplicateScripts_error (h : bootstrapScripts d = .error f) :
    duplicateScripts.check d = ⟨[], some f⟩ := by
  change Outcome.ofExcept ((bootstrapScripts d).map duplicateReports) = _
  rw [h]
  rfl

end MarkupLint.Rules
