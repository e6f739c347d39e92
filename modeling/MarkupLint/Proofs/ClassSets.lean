import Mathlib.Data.Finset.Sort
import Mathlib.Data.String.Basic
import MarkupLint.Proofs.ColumnRewriting
import MarkupLint.Proofs.FindingOrder
import MarkupLint.Proofs.Passes
import MarkupLint.Proofs.RetouchedRules

/-! # Classes as sets

Two documents that list the same classes for each element, in any order and any number of times,
have one retouched form in common: the one whose lists are sorted. What a rule reports of either is
what it reports of that form, so a pass over the one finds what a pass over the other finds. The
rule on written column classes repeats the list in its message; whether it has something to say is
settled by the set.
-/
namespace MarkupLint

open Document (Element Content Node Data Tag Value Retouch SameAttribute)

section Forms

def sortedClasses (ws : List String) : List String := ws.toFinset.sort (· ≤ ·)

theorem sortedClasses_congr {ws vs : List String} (h : ∀ c, c ∈ ws ↔ c ∈ vs) :
    sortedClasses ws = sortedClasses vs := by
  have hset : ws.toFinset = vs.toFinset := by
    ext c
    simpa using h c
  rw [sortedClasses, hset, sortedClasses]

def sortAttribute : String × Value → String × Value
  | (name, .words ws) => (name, .words (if name = "class" then sortedClasses ws else ws))
  | a => a

theorem sortAttribute_same (a : String × Value) : SameAttribute a (sortAttribute a) := by
  obtain ⟨name, value | ws⟩ := a
  · exact .refl _
  · by_cases hname : name = "class"
    · subst hname
      apply SameAttribute.classes
      simp [sortedClasses]
    · simpa [sortAttribute, hname] using SameAttribute.refl (name, .words ws)

theorem sortAttribute_congr {a b : String × Value} (h : SameAttribute a b) :
    sortAttribute a = sortAttribute b := by
  cases h with
  | refl => rfl
  | classes hws => simp [sortAttribute, sortedClasses_congr hws]

/-- The retouch that sorts the classes of every element and forgets the places of start tags. -/
def sortClasses : Retouch where
  tag t := ⟨t.name, t.attributes.map sortAttribute, none⟩
  keep _ := true
  name_tag _ := rfl
  attributes_tag _ :=
    List.forall₂_map_right_iff.mpr (List.forall₂_same.mpr fun a _ => sortAttribute_same a)
  dropped _ h := nomatch h

structure Document.Tag.Alike (t u : Tag) : Prop where
  name : t.name = u.name
  attributes : List.Forall₂ SameAttribute t.attributes u.attributes

/-- Two trees differ at most in the order and the repetitions of lists of classes, and in the places
of start tags. -/
inductive Document.Content.Alike : Content → Content → Prop where
  | nil : Alike .nil .nil
  | data (x : Data) {rest rest' : Content} : Alike rest rest' →
    Alike (.data x rest) (.data x rest')
  | element {t u : Tag} {inner inner' rest rest' : Content} : t.Alike u → Alike inner inner' →
    Alike rest rest' → Alike (.element t inner rest) (.element u inner' rest')

theorem Document.Tag.Alike.sorted_eq {t u : Tag} (h : t.Alike u) :
    sortClasses.tag t = sortClasses.tag u := by
  have hattributes : t.attributes.map sortAttribute = u.attributes.map sortAttribute := by
    rw [← List.forall₂_eq_eq_eq, List.forall₂_map_left_iff, List.forall₂_map_right_iff]
    exact h.attributes.imp fun _ _ => sortAttribute_congr
  simp only [sortClasses, hattributes, h.name]

theorem Document.Content.Alike.sorted_eq {c c' : Content} (h : c.Alike c') :
    c.retouch sortClasses = c'.retouch sortClasses := by
  induction h with
  | nil => rfl
  | data x _ ih => simp only [retouch, ih]
  | element ht _ _ hi hr => simp only [retouch, ht.sorted_eq, hi, hr]

theorem Document.Content.Alike.retouch_eq {c c' : Content} (h : c.Alike c') :
    (Document.ofContent c).retouch sortClasses = (Document.ofContent c').retouch sortClasses := by
  simp only [Document.retouch, Document.ofContent, h.sorted_eq]

end Forms

section Outcomes

/-- Two reports are about elements of the same numbers, and have the same message if wording
counts. -/
structure Report.Agrees (worded : Prop) (a b : Report) : Prop where
  elements : a.elements.map (Element.retouch sortClasses) =
    b.elements.map (Element.retouch sortClasses)
  message : worded → a.message = b.message

structure Outcome.Agrees (worded : Prop) (o q : Outcome) : Prop where
  reports : List.Forall₂ (Report.Agrees worded) o.reports q.reports
  fault : o.fault = q.fault

variable {c c' : Content} {r : Rule}

theorem Rule.SeesThrough.agrees (hr : r.SeesThrough sortClasses) (h : c.Alike c')
    (worded : Prop) : (r.check (.ofContent c)).Agrees worded (r.check (.ofContent c')) := by
  have hout : (r.check (.ofContent c)).retouch sortClasses =
      (r.check (.ofContent c')).retouch sortClasses := by
    rw [← hr, ← hr, h.retouch_eq]
  obtain ⟨hreports, hfault⟩ := Outcome.mk.inj hout
  rw [← List.forall₂_eq_eq_eq, List.forall₂_map_left_iff, List.forall₂_map_right_iff] at hreports
  refine ⟨hreports.imp ?_, hfault⟩
  intro a b hab
  obtain ⟨hmessage, helements⟩ := Report.mk.inj hab
  exact ⟨helements, fun _ => hmessage⟩

end Outcomes

namespace Rules

def writtenClasses (e : Element) : String := (e.attribute? "class").getD ""

theorem writtenClasses_eq (e : Element) :
    writtenClasses e =
      ((e.tag.attributes.find? fun a => "class" == a.1).map fun a => a.2.join).getD "" := by
  rw [writtenClasses, Element.attribute?, e.value_eq_find, Option.map_map]
  rfl

theorem mem_words_sameAttribute {a b : Option (String × Value)} (w : String)
    (h : Option.Rel SameAttribute a b) :
    w ∈ Text.words ((b.map fun a => a.2.join).getD "") ↔
      w ∈ Text.words ((a.map fun a => a.2.join).getD "") := by
  cases h with
  | none => exact Iff.rfl
  | some hab =>
    cases hab with
    | refl => exact Iff.rfl
    | @classes ws vs hws =>
      change w ∈ Text.words (Text.unwords vs) ↔ w ∈ Text.words (Text.unwords ws)
      rw [Text.words_unwords_eq_flatMap, Text.words_unwords_eq_flatMap]
      simp [hws]

theorem mem_writtenClasses_retouch (R : Retouch) (e : Element) (w : String) :
    w ∈ Text.words (writtenClasses (e.retouch R)) ↔ w ∈ Text.words (writtenClasses e) := by
  rw [writtenClasses_eq, writtenClasses_eq]
  exact mem_words_sameAttribute w
    (Document.find_sameAttribute (R.attributes_tag e.tag) fun name => "class" == name)

def writtenReports (e : Element) : List Report :=
  match Grid.simplify (some (writtenClasses e)) with
  | some simple => [⟨redundantMessage (writtenClasses e) simple, [e]⟩]
  | none => []

theorem check_redundantColumns (c : Content) :
    redundantColumns.check (.ofContent c) =
      .ok ((columns (.ofContent c)).flatMap writtenReports) := by
  have hone : redundantReports (.ofContent c) = fun e => .ok (writtenReports e) := by
    funext e
    have hraw : (Document.ofContent c).rawAttribute? e "class" = .ok (e.attribute? "class") := rfl
    simp only [redundantReports, hraw, writtenReports, writtenClasses]
    cases Grid.simplify (some ((e.attribute? "class").getD "")) <;> rfl
  change Outcome.each (redundantReports (.ofContent c)) _ = _
  rw [hone]
  induction columns (.ofContent c) with
  | nil => rfl
  | cons e es ih =>
    simp only [Outcome.each, ih, List.flatMap_cons]
    rfl

theorem writtenReports_agree {worded : Prop} (hw : ¬worded) {e f : Element}
    (h : e.retouch sortClasses = f.retouch sortClasses) :
    List.Forall₂ (Report.Agrees worded) (writtenReports e) (writtenReports f) := by
  have hsome : (Grid.simplify (some (writtenClasses e))).isSome =
      (Grid.simplify (some (writtenClasses f))).isSome := by
    apply Grid.simplify_isSome_congr
    intro w
    change w ∈ Text.words (writtenClasses e) ↔ w ∈ Text.words (writtenClasses f)
    rw [← mem_writtenClasses_retouch sortClasses e, h, mem_writtenClasses_retouch]
  unfold writtenReports
  cases he : Grid.simplify (some (writtenClasses e)) with
  | none =>
    cases hf : Grid.simplify (some (writtenClasses f)) with
    | none => exact .nil
    | some _ => simp [he, hf] at hsome
  | some _ =>
    cases hf : Grid.simplify (some (writtenClasses f)) with
    | none => simp [he, hf] at hsome
    | some _ => exact .cons ⟨by simp [h], fun hworded => absurd hworded hw⟩ .nil

theorem redundantColumns_agrees {worded : Prop} (hw : ¬worded) {c c' : Content}
    (h : c.Alike c') :
    (redundantColumns.check (.ofContent c)).Agrees worded
      (redundantColumns.check (.ofContent c')) := by
  have hcolumns : List.Forall₂ (fun e f => Element.retouch sortClasses e = f.retouch sortClasses)
      (columns (.ofContent c)) (columns (.ofContent c')) := by
    rw [← List.forall₂_map_right_iff, ← List.forall₂_map_left_iff, List.forall₂_eq_eq_eq,
      ← columns_retouch, ← columns_retouch, h.retouch_eq]
  rw [check_redundantColumns, check_redundantColumns]
  exact ⟨List.rel_flatMap hcolumns fun _ _ => writtenReports_agree hw, rfl⟩

end Rules

section Passes

variable {settings : Settings} {c c' : Content} {d d' : Document} {e : Entry} {es : List Entry}

theorem Registry.standard_agrees (he : e ∈ (Registry.standard settings).entries)
    (htargets : e.id ≠ "W014") (h : c.Alike c') :
    (e.rule.check (.ofContent c)).Agrees (e.id ≠ "E029") (e.rule.check (.ofContent c')) := by
  obtain ⟨r, hr, hentry⟩ := mem_ofRules_origin he
  obtain ⟨rfl, hid⟩ := entry_spec hentry
  by_cases hwritten : e.id = "E029"
  · -- the rule whose message repeats the list of classes
    have hrule : e.rule = Rules.redundantColumns :=
      catalogue_eq_of_id hr (by simp [catalogue, Rules.gridRules]) (hid.trans (congrArg _ hwritten))
    rw [hrule]
    exact Rules.redundantColumns_agrees (fun hne => hne hwritten) h
  · have hsees : e.rule.SeesThrough sortClasses := by
      apply catalogue_seesThrough sortClasses settings e.rule hr
      · simpa [hid] using hwritten
      · simpa [hid] using htargets
    exact hsees.agrees h _

/-- Two problems are of the same rule and about elements of the same numbers. They have the same
message unless it repeats classes. -/
structure Problem.SameFinding (p q : Problem) : Prop where
  id : p.id = q.id
  severity : p.severity = q.severity
  url : p.url = q.url
  elements : p.elements.map (fun r => (r.element.index, r.location)) =
    q.elements.map fun r => (r.element.index, r.location)
  message : p.id ≠ "E029" → p.message = q.message

theorem Report.Agrees.sameFinding {a b : Report} (h : a.Agrees (e.id ≠ "E029") b) :
    (e.problem a).SameFinding (e.problem b) := by
  refine ⟨rfl, rfl, rfl, ?_, h.message⟩
  have hnumbers : ∀ r : Report,
      (e.problem r).elements.map (fun r => (r.element.index, r.location)) =
        ((r.elements.map (Element.retouch sortClasses)).eraseDupsBy Element.same).map
          fun x => (x.index, none) := by
    intro r
    simp only [Entry.problem, ElementRef.ofElements, eraseDups_retouch, List.map_map]
    rfl
  rw [hnumbers, hnumbers, h.elements]

theorem runEntries_sameFinding
    (h : ∀ e ∈ es, (e.rule.check d).Agrees (e.id ≠ "E029") (e.rule.check d')) :
    List.Forall₂ Problem.SameFinding (runEntries d es).problems (runEntries d' es).problems ∧
      (runEntries d es).fault = (runEntries d' es).fault := by
  induction es with
  | nil => exact ⟨.nil, rfl⟩
  | cons e es ih =>
    have he := h e List.mem_cons_self
    obtain ⟨hrest, hfault⟩ := ih fun x hx => h x (List.mem_cons_of_mem e hx)
    have hproblems : List.Forall₂ Problem.SameFinding (e.problems d) (e.problems d') := by
      unfold Entry.problems
      rw [List.forall₂_map_left_iff, List.forall₂_map_right_iff]
      exact he.reports.imp fun _ _ hab => hab.sameFinding
    cases hf : (e.rule.check d).fault with
    | none =>
      have hf' := he.fault.symm.trans hf
      rw [runEntries_cons_complete hf, runEntries_cons_complete hf']
      exact ⟨List.rel_append hproblems hrest, hfault⟩
    | some f =>
      have hf' := he.fault.symm.trans hf
      rw [runEntries_cons_fail hf, runEntries_cons_fail hf']
      exact ⟨hproblems, rfl⟩

/-- Two trees that list the same classes for each element give passes with the same findings, in
the same order, and the same fault; the rule on the targets of controls is left out. -/
theorem classes_count_as_sets (settings : Settings) {c c' : Content} (h : c.Alike c')
    {disabled : Disabled} (htargets : "W014" ∈ disabled.ids) :
    List.Forall₂ Problem.SameFinding
        ((Registry.standard settings).run (.ofContent c) disabled).problems
        ((Registry.standard settings).run (.ofContent c') disabled).problems ∧
      ((Registry.standard settings).run (.ofContent c) disabled).fault =
        ((Registry.standard settings).run (.ofContent c') disabled).fault := by
  apply runEntries_sameFinding
  intro e he
  obtain ⟨hmem, henabled⟩ := List.mem_filter.mp he
  refine Registry.standard_agrees hmem ?_ h
  intro hid
  simp [hid, htargets] at henabled

def columnInRow (row column : List String) : Content :=
  .element ⟨"div", [("class", .words row)], none⟩
    (.element ⟨"div", [("class", .words column)], none⟩ .nil .nil) .nil

theorem classes_count_as_sets_reordered :
    (columnInRow ["row", "panel"] ["col-1", "btn", "col-sm-1"]).Alike
        (columnInRow ["panel", "row", "panel"] ["col-sm-1", "col-1", "btn", "col-1"]) ∧
      (Rules.redundantColumns.check (.ofContent
        (columnInRow ["row", "panel"] ["col-1", "btn", "col-sm-1"]))).reports.length = 1 ∧
      List.Forall₂ Problem.SameFinding
        ((Registry.standard {}).run (.ofContent
          (columnInRow ["row", "panel"] ["col-1", "btn", "col-sm-1"])) (.one "W014")).problems
        ((Registry.standard {}).run (.ofContent
          (columnInRow ["panel", "row", "panel"] ["col-sm-1", "col-1", "btn", "col-1"]))
          (.one "W014")).problems := by
  have halike : (columnInRow ["row", "panel"] ["col-1", "btn", "col-sm-1"]).Alike
      (columnInRow ["panel", "row", "panel"] ["col-sm-1", "col-1", "btn", "col-1"]) := by
    refine .element ⟨rfl, .cons (.classes fun c => ?_) .nil⟩
      (.element ⟨rfl, .cons (.classes fun c => ?_) .nil⟩ .nil .nil) .nil <;> grind
  exact ⟨halike, by decide +kernel, (classes_count_as_sets {} halike (by decide)).1⟩

end Passes

end MarkupLint
