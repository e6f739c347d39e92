import Mathlib.Data.List.Forall2
import MarkupLint.Linter
import MarkupLint.Proofs.BuilderSessions

/-! # Delivered problems

What a linter hands on during a pass, traced back to the reports of the rules. A pass hears the
reports of the entries that it runs, entry after entry, and each of them becomes one problem that
bears the id, the severity and the link of its entry. So the order of the problems is that of the
entries and, within an entry, that of its reports. Nothing is asked of the rules: they may report
as often as they like and fail when they like.
-/
namespace MarkupLint

open Document (Element)

variable {settings : Settings} {d : Document} {e x : Entry} {es : List Entry} {id : String}
  {reg : Registry} {b : Builder} {past : List Rule} {calls : List BuilderCall}

/-- A builder with some settings gave out the registry, whatever was called on it before. -/
def Registry.BuiltWith (reg : Registry) (settings : Settings) : Prop :=
  ∃ calls, ∃ m ∈ (Builder.empty settings).session calls, m.reply = .built reg

namespace Linter

/-- A pass skips what the caller names; if the caller names nothing, what the settings name. -/
def Skips (l : Linter) : Option Disabled → String → Prop
  | none, id => id ∈ l.settings.disabledIds
  | some (.one skipped), id => id = skipped
  | some (.many ids), id => id ∈ ids

/-- A pass comes to an entry: it is not skipped, and no entry before it fails. -/
def Reaches (l : Linter) (d : Document) (disabled : Option Disabled) (e : Entry) : Prop :=
  ¬l.Skips disabled e.id ∧
    ∀ x ∈ l.registry.entries, ¬l.Skips disabled x.id → x.id < e.id → x.Completes d

/-- A problem is that of a report by a registered rule which is not skipped. -/
structure Tagged (l : Linter) (settings : Settings) (d : Document) (disabled : Option Disabled)
    (s : Entry × Report) (p : Problem) : Prop where
  reported : s.2 ∈ (s.1.rule.check d).reports
  id : s.1.rule.id = .text p.id
  registered : l.registry.get? p.id = some s.1
  enabled : ¬l.Skips disabled p.id
  severity : p.severity = .error ↔ p.id.toList.head? = some 'E'
  url : p.url = settings.wikiUrl ++ p.id
  message : p.message = s.2.message
  elements : p.elements.map ElementRef.element = s.2.elements.eraseDupsBy Element.same

end Linter

def reportsOf (id : String) (sources : List (Entry × Report)) : List Report :=
  (sources.filter fun s => s.1.id = id).map Prod.snd

section Trace

/-- The reports that a pass hears, each with the entry that made it. -/
def heard (d : Document) : List Entry → List (Entry × Report)
  | [] => []
  | e :: rest =>
    (e.rule.check d).reports.map (Prod.mk e) ++
      if (e.rule.check d).fault.isSome then [] else heard d rest

theorem heard_cons_complete (h : e.Completes d) (es : List Entry) :
    heard d (e :: es) = (e.rule.check d).reports.map (Prod.mk e) ++ heard d es := by
  rw [Entry.Completes] at h
  simp [heard, h]

theorem heard_cons_fail (h : ¬e.Completes d) (es : List Entry) :
    heard d (e :: es) = (e.rule.check d).reports.map (Prod.mk e) := by
  have hfault : (e.rule.check d).fault.isSome = true := Option.isSome_iff_ne_none.mpr h
  simp [heard, hfault]

theorem problems_eq_heard (d : Document) (es : List Entry) :
    (runEntries d es).problems = (heard d es).map fun s => s.1.problem s.2 := by
  induction es with
  | nil => rfl
  | cons e es ih =>
    have hown : e.problems d =
        ((e.rule.check d).reports.map (Prod.mk e)).map fun s => s.1.problem s.2 := by
      rw [List.map_map]
      rfl
    cases hf : (e.rule.check d).fault with
    | none =>
      rw [runEntries_cons_complete hf, heard_cons_complete hf, List.map_append, hown, ih]
    | some f =>
      rw [runEntries_cons_fail hf, heard_cons_fail (by simp [Entry.Completes, hf]), hown]

theorem mem_heard {s : Entry × Report} (h : s ∈ heard d es) :
    s.1 ∈ es ∧ s.2 ∈ (s.1.rule.check d).reports := by
  induction es with
  | nil => cases h
  | cons e es ih =>
    have hown : s ∈ (e.rule.check d).reports.map (Prod.mk e) →
        s.1 ∈ e :: es ∧ s.2 ∈ (s.1.rule.check d).reports := by
      intro hs
      obtain ⟨r, hr, rfl⟩ := List.mem_map.mp hs
      exact ⟨List.mem_cons_self, hr⟩
    by_cases hc : e.Completes d
    · rw [heard_cons_complete hc] at h
      rcases List.mem_append.mp h with h | h
      · exact hown h
      · exact ⟨List.mem_cons_of_mem e (ih h).1, (ih h).2⟩
    · rw [heard_cons_fail hc] at h
      exact hown h

theorem heard_ordered (h : Ascending es) :
    (heard d es).Pairwise fun s t => s.1.id ≤ t.1.id := by
  induction es with
  | nil => exact List.Pairwise.nil
  | cons e es ih =>
    obtain ⟨hlt, hasc⟩ := List.pairwise_cons.mp h
    have hown : ((e.rule.check d).reports.map (Prod.mk e)).Pairwise fun s t => s.1.id ≤ t.1.id :=
      List.pairwise_map.mpr (List.pairwise_of_forall fun _ _ => String.le_refl e.id)
    by_cases hc : e.Completes d
    · rw [heard_cons_complete hc]
      refine List.pairwise_append.mpr ⟨hown, ih hasc, ?_⟩
      intro s hs t ht
      obtain ⟨r, -, rfl⟩ := List.mem_map.mp hs
      exact Std.le_of_lt (hlt t.1 (mem_heard ht).1)
    · rw [heard_cons_fail hc]
      exact hown

@[simp] theorem reportsOf_append (id : String) (ss ts : List (Entry × Report)) :
    reportsOf id (ss ++ ts) = reportsOf id ss ++ reportsOf id ts := by
  simp [reportsOf]

theorem reportsOf_own (e : Entry) (rs : List Report) :
    reportsOf e.id (rs.map (Prod.mk e)) = rs := by
  induction rs with
  | nil => rfl
  | cons r rs ih => simpa [reportsOf] using ih

theorem reportsOf_eq_nil {ss : List (Entry × Report)} (h : ∀ s ∈ ss, s.1.id ≠ id) :
    reportsOf id ss = [] := by
  have hnone : (ss.filter fun s => s.1.id = id) = [] := by
    apply List.filter_eq_nil_iff.mpr
    intro s hs
    simpa using h s hs
  rw [reportsOf, hnone]
  rfl

theorem reportsOf_other (h : e.id ≠ id) (rs : List Report) :
    reportsOf id (rs.map (Prod.mk e)) = [] := by
  apply reportsOf_eq_nil
  intro s hs
  obtain ⟨r, -, rfl⟩ := List.mem_map.mp hs
  exact h

theorem reportsOf_absent (h : ∀ x ∈ es, x.id ≠ id) : reportsOf id (heard d es) = [] :=
  reportsOf_eq_nil fun s hs => h s.1 (mem_heard hs).1

theorem reportsOf_reached (hasc : Ascending es) (he : e ∈ es)
    (h : ∀ x ∈ es, x.id < e.id → x.Completes d) :
    reportsOf e.id (heard d es) = (e.rule.check d).reports := by
  induction es with
  | nil => cases he
  | cons y es ih =>
    obtain ⟨hlt, hasc⟩ := List.pairwise_cons.mp hasc
    rcases List.mem_cons.mp he with rfl | he
    · have hrest : reportsOf e.id (heard d es) = [] :=
        reportsOf_absent fun x hx => (String.ne_of_lt (hlt x hx)).symm
      by_cases hc : e.Completes d
      · rw [heard_cons_complete hc, reportsOf_append, reportsOf_own, hrest, List.append_nil]
      · rw [heard_cons_fail hc, reportsOf_own]
    · have hy := hlt e he
      rw [heard_cons_complete (h y List.mem_cons_self hy), reportsOf_append,
        reportsOf_other (String.ne_of_lt hy), List.nil_append]
      exact ih hasc he fun x hx => h x (List.mem_cons_of_mem y hx)

theorem reportsOf_unreached (hasc : Ascending es) (hx : x ∈ es) (hlt : x.id < id)
    (h : ¬x.Completes d) : reportsOf id (heard d es) = [] := by
  induction es with
  | nil => cases hx
  | cons y es ih =>
    obtain ⟨hy, hasc⟩ := List.pairwise_cons.mp hasc
    rcases List.mem_cons.mp hx with rfl | hx
    · rw [heard_cons_fail h]
      exact reportsOf_other (String.ne_of_lt hlt) _
    · have hyid := String.ne_of_lt (String.lt_trans (hy x hx) hlt)
      by_cases hc : y.Completes d
      · rw [heard_cons_complete hc, reportsOf_append, reportsOf_other hyid, ih hasc hx]
        rfl
      · rw [heard_cons_fail hc]
        exact reportsOf_other hyid _

end Trace

section Registries

theorem Builder.answer_built {call : BuilderCall} (h : (b.answer call).2 = .built reg) :
    reg = b.build := by
  cases call with
  | register r =>
    cases hr : b.register r with
    | error f => simp [answer_error hr] at h
    | ok b' => simp [answer_ok hr] at h
  | registerAll rules =>
    simp only [answer] at h
    split at h <;> cases h
  | build => exact (BuilderReply.built.inj h).symm

theorem Builder.Records.built (h : b.Records settings past) {m : Moment}
    (hm : m ∈ b.session calls) (hreply : m.reply = .built reg) :
    ∃ table past, (⟨settings, table⟩ : Builder).Records settings past ∧ reg = .ofEntries table := by
  induction calls generalizing b past with
  | nil => cases hm
  | cons call calls ih =>
    rcases List.mem_cons.mp hm with rfl | hm
    · obtain ⟨own, table⟩ := b
      obtain rfl : own = settings := h.settings_eq
      exact ⟨table, past, h, answer_built hreply⟩
    · exact ih (h.after call) hm

theorem Registry.BuiltWith.entries (h : reg.BuiltWith settings) :
    Ascending reg.entries ∧ ∀ e ∈ reg.entries, e.rule.id = .text e.id ∧
      Severity.ofId? e.rule.id = some e.severity ∧ e.url = settings.wikiUrl ++ e.id := by
  obtain ⟨calls, m, hm, hreply⟩ := h
  obtain ⟨table, past, hrecords, rfl⟩ := (Builder.records_empty settings).built hm hreply
  refine ⟨ofEntries_ascending hrecords.nodup, ?_⟩
  intro e he
  have hmem : e ∈ table := (ofEntries_perm table).mem_iff.mp he
  rw [show table = past.filterMap (Rule.entry? settings) from hrecords.entries_eq] at hmem
  obtain ⟨r, -, hr⟩ := List.mem_filterMap.mp hmem
  exact Builder.entry_tagged hr

theorem Registry.ofRules_builtWith (settings : Settings) (rules : List Rule) :
    (Registry.ofRules settings rules).BuiltWith settings := by
  refine ⟨[.registerAll rules, .build],
    ⟨((Builder.empty settings).answer (.registerAll rules)).1, .build, _, _⟩,
    List.mem_cons_of_mem _ List.mem_cons_self, ?_⟩
  rw [Builder.answer_registerAll]
  rfl

/-- The letter in front of an id tells its severity; a line feed at the end changes nothing. -/
theorem Severity.error_iff {severity : Severity} (h : Severity.ofIdText? id = some severity) :
    severity = .error ↔ id.toList.head? = some 'E' := by
  have hhead : ∀ c digits, Text.dropFinalNewline id.toList = c :: digits →
      id.toList.head? = some c := by
    intro c digits heq
    have hfront : Text.dropFinalNewline id.toList <+: id.toList := by
      unfold Text.dropFinalNewline
      split
      · exact List.dropLast_prefix _
      · exact List.prefix_rfl
    obtain ⟨rest, hrest⟩ := hfront
    rw [← hrest, heq]
    rfl
  unfold Severity.ofIdText? at h
  split at h
  · next c digits heq =>
    rw [hhead c digits heq]
    split at h
    · by_cases hE : c = 'E'
      · rw [if_pos hE] at h
        simp [← Option.some.inj h, hE]
      · rw [if_neg hE] at h
        split at h
        · simp [← Option.some.inj h, hE]
        · cases h
    · cases h
  · cases h

end Registries

section Delivery

variable {l : Linter} {disabled : Option Disabled}

def Problem.delivered (d : Document) (p : Problem) : Problem :=
  if d.hasSource then p.locate d else p

def Linter.enabled (l : Linter) (disabled : Option Disabled) : List Entry :=
  l.registry.entries.filter fun e => !(l.disabledBy disabled).ids.contains e.id

theorem Linter.problems_eq (l : Linter) (d : Document) (disabled : Option Disabled) :
    (l.lintDocument d disabled).problems =
      (heard d (l.enabled disabled)).map fun s => (s.1.problem s.2).delivered d := by
  have hrun : (l.registry.run d (l.disabledBy disabled)).problems =
      (heard d (l.enabled disabled)).map fun s => s.1.problem s.2 := problems_eq_heard d _
  unfold lintDocument Problem.delivered
  dsimp only
  split
  · rw [hrun, List.map_map]
    rfl
  · exact hrun

theorem Linter.skips_iff : l.Skips disabled id ↔ id ∈ (l.disabledBy disabled).ids := by
  cases disabled with
  | none => exact Iff.rfl
  | some named =>
    cases named with
    | one skipped => exact List.mem_singleton.symm
    | many ids => exact Iff.rfl

theorem Linter.mem_enabled :
    e ∈ l.enabled disabled ↔ e ∈ l.registry.entries ∧ ¬l.Skips disabled e.id := by
  rw [enabled, List.mem_filter, skips_iff]
  simp

theorem Problem.delivered_fields (d : Document) (p : Problem) :
    (p.delivered d).id = p.id ∧ (p.delivered d).severity = p.severity ∧
      (p.delivered d).url = p.url ∧ (p.delivered d).message = p.message ∧
      (p.delivered d).elements.map ElementRef.element = p.elements.map ElementRef.element := by
  unfold delivered
  split
  · refine ⟨rfl, rfl, rfl, rfl, ?_⟩
    simp [locate, withElements, ElementRef.withLocation, Function.comp_def]
  · exact ⟨rfl, rfl, rfl, rfl, rfl⟩

theorem Linter.tagged_of_heard (h : l.registry.BuiltWith settings) {s : Entry × Report}
    (hs : s ∈ heard d (l.enabled disabled)) :
    l.Tagged settings d disabled s ((s.1.problem s.2).delivered d) := by
  obtain ⟨hmem, hreport⟩ := mem_heard hs
  obtain ⟨hentry, hskip⟩ := mem_enabled.mp hmem
  obtain ⟨hid, hseverity, hurl⟩ := h.entries.2 s.1 hentry
  obtain ⟨did, dseverity, durl, dmessage, delements⟩ :=
    Problem.delivered_fields d (s.1.problem s.2)
  have heid : ((s.1.problem s.2).delivered d).id = s.1.id := did
  have hnodup : (l.registry.entries.map Entry.id).Nodup :=
    List.pairwise_map.mpr (h.entries.1.imp String.ne_of_lt)
  rw [hid] at hseverity
  refine ⟨hreport, ?_, ?_, ?_, ?_, ?_, dmessage, ?_⟩
  · rw [heid, hid]
  · exact (entryOf_eq_some hnodup).mpr ⟨hentry, heid.symm⟩
  · rwa [heid]
  · rw [dseverity, heid]
    exact Severity.error_iff hseverity
  · rw [durl, heid]
    exact hurl
  · rw [delements]
    simp [Entry.problem, ElementRef.ofElements, Function.comp_def]

theorem Linter.reportsOf_reaches (h : l.registry.BuiltWith settings)
    (he : e ∈ l.registry.entries) :
    (l.Reaches d disabled e →
        reportsOf e.id (heard d (l.enabled disabled)) = (e.rule.check d).reports) ∧
      (¬l.Reaches d disabled e → reportsOf e.id (heard d (l.enabled disabled)) = []) := by
  have hasc : Ascending (l.enabled disabled) := h.entries.1.filter _
  constructor
  · rintro ⟨hskip, hbefore⟩
    apply reportsOf_reached hasc (mem_enabled.mpr ⟨he, hskip⟩)
    intro x hx hlt
    obtain ⟨hx, hxskip⟩ := mem_enabled.mp hx
    exact hbefore x hx hxskip hlt
  · intro hreach
    by_cases hskip : l.Skips disabled e.id
    · apply reportsOf_absent
      intro x hx heq
      exact (mem_enabled.mp hx).2 (heq ▸ hskip)
    · -- then an entry of a smaller id fails
      obtain ⟨x, hx, hxskip, hlt, hfails⟩ : ∃ x ∈ l.registry.entries,
          ¬l.Skips disabled x.id ∧ x.id < e.id ∧ ¬x.Completes d := by
        simpa [Reaches, hskip] using hreach
      exact reportsOf_unreached hasc (mem_enabled.mpr ⟨hx, hxskip⟩) hlt hfails

end Delivery

/-- Every problem that a linter hands on is that of one report by a registered rule which is not
skipped, and bears the id of that rule with the severity and the link that the id settles. The ids
never descend, and of each rule that the pass comes to, all reports are handed on in the order in
which they were made; of the others none is. -/
theorem delivered_as_reported {l : Linter} {settings : Settings}
    (h : l.registry.BuiltWith settings) (d : Document) (disabled : Option Disabled) :
    ∃ sources : List (Entry × Report),
      List.Forall₂ (l.Tagged settings d disabled) sources (l.lintDocument d disabled).problems ∧
      ((l.lintDocument d disabled).problems.map Problem.id).Pairwise (· ≤ ·) ∧
      ∀ e ∈ l.registry.entries,
        (l.Reaches d disabled e → reportsOf e.id sources = (e.rule.check d).reports) ∧
        (¬l.Reaches d disabled e → reportsOf e.id sources = []) := by
  refine ⟨heard d (l.enabled disabled), ?_, ?_, fun e he => Linter.reportsOf_reaches h he⟩
  · rw [l.problems_eq, List.forall₂_map_right_iff, List.forall₂_same]
    intro s hs
    exact Linter.tagged_of_heard h hs
  · rw [l.problems_eq, List.map_map, List.pairwise_map]
    refine (heard_ordered (d := d) (h.entries.1.filter _)).imp ?_
    intro s t hst
    simp only [Function.comp_apply, (Problem.delivered_fields _ _).1]
    exact hst

/-- Three rules in descending order of their ids; the first reports twice and then fails. -/
def heralds : List Rule :=
  [⟨.text "W003", "Late",
      fun d => ⟨[⟨"first", d.elements⟩, ⟨"second", []⟩], some (.raised "stop")⟩⟩,
    ⟨.text "E010", "Early", fun _ => .ok [⟨"low", []⟩]⟩,
    ⟨.text "E002", "Unwanted", fun _ => .ok [⟨"lowest", []⟩]⟩]

def heraldLinter : Linter := ⟨Registry.ofRules {} heralds, { disabledIds := ["E002"] }⟩

theorem delivered_as_reported_heralds :
    heraldLinter.registry.BuiltWith {} ∧
      (heraldLinter.lintDocument ⟨.nil, none⟩ none).problems.map (fun p => (p.id, p.message)) =
        [("E010", "low"), ("W003", "first"), ("W003", "second")] ∧
      ∃ sources, List.Forall₂ (heraldLinter.Tagged {} ⟨.nil, none⟩ none) sources
        (heraldLinter.lintDocument ⟨.nil, none⟩ none).problems := by
  have hw : WellIdentified heralds := ⟨by decide +kernel, by decide +kernel⟩
  have hasc : (heralds.filterMap (Rule.entry? {})).reverse.Pairwise fun e x => e.id < x.id := by
    decide +kernel
  have hsorted : (Registry.ofRules {} heralds).entries =
      (heralds.filterMap (Rule.entry? {})).reverse :=
    Registry.entries_eq_of_ascending hw hasc (List.reverse_perm _)
  have hbuilt : heraldLinter.registry.BuiltWith {} := Registry.ofRules_builtWith {} heralds
  obtain ⟨sources, htagged, -⟩ := delivered_as_reported hbuilt ⟨.nil, none⟩ none
  refine ⟨hbuilt, ?_, sources, htagged⟩
  unfold Linter.lintDocument Registry.run heraldLinter
  dsimp only
  rw [hsorted]
  decide +kernel

end MarkupLint
