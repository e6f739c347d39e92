import MarkupLint.Proofs.Registration

/-! # Passes over a registry

A pass runs entries in order up to the first fault. To disable ids is to run the registry that
was never given the rules of these ids. The ids are distinct, so a registry in ascending order is
settled by the set of its entries, and the part of a pass that is run is settled by the entries up
to the failing one.
-/
namespace MarkupLint

variable {settings : Settings} {d : Document} {r : Rule} {rules others : List Rule} {e x : Entry}
  {es fs before after : List Entry} {f : Fault} {disabled : Disabled}

def Entry.problems (d : Document) (e : Entry) : List Problem :=
  (e.rule.check d).reports.map e.problem

def Entry.Completes (d : Document) (e : Entry) : Prop := (e.rule.check d).fault = none

def Entry.Fails (d : Document) (e : Entry) (f : Fault) : Prop := (e.rule.check d).fault = some f

theorem runEntries_cons_complete (h : e.Completes d) :
    runEntries d (e :: es) =
      ⟨e.problems d ++ (runEntries d es).problems, (runEntries d es).fault⟩ := by
  rw [runEntries]
  split
  · next hf => cases h.symm.trans hf
  · rfl

theorem runEntries_cons_fail (h : e.Fails d f) :
    runEntries d (e :: es) = ⟨e.problems d, some f⟩ := by
  rw [runEntries]
  split
  · next hf =>
    obtain rfl := Option.some.inj (h.symm.trans hf)
    rfl
  · next hf => cases h.symm.trans hf

theorem runEntries_complete (h : ∀ e ∈ es, e.Completes d) :
    runEntries d es = ⟨es.flatMap (Entry.problems d), none⟩ := by
  induction es with
  | nil => rfl
  | cons e es ih =>
    rw [runEntries_cons_complete (h e List.mem_cons_self),
      ih fun x hx => h x (List.mem_cons_of_mem e hx), List.flatMap_cons]

theorem runEntries_fail (h : ∀ x ∈ before, x.Completes d) (he : e.Fails d f)
    (after : List Entry) :
    runEntries d (before ++ e :: after) =
      ⟨before.flatMap (Entry.problems d) ++ e.problems d, some f⟩ := by
  induction before with
  | nil => exact runEntries_cons_fail he
  | cons x before ih =>
    rw [List.cons_append, runEntries_cons_complete (h x List.mem_cons_self),
      ih fun y hy => h y (List.mem_cons_of_mem x hy), List.flatMap_cons, List.append_assoc]

theorem runEntries_cases (d : Document) (es : List Entry) :
    (∀ e ∈ es, e.Completes d) ∨
      ∃ before e after f, es = before ++ e :: after ∧ (∀ x ∈ before, x.Completes d) ∧
        e.Fails d f := by
  induction es with
  | nil => simp
  | cons e es ih =>
    cases hf : (e.rule.check d).fault with
    | some f => exact Or.inr ⟨[], e, es, f, rfl, by simp, hf⟩
    | none =>
      have hc : e.Completes d := hf
      rcases ih with ih | ⟨before, x, after, f, rfl, hb, hx⟩
      · refine Or.inl fun x hx => ?_
        rcases List.mem_cons.mp hx with rfl | hx
        · exact hc
        · exact ih x hx
      · refine Or.inr ⟨e :: before, x, after, f, rfl, fun y hy => ?_, hx⟩
        rcases List.mem_cons.mp hy with rfl | hy
        · exact hc
        · exact hb y hy

theorem runEntries_congr {d d' : Document}
    (h : ∀ e ∈ es, e.rule.check d = e.rule.check d') : runEntries d es = runEntries d' es := by
  induction es with
  | nil => rfl
  | cons e es ih =>
    rw [runEntries, runEntries, h e List.mem_cons_self,
      ih fun x hx => h x (List.mem_cons_of_mem e hx)]

def Ascending (es : List Entry) : Prop := es.Pairwise fun e x => e.id < x.id

theorem ascending_split (h : Ascending (before ++ e :: after)) :
    (before ++ e :: after).filter (fun x => x.id < e.id) = before := by
  obtain ⟨_, hc, hb⟩ := List.pairwise_append.mp h
  have ha := (List.pairwise_cons.mp hc).1
  rw [List.filter_append, List.filter_eq_self.mpr, List.filter_eq_nil_iff.mpr, List.append_nil]
  · intro x hx
    rw [decide_eq_true_eq]
    intro hlt
    rcases List.mem_cons.mp hx with rfl | hx
    · exact String.lt_irrefl _ hlt
    · exact String.lt_irrefl _ (String.lt_trans hlt (ha x hx))
  · intro x hx
    simpa using hb x hx e List.mem_cons_self

def Disabled.skips (disabled : Disabled) (r : Rule) : Bool :=
  disabled.ids.any fun id => r.id = .text id

def Disabled.enabled (disabled : Disabled) (rules : List Rule) : List Rule :=
  rules.filter fun r => !disabled.skips r

theorem WellIdentified.enabled (h : WellIdentified rules) (disabled : Disabled) :
    WellIdentified (disabled.enabled rules) :=
  ⟨h.1.sublist (List.filter_sublist.map Rule.id), fun r hr => h.2 r (List.mem_filter.mp hr).1⟩

theorem skips_entry (h : r.entry? settings = some e) :
    disabled.skips r = disabled.ids.contains e.id := by
  rw [Disabled.skips, (entry_spec h).2, Bool.eq_iff_iff]
  simp only [List.any_eq_true, List.contains_iff_mem, decide_eq_true_eq, RuleId.text.injEq]
  constructor
  · rintro ⟨id, hid, rfl⟩
    exact hid
  · exact fun hid => ⟨e.id, hid, rfl⟩

theorem entries_nodup (h : WellIdentified rules) :
    ((rules.filterMap (Rule.entry? settings)).map Entry.id).Nodup := by
  apply List.pairwise_map.mpr
  apply List.pairwise_filterMap.mpr
  refine (List.pairwise_map.mp h.1).imp ?_
  intro r q hne e he x hx heq
  rw [(entry_spec he).2, (entry_spec hx).2, heq] at hne
  exact hne rfl

namespace Registry

theorem filter_entries (h : WellIdentified rules) (disabled : Disabled) :
    (ofRules settings rules).entries.filter (fun e => !disabled.ids.contains e.id) =
      (ofRules settings (disabled.enabled rules)).entries := by
  have hf : (rules.filterMap (Rule.entry? settings)).filter
      (fun e => !disabled.ids.contains e.id) =
      (disabled.enabled rules).filterMap (Rule.entry? settings) := by
    rw [Disabled.enabled, List.filter_filterMap, List.filterMap_filter]
    congr 1
    funext r
    cases he : r.entry? settings with
    | none => simp
    | some e => by_cases hd : e.id ∈ disabled.ids <;> simp [skips_entry he, hd]
  rw [entries_ofRules h, entries_ofRules (h.enabled disabled),
    filter_ofEntries (entries_nodup h), hf]

theorem entries_ascending (h : WellIdentified rules) :
    Ascending (ofRules settings rules).entries := by
  rw [entries_ofRules h]
  exact ofEntries_ascending (entries_nodup h)

theorem entries_eq_of_ascending (h : WellIdentified rules) (hasc : Ascending es)
    (hp : es.Perm (rules.filterMap (Rule.entry? settings))) :
    (ofRules settings rules).entries = es := by
  apply ascending_unique (entries_ascending h) hasc
  rw [entries_ofRules h]
  exact (ofEntries_perm _).trans hp.symm

theorem mem_entries (h : WellIdentified rules) :
    e ∈ (ofRules settings rules).entries ↔ ∃ r ∈ rules, r.entry? settings = some e := by
  rw [entries_ofRules h, (ofEntries_perm _).mem_iff, List.mem_filterMap]

theorem run_eq_enabled (h : WellIdentified rules) :
    (ofRules settings rules).run d disabled =
      runEntries d (ofRules settings (disabled.enabled rules)).entries := by
  rw [run, filter_entries h]

theorem run_none_disabled (reg : Registry) : reg.run d (.many []) = runEntries d reg.entries := by
  rw [run, List.filter_eq_self.mpr]
  intro e _
  rfl

end Registry

/-- Two lists of rules hold the same rules of ids up to a given one. -/
def AgreeUpTo (bound : String) (rules others : List Rule) : Prop :=
  ∀ r id, r.id = .text id → id ≤ bound → (r ∈ others ↔ r ∈ rules)

theorem agree_entries (h : WellIdentified rules) (ho : WellIdentified others)
    (ha : AgreeUpTo e.id rules others) (hx : x.id ≤ e.id) :
    x ∈ (Registry.ofRules settings (disabled.enabled others)).entries ↔
      x ∈ (Registry.ofRules settings (disabled.enabled rules)).entries := by
  rw [Registry.mem_entries (h.enabled _), Registry.mem_entries (ho.enabled _)]
  simp only [Disabled.enabled, List.mem_filter]
  constructor
  · rintro ⟨r, ⟨hr, hs⟩, he⟩
    exact ⟨r, ⟨(ha r x.id (entry_spec he).2 hx).mp hr, hs⟩, he⟩
  · rintro ⟨r, ⟨hr, hs⟩, he⟩
    exact ⟨r, ⟨(ha r x.id (entry_spec he).2 hx).mpr hr, hs⟩, he⟩

theorem Ascending.nodup (h : Ascending es) : es.Nodup := by
  refine h.imp ?_
  rintro a b hab rfl
  exact String.lt_irrefl _ hab

theorem agree_smaller (h : WellIdentified rules) (ho : WellIdentified others)
    (ha : AgreeUpTo e.id rules others) :
    (Registry.ofRules settings (disabled.enabled others)).entries.filter (fun x => x.id < e.id) =
      (Registry.ofRules settings (disabled.enabled rules)).entries.filter fun x => x.id < e.id := by
  have hr : Ascending (Registry.ofRules settings (disabled.enabled rules)).entries :=
    Registry.entries_ascending (h.enabled disabled)
  have hs : Ascending (Registry.ofRules settings (disabled.enabled others)).entries :=
    Registry.entries_ascending (ho.enabled disabled)
  apply Registry.ascending_unique (hs.filter _) (hr.filter _)
  refine (List.perm_ext_iff_of_nodup (hs.nodup.filter _) (hr.nodup.filter _)).mpr ?_
  intro x
  simp only [List.mem_filter, decide_eq_true_eq]
  refine and_congr_left fun hx => agree_entries h ho ha (String.not_lt.mp ?_)
  exact fun hlt => String.lt_irrefl _ (String.lt_trans hx hlt)

/-- A pass over entries ends at one of them: all of smaller ids complete, and what is delivered is
theirs, in the order of the entries, and then what the failing one reported. -/
structure StopsAt (d : Document) (es : List Entry) (e : Entry) (f : Fault)
    (result : PassResult) : Prop where
  registered : e ∈ es
  fails : e.Fails d f
  complete : ∀ x ∈ es, x.id < e.id → x.Completes d
  delivered : result.problems =
    (es.filter fun x => x.id < e.id).flatMap (Entry.problems d) ++ e.problems d

theorem stopsAt_of_fault (h : Ascending es) (hf : (runEntries d es).fault = some f) :
    ∃ e, StopsAt d es e f (runEntries d es) := by
  rcases runEntries_cases d es with hc | ⟨before, e, after, g, rfl, hb, he⟩
  · simp [runEntries_complete hc] at hf
  · have hrun := runEntries_fail hb he after
    rw [hrun] at hf
    obtain rfl := Option.some.inj hf
    have hs := ascending_split h
    refine ⟨e, by simp, he, ?_, by rw [hrun, hs]⟩
    intro x hx hlt
    apply hb x
    rw [← hs]
    exact List.mem_filter.mpr ⟨hx, by simpa using hlt⟩

/-- A pass over any entries that have the same ones up to a failing entry ends the same way. -/
theorem StopsAt.run_eq (hs : StopsAt d es e f (runEntries d es))
    (hf : (runEntries d es).fault = some f) (hasc : Ascending fs) (he : e ∈ fs)
    (hsame : fs.filter (fun x => x.id < e.id) = es.filter fun x => x.id < e.id) :
    runEntries d fs = runEntries d es := by
  obtain ⟨before, after, rfl⟩ := List.mem_iff_append.mp he
  have hb := ascending_split hasc
  rw [hsame] at hb
  have hc : ∀ x ∈ before, x.Completes d := by
    intro x hx
    rw [← hb] at hx
    obtain ⟨hx, hlt⟩ := List.mem_filter.mp hx
    exact hs.complete x hx (by simpa using hlt)
  rw [runEntries_fail hc hs.fails after, ← hb, ← hs.delivered, ← hf]

/-- Disabling ids is the same as not registering their rules. A pass that fails delivers what the
enabled rules of smaller ids report, in the order of their ids, and what the failing one reported
before; no rule of a larger id is run, so whatever rules of larger ids are registered makes no
difference. -/
theorem disabling_is_not_registering (settings : Settings) {rules : List Rule}
    (h : WellIdentified rules) (d : Document) (disabled : Disabled) :
    ((Builder.empty settings).registerAll rules).2 = none ∧
      ((Builder.empty settings).registerAll (disabled.enabled rules)).2 = none ∧
      (Registry.ofRules settings rules).run d disabled =
        (Registry.ofRules settings (disabled.enabled rules)).run d (.many []) ∧
      Ascending (Registry.ofRules settings (disabled.enabled rules)).entries ∧
      ∀ f, ((Registry.ofRules settings rules).run d disabled).fault = some f →
        ∃ e, StopsAt d (Registry.ofRules settings (disabled.enabled rules)).entries e f
            ((Registry.ofRules settings rules).run d disabled) ∧
          ∀ others, WellIdentified others → AgreeUpTo e.id rules others →
            (Registry.ofRules settings others).run d disabled =
              (Registry.ofRules settings rules).run d disabled := by
  have hasc : Ascending (Registry.ofRules settings (disabled.enabled rules)).entries :=
    Registry.entries_ascending (h.enabled disabled)
  rw [Registry.registerAll_empty h, Registry.registerAll_empty (h.enabled disabled),
    Registry.run_none_disabled, Registry.run_eq_enabled h]
  refine ⟨rfl, rfl, rfl, hasc, ?_⟩
  intro f hf
  obtain ⟨e, hs⟩ := stopsAt_of_fault hasc hf
  refine ⟨e, hs, ?_⟩
  intro others ho ha
  rw [Registry.run_eq_enabled ho]
  apply hs.run_eq hf (Registry.entries_ascending (ho.enabled disabled))
  · exact (agree_entries h ho ha (String.le_refl e.id)).mpr hs.registered
  · exact agree_smaller h ho ha

/-- Three rules in descending order of their ids; the second reports all elements and fails. -/
def probes : List Rule :=
  [⟨.text "W003", "Last", fun _ => .ok [⟨"last", []⟩]⟩,
    ⟨.text "E002", "Failing", fun d => ⟨[⟨"all", d.elements⟩], some (.raised "stop")⟩⟩,
    ⟨.text "E001", "First", fun _ => .ok [⟨"first", []⟩]⟩]

theorem disabling_first_probe :
    WellIdentified probes ∧
      (Registry.ofRules {} probes).run ⟨.nil, none⟩ (.one "E001") =
        (Registry.ofRules {} (Disabled.enabled (.one "E001") probes)).run ⟨.nil, none⟩ (.many []) ∧
      ((Registry.ofRules {} probes).run ⟨.nil, none⟩ (.one "E001")).fault =
        some (.raised "stop") ∧
      ∃ e, StopsAt ⟨.nil, none⟩
        (Registry.ofRules {} (Disabled.enabled (.one "E001") probes)).entries e (.raised "stop")
        ((Registry.ofRules {} probes).run ⟨.nil, none⟩ (.one "E001")) := by
  have hw : WellIdentified probes := ⟨by decide +kernel, by decide +kernel⟩
  have hs : (Registry.ofRules {} probes).entries =
      (probes.filterMap (Rule.entry? {})).reverse := by
    rw [Registry.entries_ofRules hw]
    apply Registry.ascending_unique (Registry.ofEntries_ascending (entries_nodup hw))
    · decide +kernel
    · exact (Registry.ofEntries_perm _).trans (List.reverse_perm _).symm
  have hf : ((Registry.ofRules {} probes).run ⟨.nil, none⟩ (.one "E001")).fault =
      some (.raised "stop") := by
    rw [Registry.run, hs]
    decide +kernel
  obtain ⟨-, -, hrun, -, hstop⟩ :=
    disabling_is_not_registering {} hw ⟨.nil, none⟩ (.one "E001")
  obtain ⟨e, he, -⟩ := hstop _ hf
  exact ⟨hw, hrun, hf, e, he⟩

end MarkupLint
