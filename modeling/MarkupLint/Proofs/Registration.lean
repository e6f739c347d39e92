import MarkupLint.Catalogue

/-! # Registered rules

What a builder holds after it was given rules, and how a registry orders it. A rule that is
accepted is an entry, and an entry is settled by its rule and the settings alone; so a registry is
known from the list of rules that was given.
-/
namespace MarkupLint

variable {settings : Settings} {b : Builder} {r : Rule} {rules : List Rule} {e : Entry}
  {es fs : List Entry}

def Rule.entry? (settings : Settings) (r : Rule) : Option Entry :=
  match r.id, Severity.ofId? r.id with
  | .text id, some severity => some ⟨id, severity, settings.documentationUrl id, r⟩
  | _, _ => none

/-- The ids are valid, and no two rules share one. -/
def WellIdentified (rules : List Rule) : Prop :=
  (rules.map Rule.id).Nodup ∧ ∀ r ∈ rules, (Severity.ofId? r.id).isSome

theorem entry_spec (h : r.entry? settings = some e) : e.rule = r ∧ r.id = .text e.id := by
  unfold Rule.entry? at h
  split at h
  · next hid _ =>
    obtain rfl := Option.some.inj h
    exact ⟨rfl, hid⟩
  · simp at h

theorem exists_entry (settings : Settings) (h : (Severity.ofId? r.id).isSome) :
    ∃ e, r.entry? settings = some e := by
  obtain ⟨severity, hs⟩ := Option.isSome_iff_exists.mp h
  unfold Rule.entry?
  cases hid : r.id with
  | text id =>
    rw [hid] at hs
    exact ⟨⟨id, severity, settings.documentationUrl id, r⟩, by simp [hs]⟩
  | number n => simp [hid, Severity.ofId?] at hs
  | truth t => simp [hid, Severity.ofId?] at hs
  | missing => simp [hid, Severity.ofId?] at hs

namespace Builder

theorem register_eq (b : Builder) (r : Rule) :
    b.register r =
      if b.holds r.id then .error (.duplicate r.id)
      else
        match r.entry? b.settings with
        | some e => .ok { b with entries := b.entries ++ [e] }
        | none => .error (.invalid r.id) := by
  unfold register Rule.entry?
  cases r.id with
  | text id => cases Severity.ofId? (.text id) <;> rfl
  | number n => rfl
  | truth t => rfl
  | missing => rfl

theorem register_ok {b' : Builder} (h : b.register r = .ok b') :
    ∃ e, r.entry? b.settings = some e ∧ b' = { b with entries := b.entries ++ [e] } := by
  rw [register_eq] at h
  split at h
  · cases h
  · split at h
    · next e he => exact ⟨e, he, (Except.ok.inj h).symm⟩
    · cases h

theorem registerAll_origin (h : e ∈ (b.registerAll rules).1.entries) :
    e ∈ b.entries ∨ ∃ r ∈ rules, r.entry? b.settings = some e := by
  induction rules generalizing b with
  | nil => exact Or.inl h
  | cons r rules ih =>
    unfold registerAll at h
    split at h
    · next b' hb =>
      obtain ⟨f, hf, rfl⟩ := register_ok hb
      rcases ih h with h | ⟨q, hq, he⟩
      · rcases List.mem_append.mp h with h | h
        · exact Or.inl h
        · rw [List.mem_singleton] at h
          exact Or.inr ⟨r, List.mem_cons_self, h ▸ hf⟩
      · exact Or.inr ⟨q, List.mem_cons_of_mem r hq, he⟩
    · exact Or.inl h

theorem registerAll_distinct (hw : WellIdentified rules)
    (hb : ∀ r ∈ rules, b.holds r.id = false) :
    b.registerAll rules =
      ({ b with entries := b.entries ++ rules.filterMap (Rule.entry? b.settings) }, none) := by
  induction rules generalizing b with
  | nil => simp [registerAll]
  | cons r rules ih =>
    obtain ⟨hn, hv⟩ := hw
    obtain ⟨hr, hn⟩ := List.nodup_cons.mp hn
    obtain ⟨e, he⟩ := exists_entry b.settings (hv r List.mem_cons_self)
    have hreg : b.register r = .ok { b with entries := b.entries ++ [e] } := by
      simp [register_eq, hb r List.mem_cons_self, he]
    have hnext : ∀ q ∈ rules,
        ({ b with entries := b.entries ++ [e] } : Builder).holds q.id = false := by
      intro q hq
      have hne : r.id ≠ q.id := fun heq => hr (List.mem_map.mpr ⟨q, hq, heq.symm⟩)
      have hold := hb q (List.mem_cons_of_mem r hq)
      rw [(entry_spec he).2] at hne
      simpa [holds, hne] using hold
    rw [registerAll, hreg]
    simp only
    rw [ih ⟨hn, fun q hq => hv q (List.mem_cons_of_mem r hq)⟩ hnext, List.filterMap_cons_some he]
    simp

end Builder

namespace Registry

def ofRules (settings : Settings) (rules : List Rule) : Registry :=
  ((Builder.empty settings).registerAll rules).1.build

theorem mem_ofRules_origin (h : e ∈ (ofRules settings rules).entries) :
    ∃ r ∈ rules, r.entry? settings = some e := by
  have hm : e ∈ ((Builder.empty settings).registerAll rules).1.entries := List.mem_mergeSort.mp h
  rcases Builder.registerAll_origin hm with hm | hm
  · simp [Builder.empty] at hm
  · exact hm

theorem registerAll_empty (hw : WellIdentified rules) :
    (Builder.empty settings).registerAll rules =
      (⟨settings, rules.filterMap (Rule.entry? settings)⟩, none) := by
  rw [Builder.registerAll_distinct hw fun r _ => rfl]
  rfl

theorem entries_ofRules (hw : WellIdentified rules) :
    (ofRules settings rules).entries =
      (ofEntries (rules.filterMap (Rule.entry? settings))).entries := by
  rw [ofRules, registerAll_empty hw]
  rfl

theorem ofEntries_perm (es : List Entry) : (ofEntries es).entries.Perm es :=
  List.mergeSort_perm es _

/-- A registry of distinct ids is in strictly ascending order. -/
theorem ofEntries_ascending (h : (es.map Entry.id).Nodup) :
    (ofEntries es).entries.Pairwise fun e f => e.id < f.id := by
  have hn : ((ofEntries es).entries.map Entry.id).Nodup :=
    ((ofEntries_perm es).map Entry.id).nodup_iff.mpr h
  have hs : (ofEntries es).entries.Pairwise fun e f => decide (e.id ≤ f.id) = true := by
    apply List.pairwise_mergeSort
    · intro a b c hab hbc
      rw [decide_eq_true_eq] at *
      exact String.le_trans hab hbc
    · intro a b
      simpa using String.le_total a.id b.id
  refine hs.imp₂ ?_ (List.pairwise_map.mp hn)
  intro a b hab hne
  apply String.not_le.mp
  intro hba
  exact hne (String.le_antisymm (of_decide_eq_true hab) hba)

theorem ascending_unique (he : es.Pairwise fun e f => e.id < f.id)
    (hf : fs.Pairwise fun e f => e.id < f.id) (hp : es.Perm fs) : es = fs := by
  refine hp.eq_of_pairwise ?_ he hf
  intro a b _ _ hab hba
  exact absurd (String.lt_trans hab hba) (String.lt_irrefl a.id)

theorem filter_ofEntries (h : (es.map Entry.id).Nodup) (p : Entry → Bool) :
    (ofEntries es).entries.filter p = (ofEntries (es.filter p)).entries := by
  have hp : ((es.filter p).map Entry.id).Nodup :=
    h.sublist ((List.filter_sublist (p := p)).map Entry.id)
  apply ascending_unique
  · exact (ofEntries_ascending h).filter p
  · exact ofEntries_ascending hp
  · exact ((ofEntries_perm es).filter p).trans (ofEntries_perm (es.filter p)).symm

end Registry

theorem catalogue_cases {P : Rule → Prop} (settings : Settings)
    (head : ∀ r ∈ Rules.headRules, P r) (library : ∀ r ∈ Rules.libraryRules settings, P r)
    (grid : ∀ r ∈ Rules.gridRules, P r) (form : ∀ r ∈ Rules.formRules, P r)
    (action : ∀ r ∈ Rules.actionRules, P r) (modal : ∀ r ∈ Rules.modalRules, P r)
    (carousel : ∀ r ∈ Rules.carouselRules, P r) (component : ∀ r ∈ Rules.componentRules, P r)
    (retired : ∀ r ∈ Rules.retiredRules, P r) : ∀ r ∈ catalogue settings, P r := by
  simp only [catalogue, List.forall_mem_append]
  exact ⟨⟨⟨⟨⟨⟨⟨⟨head, library⟩, grid⟩, form⟩, action⟩, modal⟩, carousel⟩, component⟩, retired⟩

/-- The settings are read by the rules on libraries alone, and not for their ids. -/
theorem catalogue_ids (settings : Settings) :
    (catalogue settings).map Rule.id = (catalogue {}).map Rule.id := by
  have hlibrary : ∀ s : Settings, (Rules.libraryRules s).map Rule.id =
      [.text "E007", .text "W005", .text "W013"] := fun _ => rfl
  simp only [catalogue, List.map_append, hlibrary]

theorem catalogue_wellIdentified (settings : Settings) : WellIdentified (catalogue settings) := by
  have hvalid : ∀ id ∈ (catalogue settings).map Rule.id, (Severity.ofId? id).isSome := by
    rw [catalogue_ids]
    decide +kernel
  refine ⟨?_, fun r hr => hvalid r.id (List.mem_map_of_mem hr)⟩
  rw [catalogue_ids]
  decide +kernel

end MarkupLint
