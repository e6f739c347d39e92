import MarkupLint.Proofs.BuilderSessions

/-! # The order of registration

A builder that is offered rules with valid ids of their own takes them all, however they are spread
over calls: what its table records is the list of all rules in the order of the offers. A registry
sorts the table by ids, and distinct ids leave one sorted order, so the order of the offers is
forgotten there. A pass reads nothing but the sorted entries, whether it fails or not.
-/
namespace MarkupLint

variable {settings : Settings} {b : Builder} {past rules others : List Rule}
  {calls : List BuilderCall}

def offeredBy (calls : List BuilderCall) : List Rule := calls.flatMap BuilderCall.offered

def Builder.afterCalls (b : Builder) (calls : List BuilderCall) : Builder :=
  calls.foldl (fun b call => (b.answer call).1) b

def Registry.ofCalls (settings : Settings) (calls : List BuilderCall) : Registry :=
  ((Builder.empty settings).afterCalls calls).build

def AllAccepted (settings : Settings) (calls : List BuilderCall) : Prop :=
  ∀ m ∈ (Builder.empty settings).session calls, ∀ error, m.reply ≠ .refused error

theorem WellIdentified.perm (h : WellIdentified rules) (hp : rules.Perm others) :
    WellIdentified others := by
  obtain ⟨hn, hv⟩ := h
  refine ⟨(hp.map Rule.id).nodup_iff.mp hn, ?_⟩
  intro r hr
  exact hv r (hp.mem_iff.mpr hr)

namespace Builder

theorem Records.registerAll_distinct (h : b.Records settings past)
    (hw : WellIdentified (past ++ rules)) :
    ∃ b', b.registerAll rules = (b', none) ∧ b'.Records settings (past ++ rules) := by
  obtain ⟨hn, hv⟩ := hw
  obtain ⟨-, hrules, hapart⟩ := List.nodup_append.mp (List.map_append ▸ hn)
  have hnew : ∀ r ∈ rules, b.holds r.id = false := by
    intro r hr
    rw [← Bool.not_eq_true, h.holds_iff]
    intro hmem
    exact hapart _ hmem _ (List.mem_map_of_mem hr) rfl
  have hvalid : WellIdentified rules := ⟨hrules, fun r hr => hv r (List.mem_append_right _ hr)⟩
  refine ⟨_, Builder.registerAll_distinct hvalid hnew, h.settings_eq, ⟨hn, hv⟩, ?_⟩
  simp [h.entries_eq, h.settings_eq]

theorem Records.register_distinct {r : Rule} (h : b.Records settings past)
    (hw : WellIdentified (past ++ [r])) :
    ∃ b', b.register r = .ok b' ∧ b'.Records settings (past ++ [r]) := by
  obtain ⟨b', hall, hb'⟩ := h.registerAll_distinct hw
  refine ⟨b', ?_, hb'⟩
  cases hr : b.register r with
  | error f => simp [Builder.registerAll, hr] at hall
  | ok b₁ =>
    simp only [Builder.registerAll, hr, Prod.mk.injEq, and_true] at hall
    rw [hall]

theorem Records.answer_distinct {call : BuilderCall} (h : b.Records settings past)
    (hw : WellIdentified (past ++ call.offered)) :
    (b.answer call).1.Records settings (past ++ call.offered) ∧
      ∀ error, (b.answer call).2 ≠ .refused error := by
  cases call with
  | register r =>
    obtain ⟨b', hr, hb'⟩ := h.register_distinct hw
    rw [answer_ok hr]
    exact ⟨hb', by simp⟩
  | registerAll rules =>
    obtain ⟨b', hall, hb'⟩ := h.registerAll_distinct hw
    have hanswer : b.answer (.registerAll rules) = (b', .accepted) := by
      rw [BuilderCall.offered] at hall
      simp [answer, hall]
    rw [hanswer]
    exact ⟨hb', by simp⟩
  | build => exact ⟨by simpa [BuilderCall.offered, answer] using h, by simp [answer]⟩

theorem Records.afterCalls (h : b.Records settings past)
    (hw : WellIdentified (past ++ offeredBy calls)) :
    (b.afterCalls calls).Records settings (past ++ offeredBy calls) ∧
      ∀ m ∈ b.session calls, ∀ error, m.reply ≠ .refused error := by
  induction calls generalizing b past with
  | nil => exact ⟨by simpa [offeredBy, Builder.afterCalls] using h, by simp [Builder.session]⟩
  | cons call calls ih =>
    have hall : past ++ offeredBy (call :: calls) =
        past ++ call.offered ++ offeredBy calls := by
      rw [offeredBy, List.flatMap_cons, List.append_assoc]
      rfl
    rw [hall] at hw ⊢
    have hcall : WellIdentified (past ++ call.offered) := by
      obtain ⟨hn, hv⟩ := hw
      rw [List.map_append] at hn
      exact ⟨(List.nodup_append.mp hn).1, fun r hr => hv r (List.mem_append_left _ hr)⟩
    obtain ⟨hnext, hreply⟩ := h.answer_distinct hcall
    obtain ⟨hlast, hreplies⟩ := ih hnext hw
    refine ⟨hlast, ?_⟩
    intro m hm
    rcases List.mem_cons.mp hm with rfl | hm
    · exact hreply
    · exact hreplies m hm

end Builder

theorem entries_afterCalls (h : WellIdentified (offeredBy calls)) :
    ((Builder.empty settings).afterCalls calls).entries =
      (offeredBy calls).filterMap (Rule.entry? settings) ∧ AllAccepted settings calls := by
  have hw : WellIdentified ([] ++ offeredBy calls) := h
  obtain ⟨hrecords, haccepted⟩ := (Builder.records_empty settings).afterCalls hw
  exact ⟨hrecords.entries_eq, haccepted⟩

theorem Registry.entries_ofCalls (h : WellIdentified (offeredBy calls)) :
    (Registry.ofCalls settings calls).entries =
      (Registry.ofRules settings (offeredBy calls)).entries := by
  rw [Registry.entries_ofRules h, Registry.ofCalls, Builder.build, (entries_afterCalls h).1]

/-- Sorting forgets the order in which the rules came. -/
theorem Registry.entries_ofRules_perm (h : WellIdentified rules) (hp : rules.Perm others) :
    (Registry.ofRules settings rules).entries = (Registry.ofRules settings others).entries := by
  have ho := h.perm hp
  apply entries_eq_of_ascending h (entries_ascending ho)
  rw [entries_ofRules ho]
  exact (ofEntries_perm _).trans (hp.symm.filterMap _)

/-- Rules with valid ids of their own may be registered in any order and in any groups: no call is
refused, the registries have the same entries in the same order, and every pass over any document
delivers the same problems in the same order and ends the same way. -/
theorem registration_order_irrelevant (settings : Settings) {rules others : List Rule}
    (h : WellIdentified rules) (hp : rules.Perm others) {calls more : List BuilderCall}
    (hcalls : offeredBy calls = rules) (hmore : offeredBy more = others) :
    AllAccepted settings calls ∧ AllAccepted settings more ∧
      (Registry.ofCalls settings calls).entries = (Registry.ofCalls settings more).entries ∧
      ∀ d disabled, (Registry.ofCalls settings calls).run d disabled =
        (Registry.ofCalls settings more).run d disabled := by
  subst hcalls hmore
  have ho := h.perm hp
  have hentries : (Registry.ofCalls settings calls).entries =
      (Registry.ofCalls settings more).entries := by
    rw [Registry.entries_ofCalls h, Registry.entries_ofCalls ho]
    exact Registry.entries_ofRules_perm h hp
  refine ⟨(entries_afterCalls h).2, (entries_afterCalls ho).2, hentries, ?_⟩
  intro d disabled
  rw [Registry.run, Registry.run, hentries]

/-- The probes from the last to the first: one in a group, then the others one by one. -/
def scatteredProbes : List BuilderCall :=
  [.registerAll (probes.reverse.take 1), .build] ++ (probes.reverse.drop 1).map .register

theorem registration_order_irrelevant_probes :
    WellIdentified probes ∧ probes.Perm probes.reverse ∧
      offeredBy [.registerAll probes] = probes ∧ offeredBy scatteredProbes = probes.reverse ∧
      AllAccepted {} scatteredProbes ∧
      (Registry.ofCalls {} [.registerAll probes]).entries =
        (Registry.ofCalls {} scatteredProbes).entries ∧
      ∀ d disabled, (Registry.ofCalls {} [.registerAll probes]).run d disabled =
        (Registry.ofCalls {} scatteredProbes).run d disabled := by
  have hw : WellIdentified probes := ⟨by decide +kernel, by decide +kernel⟩
  have hp : probes.Perm probes.reverse := (List.reverse_perm probes).symm
  have hall : offeredBy [.registerAll probes] = probes := rfl
  have hscattered : offeredBy scatteredProbes = probes.reverse := rfl
  exact ⟨hw, hp, hall, hscattered,
    (registration_order_irrelevant {} hw hp hall hscattered).2⟩

end MarkupLint
