import Mathlib.Data.List.Nodup
import MarkupLint.Proofs.Passes

/-! # Sessions of a builder

Calls on one builder, one after the other, with refused rules among them. The rules that were
accepted so far are the journal of a session. What carries all statements about whole sessions is
one relation: the table of a builder records a journal of rules with valid ids, no two of them the
same. Every call keeps it, with the rules that it adds at the end of the journal.
-/
namespace MarkupLint

variable {settings : Settings} {b b' : Builder} {r : Rule} {rules rest : List Rule}
  {error : SetupError} {table : List Entry} {e : Entry}

inductive BuilderCall where
  | register (rule : Rule)
  | registerAll (rules : List Rule)
  | build

def BuilderCall.offered : BuilderCall → List Rule
  | register r => [r]
  | registerAll rules => rules
  | build => []

inductive BuilderReply where
  | accepted
  | refused (error : SetupError)
  | built (registry : Registry)

def Builder.answer (b : Builder) : BuilderCall → Builder × BuilderReply
  | .register r =>
    match b.register r with
    | .ok b' => (b', .accepted)
    | .error error => (b, .refused error)
  | .registerAll rules =>
    match b.registerAll rules with
    | (b', none) => (b', .accepted)
    | (b', some error) => (b', .refused error)
  | .build => (b, .built b.build)

structure Moment where
  before : Builder
  call : BuilderCall
  reply : BuilderReply
  after : Builder

def Builder.session (b : Builder) : List BuilderCall → List Moment
  | [] => []
  | call :: calls =>
    ⟨b, call, (b.answer call).2, (b.answer call).1⟩ :: (b.answer call).1.session calls

/-- The rules that a builder takes from a list: those before the first refused one. -/
def Builder.taken (b : Builder) : List Rule → List Rule
  | [] => []
  | r :: rest =>
    match b.register r with
    | .ok b' => r :: b'.taken rest
    | .error _ => []

def journal (moments : List Moment) : List Rule :=
  moments.flatMap fun m => m.before.taken m.call.offered

def entryOf? (table : List Entry) (id : String) : Option Entry := table.find? fun e => e.id == id

namespace Builder

theorem register_cases (b : Builder) (r : Rule) :
    (b.holds r.id = true ∧ b.register r = .error (.duplicate r.id)) ∨
      (b.holds r.id = false ∧ Severity.ofId? r.id = none ∧
        b.register r = .error (.invalid r.id)) ∨
      ∃ e, b.holds r.id = false ∧ (Severity.ofId? r.id).isSome ∧
        r.entry? b.settings = some e ∧
        b.register r = .ok { b with entries := b.entries ++ [e] } := by
  rw [register_eq]
  cases hh : b.holds r.id with
  | true => exact Or.inl ⟨rfl, rfl⟩
  | false =>
    cases hs : Severity.ofId? r.id with
    | none =>
      have hnone : r.entry? b.settings = none := by
        unfold Rule.entry?
        split
        · next hsome => rw [hs] at hsome; cases hsome
        · rfl
      exact Or.inr (Or.inl ⟨rfl, rfl, by simp [hnone]⟩)
    | some severity =>
      obtain ⟨e, he⟩ := exists_entry b.settings (r := r) (by simp [hs])
      exact Or.inr (Or.inr ⟨e, rfl, rfl, he, by simp [he]⟩)

section Answers

theorem answer_ok (h : b.register r = .ok b') : b.answer (.register r) = (b', .accepted) := by
  simp [answer, h]

theorem answer_error (h : b.register r = .error error) :
    b.answer (.register r) = (b, .refused error) := by
  simp [answer, h]

theorem answer_duplicate_iff :
    (b.answer (.register r)).2 = .refused (.duplicate r.id) ↔ b.holds r.id = true := by
  rcases register_cases b r with ⟨hh, hr⟩ | ⟨hh, -, hr⟩ | ⟨e, hh, -, -, hr⟩
  · simp [answer_error hr, hh]
  · simp [answer_error hr, hh]
  · simp [answer_ok hr, hh]

theorem answer_invalid_iff :
    (b.answer (.register r)).2 = .refused (.invalid r.id) ↔
      b.holds r.id = false ∧ Severity.ofId? r.id = none := by
  rcases register_cases b r with ⟨hh, hr⟩ | ⟨hh, hs, hr⟩ | ⟨e, hh, hs, -, hr⟩
  · simp [answer_error hr, hh]
  · simp [answer_error hr, hh, hs]
  · have hvalid : Severity.ofId? r.id ≠ none := Option.isSome_iff_ne_none.mp hs
    simp [answer_ok hr, hvalid]

theorem answer_accepted_iff :
    (b.answer (.register r)).2 = .accepted ↔
      b.holds r.id = false ∧ (Severity.ofId? r.id).isSome := by
  rcases register_cases b r with ⟨hh, hr⟩ | ⟨hh, hs, hr⟩ | ⟨e, hh, hs, -, hr⟩
  · simp [answer_error hr, hh]
  · simp [answer_error hr, hs]
  · simp [answer_ok hr, hh, hs]

theorem answer_unchanged (h : (b.answer (.register r)).2 ≠ .accepted) :
    (b.answer (.register r)).1 = b := by
  cases hr : b.register r with
  | error f => rw [answer_error hr]
  | ok b' => exact absurd (by rw [answer_ok hr]) h

theorem answer_registerAll (b : Builder) (rules : List Rule) :
    (b.answer (.registerAll rules)).1 = (b.registerAll rules).1 := by
  simp only [answer]
  split <;> next heq => rw [heq]

theorem answer_refused (h : (b.answer (.registerAll rules)).2 = .refused error) :
    (b.registerAll rules).2 = some error := by
  simp only [answer] at h
  split at h
  · cases h
  · next heq =>
    obtain rfl := BuilderReply.refused.inj h
    rw [heq]

end Answers

/-- The table of a builder is that of a list of rules with valid ids of their own. -/
structure Records (b : Builder) (settings : Settings) (past : List Rule) : Prop where
  settings_eq : b.settings = settings
  distinct : WellIdentified past
  entries_eq : b.entries = past.filterMap (Rule.entry? settings)

theorem records_empty (settings : Settings) : (empty settings).Records settings [] :=
  ⟨rfl, ⟨List.nodup_nil, by simp⟩, rfl⟩

namespace Records

variable {past : List Rule}

theorem holds_iff (h : b.Records settings past) {id : RuleId} :
    b.holds id = true ↔ id ∈ past.map Rule.id := by
  rw [holds, h.entries_eq, List.any_eq_true, List.mem_map]
  simp only [List.mem_filterMap, decide_eq_true_eq]
  constructor
  · rintro ⟨e, ⟨r, hr, he⟩, rfl⟩
    exact ⟨r, hr, (entry_spec he).2⟩
  · rintro ⟨r, hr, rfl⟩
    obtain ⟨e, he⟩ := exists_entry settings (h.distinct.2 r hr)
    exact ⟨e, ⟨r, hr, he⟩, (entry_spec he).2.symm⟩

theorem register (h : b.Records settings past) (hr : b.register r = .ok b') :
    b'.Records settings (past ++ [r]) := by
  rcases register_cases b r with ⟨-, hd⟩ | ⟨-, -, hi⟩ | ⟨e, hnew, hvalid, he, hok⟩
  · rw [hd] at hr
    cases hr
  · rw [hi] at hr
    cases hr
  · rw [hok] at hr
    obtain rfl := Except.ok.inj hr
    have hfresh : r.id ∉ past.map Rule.id := by
      intro hmem
      rw [h.holds_iff.mpr hmem] at hnew
      cases hnew
    refine ⟨h.settings_eq, ⟨?_, ?_⟩, ?_⟩
    · rw [List.map_append, List.map_singleton]
      refine List.nodup_append.mpr ⟨h.distinct.1, List.nodup_singleton _, ?_⟩
      intro id hid q hq heq
      rw [List.mem_singleton.mp hq] at heq
      exact hfresh (heq ▸ hid)
    · intro q hq
      rcases List.mem_append.mp hq with hq | hq
      · exact h.distinct.2 q hq
      · obtain rfl := List.mem_singleton.mp hq
        exact hvalid
    · rw [h.settings_eq] at he
      simp [h.entries_eq, he]

theorem registerAll (h : b.Records settings past) (rules : List Rule) :
    (b.registerAll rules).1.Records settings (past ++ b.taken rules) := by
  induction rules generalizing b past with
  | nil => simpa [Builder.registerAll, taken] using h
  | cons r rest ih =>
    unfold Builder.registerAll taken
    cases hr : b.register r with
    | error f => simpa using h
    | ok b' =>
      have hnext := ih (h.register hr)
      rwa [List.append_assoc, List.singleton_append] at hnext

theorem after (h : b.Records settings past) (call : BuilderCall) :
    (b.answer call).1.Records settings (past ++ b.taken call.offered) := by
  cases call with
  | register r =>
    simp only [Builder.answer, BuilderCall.offered, taken]
    cases hr : b.register r with
    | error f => simpa using h
    | ok b' => exact h.register hr
  | registerAll rules =>
    rw [answer_registerAll]
    exact h.registerAll rules
  | build => simpa [Builder.answer, BuilderCall.offered, taken] using h

theorem rules_eq (h : b.Records settings past) : b.entries.map Entry.rule = past := by
  have hall : ∀ rules : List Rule, (∀ r ∈ rules, (Severity.ofId? r.id).isSome) →
      (rules.filterMap (Rule.entry? settings)).map Entry.rule = rules := by
    intro rules hv
    induction rules with
    | nil => rfl
    | cons r rules ih =>
      obtain ⟨e, he⟩ := exists_entry settings (hv r List.mem_cons_self)
      rw [List.filterMap_cons_some he, List.map_cons, (entry_spec he).1,
        ih fun q hq => hv q (List.mem_cons_of_mem r hq)]
  rw [h.entries_eq]
  exact hall past h.distinct.2

theorem nodup (h : b.Records settings past) : (b.entries.map Entry.id).Nodup := by
  rw [h.entries_eq]
  exact entries_nodup h.distinct

end Records

theorem registerAll_cut (h : (b.registerAll rules).2 = some error) :
    ∃ r rest, rules = b.taken rules ++ r :: rest ∧
      b.registerAll (b.taken rules) = ((b.registerAll rules).1, none) ∧
      (b.registerAll rules).1.register r = .error error := by
  induction rules generalizing b with
  | nil => cases h
  | cons r rest ih =>
    unfold registerAll at h ⊢
    unfold taken
    cases hr : b.register r with
    | error f =>
      rw [hr] at h
      obtain rfl := Option.some.inj h
      exact ⟨r, rest, rfl, rfl, hr⟩
    | ok b' =>
      rw [hr] at h
      obtain ⟨q, more, hcut, hall, hq⟩ := ih h
      refine ⟨q, more, congrArg (r :: ·) hcut, ?_, hq⟩
      simpa [registerAll, hr] using hall

end Builder

section Tables

theorem entryOf_eq_some (h : (table.map Entry.id).Nodup) {id : String} :
    entryOf? table id = some e ↔ e ∈ table ∧ e.id = id := by
  constructor
  · intro hf
    exact ⟨List.mem_of_find?_eq_some hf, by simpa using List.find?_some hf⟩
  · rintro ⟨he, rfl⟩
    have hsome : (entryOf? table e.id).isSome := by
      rw [entryOf?, List.find?_isSome]
      exact ⟨e, he, by simp⟩
    obtain ⟨x, hx⟩ := Option.isSome_iff_exists.mp hsome
    have hid : x.id = e.id := by simpa using List.find?_some hx
    obtain rfl := List.inj_on_of_nodup_map h (List.mem_of_find?_eq_some hx) he hid
    exact hx

/-- A registry presents a table: its ids are those of the table in strictly ascending order, and
all that can be asked of it agrees with the table. -/
structure Registry.Presents (reg : Registry) (table : List Entry) : Prop where
  ascending : reg.ids.Pairwise (· < ·)
  mem_ids : ∀ id, id ∈ reg.ids ↔ id ∈ table.map Entry.id
  get : ∀ id, reg.get? id = entryOf? table id
  contains : ∀ id, reg.contains id = true ↔ id ∈ table.map Entry.id
  severity : ∀ id, reg.severityOf? id = (entryOf? table id).map Entry.severity
  size : reg.size = table.length

theorem Registry.ofEntries_presents (h : (table.map Entry.id).Nodup) :
    (Registry.ofEntries table).Presents table := by
  have hperm := Registry.ofEntries_perm table
  have hn : ((Registry.ofEntries table).entries.map Entry.id).Nodup :=
    (hperm.map Entry.id).nodup_iff.mpr h
  have hget : ∀ id, (Registry.ofEntries table).get? id = entryOf? table id := by
    intro id
    apply Option.ext
    intro e
    exact (entryOf_eq_some hn).trans
      ((and_congr_left fun _ => hperm.mem_iff).trans (entryOf_eq_some h).symm)
  refine ⟨List.pairwise_map.mpr (Registry.ofEntries_ascending h), ?_, hget, ?_, ?_,
    hperm.length_eq⟩
  · exact fun id => (hperm.map Entry.id).mem_iff
  · intro id
    rw [Registry.contains, hget, entryOf?, List.find?_isSome, List.mem_map]
    simp
  · intro id
    rw [Registry.severityOf?, hget]

end Tables

/-- What a moment of a session keeps to, given the successful registrations up to it. -/
structure Moment.Lawful (m : Moment) (settings : Settings) (past : List Rule) : Prop where
  rules : m.after.entries.map Entry.rule = past
  distinct : (m.after.entries.map Entry.id).Nodup
  bound : ∀ id, entryOf? m.after.entries id =
    (past.find? fun r => r.id = .text id).bind (Rule.entry? settings)
  tagged : ∀ e ∈ m.after.entries, e.rule.id = .text e.id ∧
    Severity.ofId? e.rule.id = some e.severity ∧ e.url = settings.wikiUrl ++ e.id
  duplicate : ∀ r, m.call = .register r →
    (m.reply = .refused (.duplicate r.id) ↔ m.before.holds r.id = true)
  invalid : ∀ r, m.call = .register r →
    (m.reply = .refused (.invalid r.id) ↔
      m.before.holds r.id = false ∧ Severity.ofId? r.id = none)
  accepted : ∀ r, m.call = .register r →
    (m.reply = .accepted ↔ m.before.holds r.id = false ∧ (Severity.ofId? r.id).isSome)
  unchanged : ∀ r, m.call = .register r → m.reply ≠ .accepted → m.after = m.before
  stopped : ∀ rules error, m.call = .registerAll rules → m.reply = .refused error →
    ∃ good r rest, rules = good ++ r :: rest ∧ m.before.registerAll good = (m.after, none) ∧
      m.after.entries.map Entry.rule = m.before.entries.map Entry.rule ++ good ∧
      m.after.register r = .error error
  built : m.call = .build → m.after = m.before ∧
    ∃ reg, m.reply = .built reg ∧ reg.Presents m.after.entries

namespace Builder

theorem entry_tagged (h : r.entry? settings = some e) :
    e.rule.id = .text e.id ∧ Severity.ofId? e.rule.id = some e.severity ∧
      e.url = settings.wikiUrl ++ e.id := by
  unfold Rule.entry? at h
  split at h
  · next hid hs =>
    obtain rfl := Option.some.inj h
    exact ⟨hid, hs, rfl⟩
  · cases h

theorem entryOf_filterMap (past : List Rule) (hv : ∀ r ∈ past, (Severity.ofId? r.id).isSome)
    (id : String) :
    entryOf? (past.filterMap (Rule.entry? settings)) id =
      (past.find? fun r => r.id = .text id).bind (Rule.entry? settings) := by
  induction past with
  | nil => rfl
  | cons r past ih =>
    obtain ⟨e, he⟩ := exists_entry settings (hv r List.mem_cons_self)
    have hid := (entry_spec he).2
    have hrest := ih fun q hq => hv q (List.mem_cons_of_mem r hq)
    unfold entryOf? at hrest ⊢
    rw [List.filterMap_cons_some he]
    by_cases hx : e.id = id
    · rw [List.find?_cons_of_pos (by simpa using hx), List.find?_cons_of_pos (by simp [hid, hx])]
      exact he.symm
    · rw [List.find?_cons_of_neg (by simpa using hx), List.find?_cons_of_neg (by simp [hid, hx])]
      exact hrest

theorem Records.lawful {past : List Rule} (h : b.Records settings past) (call : BuilderCall) :
    Moment.Lawful ⟨b, call, (b.answer call).2, (b.answer call).1⟩ settings
      (past ++ b.taken call.offered) := by
  have hafter := h.after call
  refine ⟨hafter.rules_eq, hafter.nodup, ?_, ?_, ?_, ?_, ?_, ?_, ?_, ?_⟩
  · intro id
    dsimp only
    rw [hafter.entries_eq]
    exact entryOf_filterMap _ hafter.distinct.2 id
  · intro e he
    rw [hafter.entries_eq] at he
    obtain ⟨r, -, hr⟩ := List.mem_filterMap.mp he
    exact entry_tagged hr
  · rintro r rfl
    exact answer_duplicate_iff
  · rintro r rfl
    exact answer_invalid_iff
  · rintro r rfl
    exact answer_accepted_iff
  · rintro r rfl hne
    exact answer_unchanged hne
  · rintro rules error rfl hrefused
    obtain ⟨r, rest, hcut, hgood, hr⟩ := registerAll_cut (answer_refused hrefused)
    dsimp only
    rw [hafter.rules_eq, answer_registerAll, h.rules_eq]
    exact ⟨b.taken rules, r, rest, hcut, hgood, rfl, hr⟩
  · rintro rfl
    exact ⟨rfl, b.build, rfl, Registry.ofEntries_presents h.nodup⟩

/-- By induction on the calls, with the journal of the moments before. -/
theorem Records.session {past : List Rule} (h : b.Records settings past)
    {calls : List BuilderCall} {earlier later : List Moment} {m : Moment}
    (hs : b.session calls = earlier ++ m :: later) :
    m.Lawful settings (past ++ journal (earlier ++ [m])) := by
  induction calls generalizing b past earlier with
  | nil => simp [Builder.session] at hs
  | cons call calls ih =>
    unfold Builder.session at hs
    cases earlier with
    | nil =>
      obtain ⟨rfl, -⟩ := List.cons.inj hs
      simpa [journal] using h.lawful call
    | cons first earlier =>
      obtain ⟨rfl, hrest⟩ := List.cons.inj hs
      have hm := ih (h.after call) hrest
      rw [List.append_assoc] at hm
      simpa [journal] using hm

theorem session_append (b : Builder) (calls more : List BuilderCall) :
    b.session calls <+: b.session (calls ++ more) := by
  induction calls generalizing b with
  | nil => exact List.nil_prefix
  | cons call calls ih =>
    rw [List.cons_append, session, session, List.prefix_cons_inj]
    exact ih (b.answer call).1

end Builder

/-- Whatever is called on a builder, in whatever order and however often it fails: after every call
the table holds the rules that were accepted so far, each under an id of its own; a refused rule
leaves it unchanged, and a list of rules is taken up to the first refused one; a registry presents
the table at the moment it was built, and no later call changes what was answered before. -/
theorem builder_sessions_lawful (settings : Settings) (calls : List BuilderCall) :
    (∀ earlier m later, (Builder.empty settings).session calls = earlier ++ m :: later →
      m.Lawful settings (journal (earlier ++ [m]))) ∧
    ∀ more, (Builder.empty settings).session calls <+:
      (Builder.empty settings).session (calls ++ more) := by
  refine ⟨fun earlier m later h => ?_, (Builder.empty settings).session_append calls⟩
  simpa using (Builder.records_empty settings).session h

def silent (id : RuleId) (name : String) : Rule := ⟨id, name, fun _ => .ok []⟩

/-- A list that is cut at a repeated id, and an id that is no text. -/
def cutCalls : List BuilderCall :=
  [.register (silent (.text "W002") "Late"),
    .registerAll [silent (.text "E001") "Early", silent (.text "W002") "Again",
      silent (.text "E003") "Lost"],
    .register (silent (.number 7) "Odd"), .build]

theorem builder_sessions_lawful_cut :
    ∃ earlier m, (Builder.empty {}).session cutCalls = earlier ++ m :: [] ∧ m.call = .build ∧
      (journal (earlier ++ [m])).map Rule.name = ["Late", "Early"] ∧
      m.Lawful {} (journal (earlier ++ [m])) := by
  refine ⟨((Builder.empty {}).session cutCalls).take 3, _, rfl, rfl, by decide +kernel, ?_⟩
  exact (builder_sessions_lawful {} cutCalls).1 _ _ [] rfl

end MarkupLint
