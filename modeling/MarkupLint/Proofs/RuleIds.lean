import MarkupLint.Proofs.BuilderSessions
import MarkupLint.Proofs.Words

/-! # Valid rule ids

An id is a letter and three or more decimal digits. What is accepted beyond that is one line feed
behind an id, and nothing else: every other text is refused with the reason that it is no valid id.
Decimal digits are those of all scripts. If the digits from 0 to 9 alone are expected, ids with
other digits are a second kind that is accepted though it should not be.
-/
namespace MarkupLint

open Text (dropFinalNewline isDecimalDigit)

variable {digit : Char → Bool} {id : String} {cs : List Char} {b : Builder} {r : Rule}

/-- A letter and three or more digits of a class. -/
def SpellsId (digit : Char → Bool) (cs : List Char) : Prop :=
  ∃ letter digits, cs = letter :: digits ∧ (letter = 'E' ∨ letter = 'W') ∧ 3 ≤ digits.length ∧
    ∀ c ∈ digits, digit c = true

/-- Both checks of an id accept it just if it is spelled well, and else name it in their reason. -/
structure ValidatedExactly (digit : Char → Bool) (id : String) : Prop where
  accepted : (∃ severity, Severity.ofId (.text id) = .ok severity) ↔ SpellsId digit id.toList
  refused : ¬SpellsId digit id.toList → Severity.ofId (.text id) = .error (.invalid (.text id))
  registered : ∀ (b : Builder) (r : Rule), r.id = .text id → b.holds r.id = false →
    ((∃ b', b.register r = .ok b') ↔ SpellsId digit id.toList)
  unregistered : ∀ (b : Builder) (r : Rule), r.id = .text id → b.holds r.id = false →
    ¬SpellsId digit id.toList → b.register r = .error (.invalid (.text id))

def FeedBehindId (id : String) : Prop :=
  ∃ front, id = front ++ "\n" ∧ SpellsId isDecimalDigit front.toList

def ForeignDigits (id : String) : Prop :=
  SpellsId isDecimalDigit id.toList ∧ ∃ c ∈ id.toList, isDecimalDigit c = true ∧ c.isDigit = false

section Spelling

theorem SpellsId.mono {other : Char → Bool} (h : SpellsId digit cs)
    (hd : ∀ c ∈ cs, digit c = true → other c = true) : SpellsId other cs := by
  obtain ⟨letter, digits, rfl, hletter, hlength, hdigits⟩ := h
  refine ⟨letter, digits, rfl, hletter, hlength, ?_⟩
  intro c hc
  exact hd c (List.mem_cons_of_mem letter hc) (hdigits c hc)

theorem SpellsId.forall_mem {P : Char → Prop} (h : SpellsId digit cs) (hE : P 'E') (hW : P 'W')
    (hd : ∀ c, digit c = true → P c) : ∀ c ∈ cs, P c := by
  obtain ⟨letter, digits, rfl, hletter, -, hdigits⟩ := h
  intro c hc
  rcases List.mem_cons.mp hc with rfl | hc
  · rcases hletter with rfl | rfl
    · exact hE
    · exact hW
  · exact hd c (hdigits c hc)

theorem SpellsId.noFeed (h : SpellsId isDecimalDigit cs) : '\n' ∉ cs := by
  intro hfeed
  refine h.forall_mem (P := fun c => c ≠ '\n') (by decide) (by decide) ?_ '\n' hfeed rfl
  rintro c hc rfl
  exact absurd hc (by decide)

theorem spellsId_isDigit_iff :
    SpellsId Char.isDigit id.toList ↔ SpellsId isDecimalDigit id.toList ∧ ¬ForeignDigits id := by
  constructor
  · intro h
    have hdigits : ∀ c ∈ id.toList, isDecimalDigit c = true → c.isDigit = true :=
      h.forall_mem (by decide) (by decide) fun c hc _ => hc
    refine ⟨h.mono ?_, ?_⟩
    · intro c _ hc
      simp [isDecimalDigit, hc]
    · rintro ⟨-, c, hc, hdecimal, hforeign⟩
      cases (hdigits c hc hdecimal).symm.trans hforeign
  · rintro ⟨h, hnone⟩
    refine h.mono ?_
    intro c hc hdecimal
    by_contra hforeign
    exact hnone ⟨h, c, hc, hdecimal, by simpa using hforeign⟩

theorem ofIdText_isSome_iff :
    (Severity.ofIdText? id).isSome = true ↔
      SpellsId isDecimalDigit (dropFinalNewline id.toList) := by
  unfold Severity.ofIdText?
  split
  · next c digits hcs =>
    rw [hcs]
    constructor
    · intro h
      split at h
      · next hdigits =>
        rw [Bool.and_eq_true, decide_eq_true_eq, List.all_eq_true] at hdigits
        refine ⟨c, digits, rfl, ?_, hdigits⟩
        by_contra hletter
        rw [not_or] at hletter
        simp [hletter.1, hletter.2] at h
      · cases h
    · rintro ⟨letter, ds, heq, hletter, hlength, hall⟩
      obtain ⟨rfl, rfl⟩ := List.cons.inj heq
      have hdigits : (decide (3 ≤ digits.length) && digits.all isDecimalDigit) = true := by
        simpa [hlength] using hall
      rw [if_pos hdigits]
      rcases hletter with rfl | rfl <;> rfl
  · next hcs =>
    rw [hcs]
    constructor
    · intro h
      cases h
    · rintro ⟨letter, digits, hnil, -⟩
      cases hnil

theorem ofIdText_isSome_cases :
    (Severity.ofIdText? id).isSome = true ↔
      SpellsId isDecimalDigit id.toList ∨ FeedBehindId id := by
  rw [ofIdText_isSome_iff]
  constructor
  · intro h
    rcases Text.dropFinalNewline_cases id.toList with hwhole | hfeed
    · exact Or.inl (hwhole ▸ h)
    · refine Or.inr ⟨String.ofList (dropFinalNewline id.toList), ?_, ?_⟩
      · rw [← String.toList_inj, String.toList_append, String.toList_ofList]
        exact hfeed
      · rwa [String.toList_ofList]
  · rintro (h | ⟨front, rfl, h⟩)
    · rwa [Text.dropFinalNewline_of_notMem h.noFeed]
    · rw [String.toList_append]
      change SpellsId _ (dropFinalNewline (front.toList ++ ['\n']))
      rwa [Text.dropFinalNewline_concat]

theorem FeedBehindId.not_spells (h : FeedBehindId id) : ¬SpellsId isDecimalDigit id.toList := by
  obtain ⟨front, rfl, -⟩ := h
  intro hspells
  apply hspells.noFeed
  simp

end Spelling

section Checks

def Checks {α : Type} (result : Except SetupError α) (p : Prop) (reason : SetupError) : Prop :=
  (p ∧ ∃ a, result = .ok a) ∨ (¬p ∧ result = .error reason)

variable {α : Type} {result : Except SetupError α} {p : Prop} {reason : SetupError}

theorem Checks.accepts_iff (h : Checks result p reason) : (∃ a, result = .ok a) ↔ p := by
  rcases h with ⟨hp, hok⟩ | ⟨hp, herror⟩
  · exact iff_of_true hok hp
  · refine iff_of_false ?_ hp
    rintro ⟨a, hok⟩
    cases herror.symm.trans hok

theorem Checks.refuses (h : Checks result p reason) (hp : ¬p) : result = .error reason := by
  rcases h with ⟨hyes, -⟩ | ⟨-, herror⟩
  · exact absurd hyes hp
  · exact herror

theorem ofId_checks (id : String) :
    Checks (Severity.ofId (.text id)) ((Severity.ofIdText? id).isSome = true)
      (.invalid (.text id)) := by
  have hsame : Severity.ofId? (.text id) = Severity.ofIdText? id := rfl
  rw [Severity.ofId, hsame]
  cases Severity.ofIdText? id with
  | none => exact Or.inr ⟨nofun, rfl⟩
  | some severity => exact Or.inl ⟨rfl, severity, rfl⟩

theorem register_checks (hid : r.id = .text id) (hnew : b.holds r.id = false) :
    Checks (b.register r) ((Severity.ofIdText? id).isSome = true) (.invalid (.text id)) := by
  have hsame : Severity.ofId? r.id = Severity.ofIdText? id := by
    rw [hid]
    rfl
  rcases b.register_cases r with ⟨hheld, -⟩ | ⟨-, hnone, hrefused⟩ | ⟨e, -, hsome, -, hok⟩
  · cases hheld.symm.trans hnew
  · rw [hsame] at hnone
    rw [hid] at hrefused
    exact Or.inr ⟨by simp [hnone], hrefused⟩
  · rw [hsame] at hsome
    exact Or.inl ⟨hsome, _, hok⟩

/-- Both checks look at the same texts, so one equivalence settles both. -/
theorem validatedExactly_iff :
    ValidatedExactly digit id ↔
      ((Severity.ofIdText? id).isSome = true ↔ SpellsId digit id.toList) := by
  constructor
  · intro h
    rw [← h.accepted, (ofId_checks id).accepts_iff]
  · intro h
    refine ⟨(ofId_checks id).accepts_iff.trans h, ?_, ?_, ?_⟩
    · intro hbad
      exact (ofId_checks id).refuses (mt h.mp hbad)
    · intro b r hid hnew
      exact (register_checks hid hnew).accepts_iff.trans h
    · intro b r hid hnew hbad
      exact (register_checks hid hnew).refuses (mt h.mp hbad)

end Checks

/-- A text is accepted just if it is an id, or an id with a line feed behind it. So ids are
validated exactly but for the line feed, and with digits from 0 to 9 in mind but for digits of other
scripts too. -/
theorem ids_validated_exactly_iff (id : String) :
    ((∃ severity, Severity.ofId (.text id) = .ok severity) ↔
        SpellsId isDecimalDigit id.toList ∨ FeedBehindId id) ∧
      (ValidatedExactly isDecimalDigit id ↔ ¬FeedBehindId id) ∧
      (ValidatedExactly Char.isDigit id ↔ ¬FeedBehindId id ∧ ¬ForeignDigits id) := by
  rw [(ofId_checks id).accepts_iff, validatedExactly_iff, validatedExactly_iff,
    ofIdText_isSome_cases, spellsId_isDigit_iff]
  refine ⟨Iff.rfl, ?_, ?_⟩
  · constructor
    · intro h hfeed
      exact hfeed.not_spells (h.mp (Or.inr hfeed))
    · intro hfeed
      exact ⟨fun h => h.resolve_right hfeed, Or.inl⟩
  · constructor
    · intro h
      exact ⟨fun hfeed => hfeed.not_spells (h.mp (Or.inr hfeed)).1,
        fun hforeign => (h.mp (Or.inl hforeign.1)).2 hforeign⟩
    · rintro ⟨hfeed, hforeign⟩
      exact ⟨fun h => ⟨h.resolve_right hfeed, hforeign⟩, fun h => Or.inl h.1⟩

-- Arabic digits are decimal digits too
example : Severity.ofIdText? "W٠٠١" = some .warning := by decide

/-- An id with a line feed behind it is accepted beside the id itself. -/
theorem id_and_line_feed_accepted :
    Severity.ofId (.text "E001\n") = .ok .error ∧
      ((Builder.empty {}).registerAll
        [silent (.text "E001") "Id", silent (.text "E001\n") "Feed"]).2 = none ∧
      ¬SpellsId isDecimalDigit "E001\n".toList ∧ ¬ValidatedExactly isDecimalDigit "E001\n" := by
  have hread : Severity.ofId (.text "E001\n") = .ok .error := rfl
  have hbad : ¬SpellsId isDecimalDigit "E001\n".toList := fun h => h.noFeed (by decide)
  refine ⟨hread, rfl, hbad, ?_⟩
  intro h
  cases (h.refused hbad).symm.trans hread

end MarkupLint
