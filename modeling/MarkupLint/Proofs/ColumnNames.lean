import MarkupLint.Grid.ClassList
import MarkupLint.Proofs.Words

/-! # The names of column classes

Column classes are known in two ways: there is a table of their names, and there is a reader that
takes a name apart. The reader looks for a tier and then for a width behind it. It reads just the
names that are put together from the two, since no width begins like a tier, and these are the names
of the table. A line feed behind a name is tolerated by the reader alone, but no word has one.
-/
namespace MarkupLint.Grid

variable {b : Breakpoint} {w : Width} {c : Column} {t : String} {s : Option String}
  {cs rest : List Char}

section Parts

theorem readTier_eq_some_iff :
    readTier cs = some (b, rest) ↔ b ≠ .none ∧ cs = (hyphened b.label).toList ++ rest := by
  constructor
  · intro h
    unfold readTier at h
    split at h
    case h_5 => cases h
    all_goals
      obtain ⟨rfl, rfl⟩ := Prod.mk.inj (Option.some.inj h)
      exact ⟨nofun, rfl⟩
  · rintro ⟨hb, rfl⟩
    cases b with
    | none => exact absurd rfl hb
    | sm => rfl
    | md => rfl
    | lg => rfl
    | xl => rfl

def widthPart (w : Width) : List Char := (hyphened (w.text?.getD "")).toList

theorem readWidth_widthPart : ∀ w ∈ Width.all, readWidth (widthPart w) = some w := by decide

theorem readTier_widthPart : ∀ w ∈ Width.all, readTier (widthPart w) = none := by decide

theorem exists_place {lo hi c : Char} (h : lo ≤ c ∧ c ≤ hi) :
    ∃ k, k ≤ hi.toNat - lo.toNat ∧ c.toNat = lo.toNat + k ∧ c = Char.ofNat (lo.toNat + k) := by
  have hlow : lo.toNat ≤ c.toNat := UInt32.le_iff_toNat_le.mp h.1
  have hhigh : c.toNat ≤ hi.toNat := UInt32.le_iff_toNat_le.mp h.2
  have hplace : c.toNat = lo.toNat + (c.toNat - lo.toNat) := by omega
  refine ⟨c.toNat - lo.toNat, by omega, hplace, ?_⟩
  rw [← hplace, Char.ofNat_toNat]

theorem widthPart_digit {c : Char} (h : '1' ≤ c ∧ c ≤ '9') :
    .span (c.toNat - '0'.toNat) ∈ Width.all ∧
      widthPart (.span (c.toNat - '0'.toNat)) = ['-', c] := by
  have hall : ∀ k ≤ 8, .span ('1'.toNat + k - '0'.toNat) ∈ Width.all ∧
      widthPart (.span ('1'.toNat + k - '0'.toNat)) = ['-', Char.ofNat ('1'.toNat + k)] := by
    decide
  obtain ⟨k, hk, hcode, hchar⟩ := exists_place h
  rw [hcode, hchar]
  exact hall k hk

theorem widthPart_tens {c : Char} (h : '0' ≤ c ∧ c ≤ '2') :
    .span (10 + (c.toNat - '0'.toNat)) ∈ Width.all ∧
      widthPart (.span (10 + (c.toNat - '0'.toNat))) = ['-', '1', c] := by
  have hall : ∀ k ≤ 2, .span (10 + ('0'.toNat + k - '0'.toNat)) ∈ Width.all ∧
      widthPart (.span (10 + ('0'.toNat + k - '0'.toNat))) =
        ['-', '1', Char.ofNat ('0'.toNat + k)] := by
    decide
  obtain ⟨k, hk, hcode, hchar⟩ := exists_place h
  rw [hcode, hchar]
  exact hall k hk

theorem readNamedWidth_eq_some (h : readNamedWidth cs = some w) :
    w ∈ Width.all ∧ '-' :: cs = widthPart w := by
  unfold readNamedWidth at h
  split at h
  · next hauto =>
    obtain rfl := Option.some.inj h
    rw [hauto]
    exact ⟨by decide, rfl⟩
  · split at h
    · split at h
      · next hc =>
        obtain rfl := Option.some.inj h
        exact ⟨(widthPart_digit hc).1, (widthPart_digit hc).2.symm⟩
      · cases h
    · split at h
      · next hc =>
        obtain ⟨rfl, hc⟩ := hc
        obtain rfl := Option.some.inj h
        exact ⟨(widthPart_tens hc).1, (widthPart_tens hc).2.symm⟩
      · cases h
    · cases h

theorem readWidth_eq_some_iff : readWidth cs = some w ↔ w ∈ Width.all ∧ cs = widthPart w := by
  constructor
  · intro h
    cases cs with
    | nil =>
      obtain rfl := Option.some.inj h
      exact ⟨by decide, rfl⟩
    | cons c name =>
      rw [readWidth] at h
      split at h
      · next hhyphen =>
        subst hhyphen
        exact readNamedWidth_eq_some h
      · cases h
  · rintro ⟨hw, rfl⟩
    exact readWidth_widthPart w hw

/-- A width that stands where a tier is looked for is no tier, so the two attempts of the reader
never both get to the end. -/
theorem readParts_eq_some_iff :
    readParts cs = some (b, w) ↔
      w ∈ Width.all ∧ cs = (hyphened b.label).toList ++ widthPart w := by
  constructor
  · intro h
    rcases Option.or_eq_some_iff.mp h with htier | ⟨-, hwidth⟩
    · obtain ⟨⟨a, rest⟩, hread, hrest⟩ := Option.bind_eq_some_iff.mp htier
      obtain ⟨v, hv, heq⟩ := Option.map_eq_some_iff.mp hrest
      obtain ⟨rfl, rfl⟩ := Prod.mk.inj heq
      obtain ⟨hw, rfl⟩ := readWidth_eq_some_iff.mp hv
      exact ⟨hw, (readTier_eq_some_iff.mp hread).2⟩
    · obtain ⟨v, hv, heq⟩ := Option.map_eq_some_iff.mp hwidth
      obtain ⟨rfl, rfl⟩ := Prod.mk.inj heq
      exact readWidth_eq_some_iff.mp hv
  · rintro ⟨hw, rfl⟩
    by_cases hb : b = .none
    · subst hb
      change ((readTier (widthPart w)).bind _).or ((readWidth (widthPart w)).map _) = _
      rw [readTier_widthPart w hw, readWidth_widthPart w hw]
      rfl
    · rw [readParts, readTier_eq_some_iff.mpr ⟨hb, rfl⟩, Option.bind_some,
        readWidth_widthPart w hw]
      rfl

end Parts

section Names

theorem toList_className (b : Breakpoint) (w : Width) :
    (className b w).toList =
      'c' :: 'o' :: 'l' :: ((hyphened b.label).toList ++ widthPart w) := by
  rw [className, String.toList_append, String.toList_append, List.append_assoc]
  rfl

/-- What is read is a name from the table, with a line feed behind it or not. -/
theorem parse_eq_some_iff :
    Column.parse? t = some c ↔ c.token = t ∧ c.width ∈ Width.all ∧
      Text.dropFinalNewline t.toList = (className c.breakpoint c.width).toList := by
  rw [toList_className]
  constructor
  · intro h
    unfold Column.parse? at h
    split at h
    · next parts hname =>
      obtain ⟨⟨b, w⟩, hread, rfl⟩ := Option.map_eq_some_iff.mp h
      obtain ⟨hw, hparts⟩ := readParts_eq_some_iff.mp hread
      exact ⟨rfl, hw, by rw [hname, hparts]⟩
    · cases h
  · rintro ⟨rfl, hw, hname⟩
    rw [Column.parse?, hname]
    change (readParts ((hyphened c.breakpoint.label).toList ++ widthPart c.width)).map _ = _
    rw [readParts_eq_some_iff.mpr ⟨hw, rfl⟩]
    rfl

theorem parse_token (h : Column.parse? t = some c) : c.token = t := (parse_eq_some_iff.mp h).1

theorem dropFinalNewline_word (h : Text.IsWord t) :
    Text.dropFinalNewline t.toList = t.toList := by
  apply Text.dropFinalNewline_of_notMem
  intro hfeed
  have hblank : Text.isBlank '\n' = false := h.2 '\n' hfeed
  exact absurd hblank (by decide)

theorem parse_word_iff (h : Text.IsWord t) :
    Column.parse? t = some c ↔
      c.token = t ∧ c.width ∈ Width.all ∧ t = className c.breakpoint c.width := by
  rw [parse_eq_some_iff, dropFinalNewline_word h, String.toList_inj]

theorem mem_all_breakpoints (b : Breakpoint) : b ∈ Breakpoint.all := by
  cases b <;> decide

theorem isColumnClass_iff_name :
    isColumnClass t = true ↔ ∃ b, ∃ w ∈ Width.all, className b w = t := by
  simp [isColumnClass, classNames, declarations, mem_all_breakpoints]

theorem isColumnClass_iff (h : Text.IsWord t) :
    isColumnClass t = true ↔ ∃ c, Column.parse? t = some c := by
  rw [isColumnClass_iff_name]
  constructor
  · rintro ⟨b, w, hw, rfl⟩
    exact ⟨⟨_, b, w⟩, (parse_word_iff h).mpr ⟨rfl, hw, rfl⟩⟩
  · rintro ⟨c, hc⟩
    obtain ⟨-, hw, hname⟩ := (parse_word_iff h).mp hc
    exact ⟨c.breakpoint, c.width, hw, hname.symm⟩

theorem hyphened_width : ∀ w ∈ Width.all,
    hyphened (w.text?.getD "") = (w.text?.map ("-" ++ ·)).getD "" := by decide

theorem splitClasses_words (h : t ∈ splitClasses s) : Text.IsWord t := by
  cases s with
  | none => simp [splitClasses] at h
  | some text => exact Text.isWord_of_mem_words h

theorem mem_columnsOf : c ∈ columnsOf s ↔ ∃ t ∈ splitClasses s, Column.parse? t = some c := by
  simp [columnsOf]

end Names

/-- Of the words of a class attribute value, the reader and the table know the same as column
classes. A word that is read is spelled by its tier and its width, so that no two words are read
alike, and a value has a word from the table just where a column is read. -/
theorem column_recognisers_agree (s : Option String) :
    (∀ t ∈ splitClasses s,
      (Column.parse? t ≠ none ↔ isColumnClass t = true) ∧
        ∀ c, Column.parse? t = some c → c.token = t ∧
          t = "col" ++ hyphened c.breakpoint.label ++ (c.width.text?.map ("-" ++ ·)).getD "") ∧
      (∀ r, ∀ t ∈ splitClasses s, ∀ u ∈ splitClasses r, ∀ c d, Column.parse? t = some c →
        Column.parse? u = some d → (c.breakpoint, c.width) = (d.breakpoint, d.width) → t = u) ∧
      (hasColumnClass (splitClasses s) = true ↔ columnsOf s ≠ []) := by
  refine ⟨?_, ?_, ?_⟩
  · intro t ht
    have hword := splitClasses_words ht
    refine ⟨?_, ?_⟩
    · rw [isColumnClass_iff hword, Option.ne_none_iff_exists']
    · intro c hc
      obtain ⟨htoken, hw, hname⟩ := (parse_word_iff hword).mp hc
      refine ⟨htoken, ?_⟩
      rw [← hyphened_width c.width hw]
      exact hname
  · intro r t ht u hu c d hc hd heq
    obtain ⟨hb, hw⟩ := Prod.mk.inj heq
    obtain ⟨-, -, ht⟩ := (parse_word_iff (splitClasses_words ht)).mp hc
    obtain ⟨-, -, hu⟩ := (parse_word_iff (splitClasses_words hu)).mp hd
    rw [ht, hu, hb, hw]
  · rw [hasColumnClass, List.any_eq_true]
    constructor
    · rintro ⟨t, ht, hclass⟩
      obtain ⟨c, hc⟩ := (isColumnClass_iff (splitClasses_words ht)).mp hclass
      exact List.ne_nil_of_mem (mem_columnsOf.mpr ⟨t, ht, hc⟩)
    · intro hne
      obtain ⟨c, hc⟩ := List.exists_mem_of_ne_nil _ hne
      obtain ⟨t, ht, hp⟩ := mem_columnsOf.mp hc
      exact ⟨t, ht, (isColumnClass_iff (splitClasses_words ht)).mpr ⟨c, hp⟩⟩

-- outside of words the two differ
example : (Column.parse? "col-6\n").isSome = true ∧ isColumnClass "col-6\n" = false := by decide

/-- A width of two digits, a word that only begins like it, and the same width in another value. -/
theorem column_recognisers_agree_lookalikes :
    splitClasses (some "col-10\tcol-1x col-xl") = ["col-10", "col-1x", "col-xl"] ∧
      Column.parse? "col-10" = some ⟨"col-10", .none, .span 10⟩ ∧
      "col-10" = "col" ++ hyphened Breakpoint.none.label ++ "-10" ∧
      (Column.parse? "col-1x" ≠ none ↔ isColumnClass "col-1x" = true) ∧
      ∃ u ∈ splitClasses (some "row\ncol-10"),
        Column.parse? u = some ⟨u, .none, .span 10⟩ ∧ "col-10" = u := by
  have hwords : splitClasses (some "col-10\tcol-1x col-xl") = ["col-10", "col-1x", "col-xl"] := by
    decide +kernel
  have hother : splitClasses (some "row\ncol-10") = ["row", "col-10"] := by decide +kernel
  have hread : Column.parse? "col-10" = some ⟨"col-10", .none, .span 10⟩ := by decide +kernel
  have hten : "col-10" ∈ splitClasses (some "col-10\tcol-1x col-xl") := by simp [hwords]
  have hlast : "col-10" ∈ splitClasses (some "row\ncol-10") := by simp [hother]
  obtain ⟨hagree, hdistinct, -⟩ := column_recognisers_agree (some "col-10\tcol-1x col-xl")
  refine ⟨hwords, hread, ((hagree _ hten).2 _ hread).2, (hagree _ (by simp [hwords])).1, ?_⟩
  exact ⟨"col-10", hlast, hread, hdistinct _ _ hten _ hlast _ _ hread hread rfl⟩

end MarkupLint.Grid
