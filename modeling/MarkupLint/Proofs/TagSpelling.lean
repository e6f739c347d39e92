import MarkupLint.Document.RawAttribute

/-! # How start tags are spelled

A start tag as a piece of syntax: a name and attributes, each with the way in which its value is
spelled and with the gap after it. Whatever the mix of spellings, the reader of attributes as they
are written finds the names and the values of the attributes in their order: a bracket or a name
inside a quoted value neither ends the tag nor counts as an attribute.
-/
namespace MarkupLint

namespace Markup

def isGapChar (c : Char) : Bool := Text.isBlank c || c == '/'

inductive ValueText where
  | quoted (quote : Char) (value : List Char) (paired : isQuote quote = true ∧ quote ∉ value)
  | bare (value : List Char)
      (plain : value ≠ [] ∧ ∀ c ∈ value, Document.isRawValueChar c = true)

/-- How an attribute goes on after its name: not at all, or with an equals sign among blanks and a
value. -/
inductive Spelling where
  | alone
  | equals (before after : List Char) (text : ValueText)
      (blank : ∀ c ∈ before ++ after, Text.isBlank c = true)

structure SpelledAttribute where
  name : List Char
  spelling : Spelling
  gap : List Char
  name_ne_nil : name ≠ []
  name_chars : ∀ c ∈ name, Document.isRawNameChar c = true
  gap_chars : ∀ c ∈ gap, isGapChar c = true

namespace ValueText

def chars : ValueText → List Char
  | quoted q value _ => q :: (value ++ [q])
  | bare value _ => value

def value : ValueText → List Char
  | quoted _ value _ => value
  | bare value _ => value

/-- Whether a character may follow: a bare value goes on up to a blank. -/
def mayPrecede : ValueText → Char → Bool
  | quoted .. => fun _ => true
  | bare .. => Text.isBlank

end ValueText

namespace Spelling

def chars : Spelling → List Char
  | alone => []
  | equals before after text _ => before ++ '=' :: (after ++ text.chars)

def value : Spelling → List Char
  | alone => []
  | equals _ _ text _ => text.value

/-- Whether a character may follow: a name that stands alone goes on up to a gap. -/
def mayPrecede : Spelling → Char → Bool
  | alone => isGapChar
  | equals _ _ text _ => text.mayPrecede

end Spelling

def spelledValues (as : List SpelledAttribute) : List (List Char × List Char) :=
  as.map fun a => (a.name, a.spelling.value)

def attributeChars (closed : Bool) : List SpelledAttribute → List Char
  | [] => if closed then ['/'] else []
  | a :: as => a.name ++ (a.spelling.chars ++ (a.gap ++ attributeChars closed as))

/-- A gap parts what stands before it from a text: what stands before it may precede its first
character, and no slash in it closes the tag. -/
structure Parts (mayPrecede : Char → Bool) (gap rest : List Char) : Prop where
  first : (gap ++ rest).head?.all mayPrecede = true
  last : gap.getLast? = some '/' → rest ≠ []

def AllParted (closed : Bool) : List SpelledAttribute → Prop
  | [] => True
  | a :: as => Parts a.spelling.mayPrecede a.gap (attributeChars closed as) ∧ AllParted closed as

/-- A start tag whose name and attributes are parted from each other. -/
structure SpelledTag where
  name : List Char
  gap : List Char
  attributes : List SpelledAttribute
  closed : Bool
  name_ne_nil : name ≠ []
  name_chars : ∀ c ∈ name, Document.isTagWordChar c = true
  gap_chars : ∀ c ∈ gap, isGapChar c = true
  parted : Parts isGapChar gap (attributeChars closed attributes)
  allParted : AllParted closed attributes

def SpelledTag.part (t : SpelledTag) : List Char := t.gap ++ attributeChars t.closed t.attributes

def SpelledTag.chars (t : SpelledTag) : List Char := '<' :: (t.name ++ (t.part ++ ['>']))

section Characters

variable {p q : Char → Bool} {c : Char} {cs rest : List Char}

theorem drop_length_takeWhile (p : Char → Bool) (cs : List Char) :
    cs.drop (cs.takeWhile p).length = cs.dropWhile p := by
  induction cs with
  | nil => rfl
  | cons c cs ih =>
    rw [List.takeWhile_cons, List.dropWhile_cons]
    split
    · exact ih
    · rfl

theorem takeWhile_append_stop (h : ∀ c ∈ cs, p c = true)
    (hstop : rest.head?.all (fun c => !p c) = true) : (cs ++ rest).takeWhile p = cs := by
  rw [List.takeWhile_append_of_pos h]
  cases rest with
  | nil => exact List.append_nil cs
  | cons c rest =>
    have hc : p c = false := by simpa using hstop
    rw [List.takeWhile_cons, hc]
    exact List.append_nil cs

theorem head_all_imp (h : cs.head?.all p = true) (hpq : ∀ c, p c = true → q c = true) :
    cs.head?.all q = true := by
  cases cs with
  | nil => rfl
  | cons c cs => exact hpq c h

theorem head_all_append (h : cs.head?.all p = true) (hpq : ∀ c, p c = true → q c = true)
    (hrest : rest.head?.all q = true) : (cs ++ rest).head?.all q = true := by
  cases cs with
  | nil => exact hrest
  | cons c cs => exact hpq c h

theorem isGapChar_iff : isGapChar c = true ↔ Text.isBlank c = true ∨ c = '/' := by
  simp [isGapChar]

theorem isNameChar_eq (c : Char) :
    isNameChar c = !(isGapChar c || c == '=' || c == '>') := by
  unfold isNameChar isNameStart isGapChar bne
  cases Text.isBlank c <;> cases c == '/' <;> cases c == '=' <;> cases c == '>' <;> rfl

theorem isRawNameChar_eq (c : Char) :
    Document.isRawNameChar c = (isNameChar c && !isQuote c) := by
  unfold Document.isRawNameChar isNameChar isNameStart bne
  cases Text.isBlank c <;> cases c == '/' <;> cases c == '=' <;> cases c == '>' <;>
    cases isQuote c <;> rfl

theorem isQuote_iff : isQuote c = true ↔ c = '"' ∨ c = '\'' := by
  simp [isQuote]

theorem not_gap_of_name (h : Document.isRawNameChar c = true) : isGapChar c = false := by
  simp only [Document.isRawNameChar, Bool.not_eq_true', Bool.or_eq_false_iff] at h
  simp [isGapChar, h]

theorem not_gap_of_quote (h : isQuote c = true) : isGapChar c = false := by
  rcases isQuote_iff.mp h with rfl | rfl <;> rfl

theorem not_quote_of_gap (h : isGapChar c = true) : isQuote c = false := by
  cases hq : isQuote c with
  | false => rfl
  | true => rw [not_gap_of_quote hq] at h; cases h

end Characters

section Spellings

variable {closed : Bool} {as : List SpelledAttribute} {c : Char} {cs rest gap : List Char}

theorem head_attributeChars (hcs : attributeChars closed as = c :: cs) :
    Document.isRawNameChar c = true ∨ as = [] ∧ c = '/' := by
  cases as with
  | nil =>
    cases closed <;> cases hcs
    exact Or.inr ⟨rfl, rfl⟩
  | cons a as =>
    left
    obtain ⟨d, name, hname⟩ := List.exists_cons_of_ne_nil a.name_ne_nil
    rw [attributeChars, hname] at hcs
    obtain ⟨rfl, -⟩ := List.cons.inj hcs
    exact a.name_chars d (hname ▸ List.mem_cons_self)

def NoSign (cs : List Char) : Prop := (cs.dropWhile Text.isBlank).head? ≠ some '='

theorem noSign_cons (hc : Text.isBlank c = false) (hne : c ≠ '=') : NoSign (c :: cs) := by
  rw [NoSign, List.dropWhile_cons, hc]
  exact fun h => hne (Option.some.inj h)

theorem noSign_gap (hgap : ∀ c ∈ gap, isGapChar c = true) (h : NoSign cs) :
    NoSign (gap ++ cs) := by
  induction gap with
  | nil => exact h
  | cons c gap ih =>
    have hrest := ih fun d hd => hgap d (List.mem_cons_of_mem c hd)
    rcases isGapChar_iff.mp (hgap c List.mem_cons_self) with hb | rfl
    · rw [NoSign, List.cons_append, List.dropWhile_cons, hb]
      exact hrest
    · exact noSign_cons (by decide) (by decide)

theorem noSign_attributeChars (h : NoSign rest) : NoSign (attributeChars closed as ++ rest) := by
  cases hcs : attributeChars closed as with
  | nil => exact h
  | cons c cs =>
    rcases head_attributeChars hcs with hname | ⟨-, rfl⟩
    · simp only [Document.isRawNameChar, Bool.not_eq_true', Bool.or_eq_false_iff,
        beq_eq_false_iff_ne] at hname
      exact noSign_cons hname.2 hname.1.1.1.1
    · exact noSign_cons (by decide) (by decide)

theorem ValueText.head_chars (text : ValueText) (rest : List Char) :
    (text.chars ++ rest).head?.all (fun c => !Text.isBlank c) = true := by
  cases text with
  | quoted q value paired =>
    have hq := not_gap_of_quote paired.1
    simp only [isGapChar, Bool.or_eq_false_iff] at hq
    simp [chars, hq]
  | bare value plain =>
    obtain ⟨c, cs, rfl⟩ := List.exists_cons_of_ne_nil plain.1
    have hc := plain.2 c List.mem_cons_self
    simp only [Document.isRawValueChar, Bool.not_eq_true', Bool.or_eq_false_iff] at hc
    simp [chars, hc]

theorem head_spelling (spelling : Spelling)
    (hrest : rest.head?.all (fun c => spelling.mayPrecede c || c == '>') = true) :
    (spelling.chars ++ rest).head?.all (fun c => !isNameChar c) = true := by
  cases spelling with
  | alone =>
    refine head_all_imp hrest fun c (hc : (isGapChar c || c == '>') = true) => ?_
    rw [isNameChar_eq, Bool.not_not, Bool.or_right_comm, hc, Bool.true_or]
  | equals before after text blank =>
    cases before with
    | nil => rfl
    | cons c before =>
      have hc : Text.isBlank c = true := blank c (by simp)
      simp [Spelling.chars, isNameChar_eq, isGapChar, hc]

theorem spelling_length {before after : List Char} {text : ValueText}
    {blank : ∀ c ∈ before ++ after, Text.isBlank c = true} :
    (Spelling.equals before after text blank).chars.length =
      before.length + 1 + after.length + text.chars.length := by
  simp only [Spelling.chars, List.length_append, List.length_cons]
  omega

theorem drop_sign (before after cs : List Char) :
    (before ++ '=' :: (after ++ cs)).drop (before.length + 1 + after.length) = cs := by
  rw [Nat.add_assoc, ← List.drop_drop, List.drop_left, Nat.add_comm, List.drop_succ_cons,
    List.drop_left]

theorem quotedValue_quoted {q : Char} {value : List Char} (hq : isQuote q = true)
    (hv : q ∉ value) (rest : List Char) :
    quotedValue? (q :: (value ++ [q]) ++ rest) = some value := by
  have hinner : (value ++ ([q] ++ rest)).takeWhile (· != q) = value := by
    apply takeWhile_append_stop
    · intro c hc
      have hne : c ≠ q := fun h => hv (h ▸ hc)
      simpa using hne
    · simp
  rw [List.cons_append, List.append_assoc, quotedValue?, hinner, hq]
  exact if_pos (by simp)

theorem quotedValue_bare (hc : isQuote c = false) : quotedValue? (c :: cs) = none := by
  simp [quotedValue?, hc]

end Spellings

end Markup

namespace Document

open Markup

section Values

variable {rest cs : List Char}

theorem rawValue_noSign (h : NoSign cs) : rawValue? cs = none := by
  unfold rawValue?
  dsimp only
  rw [drop_length_takeWhile]
  split
  · next hcs => exact absurd (congrArg List.head? hcs) h
  · rfl

theorem rawValue_spelling (spelling : Spelling)
    (hrest : rest.head?.all spelling.mayPrecede = true) (hsign : NoSign rest) :
    (rawValue? (spelling.chars ++ rest)).getD ([], 0) =
      (spelling.value, spelling.chars.length) := by
  cases spelling with
  | alone =>
    rw [Spelling.chars, List.nil_append, rawValue_noSign hsign]
    rfl
  | equals before after text blank =>
    have hblanks : (before ++ '=' :: (after ++ (text.chars ++ rest))).takeWhile Text.isBlank =
        before := takeWhile_append_stop (fun c hc => blank c (List.mem_append_left _ hc)) rfl
    have hgap : (after ++ (text.chars ++ rest)).takeWhile Text.isBlank = after :=
      takeWhile_append_stop (fun c hc => blank c (List.mem_append_right _ hc))
        (text.head_chars rest)
    rw [spelling_length, Spelling.chars, List.append_assoc, List.cons_append, List.append_assoc]
    unfold rawValue?
    simp only [hblanks, List.drop_left, hgap, drop_sign]
    cases text with
    | quoted q value paired =>
      rw [ValueText.chars, quotedValue_quoted paired.1 paired.2]
      simp [Spelling.value, ValueText.value, Nat.add_assoc]
    | bare value plain =>
      have hbare : (value ++ rest).takeWhile isRawValueChar = value := by
        apply takeWhile_append_stop plain.2
        exact head_all_imp hrest fun c (hc : Text.isBlank c = true) => by simp [isRawValueChar, hc]
      obtain ⟨c, cs, rfl⟩ := List.exists_cons_of_ne_nil plain.1
      have hc := plain.2 c List.mem_cons_self
      simp only [isRawValueChar, Bool.not_eq_true', Bool.or_eq_false_iff] at hc
      rw [ValueText.chars, hbare, List.cons_append, quotedValue_bare hc.1.2]
      rfl

end Values

section Attributes

variable {closed : Bool} {as : List SpelledAttribute} {rest gap cs : List Char}

theorem rawAttributes_skip (k : Nat) (cs : List Char) :
    rawAttributes k cs = rawAttributes 0 (cs.drop k) := by
  induction cs generalizing k with
  | nil => rw [List.drop_nil, rawAttributes, rawAttributes]
  | cons c cs ih =>
    cases k with
    | zero => rfl
    | succ k => exact ih k

theorem rawAttributes_gap (hgap : ∀ c ∈ gap, isGapChar c = true) (cs : List Char) :
    rawAttributes 0 (gap ++ cs) = rawAttributes 0 cs := by
  induction gap with
  | nil => rfl
  | cons c gap ih =>
    have hc : isRawNameChar c = false := by
      cases hname : isRawNameChar c with
      | false => rfl
      | true => rw [← hgap c List.mem_cons_self, not_gap_of_name hname]
    rw [List.cons_append, rawAttributes, hc]
    exact ih fun d hd => hgap d (List.mem_cons_of_mem c hd)

theorem rawAttributes_name {c : Char} (hc : isRawNameChar c = true) (cs : List Char) :
    rawAttributes 0 (c :: cs) =
      let name := c :: cs.takeWhile isRawNameChar
      let value := (rawValue? ((c :: cs).drop name.length)).getD ([], 0)
      (name, value.1) :: rawAttributes 0 ((c :: cs).drop (name.length + value.2)) := by
  have hskip : ∀ k, rawAttributes k cs = rawAttributes 0 ((c :: cs).drop (k + 1)) :=
    fun k => rawAttributes_skip k cs
  rw [rawAttributes, if_pos hc]
  dsimp only
  split
  · next value n hv =>
    have hpos : 1 ≤ (c :: cs.takeWhile isRawNameChar).length + n := by
      rw [List.length_cons]
      omega
    rw [hv, hskip, Nat.sub_add_cancel hpos]
    rfl
  · next hv =>
    rw [hv, hskip]
    rfl

theorem rawAttributes_attribute {name : List Char} (spelling : Spelling) (hne : name ≠ [])
    (hname : ∀ c ∈ name, isRawNameChar c = true)
    (hrest : rest.head?.all spelling.mayPrecede = true) (hsign : NoSign rest) :
    rawAttributes 0 (name ++ (spelling.chars ++ rest)) =
      (name, spelling.value) :: rawAttributes 0 rest := by
  obtain ⟨c, cs, rfl⟩ := List.exists_cons_of_ne_nil hne
  have htake : (cs ++ (spelling.chars ++ rest)).takeWhile isRawNameChar = cs := by
    have hstop := head_spelling spelling (head_all_imp hrest fun d hd => by rw [hd, Bool.true_or])
    apply takeWhile_append_stop fun d hd => hname d (List.mem_cons_of_mem c hd)
    refine head_all_imp hstop fun d hd => ?_
    rw [Bool.not_eq_true'] at hd
    rw [isRawNameChar_eq, hd]
    rfl
  rw [List.cons_append, rawAttributes_name (hname c List.mem_cons_self)]
  simp only [htake]
  rw [← List.cons_append, List.drop_left, rawValue_spelling spelling hrest hsign,
    ← List.append_assoc, ← List.length_append, List.drop_left]

theorem rawAttributes_attributeChars (h : AllParted closed as) :
    rawAttributes 0 (attributeChars closed as) = spelledValues as := by
  induction as with
  | nil => cases closed <;> rfl
  | cons a as ih =>
    obtain ⟨hparts, hrest⟩ := h
    have hsign : NoSign (a.gap ++ attributeChars closed as) := by
      apply noSign_gap a.gap_chars
      rw [← List.append_nil (attributeChars closed as)]
      exact noSign_attributeChars nofun
    rw [attributeChars,
      rawAttributes_attribute a.spelling a.name_ne_nil a.name_chars hparts.first hsign,
      rawAttributes_gap a.gap_chars, ih hrest]
    rfl

end Attributes

section Parts

variable {p r rest : List Char}

/-- A piece of an attribute part whose quotes come in pairs: no bracket in it closes the tag. -/
def Balanced (p : List Char) : Prop :=
  ∀ rest, attributePart? none (p ++ rest) = (attributePart? none rest).map (· + p.length)

theorem Balanced.append (hp : Balanced p) (hr : Balanced r) : Balanced (p ++ r) := by
  intro rest
  rw [List.append_assoc, hp, hr, Option.map_map, List.length_append]
  congr 1
  funext n
  exact (Nat.add_right_comm n _ _).trans (Nat.add_assoc n _ _)

theorem balanced_plain (h : ∀ c ∈ p, isQuote c = false ∧ c ≠ '>') : Balanced p := by
  intro rest
  induction p with
  | nil => exact Option.map_id'.symm
  | cons c p ih =>
    obtain ⟨hquote, hne⟩ := h c List.mem_cons_self
    rw [List.cons_append, attributePart?, if_neg hne, hquote]
    rw [if_neg Bool.false_ne_true, ih fun d hd => h d (List.mem_cons_of_mem c hd), Option.map_map]
    rfl

theorem balanced_quoted {q : Char} {value : List Char} (hq : isQuote q = true) (hv : q ∉ value) :
    Balanced (q :: (value ++ [q])) := by
  -- inside the quotes nothing but the partner of the first one counts
  have hinner : ∀ rest, attributePart? (some q) (value ++ q :: rest) =
      (attributePart? none rest).map (· + (value.length + 1)) := by
    intro rest
    induction value with
    | nil => simp [attributePart?]
    | cons c value ih =>
      have hc : c ≠ q := fun h => hv (h ▸ List.mem_cons_self)
      rw [List.cons_append, attributePart?, if_neg hc,
        ih fun h => hv (List.mem_cons_of_mem c h), Option.map_map]
      rfl
  intro rest
  have hne : q ≠ '>' := by
    rintro rfl
    cases hq
  rw [List.cons_append, List.append_assoc, attributePart?, if_neg hne, if_pos hq]
  rw [List.singleton_append, hinner, Option.map_map]
  congr 1
  funext n
  simp [Nat.add_assoc]

theorem balanced_gap (h : ∀ c ∈ p, isGapChar c = true) : Balanced p := by
  apply balanced_plain
  intro c hc
  refine ⟨not_quote_of_gap (h c hc), ?_⟩
  rintro rfl
  exact absurd (h '>' hc) (by decide)

theorem balanced_value (text : ValueText) : Balanced text.chars := by
  cases text with
  | quoted q value paired => exact balanced_quoted paired.1 paired.2
  | bare value plain =>
    apply balanced_plain
    intro c hc
    have hvalue := plain.2 c hc
    simp only [isRawValueChar, Bool.not_eq_true', Bool.or_eq_false_iff,
      beq_eq_false_iff_ne] at hvalue
    exact ⟨hvalue.1.2, hvalue.1.1⟩

theorem balanced_spelling (spelling : Spelling) : Balanced spelling.chars := by
  cases spelling with
  | alone => exact balanced_plain nofun
  | equals before after text blank =>
    have hblank : ∀ c ∈ before ++ after, isGapChar c = true :=
      fun c hc => isGapChar_iff.mpr (Or.inl (blank c hc))
    have hbefore : Balanced before := balanced_gap fun c hc => hblank c (List.mem_append_left _ hc)
    have hafter : Balanced after := balanced_gap fun c hc => hblank c (List.mem_append_right _ hc)
    have hsign : Balanced ['='] := balanced_plain (by simp [isQuote])
    exact hbefore.append (hsign.append (hafter.append (balanced_value text)))

theorem balanced_attributeChars (closed : Bool) (as : List SpelledAttribute) :
    Balanced (attributeChars closed as) := by
  induction as with
  | nil => cases closed <;> exact balanced_plain (by simp [attributeChars, isQuote])
  | cons a as ih =>
    have hname : Balanced a.name := by
      apply balanced_plain
      intro c hc
      have hraw := a.name_chars c hc
      simp only [isRawNameChar, Bool.not_eq_true', Bool.or_eq_false_iff,
        beq_eq_false_iff_ne] at hraw
      exact ⟨hraw.1.2, hraw.1.1.2⟩
    have hgap : Balanced a.gap := balanced_gap a.gap_chars
    exact hname.append ((balanced_spelling a.spelling).append (hgap.append ih))

end Parts

section Tags

/-- The attribute part of a start tag reaches up to the bracket that closes it. -/
theorem startTagAttributes_chars (t : SpelledTag) (rest : List Char) :
    startTagAttributes? (t.chars ++ rest) = some t.part := by
  have hpart : attributePart? none (t.part ++ '>' :: rest) = some t.part.length := by
    have hbalanced := (balanced_gap t.gap_chars).append
      (balanced_attributeChars t.closed t.attributes)
    rw [SpelledTag.part, hbalanced, attributePart?, if_pos rfl, Option.map_some, Nat.zero_add]
  have hname : (t.name ++ (t.part ++ '>' :: rest)).takeWhile isTagWordChar = t.name := by
    apply takeWhile_append_stop t.name_chars
    refine head_all_append t.parted.first (fun c hc => ?_) rfl
    rcases isGapChar_iff.mp hc with hb | rfl
    · simp [isTagWordChar, hb]
    · rfl
  -- the longest name is tried first, and there is an attribute part after it
  obtain ⟨n, hn⟩ : ∃ n, t.name.length = n + 1 :=
    Nat.exists_eq_succ_of_ne_zero (mt List.length_eq_zero_iff.mp t.name_ne_nil)
  have hdrop : (t.name ++ (t.part ++ '>' :: rest)).drop (n + 1) = t.part ++ '>' :: rest := by
    rw [← hn, List.drop_left]
  rw [SpelledTag.chars, List.cons_append, List.append_assoc, List.append_assoc,
    List.singleton_append, startTagAttributes?, hname, hn, attributesAfter?, hdrop, hpart]
  exact congrArg some List.take_left

/-- The attributes of a start tag are read as they are spelled, in order. -/
theorem rawAttributes_part (t : SpelledTag) :
    rawAttributes 0 t.part = spelledValues t.attributes := by
  rw [SpelledTag.part, rawAttributes_gap t.gap_chars, rawAttributes_attributeChars t.allParted]

end Tags

end Document

end MarkupLint
