import MarkupLint.Rules.Grid

/-! # Values as they are written

What is read from the text of a start tag is a piece of that text. So a reader of character
references fails on it only if the text itself holds a decimal reference with more digits than a
number may have.
-/
namespace MarkupLint

namespace Text

variable {cs ds : List Char}

/-- No decimal reference of a text has more digits than a number may have. -/
def LimitedReferences (cs : List Char) : Prop :=
  ∀ rest, '&' :: '#' :: rest <:+ cs → (rest.takeWhile Char.isDigit).length ≤ digitLimit

theorem LimitedReferences.of_isInfix (h : LimitedReferences cs) (hi : ds <:+: cs) :
    LimitedReferences ds := by
  obtain ⟨before, after, rfl⟩ := hi
  intro rest hrest
  obtain ⟨front, rfl⟩ := hrest
  have hlong := h (rest ++ after) ⟨before ++ front, by simp⟩
  rw [List.takeWhile_append] at hlong
  split at hlong
  · next hall => exact Nat.le_trans (by simp [hall]) hlong
  · exact hlong

theorem limitedReferences_of_length (h : cs.length ≤ digitLimit) : LimitedReferences cs := by
  intro rest hrest
  have hdigits : (rest.takeWhile Char.isDigit).length ≤ rest.length :=
    (List.takeWhile_prefix _).length_le
  have hlength := hrest.length_le
  simp only [List.length_cons] at hlength
  omega

theorem referenceInValue_ok (h : LimitedReferences ('&' :: cs)) :
    ∃ r, referenceInValue? cs = .ok r := by
  unfold referenceInValue?
  split
  · next rest =>
    have hdigits := h rest (List.suffix_refl _)
    dsimp only
    split
    · rw [numberOf, if_neg (Nat.not_lt.mpr hdigits)]
      exact ⟨_, rfl⟩
    · split
      · split
        · exact ⟨_, rfl⟩
        · exact ⟨_, rfl⟩
      · exact ⟨_, rfl⟩
  · dsimp only
    split
    · exact ⟨_, rfl⟩
    · exact ⟨_, rfl⟩

theorem unescapeList_ok (h : LimitedReferences cs) (skip : Nat) :
    ∃ out, unescapeList skip cs = .ok out := by
  induction cs generalizing skip with
  | nil => exact ⟨[], rfl⟩
  | cons c cs ih =>
    have hrest : ∀ k, ∃ out, unescapeList k cs = .ok out :=
      ih (h.of_isInfix (List.suffix_cons c cs).isInfix)
    cases skip with
    | succ k => exact hrest k
    | zero =>
      obtain ⟨out, hout⟩ := hrest 0
      by_cases hc : c = '&'
      · subst hc
        obtain ⟨r, hr⟩ := referenceInValue_ok h
        cases r with
        | none => exact ⟨'&' :: out, by simp [unescapeList, hr, hout, Except.map]⟩
        | some r =>
          obtain ⟨read, hread⟩ := hrest r.2
          exact ⟨r.1 ++ read, by simp [unescapeList, hr, hread, Except.map]⟩
      · exact ⟨c :: out, by simp [unescapeList, hc, hout, Except.map]⟩

theorem unescape_ok (h : LimitedReferences cs) : ∃ s, unescape (String.ofList cs) = .ok s := by
  obtain ⟨out, hout⟩ := unescapeList_ok h 0
  exact ⟨String.ofList out, by simp [unescape, hout, Except.map]⟩

end Text

namespace Document

variable {cs part inner : List Char} {attr : String} {d : Document}

theorem quotedValue_isInfix (h : Markup.quotedValue? cs = some inner) : inner <:+: cs := by
  unfold Markup.quotedValue? at h
  split at h
  · cases h
  · next q rest =>
    dsimp only at h
    split at h
    · obtain rfl := Option.some.inj h
      exact (List.takeWhile_prefix _).isInfix.trans (List.suffix_cons q rest).isInfix
    · cases h

theorem rawValue_isInfix {r : List Char × Nat} (h : rawValue? cs = some r) : r.1 <:+: cs := by
  unfold rawValue? at h
  dsimp only at h
  split at h
  · split at h
    · next hq =>
      obtain rfl := Option.some.inj h
      exact (quotedValue_isInfix hq).trans (List.drop_suffix _ _).isInfix
    · split at h
      · cases h
      · obtain rfl := Option.some.inj h
        exact (List.takeWhile_prefix _).isInfix.trans (List.drop_suffix _ _).isInfix
  · cases h

theorem rawAttributes_isInfix (skip : Nat) (cs : List Char) :
    ∀ a ∈ rawAttributes skip cs, a.2 <:+: cs := by
  induction cs generalizing skip with
  | nil => simp [rawAttributes]
  | cons c cs ih =>
    have hrest : ∀ k, ∀ a ∈ rawAttributes k cs, a.2 <:+: c :: cs :=
      fun k a ha => (ih k a ha).trans (List.suffix_cons c cs).isInfix
    cases skip with
    | succ k => exact hrest k
    | zero =>
      unfold rawAttributes
      dsimp only
      split
      · split
        · next value n hv =>
          refine List.forall_mem_cons.mpr ⟨?_, hrest _⟩
          exact (rawValue_isInfix hv).trans (List.drop_suffix _ _).isInfix
        · exact List.forall_mem_cons.mpr ⟨List.nil_infix, hrest _⟩
      · exact hrest 0

theorem attributesAfter_isInfix {n : Nat} (h : attributesAfter? cs n = some part) :
    part <:+: cs := by
  induction n with
  | zero => cases h
  | succ n ih =>
    unfold attributesAfter? at h
    split at h
    · obtain rfl := Option.some.inj h
      exact (List.take_prefix _ _).isInfix.trans (List.drop_suffix _ _).isInfix
    · exact ih h

theorem startTagAttributes_isInfix (h : startTagAttributes? cs = some part) : part <:+: cs := by
  unfold startTagAttributes? at h
  split at h
  · next rest => exact (attributesAfter_isInfix h).trans (List.suffix_cons '<' rest).isInfix
  · cases h

theorem rawAttributeIn_ok (h : Text.LimitedReferences part) (attr : String) :
    ∃ value, rawAttributeIn? attr part = .ok value := by
  unfold rawAttributeIn?
  cases hfind : (rawAttributes 0 part).find? fun a => Text.lower (String.ofList a.1) = attr with
  | none => exact ⟨none, rfl⟩
  | some a =>
    have ha := List.mem_of_find?_eq_some hfind
    obtain ⟨value, hvalue⟩ := Text.unescape_ok (h.of_isInfix (rawAttributes_isInfix 0 part a ha))
    refine ⟨some value, ?_⟩
    change some <$> Text.unescape (String.ofList a.2) = _
    rw [hvalue]
    rfl

/-- If the text of a document is known, none of its decimal references is too long. -/
def LimitedReferences (d : Document) : Prop :=
  ∀ text, d.source = some text → Text.LimitedReferences text.toList

theorem LimitedReferences.rawAttribute_ok (h : d.LimitedReferences) (e : Element)
    (attr : String) : ∃ value, d.rawAttribute? e attr = .ok value := by
  unfold rawAttribute?
  split
  · next text offset hsource _ =>
    split
    · next part hpart =>
      apply rawAttributeIn_ok
      apply (h text hsource).of_isInfix
      exact (startTagAttributes_isInfix hpart).trans (List.drop_suffix _ _).isInfix
    · exact ⟨_, rfl⟩
  · exact ⟨_, rfl⟩

end Document

end MarkupLint
