import MarkupLint.Proofs.ElementLocations
import MarkupLint.Proofs.TagSpelling

/-! # How start tags are parsed

Each element of a document comes from the start tag at its offset in the text: its attributes are
those that the parser finds there, the last value for each name. In a plainly spelled tag the parser
finds the attributes as they are spelled.
-/
namespace MarkupLint

namespace Markup

open Source (Position)

def tagName (cs : List Char) : String :=
  Text.lower (String.ofList (cs.tail.takeWhile isTagNameChar))

def tagAttributes (cs : List Char) : List Attribute :=
  let name := cs.tail.takeWhile isTagNameChar
  let before := 1 + name.length + gapLength (cs.drop (1 + name.length))
  (attributesFrom 0 ((cs[before - 1]?).getD '<') (cs.drop before)).1

def tagValues (cs : List Char) : List (List Char × List Char) :=
  (tagAttributes cs).map fun a => (a.name, a.value.getD [])

section Spelled

variable {closed : Bool} {as : List SpelledAttribute} {c previous : Char}
  {cs rest gap name : List Char} {spelling : Spelling}

/-- A bare value does not begin with an equals sign, which the parser would skip. -/
def ValueText.OneSign : ValueText → Prop
  | quoted .. => True
  | bare value _ => value.head? ≠ some '='

def Spelling.OneSign : Spelling → Prop
  | alone => True
  | equals _ _ text _ => text.OneSign

instance : DecidablePred ValueText.OneSign
  | .quoted .. => isTrue trivial
  | .bare value _ => inferInstanceAs (Decidable (value.head? ≠ some '='))

instance : DecidablePred Spelling.OneSign
  | .alone => isTrue trivial
  | .equals _ _ text _ => inferInstanceAs (Decidable text.OneSign)

/-- The name of a tag ends where the parser ends it, and no equals sign is doubled. -/
structure SpelledTag.Plain (t : SpelledTag) : Prop where
  name : ∀ c ∈ t.name, isTagNameChar c = true
  gap : t.gap.head?.all (fun c => !isTagNameChar c) = true
  signs : ∀ a ∈ t.attributes, a.spelling.OneSign

theorem value_noSign (h : NoSign cs) : value? cs = none := by
  have hsigns : ((cs.dropWhile Text.isBlank).takeWhile (· == '=')) = [] := by
    cases hcs : cs.dropWhile Text.isBlank with
    | nil => rfl
    | cons c cs =>
      have hne : c ≠ '=' := by
        rintro rfl
        exact h (congrArg List.head? hcs)
      rw [List.takeWhile_cons, beq_false_of_ne hne]
      rfl
  unfold value?
  simp only [drop_length_takeWhile, hsigns]
  rfl

theorem ValueText.OneSign.head {text : ValueText} (hone : text.OneSign) {after : List Char}
    (hafter : ∀ c ∈ after, Text.isBlank c = true) (rest : List Char) :
    (after ++ (text.chars ++ rest)).head?.all (fun c => !(c == '=')) = true := by
  cases after with
  | cons c after =>
    have hne : c ≠ '=' := by
      rintro rfl
      exact absurd (hafter '=' List.mem_cons_self) (by decide)
    simpa using hne
  | nil =>
    cases text with
    | quoted q value paired =>
      have hne : q ≠ '=' := by
        rintro rfl
        exact absurd paired.1 (by decide)
      simpa [chars] using hne
    | bare value plain =>
      obtain ⟨c, cs, rfl⟩ := List.exists_cons_of_ne_nil plain.1
      have hne : c ≠ '=' := fun h => hone (congrArg some h)
      simpa [chars] using hne

theorem value_spelling (hone : spelling.OneSign)
    (hrest : rest.head?.all (fun c => spelling.mayPrecede c || c == '>') = true)
    (hsign : NoSign rest) :
    (value? (spelling.chars ++ rest)).getD ([], 0) =
      (spelling.value, spelling.chars.length) := by
  cases spelling with
  | alone =>
    rw [Spelling.chars, List.nil_append, value_noSign hsign]
    rfl
  | equals before after text blank =>
    have hbefore : ∀ c ∈ before, Text.isBlank c = true :=
      fun c hc => blank c (List.mem_append_left _ hc)
    have hafter : ∀ c ∈ after, Text.isBlank c = true :=
      fun c hc => blank c (List.mem_append_right _ hc)
    have hblanks : (before ++ '=' :: (after ++ (text.chars ++ rest))).takeWhile Text.isBlank =
        before := takeWhile_append_stop hbefore rfl
    -- the parser takes all equals signs in a row, so there must be no second one
    have hsign : ∀ c ∈ ['='], (c == '=') = true := by simp
    have hsigns : ('=' :: (after ++ (text.chars ++ rest))).takeWhile (· == '=') = ['='] :=
      takeWhile_append_stop hsign (ValueText.OneSign.head hone hafter rest)
    have hdrop : (before ++ '=' :: (after ++ (text.chars ++ rest))).drop (before.length + 1) =
        after ++ (text.chars ++ rest) := drop_sign before [] _
    have hgap : (after ++ (text.chars ++ rest)).takeWhile Text.isBlank = after :=
      takeWhile_append_stop hafter (text.head_chars rest)
    rw [spelling_length, Spelling.chars, List.append_assoc, List.cons_append, List.append_assoc]
    unfold value?
    simp only [hblanks, List.drop_left, hsigns, List.length_singleton, hdrop, hgap, drop_sign]
    rw [if_neg Nat.one_ne_zero]
    cases text with
    | quoted q value paired =>
      rw [ValueText.chars, quotedValue_quoted paired.1 paired.2, if_pos (by simpa using paired.1)]
      simp [Spelling.value, ValueText.value, Nat.add_assoc]
    | bare value plain =>
      have hbare : (value ++ rest).takeWhile isBareChar = value := by
        apply takeWhile_append_stop
        · intro c hc
          have hraw := plain.2 c hc
          simp only [Document.isRawValueChar, Bool.not_eq_true', Bool.or_eq_false_iff] at hraw
          simp [isBareChar, hraw]
        · refine head_all_imp hrest fun c hc => ?_
          simpa [isBareChar, or_comm, Spelling.mayPrecede, ValueText.mayPrecede] using hc
      have hquote : ((value ++ rest).head?.map isQuote).getD false = false := by
        obtain ⟨c, cs, rfl⟩ := List.exists_cons_of_ne_nil plain.1
        have hc := plain.2 c List.mem_cons_self
        simp only [Document.isRawValueChar, Bool.not_eq_true', Bool.or_eq_false_iff] at hc
        exact hc.1.2
      rw [ValueText.chars, hquote, if_neg Bool.false_ne_true, hbare]
      rfl

theorem gapLength_append (hgap : ∀ c ∈ gap, isGapChar c = true)
    (hlast : gap.getLast? = some '/' → rest.head? ≠ some '>') :
    gapLength (gap ++ rest) = gap.length + gapLength rest := by
  induction gap with
  | nil => exact (Nat.zero_add _).symm
  | cons c gap ih =>
    have htail : ∀ d ∈ gap, isGapChar d = true := fun d hd => hgap d (List.mem_cons_of_mem c hd)
    have hcounted : (Text.isBlank c || (c == '/' && (gap ++ rest).head? != some '>')) = true := by
      rcases isGapChar_iff.mp (hgap c List.mem_cons_self) with hb | rfl
      · rw [hb, Bool.true_or]
      · have hne : (gap ++ rest).head? ≠ some '>' := by
          cases gap with
          | nil => exact hlast rfl
          | cons d gap =>
            intro hd
            obtain rfl := Option.some.inj hd
            exact absurd (htail '>' List.mem_cons_self) (by decide)
        simpa using Or.inr hne
    have hlength : gapLength (gap ++ rest) = gap.length + gapLength rest := by
      apply ih htail
      intro h
      apply hlast
      rw [List.getLast?_cons, h]
      rfl
    rw [List.cons_append, gapLength, if_pos hcounted, hlength, List.length_cons]
    omega

/-- No gap goes on into what follows it: neither a name nor the slash that closes the tag. -/
theorem gapLength_attributeChars (closed : Bool) (as : List SpelledAttribute)
    (rest : List Char) : gapLength (attributeChars closed as ++ '>' :: rest) = 0 := by
  cases hcs : attributeChars closed as with
  | nil => rfl
  | cons c cs =>
    rcases head_attributeChars hcs with hname | ⟨rfl, rfl⟩
    · have hgap := not_gap_of_name hname
      simp only [isGapChar, Bool.or_eq_false_iff] at hgap
      rw [List.cons_append, gapLength, hgap.1, hgap.2]
      rfl
    · cases closed <;> cases hcs
      rfl

theorem gapLength_parts {p : Char → Bool} (hgap : ∀ c ∈ gap, isGapChar c = true)
    (hparts : Parts p gap (attributeChars closed as)) (rest : List Char) :
    gapLength (gap ++ (attributeChars closed as ++ '>' :: rest)) = gap.length := by
  rw [gapLength_append hgap, gapLength_attributeChars, Nat.add_zero]
  intro hlast
  obtain ⟨c, cs, hcs⟩ := List.exists_cons_of_ne_nil (hparts.last hlast)
  rw [hcs]
  intro h
  obtain rfl := Option.some.inj h
  rcases head_attributeChars hcs with hname | ⟨-, hslash⟩
  · exact absurd hname (by decide)
  · exact absurd hslash (by decide)

theorem attribute_name (hprevious : isAttributeBoundary previous = true)
    (hc : isNameStart c = true) (cs : List Char) :
    let name := c :: cs.takeWhile isNameChar
    let afterName := (c :: cs).drop name.length
    let found := (value? afterName).getD ([], 0)
    ∃ value, attribute? previous (c :: cs) =
        some (⟨name, value⟩, name.length + found.2 + gapLength (afterName.drop found.2)) ∧
      value.getD [] = found.1 := by
  rw [attribute?, hprevious, hc, Bool.and_self, if_pos rfl]
  dsimp only
  cases value? ((c :: cs).drop (c :: cs.takeWhile isNameChar).length) with
  | none => exact ⟨none, rfl, rfl⟩
  | some found => exact ⟨some found.1, rfl, rfl⟩

theorem attribute_spelled (hprevious : isAttributeBoundary previous = true) (hne : name ≠ [])
    (hname : ∀ c ∈ name, Document.isRawNameChar c = true) (hone : spelling.OneSign)
    (hrest : rest.head?.all (fun c => spelling.mayPrecede c || c == '>') = true)
    (hsign : NoSign rest) :
    ∃ value, attribute? previous (name ++ (spelling.chars ++ rest)) =
        some (⟨name, value⟩, name.length + spelling.chars.length + gapLength rest) ∧
      value.getD [] = spelling.value := by
  obtain ⟨c, cs, rfl⟩ := List.exists_cons_of_ne_nil hne
  have hchars : ∀ d ∈ c :: cs, isNameChar d = true := by
    intro d hd
    have hraw := hname d hd
    rw [isRawNameChar_eq, Bool.and_eq_true] at hraw
    exact hraw.1
  have hstart : isNameStart c = true := (Bool.and_eq_true_iff.mp (hchars c List.mem_cons_self)).1
  have htake : (cs ++ (spelling.chars ++ rest)).takeWhile isNameChar = cs :=
    takeWhile_append_stop (fun d hd => hchars d (List.mem_cons_of_mem c hd))
      (head_spelling spelling hrest)
  have hread := attribute_name hprevious hstart (cs ++ (spelling.chars ++ rest))
  simp only [htake] at hread
  rwa [← List.cons_append, List.drop_left, value_spelling hone hrest hsign,
    List.drop_left] at hread

theorem attributesFrom_skip (k : Nat) (previous : Char) (cs : List Char) :
    (attributesFrom k previous cs).1 =
      (attributesFrom 0 ((cs.take k).getLast?.getD previous) (cs.drop k)).1 := by
  induction cs generalizing k previous with
  | nil => rw [List.drop_nil, attributesFrom, attributesFrom]
  | cons c cs ih =>
    cases k with
    | zero => rfl
    | succ k =>
      rw [List.take_succ_cons, List.getLast?_cons]
      exact ih k c

theorem attributesFrom_attribute {a : Attribute} {n : Nat} (hn : n ≠ 0)
    (h : attribute? previous cs = some (a, n)) :
    (attributesFrom 0 previous cs).1 =
      a :: (attributesFrom 0 ((cs.take n).getLast?.getD previous) (cs.drop n)).1 := by
  obtain ⟨n, rfl⟩ := Nat.exists_eq_succ_of_ne_zero hn
  cases cs with
  | nil => cases h
  | cons c cs =>
    rw [attributesFrom, h]
    dsimp only
    rw [Nat.succ_sub_one, attributesFrom_skip, List.take_succ_cons, List.getLast?_cons]
    rfl

theorem eq_nil_of_parts {p : Char → Bool} (h : Parts p [] (attributeChars closed as))
    (hp : ∀ c, p c = true → isGapChar c = true) : as = [] := by
  cases hcs : attributeChars closed as with
  | nil =>
    cases as with
    | nil => rfl
    | cons a as => exact absurd (List.append_eq_nil_iff.mp hcs).1 a.name_ne_nil
  | cons c cs =>
    have hgap : isGapChar c = true := by
      have hfirst := h.first
      rw [hcs] at hfirst
      exact hp c hfirst
    rcases head_attributeChars hcs with hname | ⟨hnil, -⟩
    · rw [not_gap_of_name hname] at hgap
      cases hgap
    · exact hnil

theorem boundary_after (hgap : ∀ c ∈ gap, isGapChar c = true)
    (hparts : Parts spelling.mayPrecede gap (attributeChars closed as)) (has : as ≠ [])
    (name : List Char) (previous : Char) :
    isAttributeBoundary ((name ++ (spelling.chars ++ gap)).getLast?.getD previous) = true := by
  rw [List.getLast?_append, List.getLast?_append]
  cases hlast : gap.getLast? with
  | some c =>
    have hc := hgap c (List.mem_of_getLast? hlast)
    rcases isGapChar_iff.mp hc with hb | rfl
    · simp [isAttributeBoundary, hb]
    · rfl
  | none =>
    -- without a gap another attribute can follow a quoted value only
    obtain rfl := List.getLast?_eq_none_iff.mp hlast
    cases spelling with
    | alone => exact absurd (eq_nil_of_parts hparts fun _ h => h) has
    | equals before after text blank =>
      cases text with
      | quoted q value paired =>
        simp [Spelling.chars, ValueText.chars, isAttributeBoundary, List.getLast?_append,
          List.getLast?_cons, paired.1]
      | bare value plain =>
        exact absurd (eq_nil_of_parts hparts fun c hc => isGapChar_iff.mpr (Or.inl hc)) has

theorem attributesFrom_stop (hc : isNameStart c = false) (previous : Char) (cs : List Char) :
    (attributesFrom 0 previous (c :: cs)).1 = [] := by
  simp only [attributesFrom, attribute?, hc, Bool.and_false, Bool.false_eq_true, if_false]

/-- One attribute is read, and the reading goes on after the gap that follows it. -/
theorem attributesFrom_cons (a : SpelledAttribute) (hone : a.spelling.OneSign)
    (hparts : Parts a.spelling.mayPrecede a.gap (attributeChars closed as))
    (hprevious : isAttributeBoundary previous = true) (rest : List Char) :
    ∃ value, value.getD [] = a.spelling.value ∧
      (attributesFrom 0 previous (attributeChars closed (a :: as) ++ '>' :: rest)).1 =
        ⟨a.name, value⟩ ::
          (attributesFrom 0 ((a.name ++ (a.spelling.chars ++ a.gap)).getLast?.getD previous)
            (attributeChars closed as ++ '>' :: rest)).1 := by
  have hsign : NoSign (a.gap ++ (attributeChars closed as ++ '>' :: rest)) :=
    noSign_gap a.gap_chars (noSign_attributeChars (noSign_cons (by decide) (by decide)))
  have hfollows : (a.gap ++ (attributeChars closed as ++ '>' :: rest)).head?.all
      (fun c => a.spelling.mayPrecede c || c == '>') = true := by
    rw [← List.append_assoc]
    exact head_all_append hparts.first (fun c hc => by rw [hc, Bool.true_or]) (by simp)
  obtain ⟨value, hread, hvalue⟩ :=
    attribute_spelled hprevious a.name_ne_nil a.name_chars hone hfollows hsign
  refine ⟨value, hvalue, ?_⟩
  have hlength : a.name.length + a.spelling.chars.length + a.gap.length =
      (a.name ++ (a.spelling.chars ++ a.gap)).length := by
    simp only [List.length_append, Nat.add_assoc]
  have hne : (a.name ++ (a.spelling.chars ++ a.gap)).length ≠ 0 := by
    simp [a.name_ne_nil]
  rw [gapLength_parts a.gap_chars hparts, hlength] at hread
  have hchars : attributeChars closed (a :: as) ++ '>' :: rest =
      a.name ++ (a.spelling.chars ++ (a.gap ++ (attributeChars closed as ++ '>' :: rest))) := by
    simp only [attributeChars, List.append_assoc]
  have hcut : ∀ tail, a.name ++ (a.spelling.chars ++ (a.gap ++ tail)) =
      (a.name ++ (a.spelling.chars ++ a.gap)) ++ tail := by
    simp only [List.append_assoc, implies_true]
  rw [hchars, attributesFrom_attribute hne hread, hcut, List.take_left, List.drop_left]

theorem attributesFrom_attributeChars (h : AllParted closed as)
    (hone : ∀ a ∈ as, a.spelling.OneSign)
    (hprevious : as ≠ [] → isAttributeBoundary previous = true) (rest : List Char) :
    (attributesFrom 0 previous (attributeChars closed as ++ '>' :: rest)).1.map
      (fun a => (a.name, a.value.getD [])) = spelledValues as := by
  -- the character before the rest is carried along: an attribute begins only after a boundary
  induction as generalizing previous with
  | nil => cases closed <;> exact congrArg _ (attributesFrom_stop rfl previous _)
  | cons a as ih =>
    obtain ⟨hparts, hrest⟩ := h
    obtain ⟨value, hvalue, hcons⟩ := attributesFrom_cons a (hone a List.mem_cons_self) hparts
      (hprevious (List.cons_ne_nil a as)) rest
    have hnext := ih hrest (fun b hb => hone b (List.mem_cons_of_mem a hb))
      (fun has => boundary_after a.gap_chars hparts has a.name previous)
    rw [hcons, List.map_cons, hvalue, hnext]
    rfl

theorem SpelledTag.Plain.head_part {t : SpelledTag} (h : t.Plain) (rest : List Char) :
    (t.part ++ '>' :: rest).head?.all (fun c => !isTagNameChar c) = true := by
  have hgap := h.gap
  have hparted := t.parted
  unfold part
  cases hcs : t.gap with
  | cons c gap =>
    rw [hcs] at hgap
    exact hgap
  | nil =>
    rw [hcs] at hparted
    rw [eq_nil_of_parts hparted fun _ hc => hc]
    cases t.closed <;> rfl

theorem previous_boundary (t : SpelledTag) (has : t.attributes ≠ []) (rest : List Char) :
    isAttributeBoundary ((('<' :: (t.name ++ (t.gap ++ rest)))[
      1 + t.name.length + t.gap.length - 1]?).getD '<') = true := by
  have hcut : '<' :: (t.name ++ (t.gap ++ rest)) = ('<' :: (t.name ++ t.gap)) ++ rest := by simp
  have hlength : 1 + t.name.length + t.gap.length = ('<' :: (t.name ++ t.gap)).length := by
    simp only [List.length_cons, List.length_append]
    omega
  have hlt : ('<' :: (t.name ++ t.gap)).length - 1 < ('<' :: (t.name ++ t.gap)).length := by simp
  have hparts : Parts Spelling.alone.mayPrecede t.gap _ := t.parted
  rw [hcut, hlength, List.getElem?_append_left hlt, ← List.getLast?_eq_getElem?]
  exact boundary_after t.gap_chars hparts has ('<' :: t.name) '<'

theorem tagValues_chars {t : SpelledTag} (h : t.Plain) (rest : List Char) :
    tagValues (t.chars ++ rest) = spelledValues t.attributes := by
  have hchars : t.chars ++ rest = '<' :: (t.name ++ (t.part ++ '>' :: rest)) := by
    simp [SpelledTag.chars]
  have hname : (t.name ++ (t.part ++ '>' :: rest)).takeWhile isTagNameChar = t.name :=
    takeWhile_append_stop h.name (h.head_part rest)
  have hpart : t.part ++ '>' :: rest =
      t.gap ++ (attributeChars t.closed t.attributes ++ '>' :: rest) := by
    rw [SpelledTag.part, List.append_assoc]
  have hdrop : ('<' :: (t.name ++ (t.part ++ '>' :: rest))).drop (1 + t.name.length) =
      t.part ++ '>' :: rest := by
    rw [Nat.add_comm, List.drop_succ_cons, List.drop_left]
  have hgap : gapLength (t.part ++ '>' :: rest) = t.gap.length := by
    rw [hpart, gapLength_parts t.gap_chars t.parted]
  unfold tagValues tagAttributes
  rw [hchars]
  simp only [List.tail_cons, hname, hdrop, hgap]
  rw [← List.drop_drop, hdrop, hpart, List.drop_left]
  exact attributesFrom_attributeChars t.allParted h.signs
    (fun has => previous_boundary t has _) rest

end Spelled

section Origins

variable {final closed : Bool} {raw raw' : Option String} {place p : Position} {skip n : Nat}
  {cs : List Char} {ts : List Token} {r : Remainder} {name : String}
  {written : List (String × Option String)}

/-- The start tag at an offset of a text is read with the place there and with what the parser
finds there. -/
structure ReadAt (place : Position) (cs : List Char) (name : String)
    (written : List (String × Option String)) (p : Position) (o : Nat) : Prop where
  inside : o < cs.length
  place : p = placeAfter place (cs.take o)
  name : name = tagName (cs.drop o)
  attributes : (tagAttributes (cs.drop o)).mapM tokenAttribute = .ok written

theorem mem_startPlaces (h : Token.startTag name written closed p ∈ ts) : p ∈ startPlaces ts :=
  List.mem_filterMap.mpr ⟨_, h, rfl⟩

theorem readStartTag_written (h : readStartTag place cs = .done ts n raw)
    (ht : Token.startTag name written closed p ∈ ts) :
    p = place ∧ name = tagName cs ∧ (tagAttributes cs).mapM tokenAttribute = .ok written := by
  have hattributes : (attributesFrom 0 _ _).1 = tagAttributes cs := rfl
  unfold readStartTag at h
  dsimp only at h
  rw [hattributes] at h
  split at h
  · cases h
  · split at h
    · next hw =>
      cases h
      cases List.mem_singleton.mp ht
      exact ⟨rfl, rfl, hw⟩
    · cases h
  · split at h
    · next hw =>
      cases h
      cases List.mem_singleton.mp ht
      exact ⟨rfl, rfl, hw⟩
    · cases h
  · split at h
    · cases h
    · cases h
      cases List.mem_singleton.mp ht

theorem readAngle_written (h : readAngle raw place cs = .done ts n raw')
    (ht : Token.startTag name written closed p ∈ ts) :
    p = place ∧ name = tagName cs ∧ (tagAttributes cs).mapM tokenAttribute = .ok written := by
  have hsome : startPlaces ts ≠ [] := List.ne_nil_of_mem (mem_startPlaces ht)
  unfold readAngle at h
  split at h
  · cases h
  · split at h
    · exact readStartTag_written h ht
    · split at h
      · exact absurd (readEndTag_places h) hsome
      · split at h
        · exact absurd (readComment_places h) hsome
        · split at h
          · exact absurd (readInstruction_places h) hsome
          · split at h
            · exact absurd (readDeclaration_places h) hsome
            · cases h
              exact absurd rfl hsome

theorem moveAtAngle_written (h : moveAtAngle final raw place cs = .go ts n raw')
    (ht : Token.startTag name written closed p ∈ ts) :
    p = place ∧ name = tagName cs ∧ (tagAttributes cs).mapM tokenAttribute = .ok written := by
  unfold moveAtAngle at h
  split at h
  · next hr =>
    cases h
    exact readAngle_written hr ht
  · cases h
  · split at h
    · cases h
      cases List.mem_singleton.mp ht
    · cases h

theorem moveAt_written (h : moveAt final raw place cs = .go ts n raw')
    (ht : Token.startTag name written closed p ∈ ts) :
    p = place ∧ name = tagName cs ∧ (tagAttributes cs).mapM tokenAttribute = .ok written := by
  have hsome : startPlaces ts ≠ [] := List.ne_nil_of_mem (mem_startPlaces ht)
  unfold moveAt at h
  split at h
  · split at h
    · cases h
    · exact moveAtAngle_written h ht
    · cases h
      cases List.mem_singleton.mp ht
  · split at h
    · exact moveAtAngle_written h ht
    · exact absurd (moveAtAmpersand_go h) hsome
    · cases h
      cases List.mem_singleton.mp ht

/-- Every start tag that a pass reads is one at an offset of the text. -/
theorem pass_readAt (h : pass final raw place skip cs = .ok (ts, r))
    (ht : Token.startTag name written closed p ∈ ts) : ∃ o, ReadAt place cs name written p o := by
  induction cs generalizing raw place skip ts r with
  | nil =>
    cases h
    cases ht
  | cons c cs ih =>
    -- the same seen from one character before
    have hback : (∃ o, ReadAt (place.after c) cs name written p o) →
        ∃ o, ReadAt place (c :: cs) name written p o := by
      rintro ⟨o, ho⟩
      exact ⟨o + 1, Nat.succ_lt_succ ho.inside, ho.place, ho.name, ho.attributes⟩
    unfold pass at h
    split at h
    · exact hback (ih h ht)
    · split at h
      · cases h
      · next hm =>
        cases h
        exact absurd (moveAt_stop hm) (List.ne_nil_of_mem (mem_startPlaces ht))
      · next tokens length next hm =>
        cases hrest : pass final next (place.after c) (length - 1) cs with
        | error e =>
          rw [hrest] at h
          cases h
        | ok result =>
          rw [hrest] at h
          cases h
          rcases List.mem_append.mp ht with ht | ht
          · obtain ⟨hplace, hname, hwritten⟩ := moveAt_written hm ht
            exact ⟨0, Nat.succ_pos _, hplace, hname, hwritten⟩
          · exact hback (ih hrest ht)

theorem tokens_readAt {text : String} (h : tokens text = .ok ts)
    (ht : Token.startTag name written closed p ∈ ts) :
    ∃ o, ReadAt .start text.toList name written p o := by
  unfold tokens at h
  cases hfirst : pass false none .start 0 text.toList with
  | error e =>
    rw [hfirst] at h
    cases h
  | ok first =>
    rw [hfirst] at h
    change (pass true first.2.raw first.2.place 0 first.2.rest >>= _) = _ at h
    cases hsecond : pass true first.2.raw first.2.place 0 first.2.rest with
    | error e =>
      rw [hsecond] at h
      cases h
    | ok second =>
      rw [hsecond] at h
      obtain rfl := Except.ok.inj h
      rcases List.mem_append.mp ht with ht | ht
      · rcases List.mem_append.mp ht with ht | ht
        · exact pass_readAt hfirst ht
        · -- the second pass goes on where the first one stopped
          obtain ⟨_, stop, hp⟩ := pass_passed hfirst
          obtain ⟨o, ho⟩ := pass_readAt hsecond ht
          have hinside := ho.inside
          have hplace := ho.place
          have hname := ho.name
          have hattributes := ho.attributes
          rw [hp.rest, List.length_drop] at hinside
          rw [hp.place, hp.rest, ← placeAfter_append, ← List.take_add] at hplace
          rw [hp.rest, List.drop_drop] at hname hattributes
          exact ⟨stop + o, by omega, hplace, hname, hattributes⟩
      · split at ht
        · cases ht
        · cases List.mem_singleton.mp ht

end Origins

end Markup

end MarkupLint
