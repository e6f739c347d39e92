import Mathlib.Data.List.Induction
import Mathlib.Data.List.Lex
import Mathlib.Data.List.TakeDrop
import MarkupLint.Proofs.RaisedThresholds
import MarkupLint.Proofs.SelectorViews

/-! # Versions as numbers

A version of three numbers is ordered by these numbers, whatever zeros stand in front of them, and
also against the beta release of a version. The numbers are read from the text by a grammar for far
more versions, and they are compared after the zeros at the end of a release are gone. Among
releases of one length the zeros at the end make no difference to the order.
-/
namespace MarkupLint

namespace Text

section Parts

variable {sep p : Char → Bool} {w v r cs : List Char} {ws : List (List Char)} {c : Char}

theorem dropWhile_stop (h : ∀ c ∈ r.head?, p c = false) : r.dropWhile p = r := by
  cases r with
  | nil => rfl
  | cons c r => simp [h c rfl]

theorem takeWhile_append_stop (h : ∀ c ∈ r.head?, p c = false) :
    (w ++ r).takeWhile p = w.takeWhile p := by
  have hstop : r.takeWhile p = [] := by
    cases r with
    | nil => rfl
    | cons c r => simp [h c rfl]
  rw [List.takeWhile_append, hstop, List.append_nil]
  split
  · next hall => exact ((List.takeWhile_prefix p).eq_of_length hall).symm
  · rfl

theorem splitAt_uncut (h : ∀ x ∈ w, sep x = false) : splitAt sep w = [w] := by
  induction w with
  | nil => rfl
  | cons x w ih =>
    obtain ⟨hx, hw⟩ := List.forall_mem_cons.mp h
    rw [splitAt, hx, if_neg Bool.false_ne_true, ih hw]

theorem splitAt_append (h : ∀ x ∈ w, sep x = false) (hc : sep c = true) :
    splitAt sep (w ++ c :: r) = w :: splitAt sep r := by
  induction w with
  | nil => rw [List.nil_append, splitAt, if_pos hc]
  | cons x w ih =>
    obtain ⟨hx, hw⟩ := List.forall_mem_cons.mp h
    rw [List.cons_append, splitAt, hx, if_neg Bool.false_ne_true, ih hw]

theorem splitAt_ne_nil (sep : Char → Bool) (cs : List Char) : splitAt sep cs ≠ [] := by
  rcases cut_cases sep cs with hall | ⟨w, c, r, rfl, hw, hc⟩
  · simp [splitAt_uncut hall]
  · simp [splitAt_append hw hc]

theorem eq_of_splitAt_one (h : splitAt sep cs = [w]) : cs = w := by
  rcases cut_cases sep cs with hall | ⟨v, c, r, rfl, hv, hc⟩
  · rw [splitAt_uncut hall] at h
    exact List.singleton_inj.mp h
  · rw [splitAt_append hv hc] at h
    exact absurd (List.cons.inj h).2 (splitAt_ne_nil sep r)

theorem eq_of_splitAt_more (h : splitAt (· == c) cs = w :: v :: ws) :
    ∃ r, cs = w ++ c :: r ∧ splitAt (· == c) r = v :: ws := by
  rcases cut_cases (· == c) cs with hall | ⟨u, x, r, rfl, hu, hx⟩
  · rw [splitAt_uncut hall] at h
    cases h
  · rw [splitAt_append hu hx] at h
    obtain ⟨rfl, hrest⟩ := List.cons.inj h
    obtain rfl : x = c := by simpa using hx
    exact ⟨r, rfl, hrest⟩

end Parts

theorem isDigit_range {c : Char} (h : c.isDigit = true) : 48 ≤ c.toNat ∧ c.toNat ≤ 57 := by
  simpa [Char.isDigit, UInt32.le_iff_toNat_le] using h

structure Numeral where
  zeros : Nat
  value : Nat

namespace Numeral

variable {n : Numeral} {c : Char} {cs : List Char}

def digits (n : Numeral) : List Char := List.replicate n.zeros '0' ++ Nat.toDigits 10 n.value

def Short (n : Numeral) : Prop := n.digits.length ≤ digitLimit

instance (n : Numeral) : Decidable n.Short := inferInstanceAs (Decidable (_ ≤ _))

theorem digits_ne_nil (n : Numeral) : n.digits ≠ [] := by
  simp [digits]

theorem isDigit_of_mem (h : c ∈ n.digits) : c.isDigit = true := by
  rcases List.mem_append.mp h with hzero | hdigit
  · rw [List.eq_of_mem_replicate hzero]
    rfl
  · exact Nat.isDigit_of_mem_toDigits (by decide) (by decide) hdigit

theorem digitsValue_eq (h : ∀ c ∈ cs, c.isDigit = true) (n : Nat) :
    cs.foldl (fun n c => n * 10 + hexValue c) n = Nat.ofDigitChars 10 cs n := by
  induction cs generalizing n with
  | nil => rfl
  | cons c cs ih =>
    obtain ⟨hc, hcs⟩ := List.forall_mem_cons.mp h
    have hvalue : hexValue c = c.toNat - '0'.toNat := by
      rw [hexValue, if_pos hc]
      rfl
    rw [List.foldl_cons, ih hcs, Nat.ofDigitChars_cons, hvalue, Nat.mul_comm]

theorem digitsValue_digits (n : Numeral) : digitsValue 10 n.digits = n.value := by
  rw [digitsValue, digitsValue_eq fun c hc => isDigit_of_mem hc, digits, Nat.ofDigitChars_append,
    Nat.ofDigitChars_replicate_zero, Nat.mul_zero, Nat.ofDigitChars_ten_toDigits]

theorem numberOf_digits (h : n.Short) : numberOf n.digits = .ok n.value := by
  rw [numberOf, if_neg (Nat.not_lt.mpr h), digitsValue_digits]

theorem digitChar_of_isDigit (h : c.isDigit = true) :
    ∃ d, d < 10 ∧ Nat.toDigits 10 d = [c] := by
  have hrange := isDigit_range h
  have hlt : c.toNat - 48 < 10 := by omega
  refine ⟨c.toNat - 48, hlt, ?_⟩
  rw [Nat.toDigits_of_lt_base hlt]
  congr 1
  apply Char.toNat_inj.mp
  rw [Nat.toNat_digitChar_of_lt_ten hlt]
  omega

/-- Digits always write a number. The last digit goes behind the number that the others write, or
behind their zeros if that is zero. -/
theorem exists_digits (hne : cs ≠ []) (h : ∀ c ∈ cs, c.isDigit = true) :
    ∃ n : Numeral, n.digits = cs := by
  induction cs using List.reverseRecOn with
  | nil => exact absurd rfl hne
  | append_singleton cs c ih =>
    obtain ⟨d, hd, hc⟩ := digitChar_of_isDigit (h c (by simp))
    by_cases hcs : cs = []
    · exact ⟨⟨0, d⟩, by simp [digits, hcs, hc]⟩
    · obtain ⟨⟨k, m⟩, hm⟩ := ih hcs fun x hx => h x (List.mem_append_left _ hx)
      rw [← hm]
      by_cases hzero : m = 0
      · refine ⟨⟨k + 1, d⟩, ?_⟩
        simp [digits, hzero, hc, List.replicate_succ']
      · refine ⟨⟨k, 10 * m + d⟩, ?_⟩
        rw [digits, digits, ← Nat.toDigits_append_toDigits (by decide) (by omega) hd, hc,
          List.append_assoc]

end Numeral

end Text

namespace Link

open Text (Numeral numberOf)

section Order

variable {xs ys : List Nat} {v w : Version}

theorem dropTrailingZeros_cons (x : Nat) (xs : List Nat) :
    dropTrailingZeros (x :: xs) =
      if x = 0 ∧ dropTrailingZeros xs = [] then [] else x :: dropTrailingZeros xs := by
  unfold dropTrailingZeros
  rw [List.reverse_cons, List.dropWhile_append]
  by_cases hrest : xs.reverse.dropWhile (· == 0) = []
  · by_cases hx : x = 0
    · simp [hrest, hx]
    · simp [hrest, hx]
  · simp [hrest]

/-- Among releases of one length the zeros at the end can be compared or left away. -/
theorem dropTrailingZeros_lt_iff (h : xs.length = ys.length) :
    dropTrailingZeros xs < dropTrailingZeros ys ↔ xs < ys := by
  induction xs generalizing ys with
  | nil =>
    obtain rfl := List.length_eq_zero_iff.mp h.symm
    simp
  | cons x xs ih =>
    cases ys with
    | nil => cases h
    | cons y ys =>
      have hrest := ih (Nat.succ.inj h)
      rw [dropTrailingZeros_cons, dropTrailingZeros_cons, List.cons_lt_cons_iff, ← hrest]
      by_cases hx : x = 0 ∧ dropTrailingZeros xs = []
      · by_cases hy : y = 0 ∧ dropTrailingZeros ys = []
        · simp [hx, hy]
        · -- what is left of the second release is not empty, or its first number is not zero
          rw [if_pos hx, if_neg hy, hx.1, hx.2]
          by_cases hzero : y = 0
          · obtain ⟨z, zs, hz⟩ := List.exists_cons_of_ne_nil fun hnil => hy ⟨hzero, hnil⟩
            simp [hzero, hz]
          · simp [Nat.pos_of_ne_zero hzero]
      · by_cases hy : y = 0 ∧ dropTrailingZeros ys = []
        · simp [hx, hy]
        · rw [if_neg hx, if_neg hy, List.cons_lt_cons_iff]

theorem older_release_iff {pre : Option (Stage × Nat)} (hpre : pre = none ∨ pre = some (.beta, 0))
    (h : xs.length = ys.length) :
    Version.older ⟨0, xs, none, none, none, none⟩ ⟨0, ys, pre, none, none, none⟩ = true ↔
      xs < ys := by
  rw [Version.older_iff, ← dropTrailingZeros_lt_iff h]
  rcases hpre with rfl | rfl
  · simp [Version.key, Version.stageKey, List.cons_lt_cons_iff]
  · simp [Version.key, Version.stageKey, List.cons_lt_cons_iff, Stage.rank]

end Order

section Reading

variable {cs r bs : List Char}

theorem takeWhile_digits (h : ∀ c ∈ cs, c.isDigit = true) (hr : ∀ c ∈ r.head?, c.isDigit = false) :
    (cs ++ r).takeWhile Char.isDigit = cs := by
  rw [Text.takeWhile_append_stop hr, List.takeWhile_eq_self_iff.mpr h]

theorem spanDigits_append (h : ∀ c ∈ cs, c.isDigit = true) (hr : ∀ c ∈ r.head?, c.isDigit = false) :
    spanDigits (cs ++ r) = (cs, r) := by
  rw [spanDigits, List.span_eq_takeWhile_dropWhile, takeWhile_digits h hr,
    List.dropWhile_append_of_pos h, Text.dropWhile_stop hr]

theorem releaseTail_skip (xs ys : List Char) :
    releaseTail xs.length (xs ++ ys) = releaseTail 0 ys := by
  induction xs with
  | nil => rfl
  | cons x xs ih => exact ih

theorem releaseTail_part (hne : cs ≠ []) (h : ∀ c ∈ cs, c.isDigit = true)
    (hr : ∀ c ∈ r.head?, c.isDigit = false) :
    releaseTail 0 ('.' :: (cs ++ r)) = (cs :: (releaseTail 0 r).1, (releaseTail 0 r).2) := by
  have hsome : cs.isEmpty = false := by simpa using hne
  rw [releaseTail]
  dsimp only
  rw [takeWhile_digits h hr, hsome, releaseTail_skip]
  rfl

theorem stripList_append (h : ∀ c ∈ cs, Text.isBlank c = false)
    (hbs : ∀ c ∈ bs, Text.isBlank c = true) : Text.stripList Text.isBlank (cs ++ bs) = cs := by
  have hkept : cs.reverse.dropWhile Text.isBlank = cs.reverse :=
    Text.dropWhile_stop fun c hc => h c (List.mem_reverse.mp (List.mem_of_head? hc))
  have hback : ((cs ++ bs).reverse.dropWhile Text.isBlank).reverse = cs := by
    rw [List.reverse_append,
      List.dropWhile_append_of_pos fun c hc => hbs c (List.mem_reverse.mp hc), hkept,
      List.reverse_reverse]
  cases cs with
  | nil =>
    have hall : bs.dropWhile Text.isBlank = [] := List.dropWhile_eq_nil_iff.mpr hbs
    rw [Text.stripList, List.nil_append, hall]
    rfl
  | cons c cs =>
    have hfront : (c :: cs ++ bs).dropWhile Text.isBlank = c :: cs ++ bs := by
      simp [h c List.mem_cons_self]
    rw [Text.stripList, hfront, hback]

end Reading

structure Triple where
  major : Numeral
  minor : Numeral
  patch : Numeral

namespace Triple

variable {v m : Triple} {r bs : List Char} {pre : Option (Stage × List Char)}

def chars (v : Triple) : List Char :=
  v.major.digits ++ '.' :: (v.minor.digits ++ '.' :: v.patch.digits)

def text (v : Triple) : String := String.ofList v.chars

def release (v : Triple) : List Nat := [v.major.value, v.minor.value, v.patch.value]

def Short (v : Triple) : Prop := v.major.Short ∧ v.minor.Short ∧ v.patch.Short

instance (v : Triple) : Decidable v.Short := inferInstanceAs (Decidable (_ ∧ _))

def Precedes (v m : Triple) : Prop :=
  v.major.value < m.major.value ∨ v.major.value = m.major.value ∧
    (v.minor.value < m.minor.value ∨ v.minor.value = m.minor.value ∧
      v.patch.value < m.patch.value)

instance (v m : Triple) : Decidable (v.Precedes m) := inferInstanceAs (Decidable (_ ∨ _))

theorem release_lt_iff : v.release < m.release ↔ v.Precedes m := by
  simp [release, Precedes, List.cons_lt_cons_iff]

/-- What may follow the numbers, and the stage that it is read as. -/
inductive Ending : List Char → Option (Stage × List Char) → Prop where
  | none : Ending [] none
  | beta : Ending "-beta".toList (some (.beta, []))

theorem chars_append (v : Triple) (r : List Char) :
    v.chars ++ r = v.major.digits ++ '.' :: (v.minor.digits ++ '.' :: (v.patch.digits ++ r)) := by
  simp [chars]

theorem point_head (r : List Char) : ∀ c ∈ ('.' :: r).head?, c.isDigit = false := by
  rintro c ⟨⟩
  rfl

theorem spanDigits_chars (v : Triple) (r : List Char) :
    spanDigits (v.chars ++ r) =
      (v.major.digits, '.' :: (v.minor.digits ++ '.' :: (v.patch.digits ++ r))) := by
  rw [chars_append]
  exact spanDigits_append (fun c hc => Numeral.isDigit_of_mem hc) (point_head _)

theorem splitEpoch_chars (v : Triple) (r : List Char) :
    splitEpoch (v.chars ++ r) = ([], v.chars ++ r) := by
  rw [splitEpoch, spanDigits_chars]
  rfl

theorem releaseTail_chars (h : Ending r pre) (v : Triple) :
    releaseTail 0 ('.' :: (v.minor.digits ++ '.' :: (v.patch.digits ++ r))) =
      ([v.minor.digits, v.patch.digits], r) := by
  have hstop : ∀ c ∈ r.head?, c.isDigit = false := by
    cases h with
    | none => rintro c ⟨⟩
    | beta =>
      rintro c ⟨⟩
      rfl
  rw [releaseTail_part v.minor.digits_ne_nil (fun c hc => Numeral.isDigit_of_mem hc) (point_head _),
    releaseTail_part v.patch.digits_ne_nil (fun c hc => Numeral.isDigit_of_mem hc) hstop]
  cases h <;> rfl

theorem chars_ne_mark (v : Triple) (r rest : List Char) : v.chars ++ r ≠ 'v' :: rest := by
  intro heq
  obtain ⟨c, ds, hc⟩ := List.exists_cons_of_ne_nil v.major.digits_ne_nil
  have hfirst : c.isDigit = true := Numeral.isDigit_of_mem (n := v.major) (by simp [hc])
  rw [chars_append, hc] at heq
  rw [(List.cons.inj heq).1] at hfirst
  cases hfirst

theorem parse_release (h : Ending r pre) (v : Triple) :
    VersionText.parse? (v.chars ++ r) =
      some ⟨[], [v.major.digits, v.minor.digits, v.patch.digits], pre, none, none, none⟩ := by
  have hsome : v.major.digits.isEmpty = false := by simpa using v.major.digits_ne_nil
  unfold VersionText.parse?
  split
  next epoch rest hread =>
    have hwhole : (epoch, rest) = ([], v.chars ++ r) := by
      split at hread
      · next hmark => exact absurd hmark (chars_ne_mark v r _)
      · exact hread.symm.trans (splitEpoch_chars v r)
    obtain ⟨rfl, rfl⟩ := Prod.mk.inj hwhole
    rw [spanDigits_chars]
    dsimp only
    rw [hsome, releaseTail_chars h]
    cases h <;> rfl

/-- No character of a version of three numbers is changed or dropped before it is read. -/
theorem plain_chars (h : Ending r pre) (v : Triple) :
    ∀ c ∈ v.chars ++ r, Text.isBlank c = false ∧ c.toLower = c := by
  have hdigit : ∀ n : Numeral, ∀ c ∈ n.digits, Text.isBlank c = false ∧ c.toLower = c := by
    intro n c hc
    have hrange := Text.isDigit_range (Numeral.isDigit_of_mem hc)
    have hblank : Text.isBlank c = false := by
      simp only [Text.isBlank, Bool.or_eq_false_iff, Bool.and_eq_false_imp, decide_eq_true_eq,
        decide_eq_false_iff_not, beq_eq_false_iff_ne]
      omega
    exact ⟨hblank, Text.toLower_eq_self (by omega)⟩
  have hending : ∀ c ∈ r, Text.isBlank c = false ∧ c.toLower = c := by
    cases h with
    | none => nofun
    | beta => simp [Text.isBlank]
  intro c hc
  simp only [chars_append, List.mem_append, List.mem_cons] at hc
  rcases hc with hc | rfl | hc | rfl | hc | hc
  · exact hdigit v.major c hc
  · exact ⟨rfl, rfl⟩
  · exact hdigit v.minor c hc
  · exact ⟨rfl, rfl⟩
  · exact hdigit v.patch c hc
  · exact hending c hc

theorem parse_chars (h : Ending r pre) (hbs : ∀ c ∈ bs, Text.isBlank c = true) (v : Triple) :
    Version.parse (String.ofList (v.chars ++ r ++ bs)) =
      (VersionText.value ⟨[], [v.major.digits, v.minor.digits, v.patch.digits], pre, none, none,
        none⟩).map some := by
  have hplain := plain_chars h v
  rw [Version.parse, String.toList_ofList, stripList_append (fun c hc => (hplain c hc).1) hbs,
    List.map_congr_left fun c hc => (hplain c hc).2, List.map_id', parse_release h v]

theorem value_short (h : Ending r pre) (hv : v.Short) :
    VersionText.value ⟨[], [v.major.digits, v.minor.digits, v.patch.digits], pre, none, none,
        none⟩ =
      .ok ⟨0, v.release, pre.map fun p => (p.1, 0), none, none, none⟩ := by
  have hrelease : [v.major.digits, v.minor.digits, v.patch.digits].mapM numberOf =
      .ok v.release := by
    simp only [List.mapM_cons, List.mapM_nil, Numeral.numberOf_digits hv.1,
      Numeral.numberOf_digits hv.2.1, Numeral.numberOf_digits hv.2.2]
    rfl
  rw [VersionText.value, hrelease]
  cases h <;> rfl

theorem parse_short (h : Ending r pre) (hbs : ∀ c ∈ bs, Text.isBlank c = true) (hv : v.Short) :
    Version.parse (String.ofList (v.chars ++ r ++ bs)) =
      .ok (some ⟨0, v.release, pre.map fun p => (p.1, 0), none, none, none⟩) := by
  rw [parse_chars h hbs, value_short h hv]
  rfl

theorem parse_ne_none (h : Ending r pre) (hbs : ∀ c ∈ bs, Text.isBlank c = true) (v : Triple) :
    Version.parse (String.ofList (v.chars ++ r ++ bs)) ≠ .ok none := by
  rw [parse_chars h hbs]
  cases VersionText.value ⟨[], [v.major.digits, v.minor.digits, v.patch.digits], pre, none, none,
    none⟩ with
  | error e => nofun
  | ok w => nofun

end Triple

theorem isOlderThan_ne_none {s t : String} (hs : Version.parse s ≠ .ok none)
    (ht : Version.parse t ≠ .ok none) : isOlderThan s t ≠ .ok none := by
  unfold isOlderThan
  cases hv : Version.parse s with
  | error e => nofun
  | ok v =>
    cases v with
    | none => exact absurd hv hs
    | some v =>
      cases hw : Version.parse t with
      | error e => nofun
      | ok w =>
        cases w with
        | none => exact absurd hw ht
        | some w => nofun

/-- A version of three numbers, with or without blanks behind it, is compared with another one or
its beta release by the numbers. -/
theorem isOlderThan_chars {v m : Triple} {r bs : List Char} {pre : Option (Stage × List Char)}
    (h : Triple.Ending r pre) (hbs : ∀ c ∈ bs, Text.isBlank c = true) (hv : v.Short)
    (hm : m.Short) :
    isOlderThan (String.ofList (v.chars ++ [] ++ bs)) (String.ofList (m.chars ++ r ++ [])) =
      .ok (some (decide (v.Precedes m))) := by
  have hpre : (pre.map fun p => (p.1, 0)) = none ∨
      (pre.map fun p => (p.1, 0)) = some (Stage.beta, 0) := by
    cases h with
    | none => exact Or.inl rfl
    | beta => exact Or.inr rfl
  have holder : Version.older ⟨0, v.release, none, none, none, none⟩
      ⟨0, m.release, pre.map fun p => (p.1, 0), none, none, none⟩ = decide (v.Precedes m) := by
    have hlength : v.release.length = m.release.length := rfl
    rw [Bool.eq_iff_iff, older_release_iff hpre hlength, Triple.release_lt_iff, decide_eq_true_eq]
  have hnone : ∀ c ∈ ([] : List Char), Text.isBlank c = true := nofun
  rw [isOlderThan, Triple.parse_short .none hbs hv, Triple.parse_short h hnone hm, ← holder]
  rfl

section Segments

variable {s : String} {cs : List Char}

/-- Three numbers in the digits of any script, with points between them. -/
def ThreePart (cs : List Char) : Prop :=
  ∃ p q r, cs = p ++ '.' :: (q ++ '.' :: r) ∧
    ∀ w ∈ [p, q, r], w ≠ [] ∧ ∀ c ∈ w, Text.isDecimalDigit c = true

theorem isVersionSegment_iff (s : String) :
    isVersionSegment s = true ↔ ThreePart (Text.dropFinalNewline s.toList) := by
  have hparts : ∀ w : List Char, (!w.isEmpty && w.all Text.isDecimalDigit) = true ↔
      w ≠ [] ∧ ∀ c ∈ w, Text.isDecimalDigit c = true := by
    intro w
    simp
  unfold isVersionSegment ThreePart
  generalize Text.dropFinalNewline s.toList = cs
  rw [Bool.and_eq_true, beq_iff_eq, List.all_eq_true]
  simp only [hparts]
  constructor
  · rintro ⟨hlength, hall⟩
    obtain ⟨p, q, r, hsplit⟩ := List.length_eq_three.mp hlength
    rw [hsplit] at hall
    obtain ⟨rest, rfl, hrest⟩ := Text.eq_of_splitAt_more hsplit
    obtain ⟨final, rfl, hfinal⟩ := Text.eq_of_splitAt_more hrest
    obtain rfl := Text.eq_of_splitAt_one hfinal
    exact ⟨p, q, final, rfl, hall⟩
  · rintro ⟨p, q, r, rfl, hall⟩
    have huncut : ∀ w ∈ [p, q, r], ∀ c ∈ w, (c == '.') = false := by
      intro w hw c hc
      have hdigit := (hall w hw).2 c hc
      by_contra hpoint
      obtain rfl : c = '.' := by simpa using hpoint
      cases hdigit
    have hsplit : Text.splitAt (· == '.') (p ++ '.' :: (q ++ '.' :: r)) = [p, q, r] := by
      rw [Text.splitAt_append (huncut p (by simp)) rfl,
        Text.splitAt_append (huncut q (by simp)) rfl, Text.splitAt_uncut (huncut r (by simp))]
    rw [hsplit]
    exact ⟨rfl, hall⟩

theorem exists_triple (h : ThreePart cs) (hascii : ∀ c ∈ cs, c.toNat < 128) :
    ∃ v : Triple, v.chars = cs := by
  obtain ⟨p, q, r, rfl, hall⟩ := h
  have hnumeral : ∀ w ∈ [p, q, r], (∀ c ∈ w, c.toNat < 128) → ∃ n : Numeral, n.digits = w := by
    intro w hw hlow
    refine Numeral.exists_digits (hall w hw).1 fun c hc => ?_
    have hdigit := (hall w hw).2 c hc
    have hnot : ¬128 ≤ c.toNat := Nat.not_le.mpr (hlow c hc)
    simpa [Text.isDecimalDigit, hnot] using hdigit
  obtain ⟨a, rfl⟩ := hnumeral p (by simp) fun c hc => hascii c (by simp [hc])
  obtain ⟨b, rfl⟩ := hnumeral q (by simp) fun c hc => hascii c (by simp [hc])
  obtain ⟨c, rfl⟩ := hnumeral r (by simp) fun c hc => hascii c (by simp [hc])
  exact ⟨⟨a, b, c⟩, rfl⟩

theorem segment_cases (h : isVersionSegment s = true) (hascii : ∀ c ∈ s.toList, c.toNat < 128) :
    ∃ v : Triple, ∃ bs, (bs = [] ∨ bs = ['\n']) ∧ s.toList = v.chars ++ [] ++ bs := by
  have hcut := Text.dropFinalNewline_cases s.toList
  have hlow : ∀ c ∈ Text.dropFinalNewline s.toList, c.toNat < 128 := by
    intro c hc
    apply hascii
    rcases hcut with hsame | hfeed
    · rwa [hsame]
    · rw [hfeed]
      exact List.mem_append_left _ hc
  obtain ⟨v, hv⟩ := exists_triple ((isVersionSegment_iff s).mp h) hlow
  rw [← hv] at hcut
  rcases hcut with hsame | hfeed
  · exact ⟨v, [], Or.inl rfl, by simpa using hsame⟩
  · exact ⟨v, ['\n'], Or.inr rfl, by simpa using hfeed⟩

end Segments

theorem threshold_cases {m : Triple} {t : String} (h : t ∈ [m.text, m.text ++ "-beta"]) :
    ∃ r pre, Triple.Ending r pre ∧ t = String.ofList (m.chars ++ r ++ []) := by
  simp only [List.mem_cons, List.not_mem_nil, or_false] at h
  rcases h with rfl | rfl
  · exact ⟨[], none, .none, by simp [Triple.text]⟩
  · refine ⟨_, _, .beta, ?_⟩
    rw [Triple.text, List.append_nil, String.ofList_append, String.ofList_toList]

/-- Versions of three numbers are compared as numbers, with releases and with beta releases. A
segment that looks like a version and has only ASCII characters is such a version, up to one line
feed. It is compared in the same way, and it is never taken for no version, even where its numbers
are too long to be read. -/
theorem versions_compare_as_numbers :
    (∀ v m : Triple, v.Short → m.Short → ∀ t ∈ [m.text, m.text ++ "-beta"],
      isOlderThan v.text t = .ok (some (decide (v.Precedes m)))) ∧
    ∀ segments, ∀ s ∈ versionsIn segments, (∀ c ∈ s.toList, c.toNat < 128) →
      ∃ v : Triple, (s = v.text ∨ s = v.text ++ "\n") ∧
        ∀ m : Triple, ∀ t ∈ [m.text, m.text ++ "-beta"],
          isOlderThan s t ≠ .ok none ∧
          (v.Short → m.Short → isOlderThan s t = .ok (some (decide (v.Precedes m)))) := by
  constructor
  · intro v m hv hm t ht
    obtain ⟨r, pre, hend, rfl⟩ := threshold_cases ht
    have htext : v.text = String.ofList (v.chars ++ [] ++ []) := by simp [Triple.text]
    rw [htext]
    exact isOlderThan_chars hend nofun hv hm
  · intro segments s hs hascii
    obtain ⟨v, bs, hbs, hs⟩ := segment_cases (List.mem_filter.mp hs).2 hascii
    have hblank : ∀ c ∈ bs, Text.isBlank c = true := by
      rcases hbs with rfl | rfl <;> simp [Text.isBlank]
    obtain rfl : s = String.ofList (v.chars ++ [] ++ bs) := by rw [← hs, String.ofList_toList]
    refine ⟨v, ?_, fun m t ht => ?_⟩
    · rcases hbs with rfl | rfl
      · exact Or.inl (by simp [Triple.text])
      · exact Or.inr (by rw [Triple.text, List.append_nil, String.ofList_append])
    · obtain ⟨r, pre, hend, rfl⟩ := threshold_cases ht
      have hnone : ∀ c ∈ ([] : List Char), Text.isBlank c = true := nofun
      constructor
      · exact isOlderThan_ne_none (Triple.parse_ne_none .none hblank v)
          (Triple.parse_ne_none hend hnone m)
      · exact isOlderThan_chars hend hblank

def padded : Triple := ⟨⟨2, 3⟩, ⟨0, 9⟩, ⟨1, 0⟩⟩

def longer : Triple := ⟨⟨0, 3⟩, ⟨0, 10⟩, ⟨0, 0⟩⟩

theorem versions_compare_as_numbers_padded :
    padded.text = "003.9.00" ∧ longer.text = "3.10.0" ∧ padded.Short ∧ longer.Short ∧
      isOlderThan padded.text (longer.text ++ "-beta") = .ok (some true) ∧
      isOlderThan longer.text padded.text = .ok (some false) ∧
      "003.9.00\n" ∈ versionsIn ["js", "003.9.00\n"] ∧
      ∃ v : Triple, ("003.9.00\n" = v.text ∨ "003.9.00\n" = v.text ++ "\n") ∧
        ∀ m : Triple, ∀ t ∈ [m.text, m.text ++ "-beta"], isOlderThan "003.9.00\n" t ≠ .ok none := by
  obtain ⟨hcompare, hsegments⟩ := versions_compare_as_numbers
  have hpadded : padded.Short := by decide
  have hlonger : longer.Short := by decide
  have hmem : "003.9.00\n" ∈ versionsIn ["js", "003.9.00\n"] := by decide
  obtain ⟨v, hv, hjudged⟩ := hsegments _ _ hmem (by simp)
  refine ⟨rfl, rfl, hpadded, hlonger, ?_, ?_, hmem, v, hv, fun m t ht => (hjudged m t ht).1⟩
  · exact hcompare padded longer hpadded hlonger _ (by simp)
  · exact hcompare longer padded hlonger hpadded _ (by simp)

end Link

end MarkupLint
