import Mathlib.Data.List.Find
import MarkupLint.Proofs.ClassReaders

/-! # What selectors see

Selectors compare the names of elements and of attributes without regard to the case of the letters
`A` to `Z`, and they look for classes in the first attribute of that name. The names that the parser
puts into a tree have no such capitals, since lower-casing leaves none. So in a parsed tree
selectors see just the name, the values and the classes that an element has.
-/
namespace MarkupLint

open Document (Element Content Node ValueMode)

namespace Text

variable {c : Char}

theorem toLower_eq_self (h : c.toNat < 65 ∨ 90 < c.toNat) : c.toLower = c := by
  unfold Char.toLower
  split
  · next hc =>
    have hlow : 65 ≤ c.toNat := hc.1
    have hhigh : c.toNat ≤ 90 := hc.2
    omega
  · rfl

theorem toLower_toLower (c : Char) : c.toLower.toLower = c.toLower := by
  by_cases h : c.toNat < 65 ∨ 90 < c.toNat
  · rw [toLower_eq_self h, toLower_eq_self h]
  · have hlow : 65 ≤ c.toNat := by omega
    have hhigh : c.toNat ≤ 90 := by omega
    have hmoved : c.toLower.toNat = c.toNat + 32 := by
      unfold Char.toLower
      rw [dif_pos ⟨hlow, hhigh⟩]
      change (c.val + 32).toNat = c.val.toNat + 32
      rw [UInt32.toNat_add]
      exact Nat.mod_eq_of_lt (by change c.toNat + 32 < _; omega)
    exact toLower_eq_self (by omega)

theorem toLower_ofNat {n : Nat} (h : 90 < n) : (Char.ofNat n).toLower = Char.ofNat n := by
  by_cases hv : n.isValidChar
  · have hsame : (Char.ofNat n).toNat = n := by
      rw [Char.ofNat, dif_pos hv]
      rfl
    exact toLower_eq_self (by omega)
  -- a number that is no character stands for the null character
  · rw [Char.ofNat, dif_neg hv]
    rfl

theorem toLower_lowerChar (c : Char) : (lowerChar c).toLower = lowerChar c := by
  unfold lowerChar
  split
  · exact toLower_toLower c
  · split
    · rfl
    · unfold shiftBy
      dsimp only
      split
      · next r hr =>
        -- no run of the table leads below the letters after `Z`
        have hruns : ∀ r ∈ lowerRuns, 90 < (r.1 : Int) + r.2.2.2 := by decide +kernel
        have hmoved := hruns r (List.mem_of_find?_eq_some hr)
        have hin := List.find?_some hr
        simp only [Bool.and_eq_true, decide_eq_true_eq] at hin
        exact toLower_ofNat (by omega)
      · exact toLower_eq_self (by omega)

theorem toLower_of_mem_lowerList {cs : List Char} {afterLetter : Bool}
    (h : c ∈ lowerList afterLetter cs) : c.toLower = c := by
  induction cs generalizing afterLetter with
  | nil => cases h
  | cons x cs ih =>
    unfold lowerList at h
    dsimp only at h
    split at h
    · rcases List.mem_cons.mp h with rfl | h
      · split <;> rfl
      · exact ih h
    · split at h
      · simp only [List.mem_cons] at h
        rcases h with rfl | rfl | h
        · rfl
        · rfl
        · exact ih h
      · rcases List.mem_cons.mp h with rfl | h
        · exact toLower_lowerChar x
        · exact ih h

theorem lowerAscii_lower (s : String) : lowerAscii (lower s) = lower s := by
  have hmap : (lowerList false s.toList).map Char.toLower = lowerList false s.toList :=
    (List.map_congr_left fun c hc => toLower_of_mem_lowerList hc).trans (List.map_id _)
  rw [lowerAscii, lower, String.toList_ofList, hmap]

end Text

section Attributes

variable {text : String} {mode : ValueMode} {c : Content} {around : List Node} {n : Nat}
  {e : Element}

theorem Document.mem_setAttribute {name value : String} {attrs : List (String × String)}
    {a : String × String} (h : a ∈ setAttribute name value attrs) : a.1 = name ∨ a ∈ attrs := by
  induction attrs with
  | nil =>
    obtain rfl := List.mem_singleton.mp h
    exact Or.inl rfl
  | cons b attrs ih =>
    obtain ⟨m, v⟩ := b
    by_cases hm : m = name
    · rw [setAttribute, if_pos hm] at h
      rcases List.mem_cons.mp h with rfl | h
      · exact Or.inl hm
      · exact Or.inr (List.mem_cons_of_mem _ h)
    · rw [setAttribute, if_neg hm] at h
      rcases List.mem_cons.mp h with rfl | h
      · exact Or.inr List.mem_cons_self
      · exact (ih h).imp id (List.mem_cons_of_mem _)

theorem Document.mem_mergeAttributes {written : List (String × Option String)}
    {a : String × String} (h : a ∈ mergeAttributes written) : ∃ w ∈ written, w.1 = a.1 := by
  induction written using List.reverseRecOn with
  | nil => cases h
  | append_singleton written w ih =>
    rw [mergeAttributes_snoc] at h
    rcases mem_setAttribute h with hname | h
    · exact ⟨w, List.mem_append_right _ List.mem_cons_self, hname.symm⟩
    · obtain ⟨v, hv, hname⟩ := ih h
      exact ⟨v, List.mem_append_left _ hv, hname⟩

theorem Document.lowerNames_written {as : List Markup.Attribute}
    {written : List (String × Option String)}
    (h : List.Forall₂ (fun a w => Markup.tokenAttribute a = .ok w) as written) :
    ∀ w ∈ written, Text.lowerAscii w.1 = w.1 := by
  induction h with
  | nil =>
    intro w hw
    cases hw
  | cons haw _ ih =>
    intro w hw
    rcases List.mem_cons.mp hw with rfl | hw
    · rw [(tokenAttribute_ok haw).1, Text.lowerAscii_lower]
    · exact ih w hw

/-- The names of the attributes in a parsed tree have no capitals for selectors to overlook. -/
theorem Document.parse_lowerNames (h : Content.parse mode text = .ok c)
    (he : e ∈ c.elements around n) {a : String × Value} (ha : a ∈ e.tag.attributes) :
    Text.lowerAscii a.1 = a.1 := by
  obtain ⟨o, name, written, place, htag, hread⟩ := parse_tag h he
  rw [htag] at ha
  obtain ⟨b, hb, rfl⟩ := List.mem_map.mp ha
  obtain ⟨w, hw, hname⟩ := mem_mergeAttributes hb
  change Text.lowerAscii b.1 = b.1
  rw [← hname]
  exact lowerNames_written (forall_tokenAttribute hread.attributes) w hw

theorem Document.seen_name (h : Content.parse mode text = .ok c) (he : e ∈ c.elements around n) :
    (Place.element e).name = e.name := by
  obtain ⟨o, name, written, place, htag, hread⟩ := parse_tag h he
  change Text.lowerAscii e.tag.name = e.tag.name
  rw [htag]
  change Text.lowerAscii name = name
  rw [hread.name, Markup.tagName, Text.lowerAscii_lower]

theorem Document.find_lowerName (h : Content.parse mode text = .ok c)
    (he : e ∈ c.elements around n) (attr : String) :
    (e.tag.attributes.find? fun a => decide (Text.lowerAscii a.1 = attr)) =
      e.tag.attributes.find? fun a => attr == a.1 := by
  apply List.find?_congr
  intro a ha
  rw [parse_lowerNames h he ha]
  by_cases hname : a.1 = attr
  · simp [hname]
  · simp [hname, Ne.symm hname]

theorem Document.seen_attribute (h : Content.parse mode text = .ok c)
    (he : e ∈ c.elements around n) {attr : String} (hattr : Text.lowerAscii attr = attr) :
    (Place.element e).attribute? attr = e.attribute? attr := by
  rw [Place.attribute?, Place.tagAttribute?, hattr, find_lowerName h he, Element.attribute?,
    Element.value_eq_find, Option.map_map]
  rfl

theorem Document.seen_classes (h : Content.parse .split text = .ok c)
    (he : e ∈ c.elements around n) : (Place.element e).classes = e.classes := by
  have hfound := find_lowerName h he "class"
  obtain ⟨o, name, written, place, htag, -⟩ := parse_tag h he
  have hvalue := value_makeTag htag
  rw [Element.value_eq_find] at hvalue
  rw [Place.classes_eq, Element.classes_eq, hfound]
  generalize (e.tag.attributes.find? fun a => "class" == a.1) = found at hvalue
  rcases found with _ | ⟨attr, value | words⟩
  · rfl
  · cases hw : written.reverse.find? fun a => a.1 = "class" <;> rw [hw] at hvalue <;> cases hvalue
  · rfl

end Attributes

namespace Selector

variable {d : Document} {scope : Nat} {text attr name : String} {mode : ValueMode} {e : Element}
  {outer inner : Selector}

/-- What does not hold of the whole document holds of the parent where a child is asked for. -/
theorem holds_child (h : outer.holds d scope .document = false) :
    (child outer inner).holds d scope (.element e) = true ↔
      inner.holds d scope (.element e) = true ∧
        ∃ p, e.parent? = some p ∧ outer.holds d scope (.element p) = true := by
  change (inner.holds d scope (.element e) &&
    (Place.element e).holder?.any fun q => outer.holds d scope q) = true ↔ _
  rw [Bool.and_eq_true]
  apply and_congr_right
  intro _
  dsimp only [Place.holder?]
  cases e.parent? with
  | none => simp [h]
  | some p => simp

theorem holds_tag (h : Content.parse mode text = .ok d.content) (he : e ∈ d.elements) :
    (tag name).holds d scope (.element e) = true ↔ e.name = name := by
  rw [holds, decide_eq_true_eq, Document.seen_name h he]

theorem holds_withAttr (h : Content.parse mode text = .ok d.content) (he : e ∈ d.elements)
    (hattr : Text.lowerAscii attr = attr) :
    (withAttr attr).holds d scope (.element e) = true ↔ (e.attribute? attr).isSome = true := by
  rw [withAttr, holds, Document.seen_attribute h he hattr]
  cases e.attribute? attr with
  | none => simp
  | some v => simp [Comparison.test]

end Selector

end MarkupLint
