import MarkupLint.Proofs.TagSpelling
import MarkupLint.Proofs.WrittenValues

/-! # Attributes read back as they are written

In the usual spelling of a start tag each attribute follows a blank. With the blanks counted to the
attribute before them, such a tag is a spelled tag. So a bracket, a quote or a name inside a quoted
value neither ends the tag nor counts as an attribute, and the reader of raw attributes gives the
first value of a name with its references read and its blanks as they are.
-/
namespace MarkupLint

namespace Markup

structure SpacedAttribute where
  lead : List Char
  name : List Char
  spelling : Spelling
  lead_ne_nil : lead ≠ [] := by decide
  lead_blank : ∀ c ∈ lead, Text.isBlank c = true := by exact List.all_eq_true.mp rfl
  name_ne_nil : name ≠ [] := by decide
  name_chars : ∀ c ∈ name, Document.isRawNameChar c = true := by exact List.all_eq_true.mp rfl

/-- A start tag in which each attribute follows a blank, and so does the slash of a closed one. -/
structure SpacedTag where
  name : List Char
  attributes : List SpacedAttribute
  tail : List Char
  closed : Bool
  name_ne_nil : name ≠ []
  name_chars : ∀ c ∈ name, Document.isTagWordChar c = true
  tail_blank : ∀ c ∈ tail, Text.isBlank c = true
  tail_ne_nil : closed = true → tail ≠ []

def SpacedAttribute.chars (a : SpacedAttribute) : List Char :=
  a.lead ++ (a.name ++ a.spelling.chars)

def SpacedTag.chars (t : SpacedTag) : List Char :=
  '<' :: (t.name ++ (t.attributes.flatMap SpacedAttribute.chars ++
    (t.tail ++ if t.closed then ['/', '>'] else ['>'])))

def SpacedTag.first? (t : SpacedTag) (attr : String) : Option SpacedAttribute :=
  t.attributes.find? fun a => Text.lower (String.ofList a.name) = attr

section Shifting

variable {tail : List Char} {closed : Bool} {c : Char}

def gapBefore (tail : List Char) : List SpacedAttribute → List Char
  | [] => tail
  | a :: _ => a.lead

theorem gapBefore_blank (htail : ∀ c ∈ tail, Text.isBlank c = true) (as : List SpacedAttribute) :
    ∀ c ∈ gapBefore tail as, Text.isBlank c = true := by
  cases as with
  | nil => exact htail
  | cons a as => exact a.lead_blank

def shifted (tail : List Char) (htail : ∀ c ∈ tail, Text.isBlank c = true) :
    List SpacedAttribute → List SpelledAttribute
  | [] => []
  | a :: as =>
    { name := a.name
      spelling := a.spelling
      gap := gapBefore tail as
      name_ne_nil := a.name_ne_nil
      name_chars := a.name_chars
      gap_chars := fun c hc => isGapChar_iff.mpr (Or.inl (gapBefore_blank htail as c hc)) } ::
      shifted tail htail as

theorem chars_shifted (htail : ∀ c ∈ tail, Text.isBlank c = true) (closed : Bool)
    (as : List SpacedAttribute) :
    gapBefore tail as ++ attributeChars closed (shifted tail htail as) =
      as.flatMap SpacedAttribute.chars ++ (tail ++ attributeChars closed []) := by
  induction as with
  | nil => rfl
  | cons a as ih =>
    change a.lead ++ (a.name ++ (a.spelling.chars ++
      (gapBefore tail as ++ attributeChars closed (shifted tail htail as)))) = _
    rw [ih, List.flatMap_cons, SpacedAttribute.chars]
    simp only [List.append_assoc]

theorem values_shifted (htail : ∀ c ∈ tail, Text.isBlank c = true) (as : List SpacedAttribute) :
    spelledValues (shifted tail htail as) = as.map fun a => (a.name, a.spelling.value) := by
  induction as with
  | nil => rfl
  | cons a as ih => exact congrArg _ ih

theorem Spelling.mayPrecede_blank (spelling : Spelling) (hc : Text.isBlank c = true) :
    spelling.mayPrecede c = true := by
  cases spelling with
  | alone => exact isGapChar_iff.mpr (Or.inl hc)
  | equals before after text blank =>
    cases text with
    | quoted => rfl
    | bare => exact hc

theorem parts_shifted (htail : ∀ c ∈ tail, Text.isBlank c = true)
    (hclosed : closed = true → tail ≠ []) (as : List SpacedAttribute) {p : Char → Bool}
    (hp : ∀ c, Text.isBlank c = true → p c = true) :
    Parts p (gapBefore tail as) (attributeChars closed (shifted tail htail as)) := by
  have hblank := gapBefore_blank htail as
  constructor
  · cases hgap : gapBefore tail as with
    | cons c gap => exact hp c (hblank c (hgap ▸ List.mem_cons_self))
    | nil =>
      -- no blanks are left out but those before the bracket of an open tag
      cases as with
      | cons a as => exact absurd hgap a.lead_ne_nil
      | nil =>
        cases closed with
        | true => exact absurd hgap (hclosed rfl)
        | false => rfl
  · intro hlast
    exact absurd (hblank '/' (List.mem_of_getLast? hlast)) (by decide)

theorem allParted_shifted (htail : ∀ c ∈ tail, Text.isBlank c = true)
    (hclosed : closed = true → tail ≠ []) (as : List SpacedAttribute) :
    AllParted closed (shifted tail htail as) := by
  induction as with
  | nil => trivial
  | cons a as ih =>
    exact ⟨parts_shifted htail hclosed as fun c => a.spelling.mayPrecede_blank, ih⟩

end Shifting

namespace SpacedTag

def spelled (t : SpacedTag) : SpelledTag where
  name := t.name
  gap := gapBefore t.tail t.attributes
  attributes := shifted t.tail t.tail_blank t.attributes
  closed := t.closed
  name_ne_nil := t.name_ne_nil
  name_chars := t.name_chars
  gap_chars c hc := isGapChar_iff.mpr (Or.inl (gapBefore_blank t.tail_blank t.attributes c hc))
  parted := parts_shifted t.tail_blank t.tail_ne_nil t.attributes fun _ hc =>
    isGapChar_iff.mpr (Or.inl hc)
  allParted := allParted_shifted t.tail_blank t.tail_ne_nil t.attributes

theorem chars_spelled (t : SpacedTag) : t.spelled.chars = t.chars := by
  have hpart : t.spelled.part =
      t.attributes.flatMap SpacedAttribute.chars ++ (t.tail ++ attributeChars t.closed []) :=
    chars_shifted t.tail_blank t.closed t.attributes
  have hend : attributeChars t.closed [] ++ ['>'] = if t.closed then ['/', '>'] else ['>'] := by
    cases t.closed <;> rfl
  rw [SpelledTag.chars, hpart, chars, ← hend, List.append_assoc, List.append_assoc]
  rfl

theorem values_spelled (t : SpacedTag) :
    spelledValues t.spelled.attributes = t.attributes.map fun a => (a.name, a.spelling.value) :=
  values_shifted t.tail_blank t.attributes

end SpacedTag

end Markup

namespace Document

variable {d : Document} {e : Element} {text : String} {o : Nat} {t : Markup.SpelledTag}

theorem rawAttribute_spelled (hsource : d.source = some text)
    (hstart : d.startOf? e = some (o : Int)) (ht : t.chars <+: text.toList.drop o)
    (attr : String) :
    d.rawAttribute? e attr = ((Markup.spelledValues t.attributes).find? fun a =>
      Text.lower (String.ofList a.1) = attr).mapM fun a => Text.unescape (String.ofList a.2) := by
  obtain ⟨rest, hrest⟩ := ht
  have hpart : startTagAttributes? (text.toList.drop o) = some t.part := by
    rw [← hrest, startTagAttributes_chars]
  rw [rawAttribute?, hsource, hstart]
  dsimp only
  rw [Int.toNat_natCast, hpart, ← rawAttributes_part]
  rfl

end Document

/-- Where a start tag with blanks before its attributes stands at the offset of an element, the raw
value of an attribute is that of the first attribute of its name, with its references read, and
there is none if no attribute has the name. Unless a decimal reference in the text has too many
digits, the value can be read. -/
theorem raw_attributes_read_back {d : Document} {e : Document.Element} {text : String} {o : Nat}
    {t : Markup.SpacedTag} (hsource : d.source = some text)
    (hstart : d.startOf? e = some (o : Int)) (ht : t.chars <+: text.toList.drop o)
    (attr : String) :
    d.rawAttribute? e attr =
        (t.first? attr).mapM (fun a => Text.unescape (String.ofList a.spelling.value)) ∧
      (d.LimitedReferences → ∃ value, d.rawAttribute? e attr = .ok value) := by
  refine ⟨?_, fun hlimited => hlimited.rawAttribute_ok e attr⟩
  rw [← t.chars_spelled] at ht
  rw [Document.rawAttribute_spelled hsource hstart ht, t.values_spelled, List.find?_map,
    Markup.SpacedTag.first?]
  simp only [Function.comp_def]
  cases t.attributes.find? fun a => Text.lower (String.ofList a.name) = attr with
  | none => rfl
  | some a => rfl

/-- A start tag with a bracket, quotes and an equals sign in a quoted value, an unquoted value, a
name that stands alone, and two values for `id`. -/
def crowdedTag : Markup.SpacedTag where
  name := "h1".toList
  attributes :=
    [{ lead := [' ']
       name := "alt".toList
       spelling := .equals [] [' '] (.quoted '\'' "class=\"b\">".toList (by decide))
         (List.all_eq_true.mp rfl) },
     { lead := [' ', '\n']
       name := "HREF".toList
       spelling := .equals [' '] [' '] (.bare "?x=1&amp;y".toList
         ⟨by decide, List.all_eq_true.mp rfl⟩) (List.all_eq_true.mp rfl) },
     { lead := ['\t'], name := "checked".toList, spelling := .alone },
     { lead := [' ']
       name := "ID".toList
       spelling := .equals [] ['\t'] (.quoted '"' " c \n 'd'".toList (by decide))
         (List.all_eq_true.mp rfl) },
     { lead := [' ']
       name := "id".toList
       spelling := .equals ['\n'] [] (.bare ['e'] ⟨by decide, List.all_eq_true.mp rfl⟩)
         (List.all_eq_true.mp rfl) }]
  tail := [' ']
  closed := true
  name_ne_nil := by decide
  name_chars := List.all_eq_true.mp rfl
  tail_blank := List.all_eq_true.mp rfl
  tail_ne_nil _ := by decide

def crowdedText : String :=
  "<p>\n<h1 alt= 'class=\"b\">' \nHREF = ?x=1&amp;y\tchecked ID=\t\" c \n 'd'\" id\n=e />"

def crowded : Document where
  content :=
    .element ⟨"p", [], some ⟨1, 0⟩⟩
      (.data (.text .plain "\n")
        (.element ⟨"h1", [("alt", .text "class=\"b\">"), ("href", .text "?x=1&y"),
          ("checked", .text ""), ("id", .text "e")], some ⟨2, 0⟩⟩ .nil .nil)) .nil
  source := some crowdedText

theorem raw_attributes_read_back_crowded :
    (Document.read none crowdedText).toOption = some crowded ∧
      ∃ e ∈ crowded.elements, e.name = "h1" ∧ crowded.startOf? e = some 4 ∧
        crowded.rawAttribute? e "alt" = .ok (some "class=\"b\">") ∧
        crowded.rawAttribute? e "href" = .ok (some "?x=1&y") ∧
        crowded.rawAttribute? e "checked" = .ok (some "") ∧
        crowded.rawAttribute? e "id" = .ok (some " c \n 'd'") ∧
        crowded.rawAttribute? e "class" = .ok none := by
  have he : crowded.elements.get ⟨1, by decide⟩ ∈ crowded.elements := List.get_mem _ _
  have hstart : crowded.startOf? (crowded.elements.get ⟨1, by decide⟩) = some (4 : Nat) := by
    decide +kernel
  have htag : crowdedTag.chars <+: crowdedText.toList.drop 4 := by decide +kernel
  have hread := fun attr => (raw_attributes_read_back rfl hstart htag attr).1
  refine ⟨by decide +kernel, _, he, rfl, hstart, ?_, ?_, ?_, ?_, ?_⟩
  · rw [hread]; rfl
  · rw [hread]; rfl
  · rw [hread]; rfl
  · rw [hread]; rfl
  · rw [hread]; rfl

end MarkupLint
