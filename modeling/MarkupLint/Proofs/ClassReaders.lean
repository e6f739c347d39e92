import MarkupLint.Proofs.ColumnRewriting
import MarkupLint.Proofs.ParsedTags
import MarkupLint.Proofs.Retouching

/-! # Two readers of classes

The classes of an element are read twice: from the tree, which keeps the last of several values,
and from the text of its start tag, where the first one counts. So the readers agree exactly if
these two values have the same words. In a plain start tag both readers find the same attributes,
and they agree wherever the classes are written once.
-/
namespace MarkupLint

namespace Document

/-- The value of the first attribute of a name, letter case aside. -/
def firstValue (attr : String) (as : List (List Char × List Char)) : Option (List Char) :=
  (as.find? fun a => Text.lower (String.ofList a.1) = attr).map Prod.snd

def lastValue (attr : String) (as : List (List Char × List Char)) : Option (List Char) :=
  firstValue attr as.reverse

/-- The words of a value with its character references read; none if there is no value. -/
def valueWords (value : Option (List Char)) : Except Text.LongNumber (List String) :=
  (Text.unescape (String.ofList (value.getD []))).map Text.words

def rawClasses (d : Document) (e : Element) : Except Text.LongNumber (List String) :=
  (d.rawAttribute? e "class").map fun value => Text.words (value.getD "")

def ClassesAgree (d : Document) (e : Element) : Prop := d.rawClasses e = .ok e.classes

section Merging

variable {as : List Markup.Attribute} {written : List (String × Option String)}

theorem lookup_setAttribute (attr name value : String) (attrs : List (String × String)) :
    (setAttribute name value attrs).lookup attr =
      if attr = name then some value else attrs.lookup attr := by
  induction attrs with
  | nil =>
    by_cases h : attr = name
    · simp [setAttribute, h]
    · simp [setAttribute, List.lookup_cons, beq_false_of_ne h, h]
  | cons a attrs ih =>
    obtain ⟨n, v⟩ := a
    by_cases hn : n = name
    · subst hn
      by_cases h : attr = n
      · simp [setAttribute, h]
      · simp [setAttribute, List.lookup_cons, beq_false_of_ne h, h]
    · rw [setAttribute, if_neg hn, List.lookup_cons, List.lookup_cons, ih]
      by_cases h : attr = n
      · have hne : attr ≠ name := fun heq => hn (h.symm.trans heq)
        simp [h, hn]
      · simp [beq_false_of_ne h]

theorem mergeAttributes_snoc (a : String × Option String) :
    mergeAttributes (written ++ [a]) =
      setAttribute a.1 (a.2.getD "") (mergeAttributes written) := List.foldl_append

theorem lookup_mergeAttributes (attr : String) (written : List (String × Option String)) :
    (mergeAttributes written).lookup attr =
      (written.reverse.find? fun a => a.1 = attr).map fun a => a.2.getD "" := by
  induction written using List.reverseRecOn with
  | nil => rfl
  | append_singleton written a ih =>
    rw [mergeAttributes_snoc, lookup_setAttribute, ih, List.reverse_append,
      List.reverse_singleton, List.singleton_append]
    by_cases h : attr = a.1
    · simp [h]
    · simp [h, Ne.symm h]

theorem value_makeTag {e : Element} {name : String} {place : Option Source.Position}
    (h : e.tag = makeTag .split name written place) :
    e.value? "class" = (written.reverse.find? fun a => a.1 = "class").map fun a =>
      .words (Text.words (a.2.getD "")) := by
  have hmap : ∀ attrs : List (String × String),
      (attrs.map fun a => (a.1, valueOf .split name a.1 a.2)).lookup "class" =
        (attrs.lookup "class").map fun v => .words (Text.words v) := by
    intro attrs
    induction attrs with
    | nil => rfl
    | cons a attrs ih =>
      rw [List.map_cons, List.lookup_cons, List.lookup_cons, ih]
      by_cases ha : "class" = a.1
      · simp [← ha, valueOf, wordAttributes]
      · simp [beq_false_of_ne ha]
  rw [Element.value?, h, makeTag, hmap, lookup_mergeAttributes, Option.map_map]
  rfl

theorem classes_makeTag {e : Element} {name : String} {place : Option Source.Position}
    (h : e.tag = makeTag .split name written place) :
    e.classes = Text.words
      (((written.reverse.find? fun a => a.1 = "class").bind Prod.snd).getD "") := by
  rw [Element.classes, value_makeTag h]
  cases written.reverse.find? fun a => a.1 = "class" <;> rfl

theorem words_attribute_makeTag {e : Element} {name : String} {place : Option Source.Position}
    (h : e.tag = makeTag .split name written place) :
    Text.words ((e.attribute? "class").getD "") = e.classes := by
  rw [Element.attribute?, Element.classes, value_makeTag h]
  cases written.reverse.find? fun a => a.1 = "class" with
  | none => rfl
  | some a => exact Text.words_unwords fun w hw => Text.isWord_of_mem_words hw

theorem forall_tokenAttribute (h : as.mapM Markup.tokenAttribute = .ok written) :
    List.Forall₂ (fun a w => Markup.tokenAttribute a = .ok w) as written := by
  induction as generalizing written with
  | nil =>
    obtain rfl := Except.ok.inj h
    exact .nil
  | cons a as ih =>
    rw [List.mapM_cons] at h
    cases ha : Markup.tokenAttribute a with
    | error fault =>
      rw [ha] at h
      cases h
    | ok w =>
      cases hws : as.mapM Markup.tokenAttribute with
      | error fault =>
        rw [ha, hws] at h
        cases h
      | ok ws =>
        rw [ha, hws] at h
        obtain rfl := Except.ok.inj h
        exact .cons ha (ih hws)

theorem tokenAttribute_ok {a : Markup.Attribute} {w : String × Option String}
    (h : Markup.tokenAttribute a = .ok w) :
    w.1 = Text.lower (String.ofList a.name) ∧
      Text.unescape (String.ofList (a.value.getD [])) = .ok (w.2.getD "") := by
  unfold Markup.tokenAttribute at h
  cases hv : a.value with
  | none =>
    rw [hv] at h
    obtain rfl := Except.ok.inj h
    exact ⟨rfl, rfl⟩
  | some value =>
    rw [hv, Option.mapM_some] at h
    cases hs : Text.unescape (String.ofList value) with
    | error fault =>
      rw [hs] at h
      cases h
    | ok s =>
      rw [hs] at h
      obtain rfl := Except.ok.inj h
      exact ⟨rfl, hs⟩

theorem unescape_lastValue (attr : String)
    (h : as.mapM Markup.tokenAttribute = .ok written) :
    Text.unescape (String.ofList
        ((lastValue attr (as.map fun a => (a.name, a.value.getD []))).getD [])) =
      .ok (((written.reverse.find? fun a => a.1 = attr).bind Prod.snd).getD "") := by
  have hrel : Option.Rel (fun a w => Markup.tokenAttribute a = .ok w)
      (as.reverse.find? fun a => Text.lower (String.ofList a.name) = attr)
      (written.reverse.find? fun w => w.1 = attr) := by
    apply find_related (List.rel_reverse (forall_tokenAttribute h))
    intro a w haw
    rw [(tokenAttribute_ok haw).1]
  have hfound : lastValue attr (as.map fun a => (a.name, a.value.getD [])) =
      (as.reverse.find? fun a => Text.lower (String.ofList a.name) = attr).map fun a =>
        a.value.getD [] := by
    rw [lastValue, firstValue, ← List.map_reverse, List.find?_map, Option.map_map]
    rfl
  rw [hfound]
  generalize (as.reverse.find? fun a => Text.lower (String.ofList a.name) = attr) = a at hrel
  generalize (written.reverse.find? fun w => w.1 = attr) = w at hrel
  cases hrel with
  | none => rfl
  | some haw => exact (tokenAttribute_ok haw).2

end Merging

section Readers

variable {reader : Option String} {text : String} {d : Document} {e : Element} {o : Nat}

/-- Each element of a tree comes from a start tag of the text. -/
theorem parse_tag {mode : ValueMode} {c : Content} {around : List Node} {n : Nat}
    (h : Content.parse mode text = .ok c) (he : e ∈ c.elements around n) :
    ∃ (o : Nat) (name : String) (written : List (String × Option String))
      (place : Source.Position), e.tag = makeTag mode name written (some place) ∧
      Markup.ReadAt .start text.toList name written place o := by
  unfold Content.parse at h
  cases ht : Markup.tokens text with
  | error fault =>
    rw [ht] at h
    cases h
  | ok ts =>
    rw [ht] at h
    have hcontent : Content.ofTokens mode ts = c := Except.ok.inj h
    have htag : e.tag ∈ ts.flatMap (tokenTags mode) := by
      rw [← Content.tags_ofTokens, hcontent, ← c.map_tag_elements around n]
      exact List.mem_map_of_mem he
    obtain ⟨t, ht', htag⟩ := List.mem_flatMap.mp htag
    cases t with
    | startTag name written closed place =>
      obtain ⟨o, ho⟩ := Markup.tokens_readAt ht ht'
      exact ⟨o, name, written, place, List.mem_singleton.mp htag, ho⟩
    | _ => cases htag

theorem read_tag (h : Document.read reader text = .ok d) (he : e ∈ d.elements) :
    ∃ (o : Nat) (name : String) (written : List (String × Option String))
      (place : Source.Position), d.startOf? e = some (o : Int) ∧
      e.tag = makeTag .split name written (some place) ∧
      Markup.ReadAt .start text.toList name written place o := by
  obtain ⟨hparse, hsource⟩ := read_ok h
  obtain ⟨o, name, written, place, heq, ho⟩ := parse_tag hparse he
  refine ⟨o, name, written, place, ?_, heq, ho⟩
  have hplace : place = _ := ho.place.trans (Source.foldl_after_start (text.toList.take o))
  have htagPlace : e.tag.place = some place := by rw [heq]; rfl
  simp only [startOf?, hsource, htagPlace, hplace]
  exact Source.LineIndex.offsetOf_eq (Nat.le_of_lt ho.inside)

theorem read_classes (h : Document.read reader text = .ok d) (he : e ∈ d.elements)
    (ho : d.startOf? e = some (o : Int)) :
    .ok e.classes = valueWords (lastValue "class" (Markup.tagValues (text.toList.drop o))) ∧
      Text.words ((e.attribute? "class").getD "") = e.classes := by
  obtain ⟨o', name, written, place, ho', htag, hread⟩ := read_tag h he
  obtain rfl : o' = o := Int.ofNat_inj.mp (Option.some.inj (ho'.symm.trans ho))
  refine ⟨?_, words_attribute_makeTag htag⟩
  rw [classes_makeTag htag, valueWords, Markup.tagValues,
    unescape_lastValue "class" hread.attributes]
  rfl

theorem rawAttributeIn_words (attr : String) (part : List Char) :
    (rawAttributeIn? attr part).map (fun value => Text.words (value.getD "")) =
      valueWords (firstValue attr (rawAttributes 0 part)) := by
  unfold rawAttributeIn? firstValue valueWords
  cases (rawAttributes 0 part).find? fun a => Text.lower (String.ofList a.1) = attr with
  | none => rfl
  | some a =>
    rw [Option.mapM_some]
    change _ = (Text.unescape (String.ofList a.2)).map Text.words
    cases Text.unescape (String.ofList a.2) <;> rfl

/-- The classes in a start tag are the words of the first value in it; without such a tag they are
taken from the tree. -/
theorem rawClasses_eq (h : Document.read reader text = .ok d)
    (ho : d.startOf? e = some (o : Int)) :
    d.rawClasses e = match startTagAttributes? (text.toList.drop o) with
      | some part => valueWords (firstValue "class" (rawAttributes 0 part))
      | none => .ok (Text.words ((e.attribute? "class").getD "")) := by
  unfold rawClasses rawAttribute?
  rw [(read_ok h).2, ho]
  dsimp only
  rw [Int.toNat_natCast]
  cases startTagAttributes? (text.toList.drop o) with
  | none => rfl
  | some part => exact rawAttributeIn_words "class" part

/-- The readers agree unless the first value in the start tag and the last one for the parser
differ. -/
theorem classesAgree_iff (h : Document.read reader text = .ok d) (he : e ∈ d.elements)
    (ho : d.startOf? e = some (o : Int)) :
    d.ClassesAgree e ↔ ∀ part, startTagAttributes? (text.toList.drop o) = some part →
      valueWords (firstValue "class" (rawAttributes 0 part)) =
        valueWords (lastValue "class" (Markup.tagValues (text.toList.drop o))) := by
  obtain ⟨hclasses, hwords⟩ := read_classes h he ho
  unfold ClassesAgree
  rw [rawClasses_eq h ho, hclasses]
  cases startTagAttributes? (text.toList.drop o) with
  | none =>
    rw [← hclasses, hwords]
    simp
  | some part =>
    constructor
    · intro hagree found hfound
      obtain rfl := Option.some.inj hfound
      exact hagree
    · exact fun hall => hall part rfl

theorem classesAgree_iff_of_plain {t : Markup.SpelledTag} (hplain : t.Plain)
    (h : Document.read reader text = .ok d) (he : e ∈ d.elements)
    (ho : d.startOf? e = some (o : Int)) (ht : t.chars <+: text.toList.drop o) :
    d.ClassesAgree e ↔
      valueWords (firstValue "class" (Markup.spelledValues t.attributes)) =
        valueWords (lastValue "class" (Markup.spelledValues t.attributes)) := by
  obtain ⟨rest, hrest⟩ := ht
  rw [classesAgree_iff h he ho, ← hrest, startTagAttributes_chars, Markup.tagValues_chars hplain]
  constructor
  · intro hall
    have heq := hall t.part rfl
    rwa [rawAttributes_part] at heq
  · intro heq part hpart
    obtain rfl := Option.some.inj hpart
    rwa [rawAttributes_part]

theorem lastValue_eq_firstValue {attr : String} {as : List (List Char × List Char)}
    (h : as.countP (fun a => Text.lower (String.ofList a.1) = attr) ≤ 1) :
    lastValue attr as = firstValue attr as := by
  unfold lastValue firstValue
  rw [← List.head?_filter, ← List.head?_filter, List.filter_reverse]
  rw [List.countP_eq_length_filter] at h
  generalize as.filter (fun a => Text.lower (String.ofList a.1) = attr) = named at h
  match named, h with
  | [], _ => rfl
  | [_], _ => rfl

theorem ClassesAgree.redundantReports (h : d.ClassesAgree e) :
    ∃ reports, Rules.redundantReports d e = .ok reports ∧
      (reports ≠ [] ↔ (Grid.simplify (some e.classText)).isSome = true) := by
  cases hraw : d.rawAttribute? e "class" with
  | error fault =>
    rw [ClassesAgree, rawClasses, hraw] at h
    cases h
  | ok value =>
    have hwords : Text.words (value.getD "") = e.classes := by
      rw [ClassesAgree, rawClasses, hraw] at h
      exact Except.ok.inj h
    have hclasses : Text.words e.classText = Text.words (value.getD "") := by
      rw [Element.classText, ← hwords]
      exact Text.words_unwords fun w hw => Text.isWord_of_mem_words hw
    have hsome : (Grid.simplify (some e.classText)).isSome =
        (Grid.simplify (some (value.getD ""))).isSome := by
      apply Grid.simplify_isSome_congr
      intro w
      change w ∈ Text.words _ ↔ w ∈ Text.words _
      rw [hclasses]
    simp only [Rules.redundantReports, hraw, hsome]
    cases Grid.simplify (some (value.getD "")) with
    | none => exact ⟨[], rfl, by simp⟩
    | some simple => exact ⟨_, rfl, by simp⟩

theorem read_single {α : Type} {f : Document → Element → α} {x : α}
    (h : (Document.read reader text).map (fun d => d.elements.map (f d)) = .ok [x]) :
    ∃ d e, Document.read reader text = .ok d ∧ e ∈ d.elements ∧ f d e = x := by
  cases hread : Document.read reader text with
  | error fault =>
    rw [hread] at h
    cases h
  | ok d =>
    rw [hread] at h
    obtain ⟨e, he, hx⟩ := List.map_eq_singleton_iff.mp (Except.ok.inj h)
    exact ⟨d, e, rfl, he ▸ List.mem_singleton_self e, hx⟩

end Readers

end Document

open Document (firstValue lastValue valueWords)

/-- In a document that was read from a text, the reader of the tree and the reader of the start tag
give an element the same classes exactly if no start tag can be made out in the text, or if the
first value for `class` in it and the last one that the parser finds have the same words. If the
tag is plainly spelled, these are the first and the last value for `class` as the tag is spelled, so
the readers agree if it is written no more than once. Where they agree, a column is judged by the
classes that it has in the tree. -/
theorem class_readers_agree_iff {reader : Option String} {text : String} {d : Document}
    {e : Document.Element} (hread : Document.read reader text = .ok d) (he : e ∈ d.elements) :
    ∃ o : Nat, d.startOf? e = some (o : Int) ∧
      (d.ClassesAgree e ↔ ∀ part,
        Document.startTagAttributes? (text.toList.drop o) = some part →
          valueWords (firstValue "class" (Document.rawAttributes 0 part)) =
            valueWords (lastValue "class" (Markup.tagValues (text.toList.drop o)))) ∧
      (∀ t : Markup.SpelledTag, t.Plain → t.chars <+: text.toList.drop o →
        (d.ClassesAgree e ↔
          valueWords (firstValue "class" (Markup.spelledValues t.attributes)) =
            valueWords (lastValue "class" (Markup.spelledValues t.attributes))) ∧
        (t.attributes.countP (fun a => Text.lower (String.ofList a.name) = "class") ≤ 1 →
          d.ClassesAgree e)) ∧
      (d.ClassesAgree e → ∃ reports, Rules.redundantReports d e = .ok reports ∧
        (reports ≠ [] ↔ (Grid.simplify (some e.classText)).isSome = true)) := by
  obtain ⟨o, ho⟩ := Document.startsAt_of_start hread he
  refine ⟨o, ho.start, Document.classesAgree_iff hread he ho.start, ?_,
    Document.ClassesAgree.redundantReports⟩
  intro t hplain ht
  have hiff := Document.classesAgree_iff_of_plain hplain hread he ho.start ht
  refine ⟨hiff, fun honce => hiff.mpr ?_⟩
  have hcount : (Markup.spelledValues t.attributes).countP
      (fun a => Text.lower (String.ofList a.1) = "class") ≤ 1 := by
    rw [Markup.spelledValues, List.countP_map]
    exact honce
  rw [Document.lastValue_eq_firstValue hcount]

/-- A start tag with a bracket in a value, several blanks between two classes, and a slash. -/
def titledTag : Markup.SpelledTag where
  name := ['a']
  gap := [' ']
  attributes :=
    [{ name := "title".toList
       spelling := .equals [] [] (.quoted '\'' ['>'] (by decide)) (List.all_eq_true.mp rfl)
       gap := [' ']
       name_ne_nil := by decide
       name_chars := List.all_eq_true.mp rfl
       gap_chars := List.all_eq_true.mp rfl },
     { name := "Class".toList
       spelling := .equals [' '] [] (.quoted '"' "b  c".toList (by decide))
         (List.all_eq_true.mp rfl)
       gap := []
       name_ne_nil := by decide
       name_chars := List.all_eq_true.mp rfl
       gap_chars := List.all_eq_true.mp rfl },
     { name := "hidden".toList
       spelling := .alone
       gap := [' ']
       name_ne_nil := by decide
       name_chars := List.all_eq_true.mp rfl
       gap_chars := List.all_eq_true.mp rfl }]
  closed := true
  name_ne_nil := by decide
  name_chars := List.all_eq_true.mp rfl
  gap_chars := List.all_eq_true.mp rfl
  parted := ⟨by decide, by decide⟩
  allParted := ⟨⟨by decide, by decide⟩, ⟨by decide, by decide⟩, ⟨by decide, by decide⟩, trivial⟩

theorem class_readers_agree_iff_titled_tag :
    ∃ d e, Document.read none "<a title='>' Class =\"b  c\"hidden />" = .ok d ∧ e ∈ d.elements ∧
      e.classes = ["b", "c"] ∧ d.ClassesAgree e := by
  have hone : (Document.read none "<a title='>' Class =\"b  c\"hidden />").map
      (fun d => d.elements.map fun e => (d.startOf? e, e.classes)) =
        .ok [(some 0, ["b", "c"])] := by decide +kernel
  obtain ⟨d, e, hread, he, hfound⟩ := Document.read_single hone
  obtain ⟨hstart, hclasses⟩ := Prod.mk.inj hfound
  obtain ⟨o, ho, -, hspelled, -⟩ := class_readers_agree_iff hread he
  obtain rfl : o = 0 := Int.ofNat_inj.mp (Option.some.inj (ho.symm.trans hstart))
  have hplain : titledTag.Plain := ⟨List.all_eq_true.mp rfl, rfl, by decide⟩
  exact ⟨d, e, hread, he, hclasses, (hspelled titledTag hplain (by decide)).2 (by decide +kernel)⟩

def doubledClass : String := "<div class=\"col-1 col-sm-1\" class=\"col-2\"></div>"

/-- A column is reported for classes that it does not have. -/
theorem class_readers_differ :
    ∃ d e, Document.read none doubledClass = .ok d ∧ e ∈ d.elements ∧ ¬d.ClassesAgree e ∧
      Grid.simplify (some e.classText) = none ∧
      ∃ report, Rules.redundantReports d e = .ok [report] := by
  have hone : (Document.read none doubledClass).map (fun d => d.elements.map fun e =>
      (d.rawAttribute? e "class", e.classes)) =
        .ok [(.ok (some "col-1 col-sm-1"), ["col-2"])] := by decide +kernel
  obtain ⟨d, e, hread, he, hfound⟩ := Document.read_single hone
  obtain ⟨hraw, hclasses⟩ := Prod.mk.inj hfound
  refine ⟨d, e, hread, he, ?_, ?_, ?_⟩
  · rw [Document.ClassesAgree, Document.rawClasses, hraw, hclasses]
    decide
  · rw [Document.Element.classText, hclasses]
    decide +kernel
  · have hsimple : (Grid.simplify (some "col-1 col-sm-1")).isSome = true := by decide +kernel
    obtain ⟨simple, hs⟩ := Option.isSome_iff_exists.mp hsimple
    refine ⟨⟨Rules.redundantMessage "col-1 col-sm-1" simple, [e]⟩, ?_⟩
    simp only [Rules.redundantReports, hraw, Option.getD_some, hs]

end MarkupLint
