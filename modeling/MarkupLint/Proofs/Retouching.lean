import Mathlib.Data.List.Forall2
import Mathlib.Data.List.TakeWhile
import MarkupLint.Selector.Match

/-! # Retouched documents

A retouch changes a tree where the built-in rules do not look: classes may be listed in another
order or more often, and comments and blank text may go. The elements stay, each with its number
and its place among the others, so a question about a retouched element is the same question about
the element itself. For selectors that is shown by induction on what they say.
-/
namespace MarkupLint

namespace Document

/-- Two attributes say the same: they are equal, or both list the same classes. -/
inductive SameAttribute : String × Value → String × Value → Prop where
  | refl (a : String × Value) : SameAttribute a a
  | classes {ws vs : List String} (h : ∀ c, c ∈ ws ↔ c ∈ vs) :
    SameAttribute ("class", .words ws) ("class", .words vs)

def Data.isInvisible : Data → Bool
  | comment _ => true
  | text _ s => Text.isBlankText s
  | cdata s => Text.isBlankText s
  | _ => false

/-- A change of tags and character data that leaves what the rules ask about. -/
structure Retouch where
  tag : Tag → Tag
  keep : Data → Bool
  name_tag : ∀ t, (tag t).name = t.name
  attributes_tag : ∀ t, List.Forall₂ SameAttribute t.attributes (tag t).attributes
  dropped : ∀ d, keep d = false → d.isInvisible = true

def Content.retouch (R : Retouch) : Content → Content
  | nil => nil
  | data d rest => if R.keep d then data d (rest.retouch R) else rest.retouch R
  | element tag inner rest => element (R.tag tag) (inner.retouch R) (rest.retouch R)

def Node.retouch (R : Retouch) (n : Node) : Node := ⟨n.index, R.tag n.tag, n.content.retouch R⟩

def Element.retouch (R : Retouch) (e : Element) : Element :=
  ⟨e.toNode.retouch R, e.ancestors.map (Node.retouch R)⟩

end Document

open Document (Element Content Node Data Tag Value Retouch SameAttribute)

def Document.retouch (R : Retouch) (d : Document) : Document := ⟨d.content.retouch R, d.source⟩

def Place.retouch (R : Retouch) : Place → Place
  | document => document
  | element e => element (e.retouch R)

variable (R : Retouch)

section Trees

@[simp] theorem Document.Content.size_retouch (c : Content) : (c.retouch R).size = c.size := by
  induction c with
  | nil => rfl
  | data d rest ih => by_cases h : R.keep d = true <;> simp [retouch, size, h, ih]
  | element tag inner rest hi hr => simp [retouch, size, hi, hr]

theorem Document.Content.children_retouch (c : Content) (around : List Node) (n : Nat) :
    (c.retouch R).children (around.map (Node.retouch R)) n =
      (c.children around n).map (Element.retouch R) := by
  induction c generalizing n with
  | nil => rfl
  | data d rest ih => by_cases h : R.keep d = true <;> simp [retouch, children, h, ih]
  | element tag inner rest hi hr =>
    simp only [retouch, children, size_retouch, hr, List.map_cons]
    rfl

theorem Document.Content.elements_retouch (c : Content) (around : List Node) (n : Nat) :
    (c.retouch R).elements (around.map (Node.retouch R)) n =
      (c.elements around n).map (Element.retouch R) := by
  induction c generalizing around n with
  | nil => rfl
  | data d rest ih => by_cases h : R.keep d = true <;> simp [retouch, elements, h, ih]
  | element tag inner rest hi hr =>
    have hinner := hi (⟨n, tag, inner⟩ :: around) (n + 1)
    simp only [retouch, elements, size_retouch, hr, List.map_cons, List.map_append]
    rw [← hinner]
    rfl

theorem Document.Content.topData_retouch (c : Content) :
    (c.retouch R).topData = c.topData.filter R.keep := by
  induction c with
  | nil => rfl
  | data d rest ih => by_cases h : R.keep d = true <;> simp [retouch, topData, h, ih]
  | element tag inner rest _ hr => simp [retouch, topData, hr]

theorem Document.Content.gather_retouch {test : Data → Option String}
    (h : ∀ d s, R.keep d = false → test d = some s → Text.isBlankText s = true) (c : Content) :
    ((c.retouch R).gather test).all Text.isBlankText = (c.gather test).all Text.isBlankText := by
  induction c with
  | nil => rfl
  | data d rest ih =>
    by_cases hk : R.keep d = true
    · simp [retouch, gather, hk, ih]
    · have hblank : (test d).toList.all Text.isBlankText = true := by
        cases ht : test d with
        | none => rfl
        | some s => simp [h d s (by simpa using hk) ht]
      simp [retouch, gather, hk, ih, hblank]
  | element tag inner rest hi hr => simp [retouch, gather, hi, hr]

end Trees

section Elements

variable (e : Element)

@[simp] theorem Document.Element.index_retouch : (e.retouch R).index = e.index := rfl

@[simp] theorem Document.Element.name_retouch : (e.retouch R).name = e.name :=
  R.name_tag e.tag

theorem Document.Element.children_retouch :
    (e.retouch R).children = e.children.map (Element.retouch R) :=
  e.content.children_retouch R (e.toNode :: e.ancestors) (e.index + 1)

theorem Document.Element.descendants_retouch :
    (e.retouch R).descendants = e.descendants.map (Element.retouch R) :=
  e.content.elements_retouch R (e.toNode :: e.ancestors) (e.index + 1)

theorem Document.Element.parent_retouch :
    (e.retouch R).parent? = e.parent?.map (Element.retouch R) := by
  obtain ⟨node, ancestors⟩ := e
  cases ancestors <;> rfl

theorem Document.enclosing_retouch (ns : List Node) :
    enclosing (ns.map (Node.retouch R)) = (enclosing ns).map (Element.retouch R) := by
  induction ns with
  | nil => rfl
  | cons n ns ih =>
    rw [List.map_cons, enclosing, ih]
    rfl

theorem Document.Element.parents_retouch :
    (e.retouch R).parents = e.parents.map (Element.retouch R) :=
  enclosing_retouch R e.ancestors

variable {R} in
theorem filter_retouch {p q : Element → Bool} (h : ∀ e, p (e.retouch R) = q e)
    (es : List Element) :
    (es.map (Element.retouch R)).filter p = (es.filter q).map (Element.retouch R) := by
  have hpq : p ∘ Element.retouch R = q := funext h
  rw [List.filter_map, hpq]

theorem Text.strip_isEmpty (s : String) : (strip s).isEmpty = isBlankText s := by
  have hends : (strip s).isEmpty = true ↔ ∀ c ∈ s.toList.dropWhile isBlank, isBlank c = true := by
    simp [strip, stripList, List.dropWhile_eq_nil_iff]
  rw [Bool.eq_iff_iff, hends, isBlankText, List.all_eq_true]
  constructor
  · intro h c hc
    have hsplit : s.toList.takeWhile isBlank ++ s.toList.dropWhile isBlank = s.toList :=
      List.takeWhile_append_dropWhile
    rw [← hsplit] at hc
    rcases List.mem_append.mp hc with hc | hc
    · exact List.mem_takeWhile_imp hc
    · exact h c hc
  · exact fun h c hc => h c ((List.dropWhile_sublist _).mem hc)

theorem Document.Element.text_isEmpty :
    e.text.isEmpty = (e.content.gather (countedText e.name)).all Text.isBlankText := by
  rw [text, Text.strip_isEmpty, Text.isBlankText, String.toList_join, List.all_flatMap]
  rfl

/-- Of character data that is invisible only blank text counts as the text of an element. -/
theorem Document.Element.isBlankText_of_countedText {name s : String} {d : Data}
    (hd : d.isInvisible = true) (hs : countedText name d = some s) :
    Text.isBlankText s = true := by
  unfold countedText at hs
  split at hs
  · split at hs
    · obtain rfl := Option.some.inj hs
      exact hd
    · cases hs
  · obtain rfl := Option.some.inj hs
    exact hd
  · obtain rfl := Option.some.inj hs
    exact hd
  · cases hs

theorem Document.Element.text_isEmpty_retouch :
    (e.retouch R).text.isEmpty = e.text.isEmpty := by
  rw [text_isEmpty, text_isEmpty, name_retouch]
  apply Content.gather_retouch
  intro d s hd hs
  exact isBlankText_of_countedText (R.dropped d hd) hs

end Elements

section Attributes

variable {as bs : List (String × Value)} {a b : Option (String × Value)} {c : String}

theorem find_related {α β : Type} {rel : α → β → Prop} {xs : List α} {ys : List β}
    {p : α → Bool} {q : β → Bool} (h : List.Forall₂ rel xs ys)
    (hpq : ∀ x y, rel x y → p x = q y) : Option.Rel rel (xs.find? p) (ys.find? q) := by
  induction h with
  | nil => exact .none
  | @cons x y xs ys hxy _ ih =>
    have hsame := hpq x y hxy
    by_cases hq : q y = true
    · simpa [hsame, hq] using Option.Rel.some hxy
    · simpa [hsame, hq] using ih

theorem Document.find_sameAttribute (h : List.Forall₂ SameAttribute as bs) (q : String → Bool) :
    Option.Rel SameAttribute (as.find? fun a => q a.1) (bs.find? fun b => q b.1) := by
  apply find_related h
  intro a b hab
  cases hab <;> rfl

theorem Document.eq_of_sameAttribute (h : Option.Rel SameAttribute a b)
    (hname : ∀ x ∈ a, x.1 ≠ "class") : b = a := by
  cases h with
  | none => rfl
  | some hab =>
    cases hab with
    | refl => rfl
    | classes _ => exact absurd rfl (hname _ rfl)

def Document.listedClasses (cut : String → List String) : Option (String × Value) → List String
  | none => []
  | some (_, .text s) => cut s
  | some (_, .words ws) => ws

theorem Document.mem_listedClasses (h : Option.Rel SameAttribute a b)
    (cut : String → List String) : c ∈ listedClasses cut b ↔ c ∈ listedClasses cut a := by
  cases h with
  | none => exact Iff.rfl
  | some hab =>
    cases hab with
    | refl => exact Iff.rfl
    | classes hws => exact (hws c).symm

theorem Document.Element.value_eq_find (e : Element) (attr : String) :
    e.value? attr = (e.tag.attributes.find? fun a => attr == a.1).map Prod.snd := by
  unfold value?
  induction e.tag.attributes with
  | nil => rfl
  | cons a as ih =>
    obtain ⟨name, value⟩ := a
    cases h : attr == name <;> simp [List.lookup_cons, h, ih]

theorem Document.Element.attribute_retouch (e : Element) (attr : String) (h : attr ≠ "class") :
    (e.retouch R).attribute? attr = e.attribute? attr := by
  have hrel := find_sameAttribute (R.attributes_tag e.tag) fun name => attr == name
  have heq := eq_of_sameAttribute hrel fun x hx hname => ?_
  · rw [attribute?, attribute?, value_eq_find, value_eq_find]
    exact congrArg _ (congrArg _ heq)
  · have hfound := List.find?_some hx
    rw [hname] at hfound
    exact h (by simpa using hfound)

theorem Document.Element.classes_eq (e : Element) :
    e.classes = listedClasses Text.words (e.tag.attributes.find? fun a => "class" == a.1) := by
  rw [classes, value_eq_find]
  generalize (e.tag.attributes.find? fun a => "class" == a.1) = found
  rcases found with _ | ⟨name, value | words⟩ <;> rfl

theorem Document.Element.mem_classes_retouch (e : Element) :
    c ∈ (e.retouch R).classes ↔ c ∈ e.classes := by
  rw [classes_eq, classes_eq]
  exact mem_listedClasses (find_sameAttribute (R.attributes_tag e.tag) fun name =>
    "class" == name) Text.words

@[simp] theorem Document.Element.hasClass_retouch (e : Element) (c : String) :
    (e.retouch R).hasClass c = e.hasClass c := by
  rw [Bool.eq_iff_iff]
  simp [hasClass, mem_classes_retouch]

theorem Document.Element.any_classes_retouch (e : Element) (test : String → Bool) :
    (e.retouch R).classes.any test = e.classes.any test := by
  rw [Bool.eq_iff_iff]
  simp [List.any_eq_true, mem_classes_retouch]

@[simp] theorem Document.Element.isColumn_retouch (e : Element) :
    (e.retouch R).isColumn = e.isColumn :=
  e.any_classes_retouch R Grid.isColumnClass

end Attributes

section Places

variable (d : Document) (p : Place)

theorem Place.name_retouch : (p.retouch R).name = p.name := by
  cases p with
  | document => rfl
  | element e => exact congrArg Text.lowerAscii (e.name_retouch R)

theorem Place.attribute_retouch (attr : String) (h : Text.lowerAscii attr ≠ "class") :
    (p.retouch R).attribute? attr = p.attribute? attr := by
  cases p with
  | document => rfl
  | element e =>
    have hrel := Document.find_sameAttribute (R.attributes_tag e.tag) fun name =>
      decide (Text.lowerAscii name = Text.lowerAscii attr)
    have heq := Document.eq_of_sameAttribute hrel fun x hx hname => ?_
    · exact congrArg (Option.map fun a => a.2.join) heq
    · have hfound := List.find?_some hx
      rw [decide_eq_true_eq, hname] at hfound
      exact h (hfound.symm.trans rfl)

theorem Place.isSome_attribute_retouch (attr : String) :
    ((p.retouch R).attribute? attr).isSome = (p.attribute? attr).isSome := by
  cases p with
  | document => rfl
  | element e =>
    have hrel := Document.find_sameAttribute (R.attributes_tag e.tag) fun name =>
      decide (Text.lowerAscii name = Text.lowerAscii attr)
    have hsome : ∀ {a b : Option (String × Value)}, Option.Rel SameAttribute a b →
        b.isSome = a.isSome := by
      rintro _ _ (_ | _) <;> rfl
    change (Option.map _ _).isSome = (Option.map _ _).isSome
    rw [Option.isSome_map, Option.isSome_map]
    exact hsome hrel

theorem Place.classes_eq (e : Element) :
    (Place.element e).classes = Document.listedClasses Text.spacedWords
      (e.tag.attributes.find? fun a => decide (Text.lowerAscii a.1 = "class")) := by
  unfold classes
  dsimp only
  generalize (e.tag.attributes.find? fun a => decide (Text.lowerAscii a.1 = "class")) = found
  rcases found with _ | ⟨name, value | words⟩ <;> rfl

theorem Place.mem_classes_retouch {c : String} : c ∈ (p.retouch R).classes ↔ c ∈ p.classes := by
  cases p with
  | document => exact Iff.rfl
  | element e =>
    rw [retouch, classes_eq, classes_eq]
    exact Document.mem_listedClasses (Document.find_sameAttribute (R.attributes_tag e.tag)
      fun name => decide (Text.lowerAscii name = "class")) Text.spacedWords

theorem Place.children_retouch :
    (p.retouch R).children (d.retouch R) = (p.children d).map (Element.retouch R) := by
  cases p with
  | document => exact d.content.children_retouch R [] 0
  | element e => exact e.children_retouch R

theorem Document.elements_retouch :
    (d.retouch R).elements = d.elements.map (Element.retouch R) :=
  d.content.elements_retouch R [] 0

theorem Place.descendants_retouch :
    (p.retouch R).descendants (d.retouch R) = (p.descendants d).map (Element.retouch R) := by
  cases p with
  | document => exact d.elements_retouch R
  | element e => exact e.descendants_retouch R

theorem Place.outer_retouch : (p.retouch R).outer = p.outer.map (Place.retouch R) := by
  cases p with
  | document => rfl
  | element e =>
    simp only [retouch, outer, Document.Element.parents_retouch, List.map_append, List.map_map]
    rfl

theorem Place.holder_retouch : (p.retouch R).holder? = p.holder?.map (Place.retouch R) := by
  cases p with
  | document => rfl
  | element e =>
    simp only [retouch, holder?, Document.Element.parent_retouch]
    cases e.parent? <;> rfl

theorem Place.siblings_retouch :
    (p.retouch R).siblings (d.retouch R) = (p.siblings d).map (Element.retouch R) := by
  unfold siblings
  rw [holder_retouch]
  cases p.holder? with
  | none => rfl
  | some h => exact h.children_retouch R d

theorem Place.earlier_retouch :
    (p.retouch R).earlier (d.retouch R) = (p.earlier d).map (Element.retouch R) := by
  cases p with
  | document => rfl
  | element e =>
    have hs := (Place.element e).siblings_retouch R d
    unfold earlier
    dsimp only [retouch] at hs ⊢
    rw [hs]
    exact filter_retouch (fun f => rfl) _

theorem Place.later_retouch :
    (p.retouch R).later (d.retouch R) = (p.later d).map (Element.retouch R) := by
  cases p with
  | document => rfl
  | element e =>
    have hs := (Place.element e).siblings_retouch R d
    unfold later
    dsimp only [retouch] at hs ⊢
    rw [hs]
    exact filter_retouch (fun f => rfl) _

end Places

section Selectors

/-- Whether a selector asks of the class attribute only which classes it lists, and nothing of
character data. -/
def Selector.isPlain : Selector → Bool
  | attr name how _ _ => how = .present || Text.lowerAscii name ≠ "class"
  | empty => false
  | root => false
  | both s t => s.isPlain && t.isPlain
  | either s t => s.isPlain && t.isPlain
  | not s => s.isPlain
  | after _ s => s.isPlain
  | has _ s => s.isPlain
  | _ => true

variable {s : Selector} (d : Document)

theorem Selector.holds_attr_retouch {attr value : String} {how : Comparison} {anyCase : Bool}
    (h : how = .present ∨ Text.lowerAscii attr ≠ "class") (scope : Nat) (p : Place) :
    (Selector.attr attr how value anyCase).holds (d.retouch R) scope (p.retouch R) =
      (Selector.attr attr how value anyCase).holds d scope p := by
  rcases h with rfl | h
  · have hpresent : ∀ (d : Document) (p : Place),
        (Selector.attr attr .present value anyCase).holds d scope p =
          (p.attribute? attr).isSome := by
      intro d p
      simp only [holds]
      cases p.attribute? attr <;> rfl
    rw [hpresent, hpresent, p.isSome_attribute_retouch]
  · simp only [holds, p.attribute_retouch R attr h]

theorem Selector.holds_retouch (h : s.isPlain = true) (scope : Nat) (p : Place) :
    s.holds (d.retouch R) scope (p.retouch R) = s.holds d scope p := by
  have hname : ∀ f : Element, (Place.element (f.retouch R)).name = (Place.element f).name :=
    fun f => (Place.element f).name_retouch R
  induction s generalizing p with
  | any => rfl
  | never => rfl
  | tag name => simp only [holds, p.name_retouch R]
  | id name => simp only [holds, p.attribute_retouch R "id" (by decide)]
  | cls name =>
    rw [Bool.eq_iff_iff]
    simp [holds, p.mem_classes_retouch R]
  | attr name how value anyCase =>
    apply holds_attr_retouch
    simpa [isPlain] using h
  | first => simp only [holds, p.earlier_retouch R d, List.isEmpty_map]
  | last => simp only [holds, p.later_retouch R d, List.isEmpty_map]
  | firstOfType =>
    simp only [holds, p.earlier_retouch R d, p.name_retouch R, List.any_map, Function.comp_def,
      hname]
  | lastOfType =>
    simp only [holds, p.later_retouch R d, p.name_retouch R, List.any_map, Function.comp_def,
      hname]
  | empty => cases h
  | root => cases h
  | scope => cases p <;> rfl
  | both s t hs ht =>
    have hst := Bool.and_eq_true_iff.mp h
    simp only [holds, hs hst.1, ht hst.2]
  | either s t hs ht =>
    have hst := Bool.and_eq_true_iff.mp h
    simp only [holds, hs hst.1, ht hst.2]
  | not s hs => simp only [holds, hs h]
  | after relation s hs =>
    have hplace : ∀ q : Place, s.holds (d.retouch R) scope (q.retouch R) = s.holds d scope q :=
      hs h
    have hrelated : ∀ f : Element, s.holds (d.retouch R) scope (.element (f.retouch R)) =
        s.holds d scope (.element f) := fun f => hs h (.element f)
    cases relation with
    | descendant =>
      simp only [holds, p.outer_retouch R, List.any_map, Function.comp_def, hplace]
    | child => simp only [holds, p.holder_retouch R, Option.any_map, hplace]
    | sibling =>
      simp only [holds, p.earlier_retouch R d, List.any_map, Function.comp_def, hrelated]
    | adjacent =>
      simp only [holds, p.earlier_retouch R d, List.getLast?_map, Option.any_map, hrelated]
  | has relation s hs =>
    have hrelated : ∀ f : Element, s.holds (d.retouch R) scope (.element (f.retouch R)) =
        s.holds d scope (.element f) := fun f => hs h (.element f)
    cases relation with
    | descendant =>
      simp only [holds, p.descendants_retouch R d, List.any_map, Function.comp_def, hrelated]
    | child =>
      simp only [holds, p.children_retouch R d, List.any_map, Function.comp_def, hrelated]
    | sibling =>
      simp only [holds, p.later_retouch R d, List.any_map, Function.comp_def, hrelated]
    | adjacent =>
      simp only [holds, p.later_retouch R d, List.head?_map, Option.any_map, hrelated]

theorem Selector.accepts_retouch (h : s.isPlain = true) (e : Element) :
    s.accepts (d.retouch R) (e.retouch R) = s.accepts d e :=
  holds_retouch R d h e.index (.element e)

theorem Selector.accepts_comp_retouch (h : s.isPlain = true) :
    (fun f => s.accepts (d.retouch R) f) ∘ Element.retouch R = fun f => s.accepts d f :=
  funext fun f => accepts_retouch R d h f

theorem Document.select_retouch (h : s.isPlain = true) :
    (d.retouch R).select s = (d.select s).map (Element.retouch R) := by
  rw [select, elements_retouch]
  exact filter_retouch (fun e => Selector.holds_retouch R d h 0 (.element e)) _

theorem Document.selectUnder_retouch (h : s.isPlain = true) (e : Element) :
    (d.retouch R).selectUnder s (e.retouch R) = (d.selectUnder s e).map (Element.retouch R) := by
  rw [selectUnder, Element.descendants_retouch, Element.index_retouch]
  exact filter_retouch (fun f => Selector.holds_retouch R d h e.index (.element f)) _

theorem Document.selectChildren_retouch (h : s.isPlain = true) (e : Element) :
    (d.retouch R).selectChildren s (e.retouch R) =
      (d.selectChildren s e).map (Element.retouch R) := by
  rw [selectChildren, Element.children_retouch]
  exact filter_retouch (Selector.accepts_retouch R d h) _

theorem Document.closest_retouch (h : s.isPlain = true) (e : Element) :
    (d.retouch R).closest? s (e.retouch R) = (d.closest? s e).map (Element.retouch R) := by
  rw [closest?, Element.parents_retouch, ← List.map_cons, List.find?_map,
    Selector.accepts_comp_retouch R d h]
  rfl

theorem Document.countFrom_retouch (h : s.isPlain = true) (e : Element) :
    (d.retouch R).countFrom s (e.retouch R) = d.countFrom s e := by
  rw [countFrom, Element.parents_retouch, ← List.map_cons, List.countP_map,
    Selector.accepts_comp_retouch R d h]
  rfl

end Selectors

end MarkupLint
