import MarkupLint.Document.Basic

/-! # The kinds of text in a tree

Text is of the kind of the innermost element around it that has a kind of its own, and plain if
there is none. While a tree grows, the open elements are the elements around what is read next, so
each token keeps this for what is in the tree already: what an open element holds is judged by its
own name and those of the elements outside it, and closing it puts the same content at the same
place.
-/
namespace MarkupLint.Document

open Markup (Token)

variable {mode : ValueMode} {names : List String} {c inner done : Content} {x : Data} {tag : Tag}
  {g : Growth} {around : List Node} {n : Nat} {e : Element}

/-- The kind of the text that stands in elements of some names, innermost first. -/
def kindIn (names : List String) : TextKind := (names.findSome? TextKind.ofName?).getD .plain

theorem kindIn_cons (name : String) (names : List String) :
    kindIn (name :: names) = (TextKind.ofName? name).getD (kindIn names) := by
  unfold kindIn
  rw [List.findSome?_cons]
  cases TextKind.ofName? name <;> rfl

theorem ofName_ne_plain (name : String) : TextKind.ofName? name ≠ some .plain := by
  unfold TextKind.ofName?
  repeat' split
  all_goals nofun

theorem kindIn_eq_plain_iff :
    kindIn names = .plain ↔ ∀ name ∈ names, TextKind.ofName? name = none := by
  induction names with
  | nil => simp [kindIn]
  | cons name names ih =>
    rw [kindIn_cons, List.forall_mem_cons, ← ih]
    cases hname : TextKind.ofName? name with
    | none => simp
    | some kind =>
      have hne : kind ≠ .plain := fun h => ofName_ne_plain name (h ▸ hname)
      simp [hne]

def Data.KindIn (names : List String) : Data → Prop
  | text kind _ => kind = kindIn names
  | _ => True

def Content.KindsIn (names : List String) : Content → Prop
  | nil => True
  | data x rest => x.KindIn names ∧ rest.KindsIn names
  | element tag inner rest => inner.KindsIn (tag.name :: names) ∧ rest.KindsIn names

namespace Content

theorem KindsIn.reverseOnto (hc : c.KindsIn names) (hdone : done.KindsIn names) :
    (c.reverseOnto done).KindsIn names := by
  induction c generalizing done with
  | nil => exact hdone
  | data x rest ih => exact ih hc.2 ⟨hc.1, hdone⟩
  | element tag inner rest _ ih => exact ih hc.2 ⟨hc.1, hdone⟩

theorem KindsIn.topData (hc : c.KindsIn names) (hx : x ∈ c.topData) : x.KindIn names := by
  induction c with
  | nil => cases hx
  | data y rest ih =>
    rcases List.mem_cons.mp hx with rfl | hx
    · exact hc.1
    · exact ih hc.2 hx
  | element tag inner rest _ ih => exact ih hc.2 hx

theorem KindsIn.of_mem (hc : c.KindsIn (around.map fun m => m.tag.name))
    (he : e ∈ c.elements around n) :
    e.content.KindsIn (e.name :: e.ancestors.map fun m => m.tag.name) := by
  induction c generalizing around n with
  | nil => cases he
  | data x rest ih => exact ih hc.2 he
  | element tag inner rest hinner hrest =>
    simp only [elements, List.mem_cons, List.mem_append] at he
    rcases he with rfl | he | he
    · exact hc.1
    · have hheld : inner.KindsIn ((⟨n, tag, inner⟩ :: around).map fun m => m.tag.name) := hc.1
      exact hinner hheld he
    · exact hrest hc.2 he

end Content

def FramesKinded : List Frame → Prop
  | [] => True
  | f :: fs => f.held.KindsIn (f.tag.name :: fs.map fun o => o.tag.name) ∧ FramesKinded fs

namespace Growth

def openNames (g : Growth) : List String := g.frames.map fun f => f.tag.name

/-- All text that has been put into a tree is of the kind of its place. -/
structure Kinded (g : Growth) : Prop where
  top : g.top.KindsIn []
  frames : FramesKinded g.frames

theorem textKind_eq (g : Growth) : g.textKind = kindIn g.openNames := by
  rw [textKind, kindIn, openNames, List.findSome?_map]
  rfl

theorem kinded_empty : empty.Kinded := ⟨trivial, trivial⟩

theorem Kinded.addData (h : g.Kinded) (hx : x.KindIn g.openNames) : (g.addData x).Kinded := by
  unfold Growth.addData
  split
  · next hframes =>
    rw [openNames, hframes] at hx
    exact ⟨⟨hx, h.top⟩, h.frames⟩
  · next f fs hframes =>
    have hf := h.frames
    rw [openNames, hframes] at hx
    rw [hframes] at hf
    exact ⟨h.top, ⟨hx, hf.1⟩, hf.2⟩

theorem Kinded.addElement (h : g.Kinded) (hc : c.KindsIn (tag.name :: g.openNames)) :
    (g.addElement tag c).Kinded := by
  unfold Growth.addElement
  split
  · next hframes =>
    rw [openNames, hframes] at hc
    exact ⟨⟨hc, h.top⟩, h.frames⟩
  · next f fs hframes =>
    have hf := h.frames
    rw [openNames, hframes] at hc
    rw [hframes] at hf
    exact ⟨h.top, ⟨hc, hf.1⟩, hf.2⟩

theorem Kinded.flush (h : g.Kinded) : g.flush.Kinded := by
  unfold Growth.flush
  split
  · exact h
  · have hadd := h.addData (x := .text g.textKind (g.collapse g.pending)) (textKind_eq g)
    exact ⟨hadd.top, hadd.frames⟩

theorem Kinded.special (h : g.Kinded) {make : String → Data} (content : String)
    (hmake : ∀ names s, (make s).KindIn names) : (g.special make content).Kinded :=
  h.flush.addData (hmake _ _)

theorem Kinded.closeOne (h : g.Kinded) : g.closeOne.Kinded := by
  unfold Growth.closeOne
  split
  · exact h
  · next f fs hframes =>
    have hf := h.frames
    rw [hframes] at hf
    have hrest : Kinded { g with frames := fs } := ⟨h.top, hf.2⟩
    exact hrest.addElement (hf.1.reverseOnto trivial)

theorem Kinded.close (h : g.Kinded) (k : Nat) : (close k g).Kinded := by
  induction k generalizing g with
  | zero => exact h
  | succ k ih => exact ih h.closeOne

theorem Kinded.endTag (h : g.Kinded) (name : String) : (g.endTag name).Kinded := by
  unfold Growth.endTag
  split
  · exact ⟨h.top, h.frames⟩
  · dsimp only
    split
    · exact h.flush.close _
    · exact h.flush

theorem Kinded.startTag (h : g.Kinded) (tag : Tag) (closed : Bool) :
    (g.startTag tag closed).Kinded := by
  have hadd : (g.flush.addElement tag .nil).Kinded := h.flush.addElement trivial
  unfold Growth.startTag
  dsimp only
  split
  · exact hadd
  · split
    · exact ⟨hadd.top, hadd.frames⟩
    · exact ⟨h.flush.top, trivial, h.flush.frames⟩

theorem Kinded.add (h : g.Kinded) (t : Token) : (g.add mode t).Kinded := by
  cases t with
  | text content => exact ⟨h.top, h.frames⟩
  | startTag name written closed place => exact h.startTag _ closed
  | endTag name => exact h.endTag name
  | comment content => exact h.special content fun _ _ => trivial
  | instruction content => exact h.special content fun _ _ => trivial
  | doctype content => exact h.special _ fun _ _ => trivial
  | marked content =>
    change (g.addSection content).Kinded
    unfold Growth.addSection
    split
    · exact h.special _ fun _ _ => trivial
    · exact h.special _ fun _ _ => trivial

theorem Kinded.foldl (h : g.Kinded) (ts : List Token) : (ts.foldl (Growth.add mode) g).Kinded := by
  induction ts generalizing g with
  | nil => exact h
  | cons t ts ih => exact ih (h.add t)

theorem Kinded.finish (h : g.Kinded) : g.finish.KindsIn [] :=
  (h.flush.close _).top.reverseOnto trivial

end Growth

theorem Content.kinds_ofTokens (mode : ValueMode) (ts : List Token) :
    (ofTokens mode ts).KindsIn [] :=
  (Growth.kinded_empty.foldl ts).finish

theorem names_enclosing (ns : List Node) :
    (enclosing ns).map Element.name = ns.map fun m => m.tag.name := by
  induction ns with
  | nil => rfl
  | cons m ns ih => exact congrArg (m.tag.name :: ·) ih

/-- In a parsed tree the text that an element holds directly is of the kind that its own name or
the innermost name around it gives. -/
theorem parse_kinds {text : String} {d : Document} (h : Content.parse mode text = .ok d.content)
    (he : e ∈ d.elements) (hx : x ∈ e.content.topData) :
    x.KindIn (e.name :: e.parents.map Element.name) := by
  have hnames : e.parents.map Element.name = e.ancestors.map fun m => m.tag.name :=
    names_enclosing e.ancestors
  rw [hnames]
  unfold Content.parse at h
  cases hts : Markup.tokens text with
  | error fault =>
    rw [hts] at h
    cases h
  | ok ts =>
    rw [hts] at h
    have hkinds : d.content.KindsIn (([] : List Node).map fun m => m.tag.name) :=
      Except.ok.inj h ▸ Content.kinds_ofTokens mode ts
    exact (hkinds.of_mem he).topData hx

end MarkupLint.Document
