import MarkupLint.Document.Basic

/-! # The growth of a tree

A tree under construction has its heads in an order: those outside the open elements, then for each
open element, from the outside in, its own and those that it holds. Closing elements and adding
character data leave this order as it is, and a start tag adds one head at its end. So the elements
of a tree come in the order of their start tags.
-/
namespace MarkupLint.Document

open Markup (Token)

variable {mode : ValueMode} {tag : Tag} {c inner : Content} {d : Data} {g : Growth}

namespace Content

def tags : Content → List Tag
  | nil => []
  | data _ rest => rest.tags
  | element tag inner rest => tag :: (inner.tags ++ rest.tags)

theorem map_tag_elements (c : Content) (around : List Node) (n : Nat) :
    (c.elements around n).map (fun e => e.tag) = c.tags := by
  induction c generalizing around n with
  | nil => rfl
  | data d rest ih => exact ih around n
  | element tag inner rest hinner hrest =>
    rw [elements, tags, List.map_cons, List.map_append, hinner, hrest]

/-- The heads in content that is held in reverse, in document order. -/
def heldTags (c : Content) : List Tag := (c.reverseOnto nil).tags

theorem tags_reverseOnto (c done : Content) :
    (c.reverseOnto done).tags = c.heldTags ++ done.tags := by
  unfold heldTags
  induction c generalizing done with
  | nil => rfl
  | data d rest ih =>
    rw [reverseOnto, reverseOnto, ih (data d done), ih (data d nil)]
    simp [tags]
  | element tag inner rest _ ih =>
    rw [reverseOnto, reverseOnto, ih (element tag inner done), ih (element tag inner nil)]
    simp [tags]

@[simp] theorem heldTags_nil : heldTags nil = [] := rfl

@[simp] theorem heldTags_data : heldTags (data d c) = c.heldTags := by
  rw [heldTags, reverseOnto, tags_reverseOnto]
  exact List.append_nil _

@[simp] theorem heldTags_element :
    heldTags (element tag inner c) = c.heldTags ++ tag :: inner.tags := by
  rw [heldTags, reverseOnto, tags_reverseOnto]
  simp [tags]

end Content

def Frame.tags (f : Frame) : List Tag := f.tag :: f.held.heldTags

namespace Growth

def tags (g : Growth) : List Tag := g.top.heldTags ++ g.frames.reverse.flatMap Frame.tags

@[simp] theorem tags_addData : (g.addData d).tags = g.tags := by
  unfold addData
  split
  · next h => simp [tags, h]
  · next h => simp [tags, h, Frame.tags]

@[simp] theorem tags_addElement : (g.addElement tag inner).tags = g.tags ++ tag :: inner.tags := by
  unfold addElement
  split
  · next h => simp [tags, h]
  · next h => simp [tags, h, Frame.tags]

@[simp] theorem tags_flush (g : Growth) : g.flush.tags = g.tags := by
  unfold flush
  split
  · rfl
  · exact tags_addData

@[simp] theorem tags_special (g : Growth) (make : String → Data) (content : String) :
    (g.special make content).tags = g.tags := by
  rw [special, tags_addData, tags_flush]

@[simp] theorem tags_closeOne (g : Growth) : g.closeOne.tags = g.tags := by
  unfold closeOne
  split
  · rfl
  · next f fs h =>
    rw [tags_addElement]
    simp [tags, h, Frame.tags, Content.heldTags]

@[simp] theorem tags_close (n : Nat) (g : Growth) : (close n g).tags = g.tags := by
  induction n generalizing g with
  | zero => rfl
  | succ n ih => rw [close, ih, tags_closeOne]

@[simp] theorem tags_endTag (g : Growth) (name : String) : (g.endTag name).tags = g.tags := by
  unfold endTag
  split
  · rfl
  · dsimp only
    split
    · rw [tags_close, tags_flush]
    · exact tags_flush g

theorem tags_startTag (g : Growth) (tag : Tag) (closed : Bool) :
    (g.startTag tag closed).tags = g.tags ++ [tag] := by
  have hadd : (g.flush.addElement tag .nil).tags = g.tags ++ [tag] := by
    rw [tags_addElement, tags_flush]
    rfl
  unfold startTag
  dsimp only
  split
  · exact hadd
  · split
    · exact hadd
    · rw [← tags_flush g]
      simp [tags, Frame.tags]

end Growth

def tokenTags (mode : ValueMode) : Token → List Tag
  | .startTag name written _ place => [makeTag mode name written (some place)]
  | _ => []

namespace Growth

theorem tags_add (g : Growth) (t : Token) :
    (g.add mode t).tags = g.tags ++ tokenTags mode t := by
  cases t with
  | startTag name written closed place => exact tags_startTag g _ closed
  | text content => exact (List.append_nil _).symm
  | endTag name => simp [add, tokenTags]
  | comment content => simp [add, tokenTags]
  | instruction content => simp [add, tokenTags]
  | doctype content => simp [add, tokenTags]
  | marked content =>
    simp only [add, tokenTags, List.append_nil]
    unfold addSection
    split <;> exact tags_special g _ _

theorem tags_foldl (ts : List Token) (g : Growth) :
    (ts.foldl (add mode) g).tags = g.tags ++ ts.flatMap (tokenTags mode) := by
  induction ts generalizing g with
  | nil => simp
  | cons t ts ih => rw [List.foldl_cons, ih, tags_add, List.flatMap_cons, List.append_assoc]

theorem frames_closeOne (g : Growth) : g.closeOne.frames.length = g.frames.length - 1 := by
  unfold closeOne
  split
  · next h => simp [h]
  · next f fs h =>
    unfold addElement
    split <;> simp_all

theorem frames_close (n : Nat) (g : Growth) :
    (close n g).frames.length = g.frames.length - n := by
  induction n generalizing g with
  | zero => rfl
  | succ n ih =>
    rw [close, ih, frames_closeOne]
    omega

theorem tags_finish (g : Growth) : g.finish.tags = g.tags := by
  have hclosed : (close g.flush.frames.length g.flush).frames = [] := by
    apply List.eq_nil_of_length_eq_zero
    rw [frames_close]
    omega
  have htags := tags_close g.flush.frames.length g.flush
  rw [tags_flush, tags, hclosed] at htags
  exact (List.append_nil _).symm.trans htags

end Growth

/-- The elements of a tree come in the order of the start tags that it is made from. -/
theorem Content.tags_ofTokens (mode : ValueMode) (ts : List Token) :
    (ofTokens mode ts).tags = ts.flatMap (tokenTags mode) := by
  rw [ofTokens, Growth.tags_finish, Growth.tags_foldl]
  rfl

end MarkupLint.Document
