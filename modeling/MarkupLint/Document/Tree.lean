import MarkupLint.Document.Content
import MarkupLint.Markup.TokenStream

/-! # Trees from markup

How the tokens of a markup text become a tree. A start tag opens an element inside the
innermost open one; an end tag closes the innermost open element of its name and all inside it.
No tag is implied.
-/
namespace MarkupLint.Document

open Markup (Token)

def voidNames : List String :=
  ["area", "base", "br", "col", "embed", "hr", "img", "input", "keygen", "link", "menuitem",
    "meta", "param", "source", "track", "wbr", "basefont", "bgsound", "command", "frame",
    "image", "isindex", "nextid", "spacer"]

def isVoid (name : String) : Bool := voidNames.contains name

def wordAttributes : List String := ["class", "accesskey", "dropzone"]

def wordAttributesOf (name : String) : List String :=
  if name = "a" || name = "link" then ["rel", "rev"]
  else if name = "area" then ["rel"]
  else if name = "td" || name = "th" then ["headers"]
  else if name = "form" then ["accept-charset"]
  else if name = "object" then ["archive"]
  else if name = "icon" then ["sizes"]
  else if name = "iframe" then ["sandbox"]
  else if name = "output" then ["for"]
  else []

inductive ValueMode where
  | split
  | whole
  deriving DecidableEq, Repr

def valueOf (mode : ValueMode) (tag attr value : String) : Value :=
  if mode = .split && (wordAttributes.contains attr || (wordAttributesOf tag).contains attr) then
    .words (Text.words value)
  else .text value

def setAttribute (name value : String) : List (String × String) → List (String × String)
  | [] => [(name, value)]
  | (n, v) :: rest =>
    if n = name then (n, value) :: rest else (n, v) :: setAttribute name value rest

/-- The attributes of a start tag, one per name: the last value counts. -/
def mergeAttributes (written : List (String × Option String)) : List (String × String) :=
  written.foldl (fun attrs a => setAttribute a.1 (a.2.getD "") attrs) []

def makeTag (mode : ValueMode) (name : String) (written : List (String × Option String))
    (place : Option Source.Position) : Tag :=
  ⟨name, (mergeAttributes written).map fun a => (a.1, valueOf mode name a.1 a.2), place⟩

/-- An open element: its head and what it holds so far, in reverse. -/
structure Frame where
  tag : Tag
  held : Content
  deriving DecidableEq, Repr

structure Growth where
  frames : List Frame
  top : Content
  pending : String
  /-- The void elements whose end tags are still to be passed over. -/
  closedVoids : List String
  deriving DecidableEq, Repr

namespace Growth

def empty : Growth := ⟨[], .nil, "", []⟩

def addData (g : Growth) (d : Data) : Growth :=
  match g.frames with
  | [] => { g with top := .data d g.top }
  | f :: fs => { g with frames := { f with held := .data d f.held } :: fs }

def addElement (g : Growth) (tag : Tag) (content : Content) : Growth :=
  match g.frames with
  | [] => { g with top := .element tag content g.top }
  | f :: fs => { g with frames := { f with held := .element tag content f.held } :: fs }

def keepsBlanks (g : Growth) : Bool :=
  g.frames.any fun f => f.tag.name = "pre" || f.tag.name = "textarea"

/-- A text of white space alone counts as one line feed or one space. -/
def collapse (g : Growth) (content : String) : String :=
  if !g.keepsBlanks && content.toList.all Text.isSpace then
    (if content.toList.contains '\n' then "\n" else " ")
  else content

def textKind (g : Growth) : TextKind :=
  (g.frames.findSome? fun f => TextKind.ofName? f.tag.name).getD .plain

def flush (g : Growth) : Growth :=
  if g.pending.isEmpty then g
  else { g.addData (.text g.textKind (g.collapse g.pending)) with pending := "" }

def special (g : Growth) (make : String → Data) (content : String) : Growth :=
  let g := g.flush
  g.addData (make (g.collapse content))

def closeOne (g : Growth) : Growth :=
  match g.frames with
  | [] => g
  | f :: fs => { g with frames := fs }.addElement f.tag (f.held.reverseOnto .nil)

def close : Nat → Growth → Growth
  | 0, g => g
  | n + 1, g => close n g.closeOne

def endTag (g : Growth) (name : String) : Growth :=
  -- a void element was closed where it was opened, so its end tag closes nothing
  if g.closedVoids.contains name then { g with closedVoids := g.closedVoids.erase name }
  else
    let g := g.flush
    match g.frames.findIdx? fun f => f.tag.name = name with
    | some n => close (n + 1) g
    | none => g

def startTag (g : Growth) (tag : Tag) (closed : Bool) : Growth :=
  let g := g.flush
  -- a tag with a slash has no end tag to be passed over, not even that of a void element
  if closed then g.addElement tag .nil
  else if isVoid tag.name then
    { g.addElement tag .nil with closedVoids := tag.name :: g.closedVoids }
  else { g with frames := ⟨tag, .nil⟩ :: g.frames }

/-- The data of a marked section: character data if its keyword says so. -/
def addSection (g : Growth) (content : String) : Growth :=
  if (content.toList.take 6).map Char.toUpper = "CDATA[".toList then
    g.special .cdata (String.ofList (content.toList.drop 6))
  else g.special .declaration content

def add (mode : ValueMode) (g : Growth) : Token → Growth
  | .text content => { g with pending := g.pending ++ content }
  | .startTag name written closed place =>
    g.startTag (makeTag mode name written (some place)) closed
  | .endTag name => g.endTag name
  | .comment content => g.special .comment content
  | .instruction content => g.special .instruction content
  | .doctype content => g.special .doctype (String.ofList (content.toList.drop 8))
  | .marked content => g.addSection content

def finish (g : Growth) : Content :=
  let g := g.flush
  (close g.frames.length g).top.reverseOnto .nil

end Growth

def Content.ofTokens (mode : ValueMode) (tokens : List Token) : Content :=
  (tokens.foldl (Growth.add mode) Growth.empty).finish

def Content.parse (mode : ValueMode) (text : String) : Except Markup.MarkupError Content :=
  (Markup.tokens text).map (Content.ofTokens mode)

end MarkupLint.Document
