import MarkupLint.Source

/-! # Document trees

A document is a sequence of elements and pieces of character data; an element holds such a
sequence again. Elements are numbered in document order, from 0, each before what it holds.
-/
namespace MarkupLint.Document

/-- The value of an attribute: one text, or a list of words for the attributes that hold
several. -/
inductive Value where
  | text (s : String)
  | words (ws : List String)
  deriving DecidableEq, Repr

def Value.join : Value → String
  | text s => s
  | words ws => " ".intercalate ws

structure Tag where
  name : String
  attributes : List (String × Value)
  place : Option Source.Position
  deriving DecidableEq, Repr

/-- The kinds of text. All but plain text belong to the innermost element of their name. -/
inductive TextKind where
  | plain
  | script
  | style
  | template
  | rubyText
  | rubyParenthesis
  deriving DecidableEq, Repr

def TextKind.ofName? (name : String) : Option TextKind :=
  if name = "script" then some script
  else if name = "style" then some style
  else if name = "template" then some template
  else if name = "rt" then some rubyText
  else if name = "rp" then some rubyParenthesis
  else none

inductive Data where
  | text (kind : TextKind) (content : String)
  | cdata (content : String)
  | comment (content : String)
  | declaration (content : String)
  | instruction (content : String)
  | doctype (content : String)
  deriving DecidableEq, Repr

inductive Content where
  | nil
  | data (d : Data) (rest : Content)
  | element (tag : Tag) (inner : Content) (rest : Content)
  deriving DecidableEq, Repr

namespace Content

def size : Content → Nat
  | nil => 0
  | data _ rest => rest.size
  | element _ inner rest => inner.size + 1 + rest.size

/-- The content in reverse order, in front of what has been reversed. What the elements hold
stays as it is. -/
def reverseOnto : Content → Content → Content
  | nil, done => done
  | data d rest, done => rest.reverseOnto (data d done)
  | element tag inner rest, done => rest.reverseOnto (element tag inner done)

def topData : Content → List Data
  | nil => []
  | data d rest => d :: rest.topData
  | element _ _ rest => rest.topData

def length : Content → Nat
  | nil => 0
  | data _ rest => rest.length + 1
  | element _ _ rest => rest.length + 1

/-- The place of an element among the pieces at the top, given its number and that of the first
element. -/
def position (target n : Nat) : Content → Nat
  | nil => 0
  | data _ rest => rest.position target n + 1
  | element _ inner rest =>
    if n = target then 0 else rest.position target (n + 1 + inner.size) + 1

def hasElement : Content → Bool
  | nil => false
  | data _ rest => rest.hasElement
  | element _ _ _ => true

def gather (keep : Data → Option String) : Content → List String
  | nil => []
  | data d rest => (keep d).toList ++ rest.gather keep
  | element _ inner rest => inner.gather keep ++ rest.gather keep

end Content

structure Node where
  index : Nat
  tag : Tag
  content : Content
  deriving DecidableEq, Repr

/-- An element as it stands in a document, with the elements around it, innermost first. -/
structure Element extends Node where
  ancestors : List Node
  deriving DecidableEq, Repr

namespace Content

def children (around : List Node) (n : Nat) : Content → List Element
  | nil => []
  | data _ rest => rest.children around n
  | element tag inner rest =>
    ⟨⟨n, tag, inner⟩, around⟩ :: rest.children around (n + 1 + inner.size)

def elements (around : List Node) (n : Nat) : Content → List Element
  | nil => []
  | data _ rest => rest.elements around n
  | element tag inner rest =>
    ⟨⟨n, tag, inner⟩, around⟩ ::
      (inner.elements (⟨n, tag, inner⟩ :: around) (n + 1) ++
        rest.elements around (n + 1 + inner.size))

end Content

end MarkupLint.Document
