import MarkupLint.Document.Element
import MarkupLint.Document.Tree

/-! # Documents

A document is a tree, with the text it was read from if that is known. Only with the text do
its elements have locations.
-/
namespace MarkupLint

structure Document where
  content : Document.Content
  source : Option String
  deriving DecidableEq, Repr

namespace Document

inductive ReadError where
  | noReader (name : String)
  | rejected (error : Markup.MarkupError)
  | number (error : Text.LongNumber)
  deriving DecidableEq, Repr

def ReadError.message : ReadError → String
  | noReader name =>
    "Couldn't find a tree builder with the features you requested: " ++ name ++
      ". Do you need to install a parser library?"
  | rejected error =>
    "The markup you provided was rejected by the parser. Trying a different parser or a " ++
      "different encoding may help.\n\nOriginal exception(s) from parser:\n AssertionError: " ++
      error.reason
  | number error => error.message

def ReadError.ofMarkup : Markup.MarkupError → ReadError
  | .longNumber error => number error
  | error => rejected error

def readerNames : List String := ["html.parser", "html"]

def readContent (mode : ValueMode) (text : String) : Except ReadError Content :=
  (Content.parse mode text).mapError .ofMarkup

/-- Reads a document with the named reader; no name, or an empty one, means the usual one. -/
def read (reader : Option String) (text : String) : Except ReadError Document :=
  let name := reader.getD ""
  if name.isEmpty || readerNames.contains name then
    (readContent .split text).map fun content => ⟨content, some text⟩
  else .error (.noReader name)

def ofContent (content : Content) : Document := ⟨content, none⟩

def hasSource (d : Document) : Bool := d.source.isSome

def elements (d : Document) : List Element := d.content.elements [] 0

def topElements (d : Document) : List Element := d.content.children [] 0

def doctypeText? (d : Document) : Option String :=
  d.content.topData.findSome? fun
    | .doctype s => some s
    | _ => none

/-- The document type: the words of its declaration in lower case, a keyword in front aside. -/
def doctype? (d : Document) : Option String :=
  d.doctypeText?.map fun s =>
    let ws := Text.words s
    let ws := if (ws.head?.map Text.lower) = some "doctype" then ws.tail else ws
    Text.lower (Text.unwords ws)

def startOf? (d : Document) (e : Element) : Option Int :=
  match d.source, e.tag.place with
  | some text, some p => (Source.LineIndex.ofText text).offsetOf p.line p.column
  | _, _ => none

def locationOf? (d : Document) (e : Element) : Option Source.Location :=
  match d.source, d.startOf? e with
  | some text, some offset => (Source.LineIndex.ofText text).locationOf offset
  | _, _ => none

def detached (mode : ValueMode) (name classValue : String) : Element :=
  ⟨⟨0, makeTag mode name [("class", some classValue)] none, .nil⟩, []⟩

def describe (d : Document) : String :=
  "DOMParser(" ++ toString d.elements.length ++ " elements)"

end Document

end MarkupLint
