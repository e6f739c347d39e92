import MarkupLint.Markup.Attribute
import MarkupLint.Source
import MarkupLint.Text.Case
import MarkupLint.Text.Quoted
import MarkupLint.Text.Reference
import MarkupLint.Text.Basic

/-! # Tokens of markup

What begins at a place of a markup text: a tag, a comment, a declaration, a character reference
or plain text. Markup that is broken is read as text; only a marked section with a bad keyword
and a character reference with too long a number are rejected.
-/
namespace MarkupLint.Markup

open Source (Position)

inductive Token where
  | text (content : String)
  | startTag (name : String) (attributes : List (String × Option String)) (closed : Bool)
      (place : Position)
  | endTag (name : String)
  | comment (content : String)
  | instruction (content : String)
  | doctype (content : String)
  | marked (content : String)
  deriving DecidableEq, Repr

inductive MarkupError where
  | missingKeyword (found : String)
  | unknownKeyword (keyword : String)
  | longNumber (error : Text.LongNumber)
  deriving DecidableEq, Repr

def MarkupError.reason : MarkupError → String
  | missingKeyword found => "expected name token at " ++ Text.quoted found
  | unknownKeyword keyword =>
    "unknown status keyword " ++ Text.quoted keyword ++ " in marked section"
  | longNumber error => error.message

inductive Reading where
  /-- Tokens, the length of the text that they take, and the element whose raw content
  follows. -/
  | done (tokens : List Token) (length : Nat) (raw : Option String)
  | incomplete
  | rejected (error : MarkupError)
  deriving DecidableEq, Repr

def isTagNameChar (c : Char) : Bool :=
  !(Text.isSpace c || c == '/' || c == '>' || c == Char.ofNat 0)

def isEndNameChar (c : Char) : Bool :=
  c.isAlphanum || c == '-' || c == '.' || c == ':' || c == '_'

def rawElements : List String := ["script", "style"]

def tokenAttribute (a : Attribute) : Except Text.LongNumber (String × Option String) :=
  (a.value.mapM fun v => Text.unescape (String.ofList v)).map fun value =>
    (Text.lower (String.ofList a.name), value)

def readStartTag (place : Position) (cs : List Char) : Reading :=
  let name := cs.tail.takeWhile isTagNameChar
  let gap := gapLength (cs.drop (1 + name.length))
  let before := 1 + name.length + gap
  let previous := (cs[before - 1]?).getD '<'
  let (attributes, length) := attributesFrom 0 previous (cs.drop before)
  let stop := before + length
  let tagName := Text.lower (String.ofList name)
  let tag (closed : Bool) (length : Nat) (raw : Option String) : Reading :=
    match attributes.mapM tokenAttribute with
    | .ok written => .done [.startTag tagName written closed place] length raw
    | .error e => .rejected (.longNumber e)
  match cs.drop stop with
  | [] => .incomplete
  | '>' :: _ =>
    tag false (stop + 1) (if rawElements.contains tagName then some tagName else none)
  | '/' :: _ => tag true (stop + 2) none
  | c :: _ =>
    if c.isAlpha || c == '=' then .incomplete
    else .done [.text (String.ofList (cs.take stop))] stop none

def endTag? (cs : List Char) : Option (String × Nat) :=
  let blanks := ((cs.drop 2).takeWhile Text.isBlank).length
  let name := (cs.drop (2 + blanks)).takeWhile isEndNameChar
  let rest := cs.drop (2 + blanks + name.length)
  let gap := (rest.takeWhile Text.isBlank).length
  if (name.head?.map Char.isAlpha).getD false && (rest.drop gap).head? == some '>' then
    some (Text.lower (String.ofList name), 2 + blanks + name.length + gap + 1)
  else none

def readBogusComment (cs : List Char) : Reading :=
  match Text.indexOf (· == '>') (cs.drop 2) with
  | some n => .done [.comment (String.ofList ((cs.drop 2).take n))] (n + 3) none
  | none => .incomplete

/-- Reads an end tag; the text begins with `</`. Inside raw content only the end tag of its
element counts. -/
def readEndTag (raw : Option String) (cs : List Char) : Reading :=
  match Text.indexOf (· == '>') (cs.drop 2) with
  | none => .incomplete
  | some n =>
    let asText : Reading := .done [.text (String.ofList (cs.take (n + 3)))] (n + 3) raw
    match endTag? cs, raw with
    | some (name, length), none => .done [.endTag name] length none
    | some (name, length), some element =>
      if name = element then .done [.endTag name] length none else asText
    | none, some _ => asText
    | none, none =>
      if ((cs.drop 2).head?.map Char.isAlpha).getD false then
        let name := (cs.drop 2).takeWhile isTagNameChar
        let gap := gapLength (cs.drop (2 + name.length))
        let before := 2 + name.length + gap
        match Text.indexOf (· == '>') (cs.drop before) with
        | some k => .done [.endTag (Text.lower (String.ofList name))] (before + k + 1) none
        | none => .incomplete
      else if n = 0 then .done [] 3 none
      else readBogusComment cs

def commentEnd? (cs : List Char) : Option Nat :=
  if Text.startsWith "--" cs then
    let gap := ((cs.drop 2).takeWhile Text.isBlank).length
    if (cs.drop (2 + gap)).head? == some '>' then some (gap + 3) else none
  else none

def readComment (cs : List Char) : Reading :=
  match Text.search commentEnd? (cs.drop 4) with
  | some (n, length) =>
    .done [.comment (String.ofList ((cs.drop 4).take n))] (4 + n + length) none
  | none => .incomplete

def readInstruction (cs : List Char) : Reading :=
  match Text.indexOf (· == '>') (cs.drop 2) with
  | some n => .done [.instruction (String.ofList ((cs.drop 2).take n))] (n + 3) none
  | none => .incomplete

def isKeywordChar (c : Char) : Bool :=
  c.isAlphanum || c == '-' || c == '_' || c == '.'

def bracketEnd? (cs : List Char) : Option Nat :=
  if cs.head? == some ']' then
    let gap := (cs.tail.takeWhile Text.isBlank).length
    if (cs.drop (1 + gap)).head? == some '>' then some (gap + 2) else none
  else none

def doubleBracketEnd? (cs : List Char) : Option Nat :=
  if cs.head? == some ']' then
    let gap := (cs.tail.takeWhile Text.isBlank).length
    (bracketEnd? (cs.drop (1 + gap))).map (· + 1 + gap)
  else none

def standardKeywords : List String := ["temp", "cdata", "ignore", "include", "rcdata"]

def conditionalKeywords : List String := ["if", "else", "endif"]

def readSection (cs : List Char) : Reading :=
  let body := cs.drop 3
  let word := body.takeWhile isKeywordChar
  let gap := ((body.drop word.length).takeWhile Text.isBlank).length
  let keyword := Text.lower (String.ofList word)
  let upTo (stop : List Char → Option Nat) : Reading :=
    match Text.search stop body with
    | some (n, length) => .done [.marked (String.ofList (body.take n))] (3 + n + length) none
    | none => .incomplete
  if body.isEmpty then .incomplete
  else if !(body.head?.map Char.isAlpha).getD false then
    .rejected (.missingKeyword (String.ofList (cs.take 20)))
  else if word.length + gap = body.length then .incomplete
  else if standardKeywords.contains keyword then upTo doubleBracketEnd?
  else if conditionalKeywords.contains keyword then upTo bracketEnd?
  else .rejected (.unknownKeyword (String.ofList (body.take (word.length + gap))))

def readDeclaration (cs : List Char) : Reading :=
  if Text.startsWith "<![" cs then readSection cs
  else if (cs.take 9).map Char.toLower = "<!doctype".toList then
    match Text.indexOf (· == '>') (cs.drop 9) with
    | some n => .done [.doctype (String.ofList ((cs.take (n + 9)).drop 2))] (n + 10) none
    | none => .incomplete
  else readBogusComment cs

def readAngle (raw : Option String) (place : Position) (cs : List Char) : Reading :=
  match cs.tail with
  | [] => .incomplete
  | c :: _ =>
    if c.isAlpha then readStartTag place cs
    else if c == '/' then readEndTag raw cs
    else if Text.startsWith "<!--" cs then readComment cs
    else if c == '?' then readInstruction cs
    else if c == '!' then readDeclaration cs
    else .done [.text "<"] 1 none

def rawEnd? (element : String) (cs : List Char) : Option Nat :=
  if Text.startsWith "</" cs then
    let name := element.toList
    let blanks := ((cs.drop 2).takeWhile Text.isBlank).length
    let found := (cs.drop (2 + blanks)).take name.length
    let rest := cs.drop (2 + blanks + found.length)
    let gap := (rest.takeWhile Text.isBlank).length
    if found.length = name.length && (name.zip found).all (fun p => Text.sameLetter p.1 p.2) &&
        (rest.drop gap).head? == some '>' then
      some (2 + blanks + found.length + gap + 1)
    else none
  else none

end MarkupLint.Markup
