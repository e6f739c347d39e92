import MarkupLint.Text.Basic

/-! # Attributes of a start tag

How the attributes of a start tag are found in markup as it is written in practice: a value may
be unquoted, an equals sign may be doubled, a quote may be missing its partner.
-/
namespace MarkupLint.Markup

structure Attribute where
  name : List Char
  value : Option (List Char)
  deriving DecidableEq, Repr

def isQuote (c : Char) : Bool := c == '"' || c == '\''

def isAttributeBoundary (c : Char) : Bool := isQuote c || c == '/' || Text.isBlank c

def isNameStart (c : Char) : Bool := !(c == '/' || c == '>' || Text.isBlank c)

def isNameChar (c : Char) : Bool := isNameStart c && c != '='

def isBareChar (c : Char) : Bool := !(c == '>' || Text.isBlank c)

def gapLength : List Char → Nat
  | [] => 0
  | c :: cs =>
    if Text.isBlank c || (c == '/' && cs.head? != some '>') then gapLength cs + 1 else 0

def quotedValue? (cs : List Char) : Option (List Char) :=
  match cs with
  | [] => none
  | q :: rest =>
    let inner := rest.takeWhile (· != q)
    if isQuote q && inner.length < rest.length then some inner else none

/-- The value that begins after the name of an attribute: its text and the length of all up to
its end. A quote without a partner does not begin a value: the value is empty if blanks stand
before the quote, and it begins with the last equals sign if there are several. -/
def value? (cs : List Char) : Option (List Char × Nat) :=
  let blanks := (cs.takeWhile Text.isBlank).length
  let signs := ((cs.drop blanks).takeWhile (· == '=')).length
  let gap := ((cs.drop (blanks + signs)).takeWhile Text.isBlank).length
  let start := blanks + signs + gap
  let rest := cs.drop start
  if signs = 0 then none
  else if (rest.head?.map isQuote).getD false then
    match quotedValue? rest with
    | some inner => some (inner, start + inner.length + 2)
    | none =>
      if 0 < gap then some ([], start)
      else if 1 < signs then
        let bare := (cs.drop (start - 1)).takeWhile isBareChar
        some (bare, start - 1 + bare.length)
      else none
  else
    let bare := rest.takeWhile isBareChar
    some (bare, start + bare.length)

def attribute? (previous : Char) (cs : List Char) : Option (Attribute × Nat) :=
  match cs with
  | [] => none
  | c :: rest =>
    if isAttributeBoundary previous && isNameStart c then
      let name := c :: rest.takeWhile isNameChar
      let afterName := cs.drop name.length
      let (value, length) :=
        match value? afterName with
        | some (value, n) => (some value, n)
        | none => (none, 0)
      let gap := gapLength (afterName.drop length)
      some (⟨name, value⟩, name.length + length + gap)
    else none

/-- The attributes from here on, after the character `previous`, and the length of all of them.
The first `skip` characters belong to an attribute that has been read. -/
def attributesFrom (skip : Nat) (previous : Char) : List Char → List Attribute × Nat
  | [] => ([], 0)
  | c :: cs =>
    match skip with
    | k + 1 =>
      let (attributes, n) := attributesFrom k c cs
      (attributes, n + 1)
    | 0 =>
      match attribute? previous (c :: cs) with
      | some (a, length) =>
        let (attributes, n) := attributesFrom (length - 1) c cs
        (a :: attributes, n + 1)
      | none => ([], 0)

end MarkupLint.Markup
