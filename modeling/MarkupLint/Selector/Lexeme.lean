import MarkupLint.Selector.Basic
import MarkupLint.Selector.Nth
import MarkupLint.Text.Basic
import MarkupLint.Text.Direction
import MarkupLint.Text.Reference

/-! # Lexemes of written selectors

A written selector is cut into lexemes from the left. White space and comments around it are
left out; between two compounds white space is a lexeme of its own.
-/
namespace MarkupLint.Selector

inductive SyntaxFault where
  | malformed
  | unsupported
  | codePoint
  /-- Lists are nested too deeply; an entry that is left empty nests the rest of its list. -/
  | nesting
  | number (error : Text.LongNumber)
  deriving DecidableEq, Repr

def nestingLimit : Nat := 8192

def SyntaxFault.message? : SyntaxFault → Option String
  | malformed => none
  | unsupported => none
  | codePoint => some "chr() arg not in range(0x110000)"
  | nesting =>
    some ("Selector exceeds pseudo-class nesting limit of " ++ toString nestingLimit)
  | number error => some error.message

/-- A name or text with its escapes read. It is missing if an escape stands for a surrogate: no
text of a document equals it then. -/
abbrev Decoded := Except SyntaxFault (Option String)

def commentLength? (cs : List Char) : Option Nat :=
  if Text.startsWith "/*" cs then
    (Text.search (fun rest => if Text.startsWith "*/" rest then some 2 else none)
      (cs.drop 2)).map fun r => 2 + r.1 + r.2
  else none

/-- The length of the white space and comments at the front. The first `skip` characters belong
to a comment that has been read. -/
def gapLength (skip : Nat) : List Char → Nat
  | [] => 0
  | c :: cs =>
    match skip with
    | k + 1 => gapLength k cs + 1
    | 0 =>
      if Text.isSpace c then gapLength 0 cs + 1
      else
        match commentLength? (c :: cs) with
        | some n => gapLength (n - 1) cs + 1
        | none => 0

def gapHasSpace (skip : Nat) : List Char → Bool
  | [] => false
  | c :: cs =>
    match skip with
    | k + 1 => gapHasSpace k cs
    | 0 =>
      if Text.isSpace c then true
      else
        match commentLength? (c :: cs) with
        | some n => gapHasSpace (n - 1) cs
        | none => false

def isLineEnd (c : Char) : Bool := c == '\n' || c == '\r' || c == '\x0c'

def spaceLength : List Char → Nat
  | '\r' :: '\n' :: _ => 2
  | c :: _ => if Text.isSpace c then 1 else 0
  | [] => 0

def escapeDigits (cs : List Char) : List Char := (cs.take 6).takeWhile Text.isHexDigit

/-- The length of an escape at the front. A backslash at the end is an escape too. -/
def escapeLength? (cs : List Char) : Option Nat :=
  match cs with
  | '\\' :: rest =>
    let digits := escapeDigits rest
    if !digits.isEmpty then some (1 + digits.length + spaceLength (rest.drop digits.length))
    else
      match rest with
      | [] => some 1
      | ['\n'] => some 1
      | c :: _ => if isLineEnd c then none else some 2
  | _ => none

def isNameStart (c : Char) : Bool := c.isAlpha || c == '_' || 0xA0 ≤ c.toNat

def isNameChar (c : Char) : Bool := isNameStart c || c.isDigit || c == '-'

def nameTailLength (skip : Nat) : List Char → Nat
  | [] => 0
  | c :: cs =>
    match skip with
    | k + 1 => nameTailLength k cs + 1
    | 0 =>
      if isNameChar c then nameTailLength 0 cs + 1
      else
        match escapeLength? (c :: cs) with
        | some n => nameTailLength (n - 1) cs + 1
        | none => 0

def startsName (cs : List Char) : Bool :=
  (cs.head?.map isNameStart).getD false || (escapeLength? cs).isSome

def nameLength? (cs : List Char) : Option Nat :=
  if startsName cs || Text.startsWith "--" cs || (cs.head? == some '-' && startsName cs.tail) then
    some (nameTailLength 0 cs)
  else none

def escapedCode (digits : List Char) : Except SyntaxFault (Option Char) :=
  let n := Text.digitsValue 16 digits
  if n = 0 then .ok (some Text.replacement)
  else if 0x10FFFF < n then .error .codePoint
  else if Text.isNoChar n then .ok none
  else .ok (some (Char.ofNat n))

/-- Reads the escapes of a name, or of a quoted text, in which an escaped line end stands for
nothing. The first `skip` characters belong to an escape that has been read. -/
def decodeList (inQuotes : Bool) (skip : Nat) : List Char → Except SyntaxFault (Option (List Char))
  | [] => .ok (some [])
  | c :: cs =>
    match skip with
    | k + 1 => decodeList inQuotes k cs
    | 0 =>
      if c = '\\' then
        let digits := escapeDigits cs
        if !digits.isEmpty then do
          let code ← escapedCode digits
          let rest ← decodeList inQuotes (digits.length + spaceLength (cs.drop digits.length)) cs
          return (do (← code) :: (← rest))
        else
          match cs with
          | [] => .ok (some [Text.replacement])
          | ['\n'] =>
            (decodeList inQuotes 0 cs).map (Option.map (Text.replacement :: ·))
          | d :: _ =>
            if isLineEnd d then
              if inQuotes then decodeList inQuotes (spaceLength cs) cs
              else (decodeList inQuotes 0 cs).map (Option.map (c :: ·))
            else (decodeList inQuotes 1 cs).map (Option.map (d :: ·))
      else (decodeList inQuotes 0 cs).map (Option.map (c :: ·))

def decode (inQuotes : Bool) (cs : List Char) : Decoded :=
  (decodeList inQuotes 0 cs).map (Option.map String.ofList)

inductive Separator where
  | comma
  | relation (r : Relation)
  deriving DecidableEq, Repr

inductive Qualifier where
  | absent
  | none
  | star
  | named (name : Decoded)

/-- The comparison of an attribute lexeme; `differs` is the denial of `equals`. -/
inductive AttributeOp where
  | compare (how : Comparison)
  | differs
  deriving DecidableEq, Repr

inductive TextListKind where
  | language
  | content (own : Bool)
  deriving DecidableEq, Repr

inductive Lexeme where
  | close
  | nth (series : Except SyntaxFault Nth) (opened : Bool)
  /-- A list of texts; those that no text equals are missing. -/
  | texts (kind : TextListKind) (texts : Except SyntaxFault (List String))
  | direction (direction : Text.Direction)
  | pseudo (name : Decoded) (opened : Bool)
  | customPseudo (name : Decoded)
  | pseudoElement
  | ampersand
  | atRule
  | id (name : Decoded)
  | cls (name : Decoded)
  | tag (qualifier : Qualifier) (name : Decoded)
  | attr (qualifier : Qualifier) (name : Decoded) (op : AttributeOp) (value : Decoded)
      (anyCase : Option Bool)
  | separator (s : Separator)
  | unknown

def name? (cs : List Char) : Option (Decoded × Nat) :=
  (nameLength? cs).map fun n => (decode false (cs.take n), n)

def qualifier? (cs : List Char) : Option (Qualifier × Nat) :=
  let (q, n) : Qualifier × Nat :=
    if cs.head? == some '*' then (.star, 1)
    else
      match name? cs with
      | some (name, n) => (.named name, n)
      | none => (.none, 0)
  if (cs.drop n).head? == some '|' then some (q, n + 1) else none

def tagName? (cs : List Char) : Option (Decoded × Nat) :=
  if cs.head? == some '*' then some (.ok (some "*"), 1) else name? cs

def qualified? (reader : List Char → Option (Decoded × Nat)) (cs : List Char) :
    Option (Qualifier × Decoded × Nat) :=
  let plain := (reader cs).map fun r => (Qualifier.absent, r.1, r.2)
  match qualifier? cs with
  | some (q, n) =>
    match reader (cs.drop n) with
    | some (name, length) => some (q, name, n + length)
    | none => plain
  | none => plain

def quotedLength? (quote : Char) (skip : Nat) : List Char → Option Nat
  | [] => none
  | c :: cs =>
    match skip with
    | k + 1 => (quotedLength? quote k cs).map (· + 1)
    | 0 =>
      if c = quote then some 0
      else if c = '\\' then
        if cs.isEmpty then none
        else (quotedLength? quote (if Text.startsWith "\r\n" cs then 2 else 1) cs).map (· + 1)
      else if isLineEnd c then none
      else (quotedLength? quote 0 cs).map (· + 1)

def attributeValue? (cs : List Char) : Option (Decoded × Nat) :=
  match cs with
  | [] => none
  | c :: rest =>
    if c == '"' || c == '\'' then
      (quotedLength? c 0 rest).map fun n => (decode true (rest.take n), n + 2)
    else name? cs

def attributeOp? (cs : List Char) : Option (AttributeOp × Nat) :=
  match cs with
  | '=' :: _ => some (.compare .equals, 1)
  | '~' :: '=' :: _ => some (.compare .includes, 2)
  | '|' :: '=' :: _ => some (.compare .dashed, 2)
  | '^' :: '=' :: _ => some (.compare .begins, 2)
  | '$' :: '=' :: _ => some (.compare .ends, 2)
  | '*' :: '=' :: _ => some (.compare .contains, 2)
  | '!' :: '=' :: _ => some (.differs, 2)
  | _ => none

def caseFlag? (cs : List Char) : Option Bool :=
  match cs.head? with
  | some c =>
    if Text.sameLetter 'i' c then some (c == 'i' || c == 'I')
    else if Text.sameLetter 's' c then some false
    else none
  | none => none

def attributeTail? (cs : List Char) : Option (AttributeOp × Decoded × Option Bool × Nat) :=
  let gap := gapLength 0 cs
  let rest := cs.drop gap
  if rest.head? == some ']' then some (.compare .present, .ok (some ""), none, gap + 1)
  else do
    let (op, opLength) ← attributeOp? rest
    let start := gap + opLength
    let start := start + gapLength 0 (cs.drop start)
    let (value, valueLength) ← attributeValue? (cs.drop start)
    let stop := start + valueLength
    let flagAt := stop + gapLength 0 (cs.drop stop)
    match caseFlag? (cs.drop flagAt) with
    | some anyCase =>
      let closing := flagAt + 1 + gapLength 0 (cs.drop (flagAt + 1))
      if (cs.drop closing).head? == some ']' then
        some (op, value, some anyCase, closing + 1)
      else none
    | none =>
      if (cs.drop flagAt).head? == some ']' then some (op, value, none, flagAt + 1) else none

def attributeLexeme? (cs : List Char) : Option (Lexeme × Nat) := do
  let gap := gapLength 0 cs
  let (qualifier, name, nameLength) ← qualified? name? (cs.drop gap)
  let start := gap + nameLength
  let (op, value, anyCase, length) ← attributeTail? (cs.drop start)
  return (.attr qualifier name op value anyCase, 1 + start + length)

def sign (cs : List Char) : Bool × Nat :=
  match cs with
  | '-' :: _ => (true, 1)
  | '+' :: _ => (false, 1)
  | _ => (false, 0)

def signed (negative : Bool) (digits : List Char) : Except SyntaxFault Int :=
  ((Text.numberOf digits).mapError .number).map fun n => if negative then -(n : Int) else n

/-- The offset of a series after its step: a sign and digits with gaps around the sign. Gives the
sign, the digits and the length of all, or no digits. -/
def offsetText (cs : List Char) : Bool × List Char × Nat :=
  let gap := gapLength 0 cs
  let (negative, length) := sign (cs.drop gap)
  let start := gap + length + gapLength 0 (cs.drop (gap + length))
  let digits := (cs.drop start).takeWhile Char.isDigit
  if length = 0 || digits.isEmpty then (false, [], 0) else (negative, digits, start + digits.length)

def seriesText? (cs : List Char) : Option (Except SyntaxFault (Int × Int) × Nat) :=
  let (negative, start) := sign cs
  let digits := (cs.drop start).takeWhile Char.isDigit
  let mark := start + digits.length
  if ((cs.drop mark).head?.map Char.toLower) = some 'n' then
    let (minus, offset, length) := offsetText (cs.drop (mark + 1))
    let values := do
      let step ← signed negative (if digits.isEmpty then ['1'] else digits)
      return (step, ← signed minus offset)
    some (values, mark + 1 + length)
  else if !digits.isEmpty then some ((signed negative digits).map fun n => (0, n), mark)
  else if (cs.take 4).map Char.toLower = "even".toList then some (.ok (2, 0), 4)
  else if (cs.take 3).map Char.toLower = "odd".toList then some (.ok (2, 1), 3)
  else none

def amongLength? (cs : List Char) : Option Nat :=
  let gap := gapLength 0 cs
  let rest := cs.drop (gap + 2)
  if gapHasSpace 0 cs && ((cs.drop gap).take 2).map Char.toLower = "of".toList &&
      gapHasSpace 0 rest then
    some (gap + 2 + gapLength 0 rest)
  else none

def closeLength? (cs : List Char) : Option Nat :=
  let gap := gapLength 0 cs
  if (cs.drop gap).head? == some ')' then some (gap + 1) else none

/-- The series lexeme after its opening parenthesis, and its length. A list of selectors may follow
only where all siblings count. -/
def seriesLexeme? (ofType fromEnd : Bool) (cs : List Char) : Option (Lexeme × Nat) := do
  let (values, length) ← seriesText? cs
  let series := values.map fun (step, offset) => Nth.mk step offset ofType fromEnd
  match closeLength? (cs.drop length) with
  | some n => return (.nth series false, length + n)
  | none =>
    let n ← if ofType then none else amongLength? (cs.drop length)
    return (.nth series true, length + n)

def nextValueLength? (cs : List Char) : Option Nat :=
  let gap := gapLength 0 cs
  if (cs.drop gap).head? == some ',' then
    let start := gap + 1 + gapLength 0 (cs.drop (gap + 1))
    (attributeValue? (cs.drop start)).map fun r => start + r.2
  else none

def moreValuesLength (skip : Nat) : List Char → Nat
  | [] => 0
  | c :: cs =>
    match skip with
    | k + 1 => moreValuesLength k cs + 1
    | 0 =>
      match nextValueLength? (c :: cs) with
      | some n => moreValuesLength (n - 1) cs + 1
      | none => 0

def commaLength? (cs : List Char) : Option Nat :=
  let gap := gapLength 0 cs
  if (cs.drop gap).head? == some ',' then some (gap + 1 + gapLength 0 (cs.drop (gap + 1)))
  else none

/-- The values in a text; what is no value is passed over. The first `skip` characters belong to
something that has been read. -/
def valuesIn (skip : Nat) : List Char → List Decoded
  | [] => []
  | c :: cs =>
    match skip with
    | k + 1 => valuesIn k cs
    | 0 =>
      match attributeValue? (c :: cs) with
      | some (value, n) => value :: valuesIn (n - 1) cs
      | none => valuesIn (((commaLength? (c :: cs)).getD 1) - 1) cs

/-- The texts of a list of values. The escapes of a list about content are read once before it is
cut into values. -/
def textsOf (kind : TextListKind) (cs : List Char) : Except SyntaxFault (List String) := do
  let text ←
    match kind with
    | .language => .ok cs
    | .content _ => (decodeList false 0 cs).map fun decoded => decoded.getD cs
  return (← (valuesIn 0 text).mapM fun value => value).filterMap fun value => value

def textsLexeme? (kind : TextListKind) (cs : List Char) : Option (Lexeme × Nat) := do
  let (_, start) ← attributeValue? cs
  let length := start + moreValuesLength 0 (cs.drop start)
  let n ← closeLength? (cs.drop length)
  return (.texts kind (textsOf kind (cs.take length)), length + n)

def directionLexeme? (cs : List Char) : Option (Lexeme × Nat) := do
  let direction ←
    if (cs.take 3).map Char.toLower = "ltr".toList then some Text.Direction.leftToRight
    else if (cs.take 3).map Char.toLower = "rtl".toList then some Text.Direction.rightToLeft
    else none
  let n ← closeLength? (cs.drop 3)
  return (.direction direction, 3 + n)

def specialLexeme? (name : String) (cs : List Char) : Option (Lexeme × Nat) :=
  if name = "contains" || name = "-soup-contains" then textsLexeme? (.content false) cs
  else if name = "-soup-contains-own" then textsLexeme? (.content true) cs
  else if name = "nth-child" then seriesLexeme? false false cs
  else if name = "nth-last-child" then seriesLexeme? false true cs
  else if name = "nth-of-type" then seriesLexeme? true false cs
  else if name = "nth-last-of-type" then seriesLexeme? true true cs
  else if name = "lang" then textsLexeme? .language cs
  else if name = "dir" then directionLexeme? cs
  else none

def pseudoName (name : Decoded) : String :=
  match name with
  | .ok (some name) => Text.lowerAscii name
  | _ => ""

def pseudoLexeme? (cs : List Char) : Option (Lexeme × Nat) := do
  let (name, n) ← name? cs
  if Text.startsWith "--" cs then return (.customPseudo name, 1 + n)
  else if (cs.drop n).head? == some '(' then
    let start := n + 1 + gapLength 0 (cs.drop (n + 1))
    match specialLexeme? (pseudoName name) (cs.drop start) with
    | some (lexeme, length) => return (lexeme, 1 + start + length)
    | none => return (.pseudo name true, 1 + start)
  else return (.pseudo name false, 1 + n)

def separator? (cs : List Char) : Option (Lexeme × Nat) :=
  let gap := gapLength 0 cs
  let rest := cs.drop gap
  let spaced (s : Separator) : Option (Lexeme × Nat) :=
    some (.separator s, gap + 1 + gapLength 0 rest.tail)
  match rest with
  | ',' :: _ => spaced .comma
  | '>' :: _ => spaced (.relation .child)
  | '+' :: _ => spaced (.relation .adjacent)
  | '~' :: _ => spaced (.relation .sibling)
  | _ =>
    if gapHasSpace 0 cs then some (.separator (.relation .descendant), gap) else none

def signLexeme? (cs : List Char) : Option (Lexeme × Nat) :=
  match cs with
  | ':' :: ':' :: rest => (name? rest).map fun r => (.pseudoElement, 2 + r.2)
  | ':' :: rest => pseudoLexeme? rest
  | '&' :: _ => some (.ampersand, 1)
  | '@' :: p :: rest =>
    if p == 'p' || p == 'P' then (name? rest).map fun r => (.atRule, 2 + r.2) else none
  | '#' :: rest => (name? rest).map fun r => (.id r.1, 1 + r.2)
  | '.' :: rest => (name? rest).map fun r => (.cls r.1, 1 + r.2)
  | '[' :: rest => attributeLexeme? rest
  | _ => (qualified? tagName? cs).map fun r => (.tag r.1 r.2.1, r.2.2)

def lexeme? (cs : List Char) : Option (Lexeme × Nat) :=
  match closeLength? cs with
  | some n => some (.close, n)
  | none =>
    match signLexeme? cs with
    | some r => some r
    | none => separator? cs

/-- The lexemes of a text, as far as they can be read, up to the last `margin` characters. The
first `skip` characters belong to a lexeme that has been read. -/
def lexemesFrom (margin skip : Nat) : List Char → List Lexeme
  | [] => []
  | c :: cs =>
    match skip with
    | k + 1 => lexemesFrom margin k cs
    | 0 =>
      if cs.length < margin then []
      else
        match lexeme? (c :: cs) with
        | some (l, n) => l :: lexemesFrom margin (n - 1) cs
        | none => [.unknown]

/-- The length of the white space and comments at the end of a text. They are read backward, so
that a comment reaches from the last sign that ends one to the nearest sign before it that begins
one. -/
def marginLength (cs : List Char) : Nat := gapLength 0 cs.reverse

/-- The lexemes of a written selector. A character of code 0 reads as the replacement
character. -/
def lexemes (text : String) : List Lexeme :=
  let cs := text.toList.map fun c => if c = Char.ofNat 0 then Text.replacement else c
  lexemesFrom (marginLength cs) (gapLength 0 cs) cs

end MarkupLint.Selector
