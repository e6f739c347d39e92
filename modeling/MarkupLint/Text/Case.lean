import MarkupLint.Text.CaseTable

/-! # Letter case

Lower-casing and upper-casing of whole texts, and comparison of letters with case ignored.
Lower-casing looks at the letters around a capital sigma: at the end of a word it becomes
the final form.
-/
namespace MarkupLint.Text

def inRanges (ranges : List (Nat × Nat)) (n : Nat) : Bool :=
  ranges.any fun r => r.1 ≤ n && n ≤ r.2

def shiftBy (table : List (Nat × Nat × Nat × Int)) (c : Char) : Char :=
  let n := c.toNat
  match table.find? fun r => r.1 ≤ n && n ≤ r.2.1 && (n - r.1) % r.2.2.1 == 0 with
  | some r => Char.ofNat ((n : Int) + r.2.2.2).toNat
  | none => c

def lowerChar (c : Char) : Char :=
  if c.toNat < 128 then c.toLower
  else if c.toNat = 0x130 then 'i'
  else shiftBy lowerRuns c

def isCased (c : Char) : Bool :=
  if c.toNat < 128 then c.isAlpha else inRanges casedRanges c.toNat

def isCaseIgnorable (c : Char) : Bool :=
  inRanges caseIgnorableRanges c.toNat

/-- Whether the next character that is not passed over is a cased letter. -/
def startsCased (cs : List Char) : Bool :=
  ((cs.dropWhile isCaseIgnorable).head?.map isCased).getD false

/-- Lower-cases a text; `afterLetter` says whether a cased letter stands before it. -/
def lowerList (afterLetter : Bool) : List Char → List Char
  | [] => []
  | c :: cs =>
    let after := if isCaseIgnorable c then afterLetter else isCased c
    if c.toNat = 0x3A3 then
      (if afterLetter && !startsCased cs then 'ς' else 'σ') :: lowerList after cs
    else if c.toNat = 0x130 then
      'i' :: Char.ofNat 0x307 :: lowerList after cs
    else
      lowerChar c :: lowerList after cs

def lower (s : String) : String :=
  String.ofList (lowerList false s.toList)

def upperChar (c : Char) : List Char :=
  if c.toNat < 128 then [c.toUpper]
  else
    match upperExpansions.lookup c.toNat with
    | some ns => ns.map Char.ofNat
    | none => [shiftBy upperRuns c]

def upper (s : String) : String :=
  String.ofList (s.toList.flatMap upperChar)

def lowerAscii (s : String) : String :=
  String.ofList (s.toList.map Char.toLower)

def foldKey (c : Char) : Nat :=
  let n := (lowerChar c).toNat
  (foldedLetters.lookup n).getD n

def sameLetter (c d : Char) : Bool :=
  c == d || foldKey c == foldKey d

end MarkupLint.Text
