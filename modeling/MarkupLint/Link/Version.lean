import MarkupLint.Text.Basic
import MarkupLint.Text.Number

/-! # Version numbers

A version has an epoch, a release of any number of parts, and may be a pre-release, a
post-release, a development release or a local build. Versions are ordered by these in turn;
trailing zeros of the release do not count.
-/
namespace MarkupLint.Link

open Text (LongNumber numberOf)

inductive Stage where
  | alpha
  | beta
  | candidate
  deriving DecidableEq, Repr

def Stage.rank : Stage → Nat
  | alpha => 1
  | beta => 2
  | candidate => 3

inductive BuildPart where
  | word (text : String)
  | number (value : Nat)
  deriving DecidableEq, Repr

structure Version where
  epoch : Nat
  release : List Nat
  pre : Option (Stage × Nat)
  post : Option Nat
  dev : Option Nat
  build : Option (List BuildPart)
  deriving DecidableEq, Repr

def dropTrailingZeros (release : List Nat) : List Nat :=
  (release.reverse.dropWhile (· == 0)).reverse

def BuildPart.key : BuildPart → List Nat
  | word text => 0 :: text.toList.map Char.toNat
  | number n => [1, n]

namespace Version

/-- The place of a version among those of the same release, as far as the stage decides. A
development release of no stage comes first, a version without any stage last. -/
def stageKey (v : Version) : List Nat :=
  match v.pre, v.post, v.dev with
  | some (stage, n), _, _ => [stage.rank, n]
  | none, none, some _ => [0, 0]
  | none, _, _ => [4, 0]

def key (v : Version) : List (List Nat) :=
  [[v.epoch], dropTrailingZeros v.release, v.stageKey,
    (match v.post with | none => [0, 0] | some n => [1, n]),
    (match v.dev with | some n => [0, n] | none => [1, 0]),
    (match v.build with | none => [0] | some _ => [1])] ++
  ((v.build.getD []).map BuildPart.key)

def older (v w : Version) : Bool :=
  decide (v.key < w.key)

end Version

structure VersionText where
  epoch : List Char
  release : List (List Char)
  pre : Option (Stage × List Char)
  post : Option (List Char)
  dev : Option (List Char)
  build : Option (List (List Char))
  deriving DecidableEq, Repr

def isPartMark (c : Char) : Bool := c == '.' || c == '_' || c == '-'

def skipMark : List Char → List Char
  | [] => []
  | c :: cs => if isPartMark c then cs else c :: cs

def spanDigits (cs : List Char) : List Char × List Char :=
  cs.span Char.isDigit

def afterWord? (word : String) (cs : List Char) : Option (List Char) :=
  word.toList.isPrefixOf? cs

/-- Reads one of the words with separators around it and a number after it, each optional:
what the word stands for, the digits and the rest. -/
def taggedNumber? {α : Type} (tags : List (String × α)) (cs : List Char) :
    Option (α × List Char × List Char) :=
  tags.findSome? fun tag =>
    (afterWord? tag.1 (skipMark cs)).map fun rest =>
      let (digits, rest) := spanDigits (skipMark rest)
      (tag.2, digits, rest)

def stageTags : List (String × Stage) :=
  [("alpha", .alpha), ("a", .alpha), ("beta", .beta), ("b", .beta), ("preview", .candidate),
    ("pre", .candidate), ("c", .candidate), ("rc", .candidate)]

def postTags : List (String × Unit) := [("post", ()), ("rev", ()), ("r", ())]

def devTags : List (String × Unit) := [("dev", ())]

def postNumber? (cs : List Char) : Option (List Char × List Char) :=
  let byWord := (taggedNumber? postTags cs).map fun r => (r.2.1, r.2.2)
  match cs with
  | '-' :: rest =>
    let (digits, rest) := spanDigits rest
    if digits.isEmpty then byWord else some (digits, rest)
  | _ => byWord

/-- Reads the parts of a release after its first one: each a point and digits. The first
`skip` characters belong to a part that has been read. -/
def releaseTail (skip : Nat) : List Char → List (List Char) × List Char
  | [] => ([], [])
  | c :: cs =>
    match skip with
    | k + 1 => releaseTail k cs
    | 0 =>
      let digits := cs.takeWhile Char.isDigit
      if c == '.' && !digits.isEmpty then
        let (parts, rest) := releaseTail digits.length cs
        (digits :: parts, rest)
      else ([], c :: cs)

def splitEpoch (cs : List Char) : List Char × List Char :=
  let (digits, rest) := spanDigits cs
  match rest with
  | '!' :: rest => if digits.isEmpty then ([], cs) else (digits, rest)
  | _ => ([], cs)

def buildOf? (cs : List Char) : Option (Option (List (List Char))) :=
  match cs with
  | [] => some none
  | '+' :: rest =>
    let parts := Text.splitAt isPartMark rest
    if parts.all fun p => !p.isEmpty && p.all Char.isAlphanum then some (some parts) else none
  | _ => none

def VersionText.parse? (cs : List Char) : Option VersionText :=
  let (epoch, rest) := splitEpoch (match cs with | 'v' :: rest => rest | _ => cs)
  let (first, rest) := spanDigits rest
  if first.isEmpty then none
  else
    let (more, rest) := releaseTail 0 rest
    let (pre, rest) :=
      match taggedNumber? stageTags rest with
      | some (stage, digits, rest) => (some (stage, digits), rest)
      | none => (none, rest)
    let (post, rest) :=
      match postNumber? rest with
      | some (digits, rest) => (some digits, rest)
      | none => (none, rest)
    let (dev, rest) :=
      match taggedNumber? devTags rest with
      | some (_, digits, rest) => (some digits, rest)
      | none => (none, rest)
    (buildOf? rest).map fun build => ⟨epoch, first :: more, pre, post, dev, build⟩

def BuildPart.ofText (cs : List Char) : Except LongNumber BuildPart :=
  if cs.all Char.isDigit then (numberOf cs).map .number
  else .ok (.word (String.ofList cs))

def VersionText.value (t : VersionText) : Except LongNumber Version := do
  let epoch ← numberOf t.epoch
  let release ← t.release.mapM numberOf
  let pre ← t.pre.mapM fun p => (numberOf p.2).map fun n => (p.1, n)
  let post ← t.post.mapM numberOf
  let dev ← t.dev.mapM numberOf
  let build ← t.build.mapM fun parts => parts.mapM BuildPart.ofText
  return ⟨epoch, release, pre, post, dev, build⟩

/-- Reads a version, blanks around it and letter case aside; `none` if the text is no
version. -/
def Version.parse (text : String) : Except LongNumber (Option Version) :=
  match VersionText.parse? ((Text.stripList Text.isBlank text.toList).map Char.toLower) with
  | some t => t.value.map some
  | none => .ok none

/-- Whether a version is older than a minimum; `none` if one of them is no version. -/
def isOlderThan (version minimum : String) : Except LongNumber (Option Bool) := do
  match ← Version.parse version with
  | none => return none
  | some v =>
    match ← Version.parse minimum with
    | none => return none
    | some m => return some (v.older m)

end MarkupLint.Link
