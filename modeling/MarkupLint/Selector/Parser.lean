import MarkupLint.Selector.Lexeme
import MarkupLint.Selector.Standard

/-! # Reading selectors

A written selector is read lexeme by lexeme. Every open parenthesis has a level of its own, on
a stack; the first lexeme that does not fit decides the fault.
-/
namespace MarkupLint.Selector

inductive Scope where
  | whole
  | denied
  /-- `:is(...)` and `:where(...)`, in which entries may be empty. -/
  | forgiving
  | strict
  | relative
  | among (series : Nth)
  | unmatched
  deriving DecidableEq, Repr

inductive Part where
  | front (q : Query)
  | place (q : Query)
  | mark (s : Selector)
  | language (ranges : List String)
  | inner (q : Query)
  | direction (direction : Text.Direction)
  | texts (test : TextTest)
  | dead
  deriving DecidableEq, Repr

structure Compound where
  parts : List Part
  deriving DecidableEq, Repr

namespace Compound

/-- The query of a compound, with what it stands in relation to. Its parts are tested in a fixed
order: the name, the place, the attributes, the language, the inner queries, the relation, the
direction and the text. A dead part leaves nothing to test. -/
def query (c : Compound) (relation : Option Query) : Query :=
  if c.parts.contains .dead then .plain never
  else
    let inner := c.parts.filterMap fun | .inner q => some q | _ => none
    let texts := c.parts.filterMap fun | .texts test => some test | _ => none
    .allOf (
      (c.parts.filterMap fun | .front q => some q | _ => none) ++
      (c.parts.filterMap fun | .place q => some q | _ => none) ++
      (c.parts.filterMap fun | .mark s => some (.plain s) | _ => none) ++
      (c.parts.filterMap fun | .language ranges => some (.language ranges) | _ => none) ++
      (if inner.isEmpty then [] else [.allJointly inner]) ++
      relation.toList ++
      (c.parts.filterMap fun | .direction d => some (.trait (.direction d)) | _ => none) ++
      (if texts.isEmpty then [] else [.trait (.texts texts)]))

end Compound

structure Level where
  scope : Scope
  entries : List Query
  skipped : Nat
  framed : Bool
  left : Option (Relation × Query)
  /-- The finished compounds of a relative entry, last first, each with the relation before
  it. -/
  chain : List (Relation × Compound)
  relation : Relation
  compound : Option Compound
  deriving DecidableEq, Repr

namespace Level

def opened (scope : Scope) : Level := ⟨scope, [], 0, false, none, [], .descendant, none⟩

def addParts (l : Level) (parts : List Part) : Level :=
  { l with compound := some ⟨((l.compound.map Compound.parts).getD []) ++ parts⟩ }

def keepToFrame (l : Level) : Level := { l with framed := true }

def related (left : Option (Relation × Query)) (compound : Compound) : Query :=
  compound.query (left.map fun (r, q) => .after r q)

def chained (chain : List (Relation × Compound)) : Option Query :=
  chain.foldl (fun inner link => some (.has link.1 (link.2.query inner))) none

def entry (l : Level) (compound : Compound) : Query :=
  if l.scope = .relative then (chained ((l.relation, compound) :: l.chain)).getD (.plain never)
  else related l.left compound

def next (l : Level) (entries : List Query) (skipped : Nat) : Level :=
  { opened l.scope with entries := entries, skipped := skipped, framed := l.framed }

/-- Reads a comma. An entry that is left empty, where that is allowed, does not count; the list is
nested deeper by it. -/
def comma (l : Level) (depth : Nat) : Except SyntaxFault Level :=
  match l.compound with
  | some c => .ok (l.next (l.entry c :: l.entries) l.skipped)
  | none =>
    if l.scope ≠ .forgiving then .error .malformed
    else if nestingLimit < depth + l.skipped then .error .nesting
    else .ok (l.next l.entries (l.skipped + 1))

def combinator (l : Level) (r : Relation) : Except SyntaxFault Level :=
  if l.scope = .relative then
    match l.compound with
    | some c =>
      .ok { l with chain := (l.relation, c) :: l.chain, relation := r, compound := none }
    | none => if l.relation = .descendant then .ok { l with relation := r } else .error .malformed
  else
    match l.compound with
    | some c => .ok { l with left := some (r, related l.left c), compound := none }
    | none => .error .malformed

def list (l : Level) (entries : List Query) : Query :=
  if l.framed then .framed (.anyOf entries.reverse) else .anyOf entries.reverse

/-- The query of a finished list. An empty last entry is allowed where entries may be empty,
unless a relation was left open in front of it after another entry. -/
def finish (l : Level) : Except SyntaxFault Query :=
  match l.compound with
  | some c => .ok (l.list (l.entry c :: l.entries))
  | none =>
    if l.scope = .forgiving && (l.entries.isEmpty || l.left.isNone) then .ok (l.list l.entries)
    else .error .malformed

end Level

def Scope.part (scope : Scope) (q : Query) : Part :=
  match scope with
  | denied => .inner (.denied q)
  | among series => .place (.nth series q)
  | unmatched => .dead
  | _ => .inner q

def placePseudos : List (String × Part) :=
  [("root", .front (.plain root)), ("scope", .front (.plain scope)),
    ("first-child", .place (.plain first)), ("last-child", .place (.plain last)),
    ("only-child", .place (.plain (both first last))),
    ("first-of-type", .place (.plain firstOfType)),
    ("last-of-type", .place (.plain lastOfType)),
    ("only-of-type", .place (.plain (both firstOfType lastOfType)))]

def deadPseudos : List String :=
  ["active", "autofill", "buffering", "current", "focus", "focus-visible", "focus-within",
    "fullscreen", "future", "host", "hover", "local-link", "modal", "past", "paused",
    "picture-in-picture", "playing", "popover-open", "seeking", "stalled", "target",
    "target-within", "user-invalid", "user-valid", "visited", "volume-locked"]

def plainPseudo? (name : String) : Option Part :=
  if name = "empty" then some (.mark empty)
  else if deadPseudos.contains name then some .dead
  else
    match placePseudos.lookup name with
    | some part => some part
    | none => (Query.standard.lookup name).map .inner

def openPseudos : List (String × Scope) :=
  [("not", .denied), ("is", .forgiving), ("where", .forgiving), ("matches", .strict),
    ("contains", .strict), ("-soup-contains", .strict), ("-soup-contains-own", .strict),
    ("has", .relative), ("current", .unmatched), ("host", .unmatched),
    ("host-context", .unmatched)]

def named (name : Decoded) (make : String → Selector) : Except SyntaxFault Part :=
  name.map fun n => .mark ((n.map make).getD never)

/-- The parts of a prefix. A star or no prefix says nothing, and of the others only the name of
the markup belongs to something, in a list that keeps to the frame of an element. -/
def Qualifier.parts : Qualifier → Except SyntaxFault (List Part)
  | absent => .ok []
  | star => .ok []
  | none => .ok [.front (.plain never)]
  | named label => label.map fun label =>
    if label = some "*" then []
    else if label = some "html" then [.front .isFramed]
    else [.front (.plain never)]

def tagNamed (name : String) : Selector :=
  if name = "*" then any else tag (Text.lowerAscii name)

def attributePart (name value : Option String) (op : AttributeOp) (anyCase : Option Bool) : Part :=
  let test (how : Comparison) : Selector :=
    match name, value with
    | some n, some v => attr n how v (anyCase.getD (how ≠ .present && ignoresCase n))
    | _, _ => never
  match op with
  | .compare how => .mark (test how)
  | .differs => .inner (.denied (.plain (test .equals)))

structure Reader where
  level : Level
  outer : List Level
  deriving DecidableEq, Repr

namespace Reader

def addParts (r : Reader) (parts : List Part) : Reader :=
  { r with level := r.level.addParts parts }

def openLevel (r : Reader) (inside : Scope) : Except SyntaxFault Reader :=
  if nestingLimit ≤ r.outer.length then .error .nesting
  else .ok ⟨.opened inside, r.level :: r.outer⟩

def keepToFrame (r : Reader) : Reader := { r with level := r.level.keepToFrame }

def close (r : Reader) : Except SyntaxFault Reader :=
  match r.outer with
  | [] => .error .malformed
  | l :: outer => r.level.finish.map fun q => ⟨l.addParts [r.level.scope.part q], outer⟩

def pseudo (r : Reader) (name : Decoded) (opened : Bool) : Except SyntaxFault Reader := do
  let name := Text.lowerAscii ((← name).getD "")
  if opened then
    match openPseudos.lookup name with
    | some inside => r.openLevel inside
    | none => .error .malformed
  else if name = "defined" then return (r.addParts [.front (.trait .defined)]).keepToFrame
  else
    match plainPseudo? name with
    | some part => return r.addParts [part]
    | none => .error .malformed

def step (r : Reader) : Lexeme → Except SyntaxFault Reader
  | .close => r.close
  | .pseudo name opened => r.pseudo name opened
  | .nth series opened => series.bind fun n =>
    if opened then r.openLevel (.among n) else .ok (r.addParts [.place (.nth n (.plain any))])
  | .texts .language texts => texts.map fun ranges => r.addParts [.language ranges]
  | .texts (.content own) texts => texts.map fun texts => r.addParts [.texts ⟨own, texts⟩]
  | .direction direction => .ok (r.addParts [.direction direction]).keepToFrame
  | .customPseudo name => name.bind fun _ => .error .malformed
  | .pseudoElement => .error .unsupported
  | .atRule => .error .unsupported
  | .unknown => .error .malformed
  | .ampersand => .ok (r.addParts [.front (.plain scope)])
  | .id name => (named name id).map fun part => r.addParts [part]
  | .cls name => (named name cls).map fun part => r.addParts [part]
  | .tag qualifier name =>
    if r.level.compound.isSome then .error .malformed
    else do
      let parts ← qualifier.parts
      let name ← name
      return r.addParts (parts ++ [.front (.plain ((name.map tagNamed).getD never))])
  | .attr qualifier name op value anyCase => do
    let _ ← qualifier.parts
    let name ← name
    let value ← value
    return r.addParts [attributePart name value op anyCase]
  | .separator .comma => (r.level.comma r.outer.length).map fun l => { r with level := l }
  | .separator (.relation relation) =>
    (r.level.combinator relation).map fun l => { r with level := l }

def finish (r : Reader) : Except SyntaxFault Query :=
  if r.outer.isEmpty then r.level.finish else .error .malformed

end Reader

def parse (text : String) : Except SyntaxFault Query := do
  let r ← (lexemes text).foldlM Reader.step ⟨.opened .whole, []⟩
  r.finish

end MarkupLint.Selector
