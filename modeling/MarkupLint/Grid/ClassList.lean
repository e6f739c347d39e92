import MarkupLint.Grid.Column

/-! # Class attribute values

What the column classes of a class attribute declare together. A column class holds at all
larger tiers too, so it is redundant when the tier right below declares the same width.
-/
namespace MarkupLint.Grid

def splitClasses (classes : Option String) : List String :=
  match classes with
  | some s => Text.words s
  | none => []

def columnsOf (classes : Option String) : List Column :=
  (splitClasses classes).filterMap Column.parse?

def othersOf (tokens : List String) : List String :=
  tokens.filter fun t => (Column.parse? t).isNone

def byTier (columns : List Column) : List Column :=
  Breakpoint.all.flatMap fun b => columns.filter fun c => c.breakpoint = b

/-- The classes with the column classes moved to the end, each once and by ascending tier. -/
def sortTokens (tokens : List String) : List String :=
  othersOf tokens ++ (byTier (tokens.eraseDups.filterMap Column.parse?)).map Column.token

def sortColumns (classes : Option String) : String :=
  Text.unwords (sortTokens (splitClasses classes))

def ranksOf (columns : List Column) (w : Width) : List Nat :=
  (byTier (columns.filter fun c => c.width = w)).map Column.rank

def widthGroups (classes : Option String) : List (Width × List Nat) :=
  let columns := columnsOf classes
  (columns.map Column.width).eraseDups.map fun w => (w, ranksOf columns w)

/-- A reading of a list of numbers: the runs that have ended, and the first and the last number
of the one that is going on. -/
structure RunScan where
  ended : List (Int × Int)
  open? : Option (Int × Int)

namespace RunScan

def empty : RunScan := ⟨[], none⟩

/-- The runs once nothing goes on. A run of one number does not count. -/
def flush (s : RunScan) : List (Int × Int) :=
  match s.open? with
  | none => s.ended
  | some (first, last) => if first ≠ last then s.ended ++ [(first, last)] else s.ended

def step (s : RunScan) (r : Int) : RunScan :=
  match s.open? with
  | none => ⟨s.ended, some (r, r)⟩
  | some (first, last) =>
    if r ≠ last + 1 then ⟨s.flush, some (r, r)⟩ else ⟨s.ended, some (first, r)⟩

end RunScan

def runsOf (ranks : List Int) : List (Int × Int) :=
  (ranks.foldl RunScan.step .empty).flush

/-- Whether a rank repeats what the ranks before it declare: it lies in a run, after the first
place. -/
def isRepeated (ranks : List Nat) (r : Nat) : Bool :=
  (runsOf (ranks.map Int.ofNat)).any fun b => b.1 < (r : Int) && (r : Int) ≤ b.2

def isRedundant (groups : List (Width × List Nat)) (c : Column) : Bool :=
  groups.any fun g => g.1 = c.width && isRepeated g.2 c.rank

/-- The class attribute value without its redundant column classes and sorted, or `none` if
nothing is redundant. -/
def simplify (classes : Option String) : Option String :=
  let groups := widthGroups classes
  if groups.all fun g => (runsOf (g.2.map Int.ofNat)).isEmpty then none
  else
    let kept := (splitClasses classes).filter fun t =>
      match Column.parse? t with
      | some c => !isRedundant groups c
      | none => true
    some (sortColumns (some (Text.unwords kept)))

end MarkupLint.Grid
