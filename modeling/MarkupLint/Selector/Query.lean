import MarkupLint.Selector.Nth
import MarkupLint.Selector.Trait

/-! # Queries

A query is a statement about an element as a written selector makes it.
-/
namespace MarkupLint

inductive Query where
  | plain (s : Selector)
  | trait (t : Trait)
  | bounded (inside : Bool)
  | undecided
  | language (ranges : List String)
  | nth (series : Nth) (among : Query)
  | isFramed
  | framed (q : Query)
  | both (q r : Query)
  /-- Two queries hold, and the second is tested in any case. -/
  | jointly (q r : Query)
  | either (q r : Query)
  | denied (q : Query)
  | after (relation : Relation) (q : Query)
  | has (relation : Relation) (q : Query)
  deriving DecidableEq, Repr

namespace Query

instance : AndOp Query := ⟨both⟩

instance : OrOp Query := ⟨either⟩

/-- All of several queries, tested in order up to the first that does not hold. -/
def allOf : List Query → Query
  | [] => plain .any
  | [q] => q
  | q :: rest => both q (allOf rest)

def allJointly : List Query → Query
  | [] => plain .any
  | [q] => q
  | q :: rest => jointly q (allJointly rest)

def anyOf : List Query → Query
  | [] => plain .never
  | [q] => q
  | q :: rest => either q (anyOf rest)

end Query

end MarkupLint
