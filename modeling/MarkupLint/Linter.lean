import MarkupLint.Catalogue
import MarkupLint.Source

/-! # The linter

A linter runs a registry over documents and gives the elements of problems their locations.
-/
namespace MarkupLint

structure Linter where
  registry : Registry
  settings : Settings

inductive LintError where
  | read (error : Document.ReadError)
  | noFile
  | noText
  deriving DecidableEq, Repr

namespace Linter

def standard (settings : Settings) : Linter := ⟨.standard settings, settings⟩

/-- The rules that a pass skips if a caller names some, or none. -/
def disabledBy (l : Linter) (disabled : Option Disabled) : Disabled :=
  disabled.getD (.many l.settings.disabledIds)

/-- Lints a document. Locations are known only with its text. -/
def lintDocument (l : Linter) (d : Document) (disabled : Option Disabled) : PassResult :=
  let result := l.registry.run d (l.disabledBy disabled)
  if d.hasSource then { result with problems := result.problems.map (Problem.locate d) } else result

def lintText (l : Linter) (text : String) (disabled : Option Disabled) :
    Except LintError PassResult :=
  ((Document.read (some l.settings.reader) text).mapError .read).map fun d =>
    l.lintDocument d disabled

/-- Lints a markup text and gathers the problems; a pass that a fault ended leaves none. -/
def collect (l : Linter) (text : String) (disabled : Option Disabled) :
    Except LintError PassResult :=
  (l.lintText text disabled).map fun result =>
    if result.fault.isSome then { result with problems := [] } else result

def lintFile (l : Linter) (bytes : Option ByteArray) (disabled : Option Disabled) :
    Except LintError PassResult :=
  match bytes with
  | none => .error .noFile
  | some bytes =>
    match Source.textOf? bytes with
    | none => .error .noText
    | some text => l.lintText text disabled

end Linter

end MarkupLint
