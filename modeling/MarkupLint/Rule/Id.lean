import MarkupLint.Text.Basic
import MarkupLint.Text.Number
import MarkupLint.Text.Quoted

/-! # Rule ids

An id is `E` or `W` and at least three decimal digits; its letter says how grave the rule is.
-/
namespace MarkupLint

inductive Severity where
  | error
  | warning
  deriving DecidableEq, Repr

def Severity.text : Severity → String
  | error => "error"
  | warning => "warning"

def Severity.ofText? (text : String) : Option Severity :=
  [Severity.error, Severity.warning].find? fun s => s.text == text

/-- What a rule may give as its id. Only texts can be valid ids. -/
inductive RuleId where
  | text (s : String)
  | number (n : Int)
  | truth (b : Bool)
  | missing
  deriving DecidableEq, Repr

def RuleId.quoted : RuleId → String
  | text s => Text.quoted s
  | number n => toString n
  | truth true => "True"
  | truth false => "False"
  | missing => "None"

def RuleId.plain : RuleId → String
  | text s => s
  | other => other.quoted

/-- The severity of an id, if it is valid; one line feed after it is tolerated. -/
def Severity.ofIdText? (id : String) : Option Severity :=
  match Text.dropFinalNewline id.toList with
  | c :: digits =>
    if 3 ≤ digits.length && digits.all Text.isDecimalDigit then
      (if c = 'E' then some error else if c = 'W' then some warning else none)
    else none
  | [] => none

def Severity.ofId? : RuleId → Option Severity
  | .text s => ofIdText? s
  | _ => none

end MarkupLint
