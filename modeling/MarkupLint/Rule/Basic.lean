import MarkupLint.Link.Url
import MarkupLint.Link.Version
import MarkupLint.Rule.Id
import MarkupLint.Selector.Parser
import MarkupLint.Selector.Search

/-! # Rules

A rule inspects a document and reports what it finds. A rule may fail; what it reported before
still counts.
-/
namespace MarkupLint

open Document (Element)

inductive Fault where
  | link (error : Link.UrlError)
  | number (error : Text.LongNumber)
  | selector (fault : Selector.SyntaxFault)
  | search (fault : SearchFault)
  /-- An attribute that is read but not there. -/
  | missing (attr : String)
  | raised (reason : String)
  deriving DecidableEq, Repr

def Fault.message? : Fault → Option String
  | link e => some e.message
  | number e => some e.message
  | selector f => f.message?
  | search f => f.message?
  | missing _ => none
  | raised reason => some reason

structure Report where
  message : String
  elements : List Element
  deriving DecidableEq, Repr

structure Outcome where
  reports : List Report
  fault : Option Fault
  deriving DecidableEq, Repr

def Outcome.ok (reports : List Report) : Outcome := ⟨reports, none⟩

def Outcome.ofExcept : Except Fault (List Report) → Outcome
  | .ok reports => .ok reports
  | .error f => ⟨[], some f⟩

/-- Inspects items one after the other, up to the first fault. -/
def Outcome.each {α : Type} (inspect : α → Except Fault (List Report)) : List α → Outcome
  | [] => ok []
  | a :: rest =>
    match inspect a with
    | .error f => ⟨[], some f⟩
    | .ok reports => ⟨reports ++ (each inspect rest).reports, (each inspect rest).fault⟩

structure Rule where
  id : RuleId
  name : String
  check : Document → Outcome

def Document.find (d : Document) (text : String) : Except Fault (List Element) :=
  match Selector.parse text with
  | .ok q => (d.search q).mapError .search
  | .error fault => .error (.selector fault)

namespace Rule

def describe (r : Rule) : String := r.name ++ "(id=" ++ r.id.plain ++ ")"

/-- Whether two rules are of the same kind: rules of one kind share their name. -/
def sameKind (r s : Rule) : Bool := r.name == s.name

def reportAny (message : String) (elements : List Element) : List Report :=
  if elements.isEmpty then [] else [⟨message, elements⟩]

def total (id name : String) (reports : Document → List Report) : Rule :=
  ⟨.text id, name, fun d => .ok (reports d)⟩

def selected (id name message : String) (s : Selector) : Rule :=
  total id name fun d => reportAny message (d.select s)

def offenders (id name message : String) (s : Selector) (bad : Document → Element → Bool) : Rule :=
  total id name fun d => reportAny message ((d.select s).filter (bad d))

end Rule

end MarkupLint
