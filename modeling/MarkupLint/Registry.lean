import MarkupLint.Problem
import MarkupLint.Rule.Basic
import MarkupLint.Settings

/-! # Registries of rules

A builder collects rules and checks their ids; a registry holds them in the order of their ids
and runs them over a document.
-/
namespace MarkupLint

inductive SetupError where
  | duplicate (id : RuleId)
  | invalid (id : RuleId)
  deriving DecidableEq, Repr

def SetupError.message : SetupError → String
  | duplicate id => "Linter already registered with ID: " ++ id.plain
  | invalid id => "Invalid linter ID: " ++ id.quoted

def SetupError.id : SetupError → RuleId
  | duplicate id => id
  | invalid id => id

def Severity.ofId (id : RuleId) : Except SetupError Severity :=
  match Severity.ofId? id with
  | some severity => .ok severity
  | none => .error (.invalid id)

structure Entry where
  id : String
  severity : Severity
  url : String
  rule : Rule

def Entry.problem (e : Entry) (r : Report) : Problem :=
  ⟨e.id, e.severity, r.message, e.url, ElementRef.ofElements r.elements⟩

structure PassResult where
  problems : List Problem
  fault : Option Fault
  deriving DecidableEq, Repr

/-- Runs registered rules one after the other, up to the first fault. -/
def runEntries (d : Document) : List Entry → PassResult
  | [] => ⟨[], none⟩
  | e :: rest =>
    let outcome := e.rule.check d
    let problems := outcome.reports.map e.problem
    match outcome.fault with
    | some f => ⟨problems, some f⟩
    | none => ⟨problems ++ (runEntries d rest).problems, (runEntries d rest).fault⟩

inductive Disabled where
  | one (id : String)
  | many (ids : List String)
  deriving DecidableEq, Repr

def Disabled.ids : Disabled → List String
  | one id => [id]
  | many ids => ids

structure Registry where
  entries : List Entry

namespace Registry

def ofEntries (entries : List Entry) : Registry :=
  ⟨entries.mergeSort fun a b => decide (a.id ≤ b.id)⟩

def ids (r : Registry) : List String := r.entries.map Entry.id

def size (r : Registry) : Nat := r.entries.length

def get? (r : Registry) (id : String) : Option Entry := r.entries.find? fun e => e.id == id

def severityOf? (r : Registry) (id : String) : Option Severity := (r.get? id).map Entry.severity

def contains (r : Registry) (id : String) : Bool := (r.get? id).isSome

def describe (r : Registry) : String := "RuleRegistry(" ++ toString r.size ++ " rules)"

def run (r : Registry) (d : Document) (disabled : Disabled) : PassResult :=
  runEntries d (r.entries.filter fun e => !disabled.ids.contains e.id)

end Registry

structure Builder where
  settings : Settings
  entries : List Entry

namespace Builder

def empty (settings : Settings) : Builder := ⟨settings, []⟩

def size (b : Builder) : Nat := b.entries.length

def holds (b : Builder) (id : RuleId) : Bool := b.entries.any fun e => RuleId.text e.id = id

/-- Registers a rule. A repeated id is refused before its form is looked at. -/
def register (b : Builder) (r : Rule) : Except SetupError Builder :=
  if b.holds r.id then .error (.duplicate r.id)
  else
    match r.id, Severity.ofId? r.id with
    | .text id, some severity =>
      .ok { b with entries := b.entries ++ [⟨id, severity, b.settings.documentationUrl id, r⟩] }
    | _, _ => .error (.invalid r.id)

/-- Registers rules up to the first one that is refused; those before it stay. -/
def registerAll (b : Builder) : List Rule → Builder × Option SetupError
  | [] => (b, none)
  | r :: rest =>
    match b.register r with
    | .ok b => b.registerAll rest
    | .error e => (b, some e)

def build (b : Builder) : Registry := .ofEntries b.entries

end Builder

end MarkupLint
