import MarkupLint.Settings
import MarkupLint.Settings.Shape
import MarkupLint.Text.Case

/-! # Where settings come from

Settings are given as fields or as environment variables, in any letter case; a field counts
before a variable. Of several fields of one name the first counts, of several variables the
last. What is not given has its usual value.
-/
namespace MarkupLint.Settings

inductive SetupFault where
  | unreadable
  | invalid
  deriving DecidableEq, Repr

def variableStart : String := "BOOTLINT_"

/-- The first value given under a name, letter case aside. -/
def given? {α : Type} (name : String) (values : List (String × α)) : Option α :=
  (values.find? fun v => Text.lower v.1 = Text.lower name).map (·.2)

def inEnvironment? (env : List (String × String)) (name : String) : Option String :=
  given? (variableStart ++ name) env.reverse

def textSetting (env : List (String × String)) (fields : List (String × Shape))
    (name usual : String) : Except SetupFault String :=
  match given? name fields with
  | some (.text s) => .ok s
  | some _ => .error .invalid
  | none => .ok ((inEnvironment? env name).getD usual)

def listVariable (env : List (String × String)) (name : String) :
    Except SetupFault (Option Shape) :=
  match inEnvironment? env name with
  | none => .ok none
  | some text =>
    match Shape.parse? text with
    | none => .error .unreadable
    | some .null => .ok none
    | some shape => .ok (some shape)

def listSetting (inEnv : Option Shape) (fields : List (String × Shape)) (name : String)
    (usual : List String) : Except SetupFault (List String) :=
  match (given? name fields).or inEnv with
  | none => .ok usual
  | some (.texts items) => .ok items
  | some _ => .error .invalid

def resolve (env : List (String × String)) (fields : List (String × Shape)) :
    Except SetupFault Settings := do
  let usual : Settings := {}
  let disabled ← listVariable env "DISABLED_IDS"
  return {
    wikiUrl := ← textSetting env fields "WIKI_URL" usual.wikiUrl
    reader := ← textSetting env fields "HTML_PARSER" usual.reader
    disabledIds := ← listSetting disabled fields "DISABLED_IDS" usual.disabledIds
    minJQueryVersion := ← textSetting env fields "MIN_JQUERY_VERSION" usual.minJQueryVersion
    currentBootstrapVersion :=
      ← textSetting env fields "CURRENT_BOOTSTRAP_VERSION" usual.currentBootstrapVersion }

end MarkupLint.Settings
