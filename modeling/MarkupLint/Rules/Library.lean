import MarkupLint.Rule.Basic
import MarkupLint.Settings

/-! # Rules on linked libraries

Which copies and versions of the libraries a document links to.
-/
namespace MarkupLint.Rules

open Document (Element)
open Selector

def scriptsHolding (word : String) (d : Document) : List Element :=
  d.select (tag "script" &&& attrIs "src" .contains word)

/-- Whether the link of a script names a file. A selector takes any spelling of the attribute's
name, but only the exact one is read here. -/
def loadsFile (file : String) (e : Element) : Except Fault Bool :=
  match e.attribute? "src" with
  | some src => .ok (Link.filename src = file)
  | none => .error (.missing "src")

def scriptsNamed (file : String) (d : Document) : Except Fault (List Element) :=
  (scriptsHolding file d).filterM (loadsFile file)

def bootstrapScripts (d : Document) : Except Fault (List Element × List Element) := do
  let longhands ← scriptsNamed "bootstrap.js" d
  let minifieds ← scriptsNamed "bootstrap.min.js" d
  return (longhands, minifieds)

def duplicateReports (scripts : List Element × List Element) : List Report :=
  if scripts.1.isEmpty || scripts.2.isEmpty then []
  else
    [⟨"Only one copy of Bootstrap's JS should be included; " ++
      "currently the webpage includes both bootstrap.js and bootstrap.min.js",
      scripts.1 ++ scripts.2⟩]

def duplicateScripts : Rule where
  id := .text "E007"
  name := "DuplicateBootstrapJsRule"
  check d := .ofExcept ((bootstrapScripts d).map duplicateReports)

def noJQuery : String :=
  "Unable to locate jQuery, which is required for Bootstrap's JavaScript plugins to work"

def noJQueryNorScript : String :=
  noJQuery ++ "; however, you might not be using Bootstrap's JavaScript"

def jqueryFiles : List String :=
  ["jquery.js", "jQuery.js", "jquery.min.js", "jQuery.min.js"]

/-- Whether a segment is a file name of jQuery; one line feed after it is tolerated. -/
def isJQueryFile (segment : String) : Bool :=
  jqueryFiles.contains (String.ofList (Text.dropFinalNewline segment.toList))

def jqueryScripts (d : Document) : List Element :=
  d.select ((tag "script" &&& attrIs "src" .contains "jquery") |||
    (tag "script" &&& attrIs "src" .contains "jQuery"))

def isOutdated (version minimum : String) : Except Fault Bool :=
  ((Link.isOlderThan version minimum).mapError Fault.number).map (·.getD false)

def loadsOldJQuery (minimum : String) (e : Element) : Except Fault Bool := do
  let segments ← (Link.pathSegments ((e.attribute? "src").getD "")).mapError Fault.link
  if isJQueryFile (segments.getLast?.getD "") then
    match (Link.versionsIn segments).getLast? with
    | some version => isOutdated version minimum
    | none => return false
  else return false

def missingReports (scripts : List Element × List Element) : List Report :=
  [⟨if !scripts.1.isEmpty || !scripts.2.isEmpty then noJQuery else noJQueryNorScript, []⟩]

def jquery (settings : Settings) : Rule where
  id := .text "W005"
  name := "JQueryRule"
  check d :=
    if (jqueryScripts d).isEmpty then .ofExcept ((bootstrapScripts d).map missingReports)
    else
      Outcome.each (fun e => do
        if ← loadsOldJQuery settings.minJQueryVersion e then
          return [⟨
            "Found what might be an outdated version of jQuery; Bootstrap requires jQuery v" ++
              settings.minJQueryVersion ++ " or higher", [e]⟩]
        else return []) (jqueryScripts d)

/-- A link of an element names a file: the whole link is the name, or the name follows a
slash at its end. -/
def linksTo (base : Selector) (attr file : String) : Selector :=
  (base &&& attrIs attr .ends ("/" ++ file)) ||| (base &&& attrIs attr .equals file)

def styleSheet : Selector := tag "link" &&& attrIs "rel" .equals "stylesheet"

def bootstrapFiles : Selector :=
  anyOf [linksTo styleSheet "href" "bootstrap.css", linksTo styleSheet "href" "bootstrap.min.css",
    linksTo (tag "script") "src" "bootstrap.js", linksTo (tag "script") "src" "bootstrap.min.js"]

def bootstrapLink (e : Element) : Option String :=
  e.attribute? (if e.name = "link" then "href" else "src")

def outdatedBootstrap (settings : Settings) : Rule where
  id := .text "W013"
  name := "OutdatedBootstrapRule"
  check d :=
    Outcome.each (fun e => do
      match ← (Link.versionIn? (bootstrapLink e)).mapError Fault.link with
      | none => return []
      | some version =>
        if ← isOutdated version settings.currentBootstrapVersion then
          return [⟨"Bootstrap version does not seem to match the version this bootlint version " ++
            "is for (" ++ settings.currentBootstrapVersion ++
            "); saw what appears to be usage of Bootstrap " ++ version, [e]⟩]
        else return []) (d.select bootstrapFiles)

def libraryRules (settings : Settings) : List Rule :=
  [duplicateScripts, jquery settings, outdatedBootstrap settings]

end MarkupLint.Rules
