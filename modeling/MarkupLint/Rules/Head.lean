import MarkupLint.Rule.Basic

/-! # Rules on the document type and the head

The document type, the character set and the viewport.
-/
namespace MarkupLint.Rules

open Document (Element)
open Selector

def currentDoctypes : List String :=
  ["html", "html system \"about:legacy-compat\""]

def doctype : Rule :=
  .total "E001" "DoctypeRule" fun d =>
    match d.doctype? with
    | none => [⟨"Document is missing a DOCTYPE declaration", []⟩]
    | some t =>
      if currentDoctypes.contains t then []
      else [⟨"Document declares a non-HTML5 DOCTYPE", []⟩]

def headMeta : Selector := child (tag "head") (tag "meta")

def charsetMetas (d : Document) : List Element :=
  d.select (headMeta &&& withAttr "charset")

def declaresUtf8 (e : Element) : Bool :=
  Text.lower (Text.strip ((e.attribute? "http-equiv").getD "")) = "content-type" &&
    Text.unwords (Text.words (Text.lower ((e.attribute? "content").getD ""))) =
      "text/html; charset=utf-8"

def missingCharset (d : Document) : List Report :=
  if (d.select (headMeta &&& withAttr "http-equiv" &&& withAttr "content")).any declaresUtf8 then []
  else [⟨"`<head>` is missing UTF-8 charset `<meta>` tag", []⟩]

/-- The head must declare the character set UTF-8. The first `meta` element with a character
set decides. -/
def charset : Rule :=
  .total "W001" "CharsetRule" fun d =>
    match (charsetMetas d).head?.bind fun e => e.attribute? "charset" with
    | none => missingCharset d
    | some value =>
      if value.isEmpty then missingCharset d
      else if Text.lower (Text.strip value) = "utf-8" then []
      else
        [⟨"charset `<meta>` tag is specifying a legacy, non-UTF-8 charset", charsetMetas d⟩]

def viewport : Rule :=
  .total "W003" "ViewportRule" fun d =>
    if (d.select
        (headMeta &&& attrIs "name" .equals "viewport" &&& withAttr "content")).isEmpty then
      [⟨"`<head>` is missing viewport `<meta>` tag that enables responsiveness", []⟩]
    else []

def headRules : List Rule := [doctype, charset, viewport]

end MarkupLint.Rules
