/-! # Settings

What a lint pass can be told from outside.
-/
namespace MarkupLint

structure Settings where
  wikiUrl : String := "https://github.com/twbs/bootlint/wiki/"
  reader : String := "html.parser"
  /-- The rules that are skipped when a caller names none. -/
  disabledIds : List String := []
  minJQueryVersion : String := "3.0.0"
  currentBootstrapVersion : String := "4.0.0-beta"
  deriving DecidableEq, Repr

def Settings.documentationUrl (s : Settings) (id : String) : String := s.wikiUrl ++ id

end MarkupLint
