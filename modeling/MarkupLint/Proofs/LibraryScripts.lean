import MarkupLint.Proofs.RaisedThresholds
import MarkupLint.Proofs.ScriptSearches
import MarkupLint.Proofs.SelectorViews

/-! # The scripts of libraries

Scripts are found in two steps: a selector takes those whose link holds the name of a file anywhere,
and then the file that the link names is compared. What a link names as its file is a piece of the
link, so the first step loses nothing if both steps look at the same attribute, as they do in every
parsed document. In a tree where the name of the attribute has capitals the selector still sees it
and the second step does not, and the search fails. Two rules rely on what is found: the one on two
copies of Bootstrap, and the one on a missing jQuery.
-/
namespace MarkupLint

open Document (Element Content ValueMode)

section Pieces

theorem beginsBy_iff (p v : List Char) : beginsBy (· == ·) p v = true ↔ p <+: v := by
  induction p generalizing v with
  | nil => simp [beginsBy]
  | cons c p ih =>
    cases v with
    | nil => simp [beginsBy]
    | cons x v => simp [beginsBy, ih, List.cons_prefix_cons]

theorem containsBy_iff (p v : List Char) : containsBy (· == ·) p v = true ↔ p <:+: v := by
  induction v with
  | nil => simp [containsBy]
  | cons x v ih => rw [containsBy, Bool.or_eq_true, beginsBy_iff, ih, List.infix_cons_iff]

theorem Selector.holds_contains {attr word : String} (hcase : ignoresCase attr = false)
    (hword : word ≠ "") (d : Document) (scope : Nat) (p : Place) :
    (attrIs attr .contains word).holds d scope p = true ↔
      ∃ v, p.attribute? attr = some v ∧ word.toList <:+: v.toList := by
  have hne : word.toList.isEmpty = false := by
    simpa [List.isEmpty_eq_false_iff] using hword
  rw [attrIs, hcase, Selector.holds]
  cases p.attribute? attr with
  | none => simp
  | some v => simp [Comparison.test, hne, containsBy_iff]

end Pieces

namespace Link

variable {cs : List Char} {url file : String}

theorem afterLast_isSuffix (c : Char) (cs : List Char) : afterLast c cs <:+ cs := by
  have hprefix := List.takeWhile_prefix (l := cs.reverse) (· != c)
  rw [← List.reverse_suffix, List.reverse_reverse] at hprefix
  exact hprefix

theorem mem_afterLast_of_final {c x : Char} (hx : x ≠ c) (h : cs.getLast? = some x) :
    x ∈ afterLast c cs := by
  obtain ⟨front, rfl⟩ := List.getLast?_eq_some_iff.mp h
  simp [afterLast, hx]

/-- Without a line feed at its end, a link only loses what stands behind a mark. -/
theorem withoutSuffix_isPrefix (h : cs.getLast? ≠ some '\n') : withoutSuffix cs <+: cs := by
  have hbody : Text.dropFinalNewline cs = cs := if_neg h
  obtain ⟨front, hfront⟩ := afterLast_isSuffix '\n' cs
  have hkept : cs.take (cs.length - (afterLast '\n' cs).length) = front := by
    have hlength := congrArg List.length hfront
    rw [List.length_append] at hlength
    have hcut : cs.length - (afterLast '\n' cs).length = front.length := by omega
    rw [hcut, ← hfront, List.take_left]
  have hresult : withoutSuffix cs = front ++ (afterLast '\n' cs).takeWhile (!isSuffixMark ·) := by
    rw [withoutSuffix, hbody, hkept, List.drop_length, List.append_nil]
  have hcut : withoutSuffix cs <+: front ++ afterLast '\n' cs := by
    rw [hresult]
    exact (List.prefix_append_right_inj front).mpr (List.takeWhile_prefix _)
  rwa [hfront] at hcut

theorem withoutSuffix_final (h : cs.getLast? = some '\n') :
    (withoutSuffix cs).getLast? = some '\n' := by
  obtain ⟨front, rfl⟩ := List.getLast?_eq_some_iff.mp h
  have hbody : Text.dropFinalNewline (front ++ ['\n']) = front := by
    rw [Text.dropFinalNewline, if_pos h, List.dropLast_concat]
  rw [withoutSuffix, hbody, List.drop_left, List.getLast?_concat]

theorem isInfix_of_filename (h : filename url = file) (hfile : '\n' ∉ file.toList) :
    file.toList <:+: url.toList := by
  have hname : afterLast '/' (withoutSuffix url.toList) = file.toList := by
    rw [← h, filename, String.toList_ofList]
  by_cases hfinal : url.toList.getLast? = some '\n'
  · -- a line feed at the end would be part of the name
    have hmem := mem_afterLast_of_final (by decide : '\n' ≠ '/') (withoutSuffix_final hfinal)
    rw [hname] at hmem
    exact absurd hmem hfile
  · rw [← hname]
    exact (afterLast_isSuffix '/' _).isInfix.trans (withoutSuffix_isPrefix hfinal).isInfix

end Link

namespace Rules

open Selector

variable {mode : ValueMode} {text file word : String} {d : Document} {e : Element}
  {scripts : List Element × List Element}

def Loads (file : String) (e : Element) : Prop :=
  (Place.element e).name = "script" ∧ LinkNames file e

instance (file : String) : DecidablePred (Loads file) :=
  fun e => inferInstanceAs (Decidable ((Place.element e).name = "script" ∧ LinkNames file e))

/-- A script whose link, as selectors see it, holds a word. -/
def Mentions (word : String) (e : Element) : Prop :=
  (Place.element e).name = "script" ∧
    ∃ src, (Place.element e).attribute? "src" = some src ∧ word.toList <:+: src.toList

instance (word : String) : DecidablePred (Mentions word) := fun e =>
  decidable_of_iff ((Place.element e).name = "script" ∧
      ((Place.element e).attribute? "src").any fun src =>
        containsBy (· == ·) word.toList src.toList)
    (by simp [Mentions, Option.any_eq_true, containsBy_iff])

/-- Selectors see the links that the scripts of a document have. -/
def LinksSeen (d : Document) : Prop :=
  ∀ e ∈ d.elements, (Place.element e).name = "script" →
    (Place.element e).attribute? "src" = e.attribute? "src"

theorem linksSeen_of_parse (h : Content.parse mode text = .ok d.content) : LinksSeen d :=
  fun _ he _ => Document.seen_attribute h he (by decide)

theorem holds_mentions (hword : word ≠ "") :
    (tag "script" &&& attrIs "src" .contains word).holds d 0 (.element e) = true ↔
      Mentions word e := by
  change ((tag "script").holds d 0 (.element e) && (attrIs "src" .contains word).holds d 0
    (.element e)) = true ↔ _
  rw [Bool.and_eq_true, holds_contains (by decide) hword, Selector.holds, decide_eq_true_eq]
  rfl

theorem mem_scriptsHolding (hword : word ≠ "") :
    e ∈ scriptsHolding word d ↔ e ∈ d.elements ∧ Mentions word e := by
  rw [scriptsHolding, Document.select, List.mem_filter, holds_mentions hword]

theorem LinksSeen.linked (h : LinksSeen d) (hword : word ≠ "") (he : e ∈ scriptsHolding word d) :
    Linked e := by
  obtain ⟨hmem, hscript, src, hseen, -⟩ := (mem_scriptsHolding hword).mp he
  rw [h e hmem hscript] at hseen
  exact Option.isSome_of_mem hseen

theorem LinksSeen.sourcesPresent (h : LinksSeen d) : SourcesPresent d := by
  intro file hfile e he
  have hne : file ≠ "" := by
    rintro rfl
    exact absurd hfile (by decide)
  exact h.linked hne he

theorem sourcesPresent_iff :
    SourcesPresent d ↔ ∀ e ∈ d.elements,
      Mentions "bootstrap.js" e ∨ Mentions "bootstrap.min.js" e → Linked e := by
  simp only [sourcesPresent_iff_both, mem_scriptsHolding (by decide : "bootstrap.js" ≠ ""),
    mem_scriptsHolding (by decide : "bootstrap.min.js" ≠ "")]
  constructor
  · rintro ⟨hlonghand, hminified⟩ e he (hmentions | hmentions)
    · exact hlonghand e ⟨he, hmentions⟩
    · exact hminified e ⟨he, hmentions⟩
  · intro h
    exact ⟨fun e he => h e he.1 (Or.inl he.2), fun e he => h e he.1 (Or.inr he.2)⟩

theorem not_sourcesPresent_iff :
    ¬SourcesPresent d ↔ ∃ e ∈ d.elements, e.attribute? "src" = none ∧
      (Mentions "bootstrap.js" e ∨ Mentions "bootstrap.min.js" e) := by
  rw [sourcesPresent_iff]
  push Not
  simp only [Linked, Option.not_isSome_iff_eq_none]
  exact exists_congr fun e => and_congr_right fun _ => and_comm

theorem Loads.mentions (h : Loads file e) (hfile : '\n' ∉ file.toList)
    (hseen : (Place.element e).attribute? "src" = e.attribute? "src") : Mentions file e := by
  obtain ⟨hname, hlink⟩ := h
  obtain ⟨src, hsrc, hfound⟩ := Option.map_eq_some_iff.mp hlink
  exact ⟨hname, src, hseen.trans hsrc, Link.isInfix_of_filename hfound hfile⟩

/-- Where selectors see the links, the first step of a search drops no script that loads the
file. -/
theorem LinksSeen.namedScripts_eq (h : LinksSeen d) (hne : file ≠ "")
    (hfile : '\n' ∉ file.toList) :
    namedScripts file d = d.elements.filter fun e => Loads file e := by
  rw [namedScripts, scriptsHolding, Document.select, List.filter_filter]
  apply List.filter_congr
  intro e he
  rw [Bool.eq_iff_iff, Bool.and_eq_true, decide_eq_true_eq, decide_eq_true_eq,
    holds_mentions hne]
  constructor
  · rintro ⟨hnames, hscript, -⟩
    exact ⟨hscript, hnames⟩
  · intro hloads
    exact ⟨hloads.2, hloads.mentions hfile (h e he hloads.1)⟩

theorem LinksSeen.bootstrapScripts_eq (h : LinksSeen d) :
    bootstrapScripts d = .ok (d.elements.filter fun e => Loads "bootstrap.js" e,
      d.elements.filter fun e => Loads "bootstrap.min.js" e) := by
  rw [bootstrapScripts_present h.sourcesPresent, h.namedScripts_eq (by decide) (by decide),
    h.namedScripts_eq (by decide) (by decide)]

theorem scripts_disjoint (h : bootstrapScripts d = .ok scripts) : scripts.1.Disjoint scripts.2 := by
  obtain rfl := of_bootstrapScripts h
  intro e hl hm
  exact absurd (file_eq_of_mem hl hm) (by decide)

theorem duplicateReports_eq_nil_iff :
    duplicateReports scripts = [] ↔ scripts.1 = [] ∨ scripts.2 = [] := by
  unfold duplicateReports
  split
  · next h => simpa using h
  · next h => simpa using h

theorem duplicateReports_both (scripts : List Element × List Element) (hl : scripts.1 ≠ [])
    (hm : scripts.2 ≠ []) :
    ∃ message, duplicateReports scripts = [⟨message, scripts.1 ++ scripts.2⟩] := by
  have hboth : (scripts.1.isEmpty || scripts.2.isEmpty) = false := by
    simp [hl, hm]
  rw [duplicateReports, hboth, if_neg Bool.false_ne_true]
  exact ⟨_, rfl⟩

theorem missingReports_eq (scripts : List Element × List Element) :
    ∃ message, missingReports scripts = [⟨message, []⟩] ∧
      (message = noJQuery ↔ scripts.1 ≠ [] ∨ scripts.2 ≠ []) := by
  have hdistinct : noJQueryNorScript ≠ noJQuery := by decide +kernel
  refine ⟨_, rfl, ?_⟩
  obtain ⟨l, m⟩ := scripts
  cases l <;> cases m <;> simp [hdistinct]

def WithoutJQuery (d : Document) : Prop :=
  ∀ e ∈ d.elements, ¬Mentions "jquery" e ∧ ¬Mentions "jQuery" e

instance (d : Document) : Decidable (WithoutJQuery d) :=
  inferInstanceAs (Decidable (∀ e ∈ d.elements, ¬Mentions "jquery" e ∧ ¬Mentions "jQuery" e))

theorem WithoutJQuery.check (h : WithoutJQuery d) (settings : Settings) :
    (jquery settings).check d = .ofExcept ((bootstrapScripts d).map missingReports) := by
  have hnone : jqueryScripts d = [] := by
    apply List.filter_eq_nil_iff.mpr
    intro e he hholds
    change ((tag "script" &&& attrIs "src" .contains "jquery").holds d 0 (.element e) ||
      (tag "script" &&& attrIs "src" .contains "jQuery").holds d 0 (.element e)) = true at hholds
    rw [Bool.or_eq_true, holds_mentions (by decide), holds_mentions (by decide)] at hholds
    rcases hholds with hlower | hcapital
    · exact (h e he).1 hlower
    · exact (h e he).2 hcapital
  rw [check_jquery, hnone, List.isEmpty_nil, if_pos rfl]

/-- Both copies of Bootstrap's script behind queries and fragments, and a link that only mentions
one. -/
def copiesText : String :=
  "<SCRIPT SRC=\"x/bootstrap.js?a=/b#c\"></SCRIPT><script src=\"bootstrap.js/y\"></script>" ++
    "<script src=\"bootstrap.min.js#?\"></script>"

def copies : Document where
  content :=
    .element ⟨"script", [("src", .text "x/bootstrap.js?a=/b#c")], some ⟨1, 0⟩⟩ .nil
      (.element ⟨"script", [("src", .text "bootstrap.js/y")], some ⟨1, 45⟩⟩ .nil
        (.element ⟨"script", [("src", .text "bootstrap.min.js#?")], some ⟨1, 83⟩⟩ .nil .nil))
  source := some copiesText

/-- A tree that no text is parsed to: the name of an attribute has capitals. -/
def capitalLink : Document :=
  .ofContent (.element ⟨"script", [("SRC", .text "bootstrap.js")], none⟩ .nil .nil)

end Rules

end MarkupLint
