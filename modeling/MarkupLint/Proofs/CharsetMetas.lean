import MarkupLint.Proofs.SelectorViews
import MarkupLint.Rules.Head

/-! # Blame for a legacy character set

The rule on the character set looks at the first `meta` element of the head that names one. If that
one names a legacy set, all of them are blamed, those that name UTF-8 as well. So the elements of
the report are the legacy ones just where none of them names UTF-8.
-/
namespace MarkupLint.Rules

open Document (Element Content ValueMode)
open Selector

variable {d : Document} {e : Element} {text : String} {mode : ValueMode} {r : Report}

structure CharsetMeta (e : Element) : Prop where
  named : e.name = "meta"
  held : ∃ p ∈ e.parent?, p.name = "head"
  charset : (e.attribute? "charset").isSome = true

instance : DecidablePred CharsetMeta := fun e =>
  decidable_of_iff (e.name = "meta" ∧ (∃ p ∈ e.parent?, p.name = "head") ∧
      (e.attribute? "charset").isSome = true)
    ⟨fun h => ⟨h.1, h.2.1, h.2.2⟩, fun h => ⟨h.named, h.held, h.charset⟩⟩

def NamesUtf8 (e : Element) : Prop :=
  ∃ v ∈ e.attribute? "charset", Text.lower (Text.strip v) = "utf-8"

instance : DecidablePred NamesUtf8 :=
  fun e => inferInstanceAs (Decidable (∃ v ∈ e.attribute? "charset", _))

def LegacyMeta (e : Element) : Prop := CharsetMeta e ∧ ¬NamesUtf8 e

instance : DecidablePred LegacyMeta := fun _ => inferInstanceAs (Decidable (_ ∧ _))

/-- The first `meta` element of the head with a character set names one, and not UTF-8. -/
def LegacyFirst (d : Document) : Prop :=
  ∃ e ∈ (d.elements.filter fun e => CharsetMeta e).head?,
    e.attribute? "charset" ≠ some "" ∧ ¬NamesUtf8 e

instance (d : Document) : Decidable (LegacyFirst d) :=
  inferInstanceAs (Decidable (∃ e ∈ (d.elements.filter fun e => CharsetMeta e).head?, _))

def legacyMessage : String := "charset `<meta>` tag is specifying a legacy, non-UTF-8 charset"

theorem holds_headMeta (h : Content.parse mode text = .ok d.content) (he : e ∈ d.elements) :
    headMeta.holds d 0 (.element e) = true ↔
      e.name = "meta" ∧ ∃ p ∈ e.parent?, p.name = "head" := by
  have hdocument : (tag "head").holds d 0 .document = false := by
    simp [holds, Place.name]
  rw [headMeta, holds_child hdocument, holds_tag h he]
  apply and_congr_right
  intro _
  refine exists_congr fun p => and_congr_right fun hp => ?_
  exact holds_tag h (Document.parent_mem he hp)

theorem charsetMetas_eq (h : Content.parse mode text = .ok d.content) :
    charsetMetas d = d.elements.filter fun e => CharsetMeta e := by
  apply List.filter_congr
  intro e he
  change (headMeta.holds d 0 (.element e) && (withAttr "charset").holds d 0 (.element e)) = _
  rw [Bool.eq_iff_iff, Bool.and_eq_true, decide_eq_true_eq, holds_headMeta h he,
    holds_withAttr h he (by decide)]
  constructor
  · rintro ⟨⟨hname, hheld⟩, hcharset⟩
    exact ⟨hname, hheld, hcharset⟩
  · intro hmeta
    exact ⟨⟨hmeta.named, hmeta.held⟩, hmeta.charset⟩

theorem message_of_missingCharset (h : r ∈ missingCharset d) : r.message ≠ legacyMessage := by
  unfold missingCharset at h
  split at h
  · cases h
  · obtain rfl := List.mem_singleton.mp h
    decide

theorem reports_of_first {v : String} (hfirst : (charsetMetas d).head? = some e)
    (hv : e.attribute? "charset" = some v) :
    (charset.check d).reports =
      if v.isEmpty then missingCharset d
      else if Text.lower (Text.strip v) = "utf-8" then []
      else [⟨legacyMessage, charsetMetas d⟩] := by
  dsimp only [charset, Rule.total, Outcome.ok]
  rw [hfirst, Option.bind_some, hv]
  rfl

theorem legacyFirst_iff {v : String}
    (hfirst : (d.elements.filter fun e => CharsetMeta e).head? = some e)
    (hv : e.attribute? "charset" = some v) :
    LegacyFirst d ↔ v ≠ "" ∧ Text.lower (Text.strip v) ≠ "utf-8" := by
  simp [LegacyFirst, NamesUtf8, hfirst, hv]

/-- The value of the first `meta` element decides between the branches of the rule. -/
theorem charset_reports (h : Content.parse mode text = .ok d.content) :
    (LegacyFirst d ∧ (charset.check d).reports = [⟨legacyMessage, d.elements.filter fun e =>
        CharsetMeta e⟩]) ∨
      (¬LegacyFirst d ∧ ∀ r ∈ (charset.check d).reports, r.message ≠ legacyMessage) := by
  have hmetas := charsetMetas_eq h
  cases hfirst : (d.elements.filter fun e => CharsetMeta e).head? with
  | none =>
    have hreports : (charset.check d).reports = missingCharset d := by
      dsimp only [charset, Rule.total, Outcome.ok]
      rw [hmetas, hfirst]
      rfl
    refine Or.inr ⟨?_, ?_⟩
    · rintro ⟨e, he, -⟩
      rw [hfirst] at he
      cases he
    · intro r hr
      rw [hreports] at hr
      exact message_of_missingCharset hr
  | some e =>
    have hmem := List.mem_filter.mp (List.mem_of_head? hfirst)
    obtain ⟨v, hv⟩ := Option.isSome_iff_exists.mp (of_decide_eq_true hmem.2).charset
    rw [reports_of_first (hmetas ▸ hfirst) hv, hmetas, legacyFirst_iff hfirst hv]
    by_cases hempty : v = ""
    · refine Or.inr ⟨fun hlegacy => hlegacy.1 hempty, ?_⟩
      intro r hr
      rw [hempty] at hr
      exact message_of_missingCharset hr
    · have hsome : ¬v.isEmpty = true := by simpa using hempty
      rw [if_neg hsome]
      by_cases hutf : Text.lower (Text.strip v) = "utf-8"
      · refine Or.inr ⟨fun hlegacy => hlegacy.2 hutf, ?_⟩
        intro r hr
        rw [if_pos hutf] at hr
        cases hr
      · exact Or.inl ⟨⟨hempty, hutf⟩, if_neg hutf⟩

theorem filter_charsetMeta_eq_iff (es : List Element) :
    (es.filter fun e => CharsetMeta e) = (es.filter fun e => LegacyMeta e) ↔
      ∀ e ∈ es, CharsetMeta e → ¬NamesUtf8 e := by
  have hlegacy : (es.filter fun e => LegacyMeta e) =
      (es.filter fun e => CharsetMeta e).filter fun e => ¬NamesUtf8 e := by
    rw [List.filter_filter]
    apply List.filter_congr
    intro e _
    rw [Bool.eq_iff_iff, Bool.and_eq_true, decide_eq_true_eq, decide_eq_true_eq,
      decide_eq_true_eq, LegacyMeta, and_comm]
  rw [hlegacy, eq_comm, List.filter_eq_self]
  simp only [List.mem_filter, decide_eq_true_eq, and_imp]

/-- In a parsed document a legacy character set is reported just where the first `meta` element
names one, once, and about all that name any. These are the legacy ones just where none of them
names UTF-8. -/
theorem legacy_charset_blame_iff (h : Content.parse mode text = .ok d.content) :
    ((∃ r ∈ (charset.check d).reports, r.message = legacyMessage) ↔ LegacyFirst d) ∧
      (∀ r ∈ (charset.check d).reports, r.message = legacyMessage →
        r.elements = d.elements.filter fun e => CharsetMeta e) ∧
      ((∀ r ∈ (charset.check d).reports, r.message = legacyMessage →
          r.elements = d.elements.filter fun e => LegacyMeta e) ↔
        (LegacyFirst d → ∀ e ∈ d.elements, CharsetMeta e → ¬NamesUtf8 e)) := by
  rcases charset_reports h with ⟨hfirst, hreports⟩ | ⟨hfirst, hother⟩
  · rw [hreports, ← filter_charsetMeta_eq_iff]
    simp [hfirst]
  · refine ⟨⟨?_, fun hf => absurd hf hfirst⟩, fun r hr hm => absurd hm (hother r hr), ?_⟩
    · rintro ⟨r, hr, hm⟩
      exact absurd hm (hother r hr)
    · exact ⟨fun _ hf => absurd hf hfirst, fun _ r hr hm => absurd hm (hother r hr)⟩

/-- Two legacy sets, one of them empty, and UTF-8 outside the head. -/
def legacyHeadText : String :=
  "<head><meta charset=\" latin1\"><meta charset=\"\"></head><meta charset=UTF-8>"

def legacyHead : Document where
  content :=
    .element ⟨"head", [], some ⟨1, 0⟩⟩
      (.element ⟨"meta", [("charset", .text " latin1")], some ⟨1, 6⟩⟩ .nil
        (.element ⟨"meta", [("charset", .text "")], some ⟨1, 30⟩⟩ .nil .nil))
      (.element ⟨"meta", [("charset", .text "UTF-8")], some ⟨1, 54⟩⟩ .nil .nil)
  source := some legacyHeadText

theorem legacy_charset_blame_iff_head :
    Content.parse .split legacyHeadText = .ok legacyHead.content ∧ LegacyFirst legacyHead ∧
      (∃ r ∈ (charset.check legacyHead).reports, r.message = legacyMessage) ∧
      (∀ r ∈ (charset.check legacyHead).reports, r.message = legacyMessage →
        r.elements = legacyHead.elements.filter fun e => LegacyMeta e) ∧
      (legacyHead.elements.filter fun e => LegacyMeta e).map (fun e => e.index) = [1, 2] := by
  have hparse : Content.parse .split legacyHeadText = .ok legacyHead.content := by decide +kernel
  have hfirst : LegacyFirst legacyHead := by decide +kernel
  obtain ⟨hreported, -, hblame⟩ := legacy_charset_blame_iff hparse
  refine ⟨hparse, hfirst, hreported.mpr hfirst, hblame.mpr fun _ => ?_, ?_⟩
  · decide +kernel
  · decide +kernel

def mixedHeadText : String :=
  "<head><meta charset=\"latin1\"><meta charset=\" Utf-8 \"></head>"

def mixedHead : Document where
  content :=
    .element ⟨"head", [], some ⟨1, 0⟩⟩
      (.element ⟨"meta", [("charset", .text "latin1")], some ⟨1, 6⟩⟩ .nil
        (.element ⟨"meta", [("charset", .text " Utf-8 ")], some ⟨1, 29⟩⟩ .nil .nil))
      .nil
  source := some mixedHeadText

/-- The second `meta` element names UTF-8 and is blamed. -/
theorem utf8_meta_blamed :
    (Document.read none mixedHeadText).toOption = some mixedHead ∧
      (mixedHead.elements.filter fun e => LegacyMeta e).map (fun e => e.index) = [1] ∧
      (charset.check mixedHead).reports.map
          (fun r => (r.message, r.elements.map fun e => e.index)) = [(legacyMessage, [1, 2])] := by
  decide +kernel

end MarkupLint.Rules
