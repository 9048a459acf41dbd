import Calculator.Proofs.Grammar.Language
import Calculator.Proofs.Parse.Completeness

/-!
# Which texts are read

The whole text is a span that may be empty. `parse_text` and `exists_source_of_parse` carry
over what is known of spans: a text is read exactly if it is the text of a well-formed source
within the limit, and its tree is the tree of that source. The grammar of `SpanText` then
decides what is read.
-/

namespace Calculator

open Logged Token

variable {settings : Settings} {text : String}

/-- The event that follows a reading of a whole text. -/
def parsedEvents (text : String) : Except ParseError Expr → List Event
  | .ok expr => [.parsed text expr]
  | .error _ => []

theorem parse_eq_ending {outcome : Except ParseError Expr} {log : List Event}
    (reads : readSpan settings.maxDepth 0 (tokenize text) {} (tokenize text) = ending outcome log) :
    parse settings text = ending outcome (log ++ parsedEvents text outcome) := by
  simp only [parse, reads]
  cases outcome <;> simp [parsedEvents]

/-- Reading a text ends in one of the outcomes of its tokens. -/
theorem exists_parse_outcome (settings : Settings) (text : String) :
    ∃ outcome log, parse settings text = ending outcome (log ++ parsedEvents text outcome) ∧
      Outcome settings.maxDepth 0 (tokenize text) outcome log := by
  obtain ⟨outcome, log, reads, holds⟩ :=
    exists_outcome settings.maxDepth 0 (canonical_tokenize text) (Nat.zero_le _)
  exact ⟨outcome, log, parse_eq_ending reads, holds⟩

theorem outcome_of_parse_eq_error {error : ParseError}
    (failed : (parse settings text).result = .error error) :
    ∃ log, Outcome settings.maxDepth 0 (tokenize text) (.error error) log := by
  obtain ⟨outcome, log, reads, holds⟩ := exists_parse_outcome settings text
  rw [reads, result_ending] at failed
  subst failed
  exact ⟨log, holds⟩

/-- The text of a well-formed source within the limit is read as its tree. -/
theorem parse_text {source : Source} (wellFormed : source.WellFormed)
    (within : source.depth ≤ settings.maxDepth) :
    parse settings source.text =
      ending (.ok source.expr) (source.events ++ [.parsed source.text source.expr]) := by
  refine parse_eq_ending ?_
  rw [Source.tokenize_text wellFormed]
  cases source with
  | empty =>
      rw [Source.tokens, readSpan]
      exact close_eq_ok [] (settle_start []) rfl
  | written span =>
      exact readSpan_eq_ok wellFormed (by simpa [Source.depth] using within) span.tokens

/-- A well-formed source beyond the limit is refused for nothing but the limit. -/
theorem parse_text_eq_nestingTooDeep {source : Source} (wellFormed : source.WellFormed)
    (beyond : settings.maxDepth < source.depth) :
    (parse settings source.text).result = .error (.nestingTooDeep settings.maxDepth) := by
  cases source with
  | empty => cases beyond
  | written span =>
      obtain ⟨log, stops⟩ := readSpan_eq_nestingTooDeep wellFormed (Nat.zero_le _)
        (by simpa [Source.depth] using beyond) span.tokens []
      have tokens : tokenize (Source.written span).text = span.tokens :=
        Source.tokenize_text wellFormed
      rw [List.append_nil, ← tokens] at stops
      rw [parse_eq_ending stops, result_ending]

/-- What is read is the text of a well-formed source within the limit. -/
theorem exists_source_of_parse {expr : Expr} (parsed : (parse settings text).result = .ok expr) :
    ∃ source : Source, source.WellFormed ∧ source.depth ≤ settings.maxDepth ∧
      source.text = text ∧ source.expr = expr := by
  obtain ⟨outcome, log, reads, holds⟩ := exists_parse_outcome settings text
  rw [reads, result_ending] at parsed
  subst parsed
  obtain ⟨source, wellFormed, within, spells, hasExpr, -⟩ := holds.exists_source
  exact ⟨source, wellFormed, within, by rw [Source.text, spells, text_tokenize], hasExpr⟩

/-- A text is read exactly if it is an expression whose parentheses nest within the limit. An
expression whose parentheses nest deeper is refused with the limit and no other error. -/
theorem parse_decides_grammar (settings : Settings) (text : String) :
    ((∃ expr, (parse settings text).result = .ok expr) ↔
      IsExpression text ∧ nestingDepth text ≤ settings.maxDepth) ∧
    (IsExpression text → settings.maxDepth < nestingDepth text →
      (parse settings text).result = .error (.nestingTooDeep settings.maxDepth)) := by
  refine ⟨⟨?_, ?_⟩, ?_⟩
  · rintro ⟨expr, parsed⟩
    obtain ⟨source, wellFormed, within, rfl, -⟩ := exists_source_of_parse parsed
    rw [Source.nestingDepth_text wellFormed]
    exact ⟨isExpression_iff.mpr ⟨source, wellFormed, rfl⟩, within⟩
  · rintro ⟨isExpression, within⟩
    obtain ⟨source, wellFormed, rfl⟩ := isExpression_iff.mp isExpression
    rw [Source.nestingDepth_text wellFormed] at within
    exact ⟨source.expr, by rw [parse_text wellFormed within, result_ending]⟩
  · intro isExpression beyond
    obtain ⟨source, wellFormed, rfl⟩ := isExpression_iff.mp isExpression
    rw [Source.nestingDepth_text wellFormed] at beyond
    exact parse_text_eq_nestingTooDeep wellFormed beyond

/-- Two groups are too deep where one is allowed. -/
theorem parse_decides_grammar_two_groups :
    (parse { maxDepth := 1 } "((1))").result = .error (.nestingTooDeep 1) := by
  have number : FactorText true ['1'] := .number (numberRun_digit true rfl)
  have inner : SpanText ['(', '1', ')'] := .first (.group (.first number))
  have isExpression : IsExpression "((1))" := .inr (.first (.group inner))
  exact (parse_decides_grammar { maxDepth := 1 } "((1))").2 isExpression (by decide)

end Calculator
