import Calculator.Proofs.Grammar.Lead

/-!
# The language of expressions

The grammar without precedence, as a predicate on characters: a span is a row of factors
with operators between them and perhaps a sign before them. `spanText_iff` says that
these are the texts of well-formed spans, so precedence only says how a text is grouped
and not which texts there are. How deep groups nest can be read off the characters, too.
-/

namespace Calculator

mutual

/-- Characters that form a span. -/
inductive SpanText : List Char → Prop where
  | first {factor : List Char} (isFactor : FactorText true factor) : SpanText factor
  | signed {factor : List Char} (sign : Operator) (additive : sign.isMultiplicative = false)
      (isFactor : FactorText false factor) : SpanText (sign.symbol :: factor)
  | next {span factor : List Char} (op : Operator) (isSpan : SpanText span)
      (isFactor : FactorText false factor) : SpanText (span ++ op.symbol :: factor)

/-- Characters that form a factor. `first` tells if they stand at the start of their
span. -/
inductive FactorText : Bool → List Char → Prop where
  | number {first : Bool} {run : List Char} (isRun : NumberRun first run) : FactorText first run
  | group {first : Bool} {span : List Char} (isSpan : SpanText span) :
      FactorText first ('(' :: (span ++ [')']))

end

/-- A text that is an expression. Only as a whole may it be empty. -/
def IsExpression (source : String) : Prop :=
  source = "" ∨ SpanText source.toList

mutual

/-- The characters of a span are the text of a well-formed one. -/
theorem SpanText.exists_span {characters : List Char} :
    SpanText characters →
      ∃ span : Span, span.WellFormed ∧ span.tokens.flatMap Token.chars = characters
  | .first isFactor => by
      obtain ⟨factor, ofFactor, rfl⟩ := isFactor.exists_factor
      exact ⟨Lead.start.add factor, Lead.wellFormed_add.mpr ⟨trivial, ofFactor⟩, by simp⟩
  | .signed sign additive isFactor => by
      obtain ⟨factor, ofFactor, rfl⟩ := isFactor.exists_factor
      exact ⟨(Lead.sign sign).add factor, Lead.wellFormed_add.mpr ⟨additive, ofFactor⟩,
        by simp [Token.chars]⟩
  | .next op isSpan isFactor => by
      obtain ⟨span, ofSpan, rfl⟩ := isSpan.exists_span
      obtain ⟨factor, ofFactor, rfl⟩ := isFactor.exists_factor
      exact ⟨(Lead.behind span op).add factor, Lead.wellFormed_add.mpr ⟨ofSpan, ofFactor⟩,
        by simp [Token.chars]⟩

/-- The characters of a factor are the text of a well-formed one. -/
theorem FactorText.exists_factor {first : Bool} {characters : List Char} :
    FactorText first characters → ∃ factor : Factor, factor.WellFormed first ∧
      factor.tokens.flatMap Token.chars = characters
  | .number isRun => ⟨.number characters, isRun, by simp [Factor.tokens, Token.chars]⟩
  | .group isSpan => by
      obtain ⟨span, ofSpan, rfl⟩ := isSpan.exists_span
      exact ⟨.group span, ofSpan, by simp [Factor.tokens, Token.chars]⟩

end

/-- The text of a well-formed span forms a span of the grammar. -/
theorem Span.spanText {span : Span} (wellFormed : span.WellFormed) :
    SpanText (span.tokens.flatMap Token.chars) := by
  induction span, wellFormed using Span.induction_on_factors with
  | add lead factor wellFormed leadHypothesis groupHypothesis =>
      obtain ⟨ofLead, ofFactor⟩ := Lead.wellFormed_add.mp wellFormed
      have isFactor : FactorText lead.isStart (factor.tokens.flatMap Token.chars) := by
        cases factor with
        | number run => simpa [Factor.tokens, Token.chars] using FactorText.number ofFactor
        | group inner =>
            have isSpan := groupHypothesis inner ofFactor rfl
            simpa [Factor.tokens, Token.chars] using FactorText.group isSpan
      rw [Lead.tokens_add, List.flatMap_append]
      cases lead with
      | start => exact .first isFactor
      | sign op => exact .signed op ofLead isFactor
      | behind before op =>
          have isSpan := leadHypothesis before op ofLead rfl
          simpa [Token.chars] using SpanText.next op isSpan isFactor

/-- The grammar describes exactly the texts of well-formed spans. -/
theorem spanText_iff {characters : List Char} :
    SpanText characters ↔
      ∃ span : Span, span.WellFormed ∧ span.tokens.flatMap Token.chars = characters := by
  constructor
  · exact SpanText.exists_span
  · rintro ⟨span, wellFormed, rfl⟩
    exact span.spanText wellFormed

/-- Expressions are exactly the texts of well-formed sources. -/
theorem isExpression_iff {text : String} :
    IsExpression text ↔ ∃ source : Source, source.WellFormed ∧ source.text = text := by
  rw [IsExpression, spanText_iff]
  constructor
  · rintro (rfl | ⟨span, wellFormed, spells⟩)
    · exact ⟨.empty, trivial, rfl⟩
    · refine ⟨.written span, wellFormed, ?_⟩
      rw [Source.text, Source.tokens, Token.text, spells, String.ofList_toList]
  · rintro ⟨source, wellFormed, rfl⟩
    cases source with
    | empty => exact .inl rfl
    | written span => exact .inr ⟨span, wellFormed, (Token.toList_text _).symm⟩

/-! ### Depth -/

/-- The largest number of parentheses of a text that are open at once. -/
def nestingDepth (source : String) : Nat :=
  deepest '(' ')' 0 source.toList

theorem deepest_symbol (op : Operator) (depth : Nat) (characters : List Char) :
    deepest '(' ')' depth (op.symbol :: characters) = deepest '(' ')' depth characters := by
  cases op <;> simp [deepest, Operator.symbol]

mutual

theorem Factor.deepest_chars {first : Bool} : (factor : Factor) → factor.WellFormed first →
    ∀ (depth : Nat) (rest : List Char),
      deepest '(' ')' depth (factor.tokens.flatMap Token.chars ++ rest) =
        max (depth + factor.depth) (deepest '(' ')' depth rest)
  | .number run, wellFormed, depth, rest => by
      have passed := deepest_append_of_forall (fun character member =>
        Token.ne_paren_of_isNumeric (wellFormed.numeric character member)) depth rest
      have bound : max depth (deepest '(' ')' depth rest) = deepest '(' ')' depth rest :=
        Nat.max_eq_right (le_deepest depth rest)
      simp [Factor.tokens, Token.chars, Factor.depth, passed, bound]
  | .group span, wellFormed, depth, rest => by
      have inside := span.deepest_chars wellFormed (depth + 1) (')' :: rest)
      rw [deepest_closing (by decide)] at inside
      simp only [Factor.tokens, Token.chars, List.flatMap_append, List.flatMap_cons,
        List.flatMap_nil, List.cons_append, List.nil_append, List.append_assoc, List.append_nil,
        deepest_opening, inside, Factor.depth]
      omega

theorem Term.deepest_chars {first : Bool} : (term : Term) → term.WellFormed first →
    ∀ (depth : Nat) (rest : List Char),
      deepest '(' ')' depth (term.tokens.flatMap Token.chars ++ rest) =
        max (depth + term.depth) (deepest '(' ')' depth rest)
  | .single factor, wellFormed, depth, rest => factor.deepest_chars wellFormed depth rest
  | .product term op factor, ⟨ofTerm, _, ofFactor⟩, depth, rest => by
      simp only [Term.tokens, Token.chars, List.flatMap_append, List.flatMap_cons,
        List.append_assoc, List.cons_append, List.nil_append, term.deepest_chars ofTerm,
        deepest_symbol, factor.deepest_chars ofFactor, Term.depth]
      omega

/-- The groups of a well-formed span nest as deep as the parentheses of its text. -/
theorem Span.deepest_chars : (span : Span) → span.WellFormed →
    ∀ (depth : Nat) (rest : List Char),
      deepest '(' ')' depth (span.tokens.flatMap Token.chars ++ rest) =
        max (depth + span.depth) (deepest '(' ')' depth rest)
  | .unsigned term, wellFormed, depth, rest => term.deepest_chars wellFormed depth rest
  | .signed sign term, ⟨_, ofTerm⟩, depth, rest => by
      simp only [Span.tokens, Token.chars, List.flatMap_cons, List.cons_append, List.nil_append,
        deepest_symbol, term.deepest_chars ofTerm, Span.depth]
  | .sum span op term, ⟨ofSpan, _, ofTerm⟩, depth, rest => by
      simp only [Span.tokens, Token.chars, List.flatMap_append, List.flatMap_cons,
        List.append_assoc, List.cons_append, List.nil_append, span.deepest_chars ofSpan,
        deepest_symbol, term.deepest_chars ofTerm, Span.depth]
      omega

end

/-- The groups of a well-formed source nest as deep as the parentheses of its text. -/
theorem Source.nestingDepth_text {source : Source} (wellFormed : source.WellFormed) :
    nestingDepth source.text = source.depth := by
  rw [nestingDepth, text, Token.toList_text]
  cases source with
  | empty => rfl
  | written span => simpa [tokens, Source.depth] using span.deepest_chars wellFormed 0 []

end Calculator
