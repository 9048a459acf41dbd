import Calculator.Proofs.Parse.Acceptance
import Calculator.Proofs.Token.Alphabet

/-!
# Where errors are found

An error is found in one span, the whole text or the contents of a group, behind some
progress through it. `Outcome.exists_problem` leads from nested outcomes to that span, and
`Problem.exists_spot` from the problem to the progress made before the reported position,
with the characters that stand around it. `exists_place` puts the two together.
-/

namespace Calculator

open Token

/-! ### What errors say -/

/-- A run of digits and points that cannot be made longer on either side. -/
structure MaximalRun (before run after : List Char) : Prop where
  written : run ≠ []
  numeric : ∀ character ∈ run, isNumeric character
  left : ∀ character ∈ before.getLast?, isNumeric character = false
  right : ∀ character ∈ after.head?, isNumeric character = false

namespace ParseError

/-- The text an error refers to, if it refers to one. -/
def expression? : ParseError → Option String
  | invalidLeadingOperator _ expression | emptyParentheses _ expression
  | unmatchedParenthesis _ expression | unrecognizedCharacter _ _ expression
  | invalidNumber _ _ expression | missingOperand _ expression
  | missingOperator _ expression => some expression
  | unknownOperator _ | nestingTooDeep _ => none

/-- The position an error refers to, if it refers to one. -/
def index? : ParseError → Option Nat
  | emptyParentheses index _ | unmatchedParenthesis index _ | unrecognizedCharacter _ index _
  | invalidNumber _ index _ | missingOperand index _ | missingOperator index _ => some index
  | invalidLeadingOperator _ _ | unknownOperator _ | nestingTooDeep _ => none

/-- Whether an error is right about the characters before and behind its position. -/
def Describes (before after : List Char) : ParseError → Prop
  | invalidLeadingOperator op _ =>
      before = [] ∧ op.isMultiplicative = true ∧ ∃ rest, after = op.symbol :: rest
  | emptyParentheses _ _ => ∃ rest, after = '(' :: ')' :: rest
  | unmatchedParenthesis _ _ => ∃ rest, after = '(' :: rest ∨ after = ')' :: rest
  | unrecognizedCharacter character _ _ =>
      isExpressionChar character = false ∧ ∃ rest, after = character :: rest
  | unknownOperator _ => False
  | invalidNumber literal index _ =>
      ∃ run rest, after = run ++ rest ∧ MaximalRun before run rest ∧
        literal = String.ofList (if index = 0 then '0' :: run else run) ∧
        (2 ≤ run.count '.' ∨ 0 < index ∧ ∀ character ∈ run, character.isDigit = false)
  | missingOperand _ _ =>
      ∃ (op : Operator) (rest : List Char), after = op.symbol :: rest ∧
        (rest = [] ∨ ∃ (next : Operator) (others : List Char), rest = next.symbol :: others)
  | missingOperator _ _ =>
      ∃ earlier left right rest, before = earlier ++ [left] ∧ after = right :: rest ∧
        (isNumeric left ∧ right = '(' ∨ left = ')' ∧ isNumeric right ∨ left = ')' ∧ right = '(')
  | nestingTooDeep _ => True

end ParseError

/-! ### The characters of what has been passed -/

mutual

theorem Factor.unknown_notMem (character : Char) :
    (factor : Factor) → .unknown character ∉ factor.tokens
  | .number run => by simp [Factor.tokens]
  | .group span => by simp [Factor.tokens, span.unknown_notMem character]

theorem Term.unknown_notMem (character : Char) : (term : Term) → .unknown character ∉ term.tokens
  | .single factor => factor.unknown_notMem character
  | .product term op factor => by
      simp [Term.tokens, term.unknown_notMem character, factor.unknown_notMem character]

/-- A span has no unknown tokens. -/
theorem Span.unknown_notMem (character : Char) : (span : Span) → .unknown character ∉ span.tokens
  | .unsigned term => term.unknown_notMem character
  | .signed sign term => by simp [Span.tokens, term.unknown_notMem character]
  | .sum span op term => by
      simp [Span.tokens, span.unknown_notMem character, term.unknown_notMem character]

end

namespace Checked

theorem unknown_notMem (checked : Checked) (character : Char) :
    .unknown character ∉ checked.tokens := by
  cases checked with
  | due lead =>
      cases lead with
      | start => simp
      | sign op => simp
      | behind span op => simp [span.unknown_notMem character]
  | closed lead inner => exact (lead.add (.group inner)).unknown_notMem character

theorem chars_closed (lead : Lead) (inner : Span) :
    (closed lead inner).tokens.flatMap chars =
      (lead.tokens ++ .openParen :: inner.tokens).flatMap chars ++ [')'] := by
  simp [Factor.tokens, chars]

/-- What has been taken in does not end with a digit or point. -/
theorem isNumeric_getLast (checked : Checked) :
    ∀ character ∈ (checked.tokens.flatMap chars).getLast?, isNumeric character = false := by
  cases checked with
  | due lead =>
      cases lead with
      | start => simp
      | sign op => simp [chars, isNumeric_symbol]
      | behind span op => simp [chars, isNumeric_symbol]
  | closed lead inner =>
      have isNoDigit : isNumeric ')' = false := rfl
      rw [chars_closed]
      simp [isNoDigit]

/-- Only at the start of a span has nothing been taken in. -/
theorem totalWidth_tokens_eq_zero_iff (checked : Checked) :
    totalWidth checked.tokens = 0 ↔ checked.isStart = true := by
  have operator : ∀ op : Operator, (Token.operator op).width = 1 := by
    intro op
    cases op <;> rfl
  have paren : Token.closeParen.width = 1 := rfl
  cases checked with
  | due lead => cases lead <;> simp [isStart, Lead.isStart, operator]
  | closed lead inner => simp [isStart, Factor.tokens, totalWidth_cons, paren]

end Checked

namespace Progress

theorem unknown_notMem (progress : Progress) (character : Char) :
    .unknown character ∉ progress.tokens := by
  obtain ⟨checked, _ | run⟩ := progress
  · exact checked.unknown_notMem character
  · simp [checked.unknown_notMem character]

end Progress

/-! ### From outcomes to problems -/

/-- An error is a problem of the whole span or of one of its groups. -/
theorem Outcome.exists_problem {limit depth : Nat} {tokens : List Token} {error : ParseError}
    {log : List Event} (outcome : Outcome limit depth tokens (.error error) log) :
    ∃ (scope rest : List Token) (inside : Nat) (progress : Progress) (reported : List Event),
      IsScopeOf openParen closeParen scope tokens ∧
        progress.checked.Admissible limit inside ∧ progress.tokens ++ rest = scope ∧
        Problem limit inside (text scope) progress rest error reported := by
  generalize failed : Except.error error = result at outcome
  induction outcome with
  | empty => cases failed
  | accepted => cases failed
  | rejected admissible split problem =>
      cases failed
      exact ⟨_, _, _, _, _, .inl rfl, admissible, split, problem⟩
  | nested admissible split balanced nonempty within outcome inductionHypothesis =>
      obtain ⟨scope, rest, inside, progress, reported, isScope, found⟩ :=
        inductionHypothesis failed
      subst split
      exact ⟨scope, rest, inside, progress, reported, isScope.inside balanced _ _, found⟩

/-! ### From problems to places -/

/-- Some progress through a span before the position of an error, and the tokens behind it. -/
structure Spot (limit depth : Nat) (scope : List Token) (error : ParseError) where
  prior : Progress
  behind : List Token
  admissible : prior.checked.Admissible limit depth
  split : prior.tokens ++ behind = scope
  index : ∀ index ∈ error.index?, totalWidth prior.tokens = index
  describes : error.Describes (prior.tokens.flatMap chars) (behind.flatMap chars)

section Spots

variable {limit depth : Nat} {expression : String} {scope rest : List Token}

theorem EndsOperand.chars_eq (follows : EndsOperand rest) :
    rest.flatMap chars = [] ∨
      ∃ (next : Operator) (others : List Char), rest.flatMap chars = next.symbol :: others := by
  cases follows with
  | stop => exact .inl rfl
  | operator op rest => exact .inr ⟨op, rest.flatMap chars, by simp [chars]⟩

/-- The progress at the last factor of a well-formed span. -/
theorem Span.progress_spec {span : Span} (wellFormed : span.WellFormed)
    (within : depth + span.depth ≤ limit) :
    span.progress.checked.Admissible limit depth ∧ span.progress.tokens = span.tokens := by
  obtain ⟨lead, factor, rfl⟩ := Span.exists_add wellFormed
  rw [Lead.progress_add]
  cases factor with
  | number run =>
      rw [Lead.depth_add, Factor.depth, Nat.max_zero] at within
      exact ⟨⟨(Lead.wellFormed_add.mp wellFormed).1, within⟩,
        by simp [Lead.progress, Factor.tokens]⟩
  | group inner => exact ⟨⟨wellFormed, within⟩, rfl⟩

/-- Where an operand is missing, the operator that ends the lead is reported. -/
theorem Lead.exists_spot {lead : Lead} (begun : lead ≠ .start)
    (admissible : (Checked.due lead).Admissible limit depth) (split : lead.tokens ++ rest = scope)
    (follows : EndsOperand rest) :
    Nonempty (Spot limit depth scope (.missingOperand lead.operatorIndex expression)) := by
  cases lead with
  | start => exact absurd rfl begun
  | sign op =>
      exact ⟨{
        prior := ⟨.due .start, none⟩
        behind := .operator op :: rest
        admissible := ⟨trivial, admissible.within⟩
        split := split
        index := by simp [ParseError.index?, operatorIndex]
        describes := ⟨op, _, rfl, follows.chars_eq⟩ }⟩
  | behind span op =>
      obtain ⟨ofSpan, spells⟩ := Span.progress_spec admissible.wellFormed admissible.within
      exact ⟨{
        prior := span.progress
        behind := .operator op :: rest
        admissible := ofSpan
        split := by rw [spells, ← split]; simp
        index := by simp [ParseError.index?, operatorIndex, spells]
        describes := ⟨op, _, rfl, follows.chars_eq⟩ }⟩

/-- Digits that are about to be settled form a maximal run. -/
theorem Checked.maximalRun (checked : Checked) {run : List Char}
    (genuine : (Token.number run).Genuine) (follows : EndsOperand rest) :
    MaximalRun (checked.tokens.flatMap chars) run (rest.flatMap chars) where
  written := genuine.1
  numeric := genuine.2
  left := checked.isNumeric_getLast
  right := by
    rcases follows.chars_eq with none | ⟨next, others, some⟩
    · simp [none]
    · simp [some, isNumeric_symbol]

/-- Digits that are no number are reported where they start. -/
theorem Checked.exists_spot {checked : Checked} {run : List Char}
    (genuine : (Token.number run).Genuine)
    (invalid : Decimal.ofChars? (literalChars checked.isStart run) = none)
    (admissible : checked.Admissible limit depth)
    (split : checked.tokens ++ .number run :: rest = scope) (follows : EndsOperand rest) :
    Nonempty (Spot limit depth scope (.invalidNumber
      (String.ofList (literalChars checked.isStart run)) (totalWidth checked.tokens) expression)) := by
  refine ⟨{
    prior := ⟨checked, none⟩
    behind := .number run :: rest
    admissible := admissible
    split := split
    index := by simp [ParseError.index?]
    describes := ⟨run, rest.flatMap chars, rfl, checked.maximalRun genuine follows, ?_, ?_⟩ }⟩
  · simp only [literalChars, checked.totalWidth_tokens_eq_zero_iff]
  · rcases points_or_noDigit_of_ofChars?_eq_none genuine invalid with points | ⟨begun, noDigit⟩
    · exact .inl points
    · refine .inr ⟨Nat.pos_of_ne_zero fun atStart => ?_, noDigit⟩
      rw [checked.totalWidth_tokens_eq_zero_iff.mp atStart] at begun
      cases begun

variable {progress : Progress} {error : ParseError} {log : List Event}

/-- The text an error refers to is the text of the span it was found in. -/
theorem Problem.expression_eq (problem : Problem limit depth expression progress rest error log) :
    ∀ text ∈ error.expression?, text = expression := by
  cases problem <;> simp [ParseError.expression?]

/-- Before the position of an error stands some progress. Numbers, and operators that miss an
operand, are reported where they start, and everything else where it is found. -/
theorem Problem.exists_spot (canonical : Canonical scope)
    (admissible : progress.checked.Admissible limit depth)
    (split : progress.tokens ++ rest = scope)
    (problem : Problem limit depth expression progress rest error log) :
    Nonempty (Spot limit depth scope error) := by
  -- Where `error` describes what stands behind `progress`, nothing else is to be shown.
  have here : ∀ {error : ParseError}, (∀ index ∈ error.index?, totalWidth progress.tokens = index) →
      error.Describes (progress.tokens.flatMap chars) (rest.flatMap chars) →
      Nonempty (Spot limit depth scope error) :=
    fun index describes => ⟨⟨progress, rest, admissible, split, index, describes⟩⟩
  cases problem with
  | leadingOperator multiplicative =>
      exact here (by simp [ParseError.index?]) ⟨rfl, multiplicative, _, rfl⟩
  | missingOperand begun follows => exact Lead.exists_spot begun admissible split follows
  | @invalidNumber checked run rest invalid follows =>
      have genuine : (Token.number run).Genuine := canonical.genuine _ (by simp [← split])
      exact Checked.exists_spot genuine invalid admissible (by simpa using split) follows
  | @numberBehindGroup lead before run rest valid follows =>
      have genuine : (Token.number run).Genuine := canonical.genuine _ (by simp [← split])
      obtain ⟨first, run, rfl⟩ := List.exists_cons_of_ne_nil genuine.1
      exact ⟨{
        prior := ⟨.closed lead before, none⟩
        behind := .number (first :: run) :: rest
        admissible := admissible
        split := by simpa using split
        index := by simp [ParseError.index?]
        describes := ⟨_, _, _, _, Checked.chars_closed lead before, rfl,
          .inr (.inl ⟨rfl, genuine.2 first (by simp)⟩)⟩ }⟩
  | @groupBehindNumber checked run inner after balanced nonempty =>
      have genuine : (Token.number run).Genuine := canonical.genuine _ (by simp [← split])
      obtain ⟨earlier, last, rfl⟩ := (List.eq_nil_or_concat' run).resolve_left genuine.1
      exact here (by simp [ParseError.index?]) ⟨checked.tokens.flatMap chars ++ earlier, last, _, _,
        by simp [chars], rfl, .inl ⟨genuine.2 last (by simp), rfl⟩⟩
  | @groupBehindGroup lead before inner after wellFormed within =>
      exact here (by simp [ParseError.index?]) ⟨_, _, _, _, Checked.chars_closed lead before, rfl,
        .inr (.inr ⟨rfl, rfl⟩)⟩
  | emptyGroup => exact here (by simp [ParseError.index?]) ⟨_, rfl⟩
  | tooDeep => exact here (by simp [ParseError.index?]) trivial
  | unclosed => exact here (by simp [ParseError.index?]) ⟨_, .inl rfl⟩
  | unopened => exact here (by simp [ParseError.index?]) ⟨_, .inr rfl⟩
  | @unrecognized _ character rest =>
      have isUnknown : (Token.unknown character).Genuine :=
        canonical.genuine _ (by simp [← split])
      exact here (by simp [ParseError.index?]) ⟨isExpressionChar_of_ofChar isUnknown, _, rfl⟩

end Spots

/-- Where an error was found: the span that was being read, the number of groups around it,
and the spot in it. -/
structure Place (limit : Nat) (tokens : List Token) (error : ParseError) where
  scope : List Token
  depth : Nat
  isScope : IsScopeOf openParen closeParen scope tokens
  canonical : Canonical scope
  expression : ∀ expression ∈ error.expression?, expression = text scope
  spot : Spot limit depth scope error

/-- Every error is found somewhere. -/
theorem exists_place {settings : Settings} {source : String} {error : ParseError}
    (failed : (parse settings source).result = .error error) :
    Nonempty (Place settings.maxDepth (tokenize source) error) := by
  obtain ⟨log, outcome⟩ := outcome_of_parse_eq_error failed
  obtain ⟨scope, rest, depth, progress, _, isScope, admissible, split, problem⟩ :=
    outcome.exists_problem
  have canonical := (canonical_tokenize source).scope isScope
  obtain ⟨spot⟩ := problem.exists_spot canonical admissible split
  exact ⟨⟨scope, depth, isScope, canonical, problem.expression_eq, spot⟩⟩

namespace Place

variable {limit : Nat} {tokens : List Token} {error : ParseError}

/-- The characters before the position of an error. -/
def before (place : Place limit tokens error) : List Char :=
  place.spot.prior.tokens.flatMap chars

/-- The characters from the position of an error on. -/
def after (place : Place limit tokens error) : List Char :=
  place.spot.behind.flatMap chars

theorem toList_expression (place : Place limit tokens error) {expression : String}
    (hasExpression : error.expression? = some expression) :
    expression.toList = place.before ++ place.after := by
  rw [place.expression expression hasExpression, toList_text, ← place.spot.split,
    List.flatMap_append, before, after]

theorem utf8ByteSize_before (place : Place limit tokens error) {index : Nat}
    (hasIndex : error.index? = some index) :
    (String.ofList place.before).utf8ByteSize = index := by
  rw [← place.spot.index index hasIndex, totalWidth_eq_utf8ByteSize, text, before]

/-- Everything before the position of an error consists of characters of expressions. -/
theorem isExpressionChar_before (place : Place limit tokens error) :
    ∀ character ∈ place.before, isExpressionChar character := by
  refine isExpressionChar_of_genuine (fun token member => ?_) place.spot.prior.unknown_notMem
  exact place.canonical.genuine token (by simp [← place.spot.split, member])

/-- The digits that had been read but not settled are digits and points. -/
theorem isNumeric_digits (place : Place limit tokens error) :
    ∀ run ∈ place.spot.prior.digits, ∀ character ∈ run, isNumeric character := by
  obtain ⟨scope, depth, _, canonical, _, ⟨checked, digits⟩, behind, _, rfl, _, _⟩ := place
  rintro run ⟨⟩
  exact (canonical.genuine (.number run) (by simp)).2

/-- The text an error refers to is the source or the contents of one of its groups. -/
theorem isScopeOf_chars {source : String} (place : Place limit (tokenize source) error) :
    IsScopeOf '(' ')' (text place.scope).toList source.toList := by
  have isScope := isScopeOf_flatMap_chars (canonical_tokenize source) place.isScope
  rwa [← toList_text, ← toList_text, text_tokenize] at isScope

end Place

/-- The position of an error is accurate. The text it refers to is the source or what stands
in it between a parenthesis and its partner; only characters of expressions stand before
the position, so it counts characters as well as bytes; and the error is right about what
stands there. -/
theorem error_describes_place (settings : Settings) (source : String) {error : ParseError}
    {expression : String} (failed : (parse settings source).result = .error error)
    (hasExpression : error.expression? = some expression) :
    IsScopeOf '(' ')' expression.toList source.toList ∧
      ∃ before after, expression.toList = before ++ after ∧
        (∀ index ∈ error.index?,
          (String.ofList before).utf8ByteSize = index ∧ before.length = index) ∧
        (∀ character ∈ before, isExpressionChar character) ∧
        error.Describes before after := by
  obtain ⟨place⟩ := exists_place failed
  refine ⟨?_, place.before, place.after, place.toList_expression hasExpression, ?_,
    place.isExpressionChar_before, place.spot.describes⟩
  · rw [place.expression expression hasExpression]
    exact place.isScopeOf_chars
  · intro index hasIndex
    have bytes := place.utf8ByteSize_before hasIndex
    exact ⟨bytes, by rw [← bytes, utf8ByteSize_of_isExpressionChar place.isExpressionChar_before]⟩

/-- In a group, positions count from its contents, which need not be followed by characters
of expressions. -/
theorem error_describes_place_in_group :
    IsScopeOf '(' ')' "2*".toList "1-(2*)é".toList ∧
      ∃ before after, "2*".toList = before ++ after ∧
        ((String.ofList before).utf8ByteSize = 1 ∧ before.length = 1) ∧
        ∃ (op : Operator) (rest : List Char), after = op.symbol :: rest ∧
          (rest = [] ∨ ∃ (next : Operator) (others : List Char), rest = next.symbol :: others) := by
  have failed : (parse {} "1-(2*)é").result = .error (.missingOperand 1 "2*") := by
    with_unfolding_all rfl
  obtain ⟨isScope, before, after, split, position, -, operator⟩ :=
    error_describes_place {} "1-(2*)é" failed rfl
  exact ⟨isScope, before, after, split, position 1 rfl, operator⟩

end Calculator
