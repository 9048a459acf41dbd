import Calculator.Proofs.Token.Tiling
import Mathlib.Data.List.TakeWhile

/-!
# Longest matches

A lexer finds the tokens of a text from left to right. Where it stands it takes the longest
characters that some rule matches, and where no rule matches it gives up one character.
`LongestMatch` asks this of the function that finds the next token and nothing else, so what is
proved here holds of any lexer that is made this way. `LongestMatch.lex_eq` says that such a
lexer finds the tokens of the text.
-/

namespace Calculator

open Token

/-- A rule finds a token at the start of a text. The token covers `character` and the first
`more` characters of what stands behind it. -/
structure RuleMatches (character : Char) (rest : List Char) (kind : TokenKind) (more : Nat) :
    Prop where
  known : kind ≠ .unknown
  within : more ≤ rest.length
  covers : kind.Covers (character :: rest.take more)

/-- The first character says which rule it is. -/
theorem RuleMatches.kind_eq {character : Char} {rest : List Char} {kind : TokenKind} {more : Nat}
    (isMatch : RuleMatches character rest kind more) : kind = (ofChar character).kind :=
  isMatch.covers.eq_kind

/-- Of all matches at the start of a text, the longest is taken. Where no rule matches, one
character is given up. -/
structure LongestMatch (next : Char → List Char → TokenKind × Nat) : Prop where
  matched : ∀ {character rest kind more}, next character rest = (kind, more) → kind ≠ .unknown →
    RuleMatches character rest kind more ∧
      ∀ other longer, RuleMatches character rest other longer → longer ≤ more
  unmatched : ∀ {character rest more}, next character rest = (.unknown, more) →
    more = 0 ∧ ∀ other longer, ¬ RuleMatches character rest other longer

/-- Cut a text into segments from left to right, each as `next` finds it. -/
def lex (next : Char → List Char → TokenKind × Nat) (start : Nat) : List Char → List Segment
  | [] => []
  | character :: rest =>
      let (kind, more) := next character rest
      let stop := start + (String.ofList (character :: rest.take more)).utf8ByteSize
      ⟨kind, start, stop⟩ :: lex next stop (rest.drop more)
termination_by characters => characters.length
decreasing_by simp only [List.length_drop, List.length_cons]; omega

theorem lex_cons {next : Char → List Char → TokenKind × Nat} {character : Char} {rest : List Char}
    {kind : TokenKind} {more : Nat} (found : next character rest = (kind, more)) (start : Nat) :
    lex next start (character :: rest) =
      ⟨kind, start, start + (String.ofList (character :: rest.take more)).utf8ByteSize⟩ ::
        lex next (start + (String.ofList (character :: rest.take more)).utf8ByteSize)
          (rest.drop more) := by
  rw [lex, found]

/-- Longest matches leave no choice. -/
theorem LongestMatch.eq {next next' : Char → List Char → TokenKind × Nat}
    (longest : LongestMatch next) (longest' : LongestMatch next') : next = next' := by
  funext character rest
  rcases found : next character rest with ⟨kind, more⟩
  rcases found' : next' character rest with ⟨kind', more'⟩
  by_cases isUnknown : kind = .unknown <;> by_cases isUnknown' : kind' = .unknown
  · subst isUnknown isUnknown'
    rw [(longest.unmatched found).1, (longest'.unmatched found').1]
  · subst isUnknown
    exact absurd (longest'.matched found' isUnknown').1 ((longest.unmatched found).2 kind' more')
  · subst isUnknown'
    exact absurd (longest.matched found isUnknown).1 ((longest'.unmatched found').2 kind more)
  · obtain ⟨isMatch, most⟩ := longest.matched found isUnknown
    obtain ⟨isMatch', most'⟩ := longest'.matched found' isUnknown'
    rw [isMatch.kind_eq, isMatch'.kind_eq,
      Nat.le_antisymm (most' kind more isMatch) (most kind' more' isMatch')]

/-- The longest match at the start of a text: a digit or point takes all that follow it, and any
other character stands alone. -/
def greedy (character : Char) (rest : List Char) : TokenKind × Nat :=
  ((ofChar character).kind, if isNumeric character then (rest.takeWhile isNumeric).length else 0)

theorem greedy_of_isNumeric {character : Char} (numeric : isNumeric character)
    (rest : List Char) :
    greedy character rest = (.number, (rest.takeWhile isNumeric).length) := by
  rw [greedy, ofChar_of_isNumeric numeric, if_pos numeric, kind]

theorem greedy_of_not_isNumeric {character : Char} (other : isNumeric character = false)
    (rest : List Char) : greedy character rest = ((ofChar character).kind, 0) := by
  simp [greedy, other]

/-- Only a run covers more than one character. -/
theorem TokenKind.Covers.eq_nil {kind : TokenKind} {character : Char} {rest : List Char}
    (covers : kind.Covers (character :: rest)) (other : isNumeric character = false) :
    rest = [] := by
  cases kind with
  | number => exact absurd (covers character (by simp)) (by simp [other])
  | operator | openParen | closeParen => exact (List.cons_eq_cons.mp covers).2
  | unknown =>
      obtain ⟨_, same, -⟩ := covers
      exact (List.cons_eq_cons.mp same).2

/-! A digit or point starts a run, which may go on as far as digits and points do. -/

theorem ruleMatches_run {character : Char} (numeric : isNumeric character) (rest : List Char) :
    RuleMatches character rest .number (rest.takeWhile isNumeric).length where
  known := TokenKind.noConfusion
  within := (List.takeWhile_prefix _).length_le
  covers := by
    have taken : rest.take (rest.takeWhile isNumeric).length = rest.takeWhile isNumeric :=
      (List.prefix_iff_eq_take.mp (List.takeWhile_prefix _)).symm
    intro digit member
    rw [taken] at member
    rcases List.mem_cons.mp member with rfl | member
    · exact numeric
    · exact List.mem_takeWhile_imp member

theorem RuleMatches.le_length_takeWhile {character : Char} {rest : List Char} {kind : TokenKind}
    {more : Nat} (isMatch : RuleMatches character rest kind more) (numeric : isNumeric character) :
    more ≤ (rest.takeWhile isNumeric).length := by
  obtain rfl : kind = .number := by rw [isMatch.kind_eq, ofChar_of_isNumeric numeric, Token.kind]
  have digits : ∀ digit ∈ rest.take more, isNumeric digit := fun digit member =>
    isMatch.covers digit (List.mem_cons_of_mem _ member)
  have taken : rest.takeWhile isNumeric =
      rest.take more ++ (rest.drop more).takeWhile isNumeric := by
    rw [← List.takeWhile_append_of_pos digits, List.take_append_drop]
  rw [taken, List.length_append, List.length_take, Nat.min_eq_left isMatch.within]
  exact Nat.le_add_right _ _

/-! Any other character that a rule knows stands alone. -/

theorem ruleMatches_single {character : Char} (other : isNumeric character = false)
    (known : (ofChar character).kind ≠ .unknown) (rest : List Char) :
    RuleMatches character rest (ofChar character).kind 0 where
  known := known
  within := Nat.zero_le _
  covers := by
    have covers := TokenKind.covers_chars (ofChar_of_not_isNumeric other).1
    rwa [chars_ofChar] at covers

theorem RuleMatches.eq_zero {character : Char} {rest : List Char} {kind : TokenKind} {more : Nat}
    (isMatch : RuleMatches character rest kind more) (other : isNumeric character = false) :
    more = 0 := by
  have alone := congrArg List.length (isMatch.covers.eq_nil other)
  rwa [List.length_take, Nat.min_eq_left isMatch.within] at alone

theorem longestMatch_greedy : LongestMatch greedy where
  matched := by
    intro character rest kind more found known
    cases numeric : isNumeric character with
    | true =>
        rw [greedy_of_isNumeric numeric] at found
        cases found
        exact ⟨ruleMatches_run numeric rest, fun _ _ isMatch => isMatch.le_length_takeWhile numeric⟩
    | false =>
        rw [greedy_of_not_isNumeric numeric] at found
        cases found
        exact ⟨ruleMatches_single numeric known rest,
          fun _ _ isMatch => Nat.le_of_eq (isMatch.eq_zero numeric)⟩
  unmatched := by
    intro character rest more found
    have isUnknown : (ofChar character).kind = .unknown := congrArg Prod.fst found
    have other : isNumeric character = false := by
      by_contra numeric
      rw [ofChar_of_isNumeric (by simpa using numeric)] at isUnknown
      cases isUnknown
    rw [greedy_of_not_isNumeric other] at found
    exact ⟨(congrArg Prod.snd found).symm,
      fun _ _ isMatch => isMatch.known (isMatch.kind_eq.trans isUnknown)⟩

/-- Longest matches find the tokens of a text one by one. -/
theorem lex_greedy (start : Nat) {tokens : List Token} (canonical : Canonical tokens) :
    lex greedy start (tokens.flatMap chars) = segments start tokens := by
  induction tokens generalizing start with
  | nil => rw [List.flatMap_nil, lex, segments]
  | cons token tokens inductionHypothesis =>
      obtain ⟨genuine, others, -⟩ := canonical_cons.mp canonical
      rw [segments, width_eq_utf8ByteSize, ← inductionHypothesis _ others]
      cases run : token.isNumber with
      | true =>
          cases token <;> cases run
          rename_i run
          obtain ⟨first, run, rfl⟩ := List.exists_cons_of_ne_nil genuine.1
          have numeric : isNumeric first := genuine.2 first (by simp)
          have taken := takeWhile_flatMap_chars canonical
          rw [List.flatMap_cons, chars, List.cons_append,
            List.takeWhile_cons_of_pos numeric] at taken
          have found := greedy_of_isNumeric numeric (run ++ tokens.flatMap chars)
          rw [(List.cons_eq_cons.mp taken).2] at found
          rw [List.flatMap_cons, chars, List.cons_append, lex_cons found, List.take_left,
            List.drop_left, kind]
      | false =>
          obtain ⟨character, covers, other, rfl⟩ := genuine.chars_eq run
          rw [List.flatMap_cons, covers, List.singleton_append,
            lex_cons (greedy_of_not_isNumeric other _), List.take_zero, List.drop_zero]

theorem LongestMatch.lex_eq {next : Char → List Char → TokenKind × Nat}
    (longest : LongestMatch next) (source : String) :
    lex next 0 source.toList = segments 0 (tokenize source) := by
  rw [longest.eq longestMatch_greedy, ← lex_greedy 0 (canonical_tokenize source), tokenize,
    flatMap_chars_tokenizeChars]

/-- The tokens of a text are what a lexer finds from left to right that takes the longest match
at each place and gives up one character where nothing matches. They divide the text, and there
is no other division of it into segments. Each character that is not part of a run is a segment of
its own kind by itself, as wide as the character. -/
theorem tokens_tile_text {next : Char → List Char → TokenKind × Nat} (longest : LongestMatch next)
    (source : String) :
    lex next 0 source.toList = (locateTokens source).toList.map LocatedToken.segment ∧
    (∀ segments, Tiles source segments ↔
      segments = (locateTokens source).toList.map LocatedToken.segment) ∧
    ∀ before character after, source = before ++ String.singleton character ++ after →
      isNumeric character = false →
        ∃ kind : TokenKind, kind.Covers [character] ∧
          ⟨kind, before.utf8ByteSize, before.utf8ByteSize + character.utf8Size⟩ ∈
            (locateTokens source).toList.map LocatedToken.segment := by
  rw [map_segment_locateTokens]
  refine ⟨longest.lex_eq source, fun segments => tiles_iff, ?_⟩
  rintro before character after rfl other
  have covers := TokenKind.covers_chars (ofChar_of_not_isNumeric other).1
  rw [chars_ofChar] at covers
  exact ⟨_, covers, mem_segments_of_not_isNumeric other⟩

/-- An unknown character between two runs is as wide as it is written. -/
theorem tokens_tile_text_wide_character :
    LongestMatch greedy ∧ lex greedy 0 "1.5é.+".toList =
      [⟨.number, 0, 3⟩, ⟨.unknown, 3, 5⟩, ⟨.number, 5, 6⟩, ⟨.operator .add, 6, 7⟩] :=
  ⟨longestMatch_greedy, (tokens_tile_text longestMatch_greedy "1.5é.+").1.trans (by decide)⟩

end Calculator
