import Calculator.Proofs.Token.Text
import Mathlib.Data.List.Chain

/-!
# Canonical token lists

A list of tokens is canonical if it is what its own text is cut into. Locally that
means numeric runs that are as long as they can be, and unknown characters that no
other token could have. Every part of a canonical list is canonical, so cutting a
group out of a text and cutting the text of a group give the same tokens.
-/

namespace Calculator

namespace Token

/-- Whether a token is a run of digits and points. -/
def isNumber : Token → Bool
  | number _ => true
  | _ => false

/-- A token that some text is cut into. -/
def Genuine : Token → Prop
  | number run => run ≠ [] ∧ ∀ character ∈ run, isNumeric character
  | unknown character => ofChar character = unknown character
  | operator _ | openParen | closeParen => True

/-- A list of tokens that some text is cut into. -/
structure Canonical (tokens : List Token) : Prop where
  genuine : ∀ token ∈ tokens, token.Genuine
  /-- Runs are maximal, so that no two of them meet. -/
  separate : tokens.IsChain fun left right => ¬ (left.isNumber ∧ right.isNumber)

theorem canonical_nil : Canonical [] :=
  ⟨by simp, .nil⟩

theorem canonical_cons {token : Token} {tokens : List Token} :
    Canonical (token :: tokens) ↔ token.Genuine ∧ Canonical tokens ∧
      ∀ next ∈ tokens.head?, ¬ (token.isNumber ∧ next.isNumber) := by
  constructor
  · rintro ⟨genuine, separate⟩
    rw [List.isChain_cons] at separate
    exact ⟨genuine token (by simp), ⟨fun other member => genuine other (by simp [member]),
      separate.2⟩, separate.1⟩
  · rintro ⟨genuine, ⟨others, separate⟩, apart⟩
    exact ⟨by simpa using ⟨genuine, others⟩, List.isChain_cons.mpr ⟨apart, separate⟩⟩

/-- Lists may be joined wherever no two runs meet. -/
theorem canonical_append {first second : List Token} :
    Canonical (first ++ second) ↔ Canonical first ∧ Canonical second ∧
      ∀ last ∈ first.getLast?, ∀ next ∈ second.head?, ¬ (last.isNumber ∧ next.isNumber) := by
  constructor
  · rintro ⟨genuine, separate⟩
    obtain ⟨ofFirst, ofSecond, apart⟩ := List.isChain_append.mp separate
    exact ⟨⟨fun token member => genuine token (by simp [member]), ofFirst⟩,
      ⟨fun token member => genuine token (by simp [member]), ofSecond⟩, apart⟩
  · rintro ⟨ofFirst, ofSecond, apart⟩
    refine ⟨fun token member => ?_, List.isChain_append.mpr
      ⟨ofFirst.separate, ofSecond.separate, apart⟩⟩
    cases List.mem_append.mp member with
    | inl member => exact ofFirst.genuine token member
    | inr member => exact ofSecond.genuine token member

/-- Every contiguous part of a canonical list is canonical. -/
theorem Canonical.infix {part tokens : List Token} (canonical : Canonical tokens)
    (isPart : part <:+: tokens) : Canonical part where
  genuine := fun token member => canonical.genuine token (isPart.subset member)
  separate := canonical.separate.infix isPart

/-! ### Characters and tokens -/

theorem ofChar_of_isNumeric {character : Char} (numeric : isNumeric character) :
    ofChar character = number [character] := by
  simp [ofChar, numeric]

/-- A character that is not numeric makes a genuine token that is not a run. -/
theorem ofChar_of_not_isNumeric {character : Char} (other : isNumeric character = false) :
    (ofChar character).Genuine ∧ (ofChar character).isNumber = false := by
  by_cases opens : character = '('
  · subst opens; exact ⟨trivial, rfl⟩
  by_cases closes : character = ')'
  · subst closes; exact ⟨trivial, rfl⟩
  cases read : Operator.ofSymbol? character with
  | some op => simp [ofChar, other, opens, closes, read, Genuine, isNumber]
  | none => simp [ofChar, other, opens, closes, read, Genuine, isNumber]

/-- Every genuine token that is not a run covers one character, which makes it. -/
theorem Genuine.chars_eq {token : Token} (genuine : token.Genuine)
    (notRun : token.isNumber = false) :
    ∃ character, token.chars = [character] ∧ isNumeric character = false ∧
      ofChar character = token := by
  cases token with
  | number run => cases notRun
  | operator op => cases op <;> exact ⟨_, rfl, by decide, by decide⟩
  | openParen => exact ⟨_, rfl, by decide, by decide⟩
  | closeParen => exact ⟨_, rfl, by decide, by decide⟩
  | unknown character =>
      refine ⟨character, rfl, ?_, genuine⟩
      by_contra numeric
      rw [Genuine, ofChar_of_isNumeric (by simpa using numeric)] at genuine
      cases genuine

theorem push_of_not_isNumeric {character : Char} (other : isNumeric character = false)
    (tokens : List Token) : push character tokens = ofChar character :: tokens := by
  simp [push, other]

theorem push_number {character : Char} (numeric : isNumeric character) (run : List Char)
    (tokens : List Token) :
    push character (number run :: tokens) = number (character :: run) :: tokens := by
  simp [push, numeric]

/-- A digit or point that meets no run starts one. -/
theorem push_of_isNumeric {character : Char} (numeric : isNumeric character) {tokens : List Token}
    (apart : ∀ next ∈ tokens.head?, next.isNumber = false) :
    push character tokens = number [character] :: tokens := by
  cases tokens with
  | nil => simp [push, ofChar_of_isNumeric numeric]
  | cons next tokens =>
      have notRun := apart next (by simp)
      cases next <;> simp_all [push, isNumber, ofChar_of_isNumeric]

/-- A run that meets no other run becomes one token. -/
theorem foldr_push_run {run : List Char} (written : run ≠ [])
    (numeric : ∀ character ∈ run, isNumeric character) {tokens : List Token}
    (apart : ∀ next ∈ tokens.head?, next.isNumber = false) :
    run.foldr push tokens = number run :: tokens := by
  induction run with
  | nil => exact absurd rfl written
  | cons character run inductionHypothesis =>
      have isDigitOrPoint := numeric character (by simp)
      cases run with
      | nil => exact push_of_isNumeric isDigitOrPoint apart
      | cons second run =>
          rw [List.foldr_cons, inductionHypothesis (by simp) (by simp_all),
            push_number isDigitOrPoint]

/-- The text of a canonical list is cut into that list. -/
theorem tokenizeChars_flatMap_chars {tokens : List Token} (canonical : Canonical tokens) :
    tokenizeChars (tokens.flatMap chars) = tokens := by
  induction tokens with
  | nil => rfl
  | cons token tokens inductionHypothesis =>
      obtain ⟨genuine, others, apart⟩ := canonical_cons.mp canonical
      have rest : (tokens.flatMap chars).foldr push [] = tokens := inductionHypothesis others
      rw [List.flatMap_cons, tokenizeChars, List.foldr_append, rest]
      cases run : token.isNumber with
      | true =>
          cases token <;> cases run
          exact foldr_push_run genuine.1 genuine.2 (by simpa [isNumber] using apart)
      | false =>
          obtain ⟨character, covers, other, makes⟩ := genuine.chars_eq run
          rw [covers, List.foldr_cons, List.foldr_nil, push_of_not_isNumeric other, makes]

/-- A token at the start of a canonical list covers the digits and points at the start of the
text, if it is a run. -/
theorem takeWhile_flatMap_chars {run : List Char} {tokens : List Token}
    (canonical : Canonical (number run :: tokens)) :
    ((number run :: tokens).flatMap chars).takeWhile isNumeric = run := by
  obtain ⟨⟨-, numeric⟩, others, apart⟩ := canonical_cons.mp canonical
  have stops : (tokens.flatMap chars).takeWhile isNumeric = [] := by
    cases tokens with
    | nil => rfl
    | cons next tokens =>
        have notRun : next.isNumber = false := by simpa [isNumber] using apart next
        obtain ⟨character, covers, other, -⟩ := (others.genuine next (by simp)).chars_eq notRun
        simp [covers, other]
  rw [List.flatMap_cons, chars, List.takeWhile_append_of_pos numeric, stops, List.append_nil]

/-- Every text is cut into a canonical list. -/
theorem canonical_tokenizeChars (characters : List Char) :
    Canonical (tokenizeChars characters) := by
  induction characters with
  | nil => exact canonical_nil
  | cons character characters inductionHypothesis =>
      rw [tokenizeChars, List.foldr_cons]
      change Canonical (push character (tokenizeChars characters))
      cases numeric : isNumeric character with
      | false =>
          obtain ⟨genuine, notRun⟩ := ofChar_of_not_isNumeric numeric
          rw [push_of_not_isNumeric numeric]
          exact canonical_cons.mpr ⟨genuine, inductionHypothesis, by simp [notRun]⟩
      | true =>
          cases cut : tokenizeChars characters with
          | nil =>
              rw [push_of_isNumeric numeric (by simp)]
              exact canonical_cons.mpr ⟨⟨by simp, by simp [numeric]⟩, canonical_nil, by simp⟩
          | cons first rest =>
              rw [cut] at inductionHypothesis
              cases run : first.isNumber with
              | true =>
                  cases first <;> cases run
                  obtain ⟨genuine, others, apart⟩ := canonical_cons.mp inductionHypothesis
                  rw [push_number numeric]
                  exact canonical_cons.mpr
                    ⟨⟨by simp, by simpa [numeric] using genuine.2⟩, others, apart⟩
              | false =>
                  rw [push_of_isNumeric numeric (by simpa using run)]
                  exact canonical_cons.mpr
                    ⟨⟨by simp, by simp [numeric]⟩, inductionHypothesis, by simp [run]⟩

/-- A character that is not numeric parts the tokens before it from those behind it. -/
theorem tokenizeChars_append_cons {character : Char} (other : isNumeric character = false)
    (before after : List Char) :
    tokenizeChars (before ++ character :: after) =
      tokenizeChars before ++ ofChar character :: tokenizeChars after := by
  obtain ⟨genuine, notRun⟩ := ofChar_of_not_isNumeric other
  have behind : Canonical (ofChar character :: tokenizeChars after) :=
    canonical_cons.mpr ⟨genuine, canonical_tokenizeChars after, by simp [notRun]⟩
  have whole : Canonical (tokenizeChars before ++ ofChar character :: tokenizeChars after) :=
    canonical_append.mpr ⟨canonical_tokenizeChars before, behind, by simp [notRun]⟩
  simpa using tokenizeChars_flatMap_chars whole

/-- Behind characters that do not end with a digit or point, there is no run at the end. -/
theorem isNumber_getLast_tokenizeChars {characters : List Char}
    (ends : ∀ character ∈ characters.getLast?, isNumeric character = false) :
    ∀ token ∈ (tokenizeChars characters).getLast?, token.isNumber = false := by
  rcases List.eq_nil_or_concat' characters with rfl | ⟨before, last, rfl⟩
  · simp [tokenizeChars]
  · have other : isNumeric last = false := ends last (by simp)
    rw [tokenizeChars_append_cons other]
    simp [tokenizeChars, (ofChar_of_not_isNumeric other).2]

/-- A run behind characters that do not end with a digit or point is a token by itself. -/
theorem tokenizeChars_append_run {characters run : List Char}
    (ends : ∀ character ∈ characters.getLast?, isNumeric character = false) (written : run ≠ [])
    (numeric : ∀ character ∈ run, isNumeric character) :
    tokenizeChars (characters ++ run) = tokenizeChars characters ++ [.number run] := by
  have ofRun : Canonical [.number run] :=
    canonical_cons.mpr ⟨⟨written, numeric⟩, canonical_nil, by simp⟩
  have whole : Canonical (tokenizeChars characters ++ [.number run]) :=
    canonical_append.mpr ⟨canonical_tokenizeChars characters, ofRun, fun last isLast _ _ both => by
      simp [isNumber_getLast_tokenizeChars ends last isLast] at both⟩
  simpa [chars] using tokenizeChars_flatMap_chars whole

end Token

theorem canonical_tokenize (source : String) : Token.Canonical (tokenize source) :=
  Token.canonical_tokenizeChars _

/-- A text has exactly one canonical list of tokens. -/
theorem tokenize_eq_iff {source : String} {tokens : List Token}
    (canonical : Token.Canonical tokens) :
    tokenize source = tokens ↔ source = Token.text tokens := by
  constructor
  · rintro rfl
    exact (text_tokenize source).symm
  · rintro rfl
    rw [tokenize, Token.toList_text, Token.tokenizeChars_flatMap_chars canonical]

end Calculator
