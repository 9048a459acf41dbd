import Calculator.Operator

/-!
# Tokens

A token carries the characters it covers, so a list of tokens is its own text and
positions are sums of widths. Digits and points form maximal runs; every other
character is a token by itself. `text_tokenize` says that the tokens of
a text spell that text.
-/

namespace Calculator

/-- The pieces of an expression text. -/
inductive Token where
  /-- A maximal run of digits and points. -/
  | number (run : List Char)
  | operator (op : Operator)
  | openParen
  | closeParen
  /-- A character outside the alphabet of expressions. -/
  | unknown (character : Char)
  deriving DecidableEq

namespace Token

/-- Digits and the decimal point; only the ASCII digits count. -/
def isNumeric (character : Char) : Bool :=
  character.isDigit || character == '.'

/-- The token that one character makes by itself. -/
def ofChar (character : Char) : Token :=
  if isNumeric character then number [character]
  else if character = '(' then openParen
  else if character = ')' then closeParen
  else match Operator.ofSymbol? character with
    | some op => operator op
    | none => unknown character

/-- Put a character before a list of tokens; a digit or point joins a run of
them that follows. -/
def push (character : Char) (tokens : List Token) : List Token :=
  match isNumeric character, tokens with
  | true, number run :: rest => number (character :: run) :: rest
  | _, _ => ofChar character :: tokens

/-- The tokens of a list of characters. -/
def tokenizeChars (characters : List Char) : List Token :=
  characters.foldr push []

/-- The characters a token covers. -/
def chars : Token → List Char
  | number run => run
  | operator op => [op.symbol]
  | openParen => ['(']
  | closeParen => [')']
  | unknown character => [character]

/-- The text that a list of tokens spells. -/
def text (tokens : List Token) : String :=
  String.ofList (tokens.flatMap chars)

/-- The number of bytes a token takes in UTF-8. -/
def width (token : Token) : Nat :=
  token.chars.foldl (fun bytes character => bytes + character.utf8Size) 0

/-- The number of bytes a list of tokens takes in UTF-8. -/
def totalWidth (tokens : List Token) : Nat :=
  tokens.foldl (fun bytes token => bytes + token.width) 0

@[simp] theorem chars_ofChar (character : Char) : (ofChar character).chars = [character] := by
  unfold ofChar
  split
  · rfl
  · split
    · simp_all [chars]
    · split
      · simp_all [chars]
      · split
        · next read => simp [chars, Operator.ofSymbol?_eq_some_iff.mp read]
        · rfl

/-- Pushing a character onto tokens pushes it onto the characters they cover. -/
@[simp] theorem flatMap_chars_push (character : Char) (tokens : List Token) :
    (push character tokens).flatMap chars = character :: tokens.flatMap chars := by
  unfold push
  split
  · simp [chars]
  · simp

/-- The tokens of a text cover exactly its characters, in order. -/
@[simp] theorem flatMap_chars_tokenizeChars (characters : List Char) :
    (tokenizeChars characters).flatMap chars = characters := by
  induction characters with
  | nil => rfl
  | cons character characters inductionHypothesis =>
      rw [tokenizeChars, List.foldr_cons, flatMap_chars_push]
      exact congrArg _ inductionHypothesis

end Token

/-- The tokens of a text. -/
def tokenize (source : String) : List Token :=
  Token.tokenizeChars source.toList

/-- The tokens of a text spell that text. -/
@[simp] theorem text_tokenize (source : String) : Token.text (tokenize source) = source := by
  simp [Token.text, tokenize]

end Calculator
