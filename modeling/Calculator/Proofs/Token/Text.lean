import Calculator.Token

/-!
# Texts and widths of token lists

Text and width of a list of tokens are additive, and the width is the number of bytes
of the text. Positions in errors are widths of what stands before them.
-/

namespace Calculator

namespace Token

@[simp] theorem text_nil : text [] = "" :=
  rfl

@[simp] theorem text_append (first second : List Token) :
    text (first ++ second) = text first ++ text second := by
  simp [text, String.ofList_append]

@[simp] theorem toList_text (tokens : List Token) :
    (text tokens).toList = tokens.flatMap chars := by
  simp [text]

theorem ofList_cons (character : Char) (characters : List Char) :
    String.ofList (character :: characters) =
      String.ofList [character] ++ String.ofList characters := by
  rw [← String.ofList_append, List.singleton_append]

private theorem foldl_utf8Size (bytes : Nat) (characters : List Char) :
    characters.foldl (fun bytes character => bytes + character.utf8Size) bytes =
      bytes + (String.ofList characters).utf8ByteSize := by
  induction characters generalizing bytes with
  | nil => simp
  | cons character characters inductionHypothesis =>
      rw [List.foldl_cons, inductionHypothesis, ofList_cons, String.utf8ByteSize_append]
      simp
      omega

theorem width_eq_utf8ByteSize (token : Token) :
    token.width = (String.ofList token.chars).utf8ByteSize := by
  rw [width, foldl_utf8Size, Nat.zero_add]

private theorem foldl_width (bytes : Nat) (tokens : List Token) :
    tokens.foldl (fun bytes token => bytes + token.width) bytes =
      bytes + (text tokens).utf8ByteSize := by
  induction tokens generalizing bytes with
  | nil => simp
  | cons token tokens inductionHypothesis =>
      rw [List.foldl_cons, inductionHypothesis, width_eq_utf8ByteSize, text, text,
        List.flatMap_cons, String.ofList_append, String.utf8ByteSize_append]
      omega

/-- The width of a list of tokens is the number of bytes of its text. -/
theorem totalWidth_eq_utf8ByteSize (tokens : List Token) :
    totalWidth tokens = (text tokens).utf8ByteSize := by
  rw [totalWidth, foldl_width, Nat.zero_add]

@[simp] theorem totalWidth_nil : totalWidth [] = 0 :=
  rfl

@[simp] theorem totalWidth_append (first second : List Token) :
    totalWidth (first ++ second) = totalWidth first + totalWidth second := by
  simp [totalWidth_eq_utf8ByteSize]

@[simp] theorem totalWidth_singleton (token : Token) : totalWidth [token] = token.width := by
  simp [totalWidth]

theorem totalWidth_cons (token : Token) (tokens : List Token) :
    totalWidth (token :: tokens) = token.width + totalWidth tokens := by
  rw [← List.singleton_append, totalWidth_append, totalWidth_singleton]

end Token

end Calculator
