import Calculator.Decimal.Basic
import Calculator.Proofs.Token.Alphabet
import Calculator.Token.Group

/-!
# Blank digits

What a text is like apart from its digits is what is left of it when each of them is replaced by a
zero. Cutting a text into tokens, cutting off groups, counting bytes and checking numbers go the
same way for a text and for what is left of it, so they take no notice of which digits stand in it.
-/

namespace Calculator

open Token

/-! ### Characters and texts -/

/-- Replace a digit by a zero. -/
def blank (character : Char) : Char :=
  if character.isDigit then '0' else character

theorem blank_of_isDigit {character : Char} (isDigit : character.isDigit = true) :
    blank character = '0' :=
  if_pos isDigit

theorem blank_of_not_isDigit {character : Char} (other : character.isDigit = false) :
    blank character = character := by
  simp [blank, other]

@[simp] theorem isDigit_blank (character : Char) :
    (blank character).isDigit = character.isDigit := by
  cases isDigit : character.isDigit with
  | true => rw [blank_of_isDigit isDigit]; rfl
  | false => rw [blank_of_not_isDigit isDigit, isDigit]

@[simp] theorem blank_blank (character : Char) : blank (blank character) = blank character := by
  cases isDigit : character.isDigit with
  | true => rw [blank_of_isDigit isDigit]; rfl
  | false => rw [blank_of_not_isDigit isDigit, blank_of_not_isDigit isDigit]

/-- A character is left as it is, or is one digit of which another is left. -/
theorem blank_eq_blank_iff {character character' : Char} :
    blank character = blank character' ↔
      character = character' ∨ character.isDigit = true ∧ character'.isDigit = true := by
  constructor
  · intro same
    have sameKind : character.isDigit = character'.isDigit := by
      rw [← isDigit_blank, same, isDigit_blank]
    cases isDigit : character.isDigit with
    | true => exact .inr ⟨rfl, by rw [← sameKind, isDigit]⟩
    | false =>
        rw [blank_of_not_isDigit isDigit, blank_of_not_isDigit (sameKind ▸ isDigit)] at same
        exact .inl same
  · rintro (rfl | ⟨isDigit, isDigit'⟩)
    · rfl
    · rw [blank_of_isDigit isDigit, blank_of_isDigit isDigit']

@[simp] theorem blank_eq_point_iff {character : Char} :
    blank character = '.' ↔ character = '.' := by
  cases isDigit : character.isDigit with
  | true =>
      rw [blank_of_isDigit isDigit]
      refine iff_of_false (by decide) ?_
      rintro rfl
      cases isDigit
  | false => rw [blank_of_not_isDigit isDigit]

theorem utf8Size_blank (character : Char) : (blank character).utf8Size = character.utf8Size := by
  cases isDigit : character.isDigit with
  | true =>
      have numeric : isNumeric character = true := by simp [isNumeric, isDigit]
      rw [blank_of_isDigit isDigit,
        utf8Size_of_isExpressionChar (isExpressionChar_of_isNumeric numeric)]
      rfl
  | false => rw [blank_of_not_isDigit isDigit]

@[simp] theorem isNumeric_blank (character : Char) :
    isNumeric (blank character) = isNumeric character := by
  rw [isNumeric, isNumeric, isDigit_blank]
  congr 1
  simp [beq_eq_beq]

/-- Two texts are the same but for the digits in them. -/
def SameButDigits (text text' : String) : Prop :=
  List.Forall₂ (fun character character' =>
    character = character' ∨ character.isDigit = true ∧ character'.isDigit = true)
    text.toList text'.toList

/-- What is left of a text with blank digits. -/
def blankText (text : String) : String :=
  String.ofList (text.toList.map blank)

/-- The same is left of texts that are the same but for digits, and only of these. -/
theorem blankText_eq_iff {text text' : String} :
    blankText text = blankText text' ↔ SameButDigits text text' := by
  rw [blankText, blankText, String.ofList_inj, ← List.forall₂_eq_eq_eq, List.forall₂_map_left_iff,
    List.forall₂_map_right_iff, SameButDigits]
  simp only [blank_eq_blank_iff]

/-! ### Numbers -/

/-- Whether digits and points make a number depends on the places of the points only. -/
theorem isSome_ofChars?_map_blank (characters : List Char) :
    (Decimal.ofChars? (characters.map blank)).isSome = (Decimal.ofChars? characters).isSome := by
  have samePoint : (· != '.') ∘ blank = (· != '.') := by
    funext character
    simp [bne, beq_eq_beq]
  have sameDigit : (! ·.isDigit) ∘ blank = (! ·.isDigit) := by
    funext character
    simp
  simp only [Decimal.ofChars?, List.takeWhile_map, List.dropWhile_map, samePoint, ← List.map_drop,
    ← List.map_append, List.isEmpty_map, List.any_map, sameDigit]
  split <;> rfl

/-! ### Tokens -/

namespace Token

/-- What is left of a token with blank digits. -/
def blanked : Token → Token
  | number run => .number (run.map blank)
  | token => token

theorem blanked_of_not_isNumber {token : Token} (other : token.isNumber = false) :
    token.blanked = token := by
  cases token with
  | number run => cases other
  | _ => rfl

theorem ofChar_blank (character : Char) :
    ofChar (blank character) = (ofChar character).blanked := by
  cases isDigit : character.isDigit with
  | true =>
      have numeric : isNumeric character = true := by simp [isNumeric, isDigit]
      rw [ofChar_of_isNumeric numeric, blank_of_isDigit isDigit, blanked, List.map_singleton,
        blank_of_isDigit isDigit]
      rfl
  | false =>
      rw [blank_of_not_isDigit isDigit]
      cases numeric : isNumeric character with
      | true =>
          rw [ofChar_of_isNumeric numeric, blanked, List.map_singleton,
            blank_of_not_isDigit isDigit]
      | false =>
          rw [blanked_of_not_isNumber (ofChar_of_not_isNumeric numeric).2]

theorem push_blank (character : Char) (tokens : List Token) :
    push (blank character) (tokens.map blanked) = (push character tokens).map blanked := by
  cases numeric : isNumeric character with
  | true =>
      cases tokens with
      | nil => simp [push, numeric, ofChar_blank]
      | cons token tokens => cases token <;> simp [push, numeric, blanked, ofChar_blank]
  | false => simp [push, numeric, ofChar_blank]

/-- A text is cut into tokens at the same places, whatever its digits are. -/
theorem tokenizeChars_map_blank (characters : List Char) :
    tokenizeChars (characters.map blank) = (tokenizeChars characters).map blanked := by
  induction characters with
  | nil => rfl
  | cons character characters inductionHypothesis =>
      calc
        tokenizeChars ((character :: characters).map blank)
        _ = push (blank character) (tokenizeChars (characters.map blank)) := rfl
        _ = (push character (tokenizeChars characters)).map blanked := by
          rw [inductionHypothesis, push_blank]

theorem width_blanked (token : Token) : token.blanked.width = token.width := by
  cases token with
  | number run => simp [blanked, width, chars, List.foldl_map, utf8Size_blank]
  | _ => rfl

theorem totalWidth_map_blanked (tokens : List Token) :
    totalWidth (tokens.map blanked) = totalWidth tokens := by
  simp [totalWidth, List.foldl_map, width_blanked]

theorem blankText_text_map_blanked (tokens : List Token) :
    blankText (text (tokens.map blanked)) = blankText (text tokens) := by
  have ofToken : ∀ token : Token, token.blanked.chars.map blank = token.chars.map blank := by
    intro token
    cases token <;> simp [blanked, chars]
  simp only [blankText, toList_text, List.map_flatMap, List.flatMap_map, ofToken]

/-- The texts of tokens are the same but for digits if the tokens are. -/
theorem blankText_text_eq {tokens tokens' : List Token}
    (same : tokens.map blanked = tokens'.map blanked) :
    blankText (text tokens) = blankText (text tokens') := by
  rw [← blankText_text_map_blanked, same, blankText_text_map_blanked]

theorem enclosedFrom_map_blanked (passed : List Token) (depth : Nat) (tokens : List Token) :
    enclosedFrom (passed.map blanked) depth (tokens.map blanked) =
      (enclosedFrom passed depth tokens).map (Prod.map (List.map blanked) (List.map blanked)) := by
  fun_induction enclosedFrom passed depth tokens with
  | case1 => rfl
  | case2 passed rest => simp [enclosedFrom, blanked]
  | case3 passed rest depth inductionHypothesis =>
      simpa [enclosedFrom, blanked] using inductionHypothesis
  | case4 passed depth rest inductionHypothesis =>
      simpa [enclosedFrom, blanked] using inductionHypothesis
  | case5 passed depth token rest notClosing notOpening inductionHypothesis =>
      cases token with
      | openParen => exact absurd rfl notOpening
      | closeParen => exact absurd rfl notClosing
      | _ => simpa [enclosedFrom, blanked] using inductionHypothesis

/-- A group is cut off at the same place, whatever the digits are. -/
theorem exists_enclosed?_of_map_blanked_eq {tokens tokens' inner after : List Token}
    (same : tokens.map blanked = tokens'.map blanked)
    (found : enclosed? tokens = some (inner, after)) :
    ∃ inner' after', enclosed? tokens' = some (inner', after') ∧
      inner.map blanked = inner'.map blanked ∧ after.map blanked = after'.map blanked := by
  have sameGroup : (enclosed? tokens').map (Prod.map (List.map blanked) (List.map blanked)) =
      (enclosed? tokens).map (Prod.map (List.map blanked) (List.map blanked)) := by
    rw [enclosed?, enclosed?, ← enclosedFrom_map_blanked, ← same, enclosedFrom_map_blanked]
  rw [found, Option.map_some, Option.map_eq_some_iff] at sameGroup
  obtain ⟨⟨inner', after'⟩, found', sameParts⟩ := sameGroup
  obtain ⟨sameInner, sameAfter⟩ := Prod.mk.inj sameParts
  exact ⟨inner', after', found', sameInner.symm, sameAfter.symm⟩

/-- Tokens that are the same but for digits are so one by one. -/
theorem exists_cons_of_map_blanked_eq {token : Token} {rest tokens' : List Token}
    (same : (token :: rest).map blanked = tokens'.map blanked) :
    ∃ token' rest', tokens' = token' :: rest' ∧ token.blanked = token'.blanked ∧
      rest.map blanked = rest'.map blanked := by
  obtain ⟨token', rest', rfl, sameToken, sameRest⟩ := List.map_eq_cons_iff.mp same.symm
  exact ⟨token', rest', rfl, sameToken.symm, sameRest.symm⟩

/-- Only numbers have digits. -/
theorem eq_of_blanked_eq {token token' : Token} (other : token.isNumber = false)
    (same : token.blanked = token'.blanked) : token' = token := by
  cases token with
  | number run => cases other
  | _ => cases token' <;> simp_all [blanked]

theorem exists_run_of_blanked_eq {run : List Char} {token' : Token}
    (same : (number run).blanked = token'.blanked) :
    ∃ run', token' = number run' ∧ run.map blank = run'.map blank := by
  cases token' with
  | number run' => exact ⟨run', rfl, by simpa [blanked] using same⟩
  | _ => simp [blanked] at same

end Token

end Calculator
