import Calculator.Parse
import Calculator.Token.Location
import Calculator.Proofs.Token.Nesting

/-!
# Groups read from their text

A text is cut into tokens once, and the contents of a group are read as a part of these
tokens. `parseAfresh` works on texts instead: it takes the characters between a parenthesis
and its partner, cuts them into tokens of their own, and reads these. The two agree in
everything, since cutting a text into tokens commutes with cutting it at parentheses.
-/

namespace Calculator

open Token

/-! ### Reading texts within texts -/

/-- Split characters at the partner of a parenthesis that stands before them. It is the first
one behind which as many parentheses have been closed as opened. -/
def splitAtPartner (opened closed : Nat) : List Char → Option (List Char × List Char)
  | [] => none
  | character :: rest =>
      let opened := if character = '(' then opened + 1 else opened
      let closed := if character = ')' then closed + 1 else closed
      if opened = closed then some ([], rest)
      else (splitAtPartner opened closed rest).map fun (inner, after) => (character :: inner, after)

private theorem map_cons_eq_some_iff {found : Option (List Char × List Char)} {character : Char}
    {inner after : List Char} :
    (found.map fun (inner, after) => (character :: inner, after)) = some (inner, after) ↔
      ∃ others, inner = character :: others ∧ found = some (others, after) := by
  rw [Option.map_eq_some_iff]
  constructor
  · rintro ⟨⟨others, behind⟩, rfl, same⟩
    cases same
    exact ⟨others, rfl, rfl⟩
  · rintro ⟨others, rfl, rfl⟩
    exact ⟨_, rfl, rfl⟩

/-- A character that is not the partner belongs to the contents. -/
private theorem contents_cons_iff {depth : Nat} (depth' : Nat) {character : Char}
    {rest inner after : List Char}
    (step : ∀ others, nesting '(' ')' depth (character :: others) = nesting '(' ')' depth' others)
    (notPartner : character = ')' → depth ≠ 0) :
    nesting '(' ')' depth inner = some 0 ∧ character :: rest = inner ++ ')' :: after ↔
      ∃ others, inner = character :: others ∧
        nesting '(' ')' depth' others = some 0 ∧ rest = others ++ ')' :: after := by
  constructor
  · rintro ⟨closes, split⟩
    cases inner with
    | nil =>
        obtain ⟨rfl, -⟩ := List.cons_eq_cons.mp split
        cases closes
        exact absurd rfl (notPartner rfl)
    | cons first others =>
        obtain ⟨rfl, behind⟩ := List.cons_eq_cons.mp (List.cons_append ▸ split)
        exact ⟨others, rfl, (step others).symm.trans closes, behind⟩
  · rintro ⟨others, rfl, closes, rfl⟩
    exact ⟨(step others).trans closes, rfl⟩

/-- Where nothing is open, a closing parenthesis is the partner. -/
private theorem contents_closing_iff {rest inner after : List Char} :
    nesting '(' ')' 0 inner = some 0 ∧ ')' :: rest = inner ++ ')' :: after ↔
      inner = [] ∧ rest = after := by
  constructor
  · rintro ⟨closes, split⟩
    cases inner with
    | nil => exact ⟨rfl, (List.cons_eq_cons.mp split).2⟩
    | cons first others =>
        obtain ⟨rfl, -⟩ := List.cons_eq_cons.mp (List.cons_append ▸ split)
        cases closes
  · rintro ⟨rfl, rfl⟩
    exact ⟨rfl, rfl⟩

/-- The partner of a parenthesis is the one that closes nothing of what stands between them. -/
theorem splitAtPartner_eq_some_iff {closed depth : Nat} {characters inner after : List Char} :
    splitAtPartner (closed + depth + 1) closed characters = some (inner, after) ↔
      nesting '(' ')' depth inner = some 0 ∧ characters = inner ++ ')' :: after := by
  induction characters generalizing closed depth inner with
  | nil => simp [splitAtPartner]
  | cons character rest inductionHypothesis =>
      rw [splitAtPartner]
      by_cases opens : character = '('
      · subst opens
        simp only [↓reduceIte, Char.reduceEq]
        rw [if_neg (by omega), map_cons_eq_some_iff,
          contents_cons_iff (depth + 1) (fun _ => rfl) (by simp)]
        exact exists_congr fun others => and_congr_right fun _ =>
          @inductionHypothesis closed (depth + 1) others
      by_cases closes : character = ')'
      · subst closes
        simp only [↓reduceIte, Char.reduceEq]
        cases depth with
        | zero =>
            rw [contents_closing_iff]
            simp [eq_comm]
        | succ depth =>
            have behind := @inductionHypothesis (closed + 1) depth
            rw [Nat.add_right_comm closed 1 depth] at behind
            rw [if_neg (by omega), map_cons_eq_some_iff,
              contents_cons_iff depth (fun _ => rfl) (by simp)]
            exact exists_congr fun others => and_congr_right fun _ => behind
      · simp only [opens, closes, ↓reduceIte]
        rw [if_neg (by omega), map_cons_eq_some_iff,
          contents_cons_iff depth (fun others => by simp [nesting, opens, closes])
            (by simp [closes])]
        exact exists_congr fun others => and_congr_right fun _ => inductionHypothesis

theorem length_lt_of_splitAtPartner {characters inner after : List Char}
    (found : splitAtPartner 1 0 characters = some (inner, after)) :
    inner.length < characters.length ∧ after.length < characters.length := by
  obtain ⟨-, rfl⟩ := (@splitAtPartner_eq_some_iff 0 0 characters inner after).mp found
  simp only [List.length_append, List.length_cons]
  omega

/-- Read the tokens of a span that follow a reading of it, `depth` groups deep. The span is
given by its characters, and so are the contents of each group in it. -/
def readAfresh (limit depth : Nat) (span : List Char) (reading : Reading) :
    List Token → Logged ParseError Expr
  | [] => reading.close (tokenizeChars span)
  | .number run :: rest => readAfresh limit depth span (reading.addDigits run) rest
  | .operator op :: rest => do
      let reading ← reading.addOperator (tokenizeChars span) op
      readAfresh limit depth span reading rest
  | .openParen :: rest =>
      match found : splitAtPartner 1 0 (rest.flatMap chars) with
      | some (inner, after) => do
          reading.enterGroup (tokenizeChars span) limit (depth + 1) (tokenizeChars inner)
          let operand ← readAfresh limit (depth + 1) inner {} (tokenizeChars inner)
          let reading ← reading.leaveGroup (tokenizeChars span) (tokenizeChars inner) operand
          readAfresh limit depth span reading (tokenizeChars after)
      | none => throw (.unmatchedParenthesis reading.position (String.ofList span))
  | .closeParen :: _ => throw (.unmatchedParenthesis reading.position (String.ofList span))
  | .unknown character :: _ =>
      throw (.unrecognizedCharacter character reading.position (String.ofList span))
termination_by tokens => ((tokens.flatMap chars).length, tokens.length)
decreasing_by
  all_goals
    simp only [Prod.lex_def, List.flatMap_cons, List.length_append, List.length_cons, chars,
      List.length_nil, flatMap_chars_tokenizeChars]
  · omega
  · omega
  · have := length_lt_of_splitAtPartner found
    omega
  · have := length_lt_of_splitAtPartner found
    omega

/-- The tree of a text. -/
def parseAfresh (settings : Settings) (source : String) : Logged ParseError Expr := do
  let expr ← readAfresh settings.maxDepth 0 source.toList {} (tokenize source)
  Logged.emit (.parsed source expr)
  return expr

/-- In a text, parentheses have the partners that they have among its tokens. -/
theorem splitAtPartner_flatMap_chars {tokens : List Token} (canonical : Canonical tokens) :
    splitAtPartner 1 0 (tokens.flatMap chars) =
      (enclosed? tokens).map fun (inner, after) => (inner.flatMap chars, after.flatMap chars) := by
  cases found : enclosed? tokens with
  | some parts =>
      obtain ⟨inner, after⟩ := parts
      obtain ⟨balanced, rfl⟩ := enclosed?_eq_some_iff.mp found
      have ofInner : Canonical inner := canonical.infix ⟨[], .closeParen :: after, rfl⟩
      refine (@splitAtPartner_eq_some_iff 0 0 _ _ _).mpr ⟨?_, by simp [chars]⟩
      rw [nesting_flatMap_chars ofInner.genuine, isBalanced_iff_nesting.mp balanced]
  | none =>
      by_contra splits
      obtain ⟨⟨inner, after⟩, split⟩ := Option.ne_none_iff_exists'.mp splits
      obtain ⟨closes, characters⟩ := (@splitAtPartner_eq_some_iff 0 0 _ inner after).mp split
      have apart := @tokenizeChars_append_cons ')' rfl inner after
      rw [← characters, tokenizeChars_flatMap_chars canonical] at apart
      have balanced : IsBalanced (tokenizeChars inner) := by
        rw [isBalanced_iff_nesting, ← nesting_flatMap_chars (canonical_tokenizeChars inner).genuine,
          flatMap_chars_tokenizeChars]
        exact closes
      rw [enclosed?_eq_some_iff.mpr ⟨balanced, apart⟩] at found
      cases found

/-- Reading a part of the tokens and reading the text of this part afresh are the same. -/
theorem readAfresh_eq_readSpan (limit depth : Nat) {whole tokens : List Token} (reading : Reading)
    (ofWhole : Canonical whole) (canonical : Canonical tokens) :
    readAfresh limit depth (whole.flatMap chars) reading tokens =
      readSpan limit depth whole reading tokens := by
  fun_induction readSpan limit depth whole reading tokens with
  | case1 depth whole reading => rw [readAfresh, tokenizeChars_flatMap_chars ofWhole]
  | case2 depth whole reading run rest inductionHypothesis =>
      rw [readAfresh]
      exact inductionHypothesis ofWhole (canonical_cons.mp canonical).2.1
  | case3 depth whole reading op rest inductionHypothesis =>
      rw [readAfresh, tokenizeChars_flatMap_chars ofWhole]
      exact bind_congr fun reading =>
        inductionHypothesis reading ofWhole (canonical_cons.mp canonical).2.1
  | case4 depth whole reading rest inner after found readsInner readsAfter =>
      obtain ⟨-, rfl⟩ := enclosed?_eq_some_iff.mp found
      have ofRest : Canonical (inner ++ .closeParen :: after) := (canonical_cons.mp canonical).2.1
      have ofInner : Canonical inner := ofRest.infix ⟨[], .closeParen :: after, rfl⟩
      have ofAfter : Canonical after := ofRest.infix ⟨inner ++ [.closeParen], [], by simp⟩
      have splits := splitAtPartner_flatMap_chars ofRest
      rw [found, Option.map_some] at splits
      rw [readAfresh]
      split
      · next found' =>
          cases found'.symm.trans splits
          simp only [tokenizeChars_flatMap_chars, ofWhole, ofInner, ofAfter,
            readsInner ofInner ofInner, fun reading => readsAfter reading ofWhole ofAfter]
      · next found' => cases found'.symm.trans splits
  | case5 depth whole reading rest found =>
      have splits := splitAtPartner_flatMap_chars (canonical_cons.mp canonical).2.1
      rw [found, Option.map_none] at splits
      rw [readAfresh]
      split
      · next found' => cases found'.symm.trans splits
      · rfl
  | case6 depth whole reading rest => rw [readAfresh, text]
  | case7 depth whole reading character rest => rw [readAfresh, text]

/-! ### The places of the tokens of a group -/

/-- A token as it lies `offset` bytes further on. -/
def LocatedToken.shift (offset : Nat) (located : LocatedToken) : LocatedToken :=
  { located with start := offset + located.start, stop := offset + located.stop }

namespace LocatedToken

theorem layOut_append (laid : Array LocatedToken) (start : Nat) (first second : List Token) :
    layOut laid start (first ++ second) =
      layOut (layOut laid start first) (start + totalWidth first) second := by
  induction first generalizing laid start with
  | nil => simp [layOut]
  | cons token first inductionHypothesis =>
      rw [List.cons_append, layOut, layOut, inductionHypothesis, totalWidth_cons, Nat.add_assoc]

theorem layOut_eq_append (laid : Array LocatedToken) (start : Nat) (tokens : List Token) :
    layOut laid start tokens = laid ++ layOut #[] start tokens := by
  induction tokens generalizing laid start with
  | nil => simp [layOut]
  | cons token tokens inductionHypothesis =>
      rw [layOut, layOut, inductionHypothesis, inductionHypothesis (#[].push _)]
      simp

@[simp] theorem size_layOut (start : Nat) (tokens : List Token) :
    (layOut #[] start tokens).size = tokens.length := by
  induction tokens generalizing start with
  | nil => rfl
  | cons token tokens inductionHypothesis =>
      rw [layOut, layOut_eq_append, Array.size_append, inductionHypothesis, List.length_cons]
      simp [Nat.add_comm]

/-- Tokens that are laid out further on lie further on. -/
theorem layOut_shift (offset start : Nat) (tokens : List Token) :
    layOut #[] (offset + start) tokens = (layOut #[] start tokens).map (shift offset) := by
  induction tokens generalizing start with
  | nil => simp [layOut]
  | cons token tokens inductionHypothesis =>
      rw [layOut, layOut_eq_append, layOut, layOut_eq_append (#[].push _) (start + token.width),
        Nat.add_assoc, inductionHypothesis]
      simp [shift]

end LocatedToken

/-- Tokens that stand together in a text are what their own text is cut into. -/
theorem tokenize_text_of_split {source : String} {before part after : List Token}
    (split : tokenize source = before ++ (part ++ after)) : tokenize (text part) = part := by
  refine (tokenize_eq_iff ?_).mpr rfl
  exact Canonical.infix (canonical_tokenize source) ⟨before, after, by simp [split]⟩

/-- Where the tokens of a part of a text lie. -/
theorem locateTokens_extract {source : String} {before part after : List Token}
    (split : tokenize source = before ++ (part ++ after)) :
    (locateTokens source).extract before.length (before.length + part.length) =
      (locateTokens (text part)).map (LocatedToken.shift (totalWidth before)) := by
  have places : locateTokens source =
      LocatedToken.layOut #[] 0 before ++
        (LocatedToken.layOut #[] (totalWidth before + 0) part ++
          LocatedToken.layOut #[] (totalWidth before + totalWidth part) after) := by
    rw [locateTokens, split, LocatedToken.layOut_append, LocatedToken.layOut_append,
      LocatedToken.layOut_eq_append,
      LocatedToken.layOut_eq_append (LocatedToken.layOut #[] 0 before)]
    simp
  rw [places, locateTokens, tokenize_text_of_split split, ← LocatedToken.layOut_shift,
    ← LocatedToken.size_layOut 0 before, Array.extract_append_right, Array.extract_append,
    Array.extract_eq_self_of_le (by simp)]
  simp

/-- The tokens that are read as a span, behind the first `start` tokens of a text: all tokens
of the text, and those between a parenthesis and its partner in another span. -/
inductive SpanAt (tokens : List Token) : (start : Nat) → List Token → Prop where
  | whole : SpanAt tokens 0 tokens
  | group {start : Nat} {before rest inner after : List Token}
      (outer : SpanAt tokens start (before ++ .openParen :: rest))
      (found : enclosed? rest = some (inner, after)) :
      SpanAt tokens (start + before.length + 1) inner

/-- However deep it is nested, a span is a part of the whole. -/
theorem SpanAt.exists_split {tokens : List Token} {start : Nat} {span : List Token}
    (isSpan : SpanAt tokens start span) :
    ∃ before after, tokens = before ++ (span ++ after) ∧ before.length = start := by
  induction isSpan with
  | whole => exact ⟨[], [], by simp, rfl⟩
  | @group start before rest inner after outer found inductionHypothesis =>
      obtain ⟨earlier, later, split, rfl⟩ := inductionHypothesis
      obtain rfl := eq_of_enclosed?_eq_some found
      exact ⟨earlier ++ before ++ [.openParen], .closeParen :: after ++ later, by simp [split],
        by simp [Nat.add_assoc]⟩

/-- Cutting groups out of the tokens of a text agrees with reading their text afresh, in the
tree, the error and the events. In particular, what is read as a span, however deep, are the
tokens that the text of the span is cut into, and they lie where these lie, counted from the
start of the span. -/
theorem parse_eq_parseAfresh (settings : Settings) (source : String) :
    parse settings source = parseAfresh settings source ∧
      ∀ start span, SpanAt (tokenize source) start span →
        tokenize (text span) = span ∧
          (locateTokens source).extract start (start + span.length) =
            (locateTokens (text span)).map
              (LocatedToken.shift (totalWidth ((tokenize source).take start))) := by
  constructor
  · have spells : (tokenize source).flatMap chars = source.toList :=
      flatMap_chars_tokenizeChars source.toList
    have reads := readAfresh_eq_readSpan settings.maxDepth 0 {} (canonical_tokenize source)
      (canonical_tokenize source)
    rw [spells] at reads
    rw [parse, parseAfresh, reads]
  · intro start span isSpan
    obtain ⟨before, after, split, rfl⟩ := isSpan.exists_split
    refine ⟨tokenize_text_of_split split, ?_⟩
    rw [locateTokens_extract split, split, List.take_left]

/-- The tokens of an inner group lie behind a parenthesis, a character of two bytes, and
another parenthesis. -/
theorem parse_eq_parseAfresh_nested :
    parse {} "(é(2/))" = parseAfresh {} "(é(2/))" ∧
      tokenize "2/" = [.number ['2'], .operator .divide] ∧
      (locateTokens "(é(2/))").extract 3 5 =
        #[⟨.number ['2'], 4, 5⟩, ⟨.operator .divide, 5, 6⟩] := by
  have outer : SpanAt (tokenize "(é(2/))") 1
      [.unknown 'é', .openParen, .number ['2'], .operator .divide, .closeParen] :=
    @SpanAt.group _ 0 [] _ _ [] .whole (by decide)
  have inner : SpanAt (tokenize "(é(2/))") 3 [.number ['2'], .operator .divide] :=
    @SpanAt.group _ 1 [.unknown 'é'] _ _ [] outer (by decide)
  obtain ⟨agrees, spans⟩ := parse_eq_parseAfresh {} "(é(2/))"
  obtain ⟨tokens, places⟩ := spans 3 _ inner
  exact ⟨agrees, tokens, places.trans (LocatedToken.layOut_shift 4 0 _).symm⟩

end Calculator
