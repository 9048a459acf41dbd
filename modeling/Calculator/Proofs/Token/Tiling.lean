import Calculator.Token.Location
import Calculator.Proofs.Token.Alphabet

/-!
# Tokens tile their text

The tokens of a text are looked at from outside here, as kinds with the bytes that they
occupy. `Tiles` lists what a division of a text into such segments has to satisfy: the segments
lie one behind another, each covers what its kind allows, and no two runs meet. It refers to
the text only, not to how it is cut. `tiles_iff` says that there is exactly one such division,
the one into the tokens of the text.
-/

namespace Calculator

open Token

/-! ### Segments of a text -/

/-- What a token is, apart from the characters it covers. -/
inductive TokenKind where
  | number
  | operator (op : Operator)
  | openParen
  | closeParen
  | unknown
  deriving DecidableEq

/-- The characters that a token of each kind may cover. Only runs cover more than one. -/
def TokenKind.Covers : TokenKind → List Char → Prop
  | number, covered => ∀ character ∈ covered, isNumeric character
  | operator op, covered => covered = [op.symbol]
  | openParen, covered => covered = ['(']
  | closeParen, covered => covered = [')']
  | unknown, covered => ∃ character, covered = [character] ∧ isExpressionChar character = false

/-- A kind of token and the bytes that it occupies, from `start` up to but excluding `stop`. -/
structure Segment where
  kind : TokenKind
  start : Nat
  stop : Nat
  deriving DecidableEq

/-- What stands in a text from one byte up to but excluding another. No character is cut
apart at either end. -/
def IsPart (source : String) (start stop : Nat) (part : String) : Prop :=
  ∃ before after, source = before ++ part ++ after ∧ before.utf8ByteSize = start ∧
    start + part.utf8ByteSize = stop

/-- Segments of at least one byte lie one behind another between two places. -/
def Adjoin (stop : Nat) : Nat → List Segment → Prop
  | start, [] => start = stop
  | start, segment :: segments =>
      segment.start = start ∧ segment.start < segment.stop ∧ Adjoin stop segment.stop segments

/-- Segments divide what stands in a text behind its first `start` bytes. -/
structure TilesFrom (source : String) (start : Nat) (segments : List Segment) : Prop where
  adjoin : Adjoin source.utf8ByteSize start segments
  covers : ∀ segment ∈ segments, ∃ part, IsPart source segment.start segment.stop part ∧
    segment.kind.Covers part.toList
  /-- Runs are maximal, so that no two of them meet. -/
  separate : segments.IsChain fun left right => ¬ (left.kind = .number ∧ right.kind = .number)

/-- Segments divide a text. -/
def Tiles (source : String) (segments : List Segment) : Prop :=
  TilesFrom source 0 segments

theorem tilesFrom_cons {source : String} {kind : TokenKind} {place start stop : Nat}
    {segments : List Segment} :
    TilesFrom source place (⟨kind, start, stop⟩ :: segments) ↔
      start = place ∧ start < stop ∧
        (∃ part, IsPart source start stop part ∧ kind.Covers part.toList) ∧
        (∀ next ∈ segments.head?, ¬ (kind = .number ∧ next.kind = .number)) ∧
        TilesFrom source stop segments := by
  constructor
  · rintro ⟨⟨begins, written, adjoin⟩, covers, separate⟩
    rw [List.isChain_cons] at separate
    exact ⟨begins, written, covers _ List.mem_cons_self, separate.1,
      adjoin, fun other member => covers other (by simp [member]), separate.2⟩
  · rintro ⟨begins, written, ofSegment, apart, adjoin, covers, separate⟩
    exact ⟨⟨begins, written, adjoin⟩, by simpa using ⟨ofSegment, covers⟩,
      List.isChain_cons.mpr ⟨apart, separate⟩⟩

/-! ### Kinds of tokens -/

/-- What a token is. -/
def Token.kind : Token → TokenKind
  | number _ => .number
  | operator op => .operator op
  | openParen => .openParen
  | closeParen => .closeParen
  | unknown _ => .unknown

/-- A token in its place, without its characters. -/
def LocatedToken.segment (located : LocatedToken) : Segment :=
  ⟨located.token.kind, located.start, located.stop⟩

theorem Token.kind_eq_number_iff (token : Token) : token.kind = .number ↔ token.isNumber := by
  cases token <;> simp [kind, isNumber]

/-- A character that belongs to no expression makes an unknown token. -/
theorem Token.ofChar_of_isExpressionChar {character : Char}
    (isOther : isExpressionChar character = false) : ofChar character = .unknown character := by
  simp only [isExpressionChar, Bool.or_eq_false_iff, decide_eq_false_iff_not, List.mem_cons,
    List.not_mem_nil, or_false, not_or] at isOther
  obtain ⟨notNumeric, plus, minus, star, slash, opens, closes⟩ := isOther
  simp [ofChar, Operator.ofSymbol?, notNumeric, plus, minus, star, slash, opens, closes]

namespace TokenKind

/-- The first character that a token covers says what it is. -/
theorem Covers.eq_kind {kind : TokenKind} {character : Char} {rest : List Char}
    (covers : kind.Covers (character :: rest)) : kind = (ofChar character).kind := by
  cases kind with
  | number => rw [ofChar_of_isNumeric (covers character (by simp))]; rfl
  | operator op =>
      obtain ⟨rfl, -⟩ := List.cons_eq_cons.mp covers
      cases op <;> rfl
  | openParen => obtain ⟨rfl, -⟩ := List.cons_eq_cons.mp covers; rfl
  | closeParen => obtain ⟨rfl, -⟩ := List.cons_eq_cons.mp covers; rfl
  | unknown =>
      obtain ⟨_, same, isOther⟩ := covers
      obtain ⟨rfl, -⟩ := List.cons_eq_cons.mp same
      rw [ofChar_of_isExpressionChar isOther]; rfl

/-- Genuine tokens cover what their kind allows. -/
theorem covers_chars {token : Token} (genuine : token.Genuine) : token.kind.Covers token.chars := by
  cases token with
  | number run => exact genuine.2
  | operator | openParen | closeParen => rfl
  | unknown character => exact ⟨character, rfl, isExpressionChar_of_ofChar genuine⟩

/-- What a kind allows is covered by a genuine token of this kind. -/
theorem Covers.exists_token {kind : TokenKind} {covered : List Char}
    (covers : kind.Covers covered) (written : covered ≠ []) :
    ∃ token : Token, token.kind = kind ∧ token.chars = covered ∧ token.Genuine := by
  cases kind with
  | number => exact ⟨.number covered, rfl, rfl, written, covers⟩
  | operator op => exact ⟨.operator op, rfl, covers.symm, trivial⟩
  | openParen => exact ⟨.openParen, rfl, covers.symm, trivial⟩
  | closeParen => exact ⟨.closeParen, rfl, covers.symm, trivial⟩
  | unknown =>
      obtain ⟨character, rfl, isOther⟩ := covers
      exact ⟨.unknown character, rfl, rfl, ofChar_of_isExpressionChar isOther⟩

end TokenKind

/-! ### Tokens in their places -/

namespace Token

/-- The segments that tokens make from some place on. -/
def segments (start : Nat) : List Token → List Segment
  | [] => []
  | token :: tokens =>
      ⟨token.kind, start, start + token.width⟩ :: segments (start + token.width) tokens

theorem segments_append (start : Nat) (first second : List Token) :
    segments start (first ++ second) =
      segments start first ++ segments (start + totalWidth first) second := by
  induction first generalizing start with
  | nil => rfl
  | cons token first inductionHypothesis =>
      rw [List.cons_append, segments, segments, inductionHypothesis, totalWidth_cons, Nat.add_assoc,
        List.cons_append]

theorem map_kind_segments (start : Nat) (tokens : List Token) :
    (segments start tokens).map Segment.kind = tokens.map kind := by
  induction tokens generalizing start with
  | nil => rfl
  | cons token tokens inductionHypothesis =>
      rw [segments, List.map_cons, inductionHypothesis, List.map_cons]

theorem map_segment_layOut (laid : Array LocatedToken) (start : Nat) (tokens : List Token) :
    (LocatedToken.layOut laid start tokens).toList.map LocatedToken.segment =
      laid.toList.map LocatedToken.segment ++ segments start tokens := by
  induction tokens generalizing laid start with
  | nil => simp [LocatedToken.layOut, segments]
  | cons token tokens inductionHypothesis =>
      rw [LocatedToken.layOut, inductionHypothesis, segments]
      simp [LocatedToken.segment]

/-- No two runs meet among segments exactly if none meet among the tokens that make them. -/
theorem separate_segments_iff (start : Nat) (tokens : List Token) :
    ((segments start tokens).IsChain fun left right =>
        ¬ (left.kind = .number ∧ right.kind = .number)) ↔
      tokens.IsChain fun left right => ¬ (left.isNumber ∧ right.isNumber) := by
  simp only [← kind_eq_number_iff]
  rw [← List.isChain_map (R := fun left right : TokenKind => ¬ (left = .number ∧ right = .number)),
    map_kind_segments, List.isChain_map]

end Token

/-! ### The tiling of a text -/

/-- A text is cut in two at a byte in one way. -/
theorem eq_and_eq_of_append_eq {before rest before' rest' : String}
    (same : before ++ rest = before' ++ rest')
    (bytes : before.utf8ByteSize = before'.utf8ByteSize) : before = before' ∧ rest = rest' := by
  have sameBytes := congrArg String.toByteArray same
  rw [String.toByteArray_append, String.toByteArray_append] at sameBytes
  obtain rfl := String.toByteArray_inj.mp (ByteArray.append_inj_left sameBytes bytes)
  exact ⟨rfl, (String.append_right_inj before).mp same⟩

theorem Token.Genuine.width_pos {token : Token} (genuine : token.Genuine) : 0 < token.width := by
  rw [width_eq_utf8ByteSize, Nat.pos_iff_ne_zero, ne_eq, String.utf8ByteSize_eq_zero_iff,
    String.ofList_eq_empty_iff]
  cases token with
  | number run => exact genuine.1
  | _ => exact List.cons_ne_nil _ _

/-- A token among others is a part of their text. -/
theorem isPart_token {source : String} {before after : List Token} {token : Token}
    (split : source = text (before ++ [token]) ++ text after) :
    IsPart source (totalWidth before) (totalWidth before + token.width) (text [token]) := by
  refine ⟨text before, text after, ?_, ?_, ?_⟩
  · rw [split, text_append]
  · exact (totalWidth_eq_utf8ByteSize before).symm
  · rw [← totalWidth_eq_utf8ByteSize, totalWidth_singleton]

/-- Where genuine tokens stand in a text, the segments that they make divide it. -/
theorem tilesFrom_segments {source : String} (before tokens : List Token)
    (split : source = text before ++ text tokens) (canonical : Canonical tokens) :
    TilesFrom source (totalWidth before) (segments (totalWidth before) tokens) := by
  induction tokens generalizing before with
  | nil =>
      have bytes : totalWidth before = source.utf8ByteSize := by
        rw [split, text_nil, String.append_empty, totalWidth_eq_utf8ByteSize]
      exact ⟨bytes, by simp [segments], by simp [segments]⟩
  | cons token tokens inductionHypothesis =>
      obtain ⟨genuine, others, -⟩ := canonical_cons.mp canonical
      have splitBehind : source = text (before ++ [token]) ++ text tokens := by
        rw [split, ← List.singleton_append, text_append, text_append, String.append_assoc]
      have behind := inductionHypothesis (before ++ [token]) splitBehind others
      rw [totalWidth_append, totalWidth_singleton] at behind
      have covers : token.kind.Covers (text [token]).toList := by
        rw [toList_text, List.flatMap_singleton]
        exact TokenKind.covers_chars genuine
      have separate := (separate_segments_iff (totalWidth before) (token :: tokens)).mpr
        canonical.separate
      exact tilesFrom_cons.mpr ⟨rfl, Nat.lt_add_of_pos_right genuine.width_pos,
        ⟨text [token], isPart_token splitBehind, covers⟩, (List.isChain_cons.mp separate).1, behind⟩

/-- Segments that divide what stands behind some text are made by tokens of it. -/
theorem TilesFrom.exists_tokens {source before rest : String} {segments : List Segment}
    (tiles : TilesFrom source before.utf8ByteSize segments) (split : source = before ++ rest) :
    ∃ tokens, text tokens = rest ∧ Token.segments before.utf8ByteSize tokens = segments ∧
      ∀ token ∈ tokens, token.Genuine := by
  induction segments generalizing before rest with
  | nil =>
      have ends : before.utf8ByteSize = source.utf8ByteSize := tiles.adjoin
      rw [split, String.utf8ByteSize_append] at ends
      obtain rfl : rest = "" := String.utf8ByteSize_eq_zero_iff.mp (by omega)
      exact ⟨[], rfl, rfl, by simp⟩
  | cons segment segments inductionHypothesis =>
      obtain ⟨kind, start, stop⟩ := segment
      obtain ⟨rfl, written, ⟨part, ⟨earlier, later, splitHere, place, rfl⟩, covers⟩, -, behind⟩ :=
        tilesFrom_cons.mp tiles
      rw [split, String.append_assoc] at splitHere
      obtain ⟨rfl, rfl⟩ := eq_and_eq_of_append_eq splitHere place.symm
      have nonempty : part.toList ≠ [] := by
        intro isEmpty
        obtain rfl : part = "" := String.toList_eq_nil_iff.mp isEmpty
        simp at written
      obtain ⟨token, rfl, chars, genuine⟩ := covers.exists_token nonempty
      have ofToken : text [token] = part := by
        rw [text, List.flatMap_singleton, chars, String.ofList_toList]
      have width : token.width = part.utf8ByteSize := by
        rw [← ofToken, ← totalWidth_eq_utf8ByteSize, totalWidth_singleton]
      have splitBehind : source = (before ++ part) ++ later := by rw [split, String.append_assoc]
      rw [← String.utf8ByteSize_append] at behind
      obtain ⟨tokens, spells, rfl, others⟩ := inductionHypothesis behind splitBehind
      refine ⟨token :: tokens, ?_, ?_, ?_⟩
      · rw [← List.singleton_append, text_append, ofToken, spells]
      · rw [Token.segments, width, String.utf8ByteSize_append]
      · simpa using ⟨genuine, others⟩

/-- There is one division of a text into segments, and its tokens make it. -/
theorem tiles_iff {source : String} {segments : List Segment} :
    Tiles source segments ↔ segments = Token.segments 0 (tokenize source) := by
  constructor
  · intro tiles
    obtain ⟨tokens, spells, rfl, genuine⟩ :=
      @TilesFrom.exists_tokens source "" source segments tiles String.empty_append.symm
    have canonical : Canonical tokens :=
      ⟨genuine, (separate_segments_iff 0 tokens).mp tiles.separate⟩
    rw [(tokenize_eq_iff canonical).mpr spells.symm]
    rfl
  · rintro rfl
    refine tilesFrom_segments [] (tokenize source) ?_ (canonical_tokenize source)
    rw [text_nil, String.empty_append, text_tokenize]

theorem map_segment_locateTokens (source : String) :
    (locateTokens source).toList.map LocatedToken.segment = segments 0 (tokenize source) := by
  rw [locateTokens, map_segment_layOut, List.map_nil, List.nil_append]

/-- Every character that is not part of a run is a segment by itself. -/
theorem mem_segments_of_not_isNumeric {before after : String} {character : Char}
    (other : isNumeric character = false) :
    ⟨(ofChar character).kind, before.utf8ByteSize, before.utf8ByteSize + character.utf8Size⟩ ∈
      segments 0 (tokenize (before ++ String.singleton character ++ after)) := by
  have characters : (before ++ String.singleton character ++ after).toList =
      before.toList ++ character :: after.toList := by
    simp
  have bytes : totalWidth (tokenizeChars before.toList) = before.utf8ByteSize := by
    rw [totalWidth_eq_utf8ByteSize]
    exact congrArg _ (text_tokenize before)
  have width : (ofChar character).width = character.utf8Size := by
    rw [width_eq_utf8ByteSize, chars_ofChar, ← String.singleton_eq_ofList,
      String.utf8ByteSize_singleton]
  rw [tokenize, characters, tokenizeChars_append_cons other, segments_append, segments, width,
    bytes, Nat.zero_add]
  exact List.mem_append_right _ List.mem_cons_self

end Calculator
