import Calculator.Proofs.Text.Slice
import Calculator.Proofs.Token.Closing

/-!
# Streams of segments

Where a token carries its characters, a segment only knows its place. A stream is the segments of
a span with the text they lie in and the place of the span in it. Everything else is looked up by
place, so a lookup finds nothing if the place is wrong: if it cuts a character apart, lies outside
of the text, or comes before the span. `Stream.Shows` says that a stream belongs to a span of
tokens. Then every lookup at a token finds what the token carries, and a group of tokens is cut
off as a stream that belongs to it.
-/

namespace Calculator

open Token

theorem Token.length_segments (start : Nat) (tokens : List Token) :
    (segments start tokens).length = tokens.length := by
  simpa using congrArg List.length (map_kind_segments start tokens)

/-- Tokens among others make the segments among those of all. -/
theorem Token.segments_infix (start : Nat) (before part after : List Token) :
    ((segments start (before ++ (part ++ after))).take (before.length + part.length)).drop
      before.length = segments (start + totalWidth before) part := by
  rw [segments_append, segments_append, List.drop_take, List.drop_left' (length_segments _ _),
    Nat.add_sub_cancel_left, List.take_left' (length_segments _ _)]

/-- The segments of a span, by their places in the text that it is a part of. -/
structure Stream where
  source : String
  /-- Where the span begins in the text. -/
  start : Nat
  /-- Where it ends. -/
  stop : Nat
  segments : List Segment

namespace Stream

/-- The stream of a whole text. -/
def ofText (source : String) : Stream where
  source
  start := 0
  stop := source.utf8ByteSize
  segments := (locateTokens source).toList.map LocatedToken.segment

/-- The text of the span. -/
def text? (stream : Stream) : Option String :=
  slice? stream.source stream.start stream.stop

/-- A place counted from the start of the span. -/
def relative? (stream : Stream) (place : Nat) : Option Nat :=
  if stream.start ≤ place then some (place - stream.start) else none

/-- Where the parenthesis that opens with a segment is closed. -/
def closing? (stream : Stream) (opening : Nat) : Option Nat :=
  closingIndex? .openParen .closeParen (stream.segments.map Segment.kind) opening

theorem lt_of_closing?_eq_some {stream : Stream} {opening closing : Nat}
    (found : stream.closing? opening = some closing) : opening < closing :=
  lt_of_closingIndex?_eq_some found

/-- The stream between two segments. -/
def group? (stream : Stream) (opening closing : Nat) : Option Stream :=
  match stream.segments[opening]?, stream.segments[closing]? with
  | some opened, some closed =>
      if opening < closing then
        some {
          source := stream.source
          start := opened.stop
          stop := closed.start
          segments := (stream.segments.take closing).drop (opening + 1) }
      else none
  | _, _ => none

theorem length_lt_of_group?_eq_some {stream group : Stream} {opening closing : Nat}
    (found : stream.group? opening closing = some group) :
    group.segments.length < stream.segments.length - opening := by
  rw [group?] at found
  split at found
  · next isClosed =>
      have within := (List.getElem?_eq_some_iff.mp isClosed).1
      split at found
      · next ordered =>
          cases found
          rw [List.length_drop, List.length_take]
          omega
      · cases found
  · cases found

/-- A group that has been cut off from a stream. -/
structure Group (stream : Stream) (opening : Nat) where
  /-- The segment that closes the group. -/
  closing : Nat
  inner : Stream
  behind : opening < closing
  /-- There are fewer segments in the group than behind the place where it opens. -/
  shorter : inner.segments.length < stream.segments.length - opening

/-- A stream belongs to a span of tokens. -/
structure Shows (stream : Stream) (whole : List Token) : Prop where
  isPart : IsPart stream.source stream.start stream.stop (text whole)
  segments : stream.segments = Token.segments stream.start whole

theorem shows_ofText (source : String) : (ofText source).Shows (tokenize source) where
  isPart := ⟨"", "", by simp [ofText], rfl, by simp [ofText]⟩
  segments := map_segment_locateTokens source

namespace Shows

variable {stream : Stream} {whole before after : List Token}

/-- The text of the span is found. -/
theorem text?_eq (shows : stream.Shows whole) : stream.text? = some (text whole) :=
  slice?_eq_some_iff.mpr shows.isPart

/-- Tokens among others are a part of the text. -/
theorem isPart_infix (shows : stream.Shows whole) (part : List Token)
    (split : before ++ (part ++ after) = whole) :
    IsPart stream.source (stream.start + totalWidth before)
      (stream.start + totalWidth before + totalWidth part) (text part) := by
  subst split
  obtain ⟨front, behind, sourceSplit, starts, -⟩ := shows.isPart
  refine ⟨front ++ text before, text after ++ behind, ?_, ?_, ?_⟩
  · rw [sourceSplit, text_append, text_append]
    simp only [String.append_assoc]
  · rw [String.utf8ByteSize_append, starts, totalWidth_eq_utf8ByteSize]
  · rw [← totalWidth_eq_utf8ByteSize]

/-- A token is found in the place of its segment. -/
theorem slice?_eq (shows : stream.Shows whole) {token : Token}
    (split : before ++ token :: after = whole) :
    slice? stream.source (stream.start + totalWidth before)
      (stream.start + totalWidth before + token.width) = some (text [token]) := by
  have part := shows.isPart_infix [token] split
  rw [totalWidth_singleton] at part
  exact slice?_eq_some_iff.mpr part

/-- A token of one character is found by its place. -/
theorem charAt?_eq (shows : stream.Shows whole) {token : Token} {character : Char}
    (split : before ++ token :: after = whole) (ofToken : token.chars = [character]) :
    charAt? stream.source (stream.start + totalWidth before) = some character := by
  obtain ⟨front, behind, sourceSplit, starts, -⟩ := shows.isPart_infix [token] split
  rw [← starts, sourceSplit, String.append_assoc, charAt?_append, String.toList_append, toList_text,
    List.flatMap_singleton, ofToken, List.singleton_append, List.head?_cons]

/-- Positions in the span are counted from its start. -/
theorem relative?_eq (stream : Stream) (position : Nat) :
    stream.relative? (stream.start + position) = some position := by
  rw [relative?, if_pos (Nat.le_add_right _ _), Nat.add_sub_cancel_left]

/-- The segment of a token. -/
theorem getElem?_segments (shows : stream.Shows whole) {token : Token}
    (split : before ++ token :: after = whole) :
    stream.segments[before.length]? = some ⟨token.kind, stream.start + totalWidth before,
      stream.start + totalWidth before + token.width⟩ := by
  have behind : (Token.segments stream.start before).length ≤ before.length := by
    rw [length_segments]
  rw [shows.segments, ← split, segments_append, List.getElem?_append_right behind, length_segments,
    Nat.sub_self]
  rfl

/-- A parenthesis is closed at the end of its group. -/
theorem closing?_eq (shows : stream.Shows whole) (split : before ++ openParen :: after = whole) :
    stream.closing? before.length =
      (enclosed? after).map fun (inner, _) => before.length + 1 + inner.length := by
  have opens : ∀ token : Token, token.kind = .openParen ↔ token = openParen := by
    intro token; cases token <;> simp [kind]
  have closes : ∀ token : Token, token.kind = .closeParen ↔ token = closeParen := by
    intro token; cases token <;> simp [kind]
  rw [closing?, shows.segments, map_kind_segments, ← split, closingIndex?_map opens closes,
    closingIndex?_eq_map_enclosed?]

/-- A group of tokens is cut off as the stream that belongs to it. -/
theorem exists_group (shows : stream.Shows whole) {inner : List Token}
    (split : before ++ openParen :: (inner ++ closeParen :: after) = whole) :
    ∃ group, stream.group? before.length (before.length + 1 + inner.length) = some group ∧
      group.Shows inner := by
  have splitInner : (before ++ [openParen]) ++ (inner ++ closeParen :: after) = whole := by
    rw [List.append_assoc]
    exact split
  have splitClosing : (before ++ [openParen] ++ inner) ++ closeParen :: after = whole := by
    rw [List.append_assoc]
    exact splitInner
  have behindOpening :
      totalWidth before + openParen.width = totalWidth (before ++ [openParen]) := by
    rw [totalWidth_append, totalWidth_singleton]
  have opened := shows.getElem?_segments split
  have closed := shows.getElem?_segments splitClosing
  have isPart := shows.isPart_infix inner splitInner
  have between := Token.segments_infix stream.start (before ++ [openParen]) inner
    (closeParen :: after)
  rw [Nat.add_assoc, behindOpening] at opened
  rw [Nat.add_assoc, ← totalWidth_append] at isPart
  rw [splitInner, ← shows.segments] at between
  simp only [List.length_append, List.length_singleton] at closed between
  have ordered : before.length < before.length + 1 + inner.length := by omega
  exact ⟨_, by rw [group?, opened, closed]; exact if_pos ordered, isPart, between⟩

end Shows

end Stream

end Calculator
