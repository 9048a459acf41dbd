import Calculator.Proofs.Logged.SideBySide
import Calculator.Proofs.Parse.Place
import Calculator.Proofs.Span.Builder
import Calculator.Proofs.Token.Stream

/-!
# Reading by place

Nothing can go missing while tokens are read: a token carries its characters, and a span under way
its left operand. Here the same texts are read by a reader for which things can. It has the places
of the tokens only and looks everything up in the text, and it keeps a span as two lists. Wherever
it finds nothing it stops with a `Fault`, which is no error about the text. `parseByPlace_eq`
says that it reads as `parse` does, with the same events and errors, so none of its faults occurs.
-/

namespace Calculator

open Logged Token

/-! ### The reader -/

/-- What a reader by place can fail to find. -/
inductive Fault where
  /-- The position of a place in its span, which lies behind it. -/
  | position
  /-- The text of a span or of a number. -/
  | text
  /-- The character at a place. -/
  | character
  /-- The operator that a character names. -/
  | operator
  /-- The stream of a group. -/
  | group
  /-- The left operand of a product. -/
  | operand
  deriving DecidableEq

/-- Why a reader by place stops. -/
inductive Stop where
  | fault (fault : Fault)
  | problem (error : ParseError)

/-- What has been found. -/
def demand {value : Type} (fault : Fault) : Option value → Logged Stop value
  | some found => pure found
  | none => throw (.fault fault)

theorem demand_some_bind {found result : Type} (fault : Fault) (there : found)
    (next : found → Logged Stop result) : (demand fault (some there) >>= next) = next there :=
  rfl

/-- How far a reader by place has read a span. -/
structure Scan where
  /-- The elements and operators taken in. -/
  builder : SpanBuilder := {}
  /-- The number being read. -/
  pending : Pending := .unwrittenZero
  /-- The position of the operator read last. -/
  operatorIndex : Nat := 0

namespace Scan

/-- Stop with a problem, which names the text of the span. -/
def refuse {value : Type} (stream : Stream) (error : String → ParseError) : Logged Stop value := do
  let expression ← demand .text stream.text?
  throw (.problem (error expression))

/-- Take in an operand found at `index`. -/
def addOperand (stream : Stream) (scan : Scan) (operand : Expr) (index : Nat) :
    Logged Stop Scan :=
  match (SpanBuilder.insert operand).run scan.builder with
  | .ok () builder => do
      if let some op := scan.builder.awaited? then
        Logged.emit (.folding op)
      return { scan with builder }
  | .error .operand _ => refuse stream (.missingOperator index)
  | .error .operator _ => throw (.fault .operand)

/-- Take in the number being read, if there is one, as an operand. -/
def settle (stream : Stream) (scan : Scan) : Logged Stop Scan :=
  match scan.pending.taken? with
  | none => pure scan
  | some (characters, index) =>
      match Decimal.ofChars? characters with
      | some decimal =>
          addOperand stream { scan with pending := .absent } (.literal decimal.toFloat) index
      | none => refuse stream (.invalidNumber (String.ofList characters) index)

/-- Take in the operator that a character found at `index` names. -/
def addOperator (stream : Stream) (scan : Scan) (symbol : Char) (index : Nat) :
    Logged Stop Scan := do
  let scan ← scan.settle stream
  match Operator.ofSymbol symbol with
  | .error cause => throw (.problem (.unknownOperator cause))
  | .ok op =>
      match (SpanBuilder.pushOperator op).run scan.builder with
      | .ok () builder => return { scan with builder, operatorIndex := index }
      | .error _ _ => refuse stream (.missingOperand scan.operatorIndex)

/-- End the span. -/
def close (stream : Stream) (scan : Scan) : Logged Stop Expr := do
  let scan ← scan.settle stream
  match scan.builder.finish with
  | .ok expr => return expr
  | .error _ => refuse stream (.missingOperand scan.operatorIndex)

/-- Check that a span does not start with a multiplicative operator. -/
def checkLeading (stream : Stream) : Logged Stop Unit :=
  match stream.segments.head? with
  | some ⟨.operator op, start, _⟩ => do
      if op.isMultiplicative then
        let symbol ← demand .character (charAt? stream.source start)
        let op ← demand .operator (Operator.ofSymbol? symbol)
        refuse stream (.invalidLeadingOperator op)
  | _ => pure ()

/-- Check that the group that a segment opens may be read as an operand, `depth` groups deep,
report it and cut it off. -/
def enterGroup (stream : Stream) (scan : Scan) (limit depth index opening : Nat) :
    Logged Stop (stream.Group opening) :=
  match found : stream.closing? opening with
  | none => refuse stream (.unmatchedParenthesis index)
  | some closing => do
      if closing = opening + 1 then
        refuse stream (.emptyParentheses index)
      if scan.pending.isWritten then
        refuse stream (.missingOperator index)
      if limit < depth then
        throw (.problem (.nestingTooDeep limit))
      match carved : stream.group? opening closing with
      | none => throw (.fault .group)
      | some inner => do
          let text ← demand .text inner.text?
          Logged.emit (.group text depth)
          return {
            closing
            inner
            behind := Stream.lt_of_closing?_eq_some found
            shorter := Stream.length_lt_of_group?_eq_some carved }

end Scan

/-- Read the segments of a span from one of them on, `depth` groups deep. -/
def scanFrom (limit depth : Nat) (stream : Stream) (cursor : Nat) (scan : Scan) :
    Logged Stop Expr :=
  if within : cursor < stream.segments.length then do
    let ⟨kind, start, stop⟩ := stream.segments[cursor]
    let index ← demand .position (stream.relative? start)
    match kind with
    | .number =>
        let run ← demand .text (slice? stream.source start stop)
        scanFrom limit depth stream (cursor + 1)
          { scan with pending := scan.pending.append run.toList index }
    | .operator _ =>
        let symbol ← demand .character (charAt? stream.source start)
        let scan ← scan.addOperator stream symbol index
        scanFrom limit depth stream (cursor + 1) scan
    | .openParen =>
        let group ← scan.enterGroup stream limit (depth + 1) index cursor
        Scan.checkLeading group.inner
        let operand ← scanFrom limit (depth + 1) group.inner 0 {}
        let scan ← Scan.addOperand stream { scan with pending := .absent } operand index
        scanFrom limit depth stream (group.closing + 1) scan
    | .closeParen => Scan.refuse stream (.unmatchedParenthesis index)
    | .unknown =>
        let character ← demand .character (charAt? stream.source start)
        Scan.refuse stream (.unrecognizedCharacter character index)
  else scan.close stream
termination_by stream.segments.length - cursor
decreasing_by
  · omega
  · omega
  · have := group.shorter; omega
  · have := group.behind; omega

/-- The tree of a text, read by place. -/
def parseByPlace (settings : Settings) (source : String) : Logged Stop Expr := do
  let stream := Stream.ofText source
  Scan.checkLeading stream
  let expr ← scanFrom settings.maxDepth 0 stream 0 {}
  Logged.emit (.parsed source expr)
  return expr

/-! ### Reading by place and by tokens, side by side -/

/-- Both readers stop with the same problem. -/
def Names (stop : Stop) (error : ParseError) : Prop :=
  stop = .problem error

namespace Scan

/-- Readings of the same elements and operators up to the same position, with the same number
being read. -/
structure InStep (position : Nat) (pending : Pending) (scan : Scan) (reading : Reading) : Prop where
  builder : scan.builder = reading.span.builder
  settled : reading.span.Settled
  ofScan : scan.pending = pending
  ofReading : reading.pending = pending
  operatorIndex : scan.operatorIndex = reading.operatorIndex
  position : reading.position = position

theorem inStep_empty : InStep 0 .unwrittenZero {} {} :=
  ⟨rfl, OpenSpan.settled_empty, rfl, rfl, rfl, rfl⟩

variable {stream : Stream} {whole : List Token} {position : Nat} {pending : Pending} {scan : Scan}
  {reading : Reading}

/-- The text of the span is there for every problem. -/
theorem refuse_eq {value : Type} (shows : stream.Shows whole) (error : String → ParseError) :
    (refuse stream error : Logged Stop value) = throw (.problem (error (text whole))) := by
  rw [refuse, shows.text?_eq]
  rfl

theorem refuse_sideBySide {value value' : Type} {ok : value → value' → Prop}
    (shows : stream.Shows whole) (error : String → ParseError) :
    SideBySide ok Names (refuse stream error) (throw (error (text whole))) := by
  rw [refuse_eq shows]
  exact .throw rfl

theorem InStep.clear (inStep : InStep position pending scan reading) :
    InStep position .absent { scan with pending := .absent } { reading with pending := .absent } :=
  ⟨inStep.builder, inStep.settled, rfl, rfl, inStep.operatorIndex, inStep.position⟩

/-- An operand is taken in by both readers or by none, and a product has its left operand. -/
theorem InStep.addOperand (inStep : InStep position pending scan reading)
    (shows : stream.Shows whole) (operand : Expr) (index : Nat) :
    SideBySide (InStep position pending) Names (scan.addOperand stream operand index)
      (reading.addOperand whole operand index) := by
  rw [Scan.addOperand, Reading.addOperand, inStep.builder,
    OpenSpan.run_insert_builder inStep.settled]
  cases added : reading.span.addOperand operand with
  | error misfit =>
      cases misfit with
      | operand =>
          exact refuse_sideBySide shows _
      | operator =>
          rw [OpenSpan.addOperand] at added
          split at added <;> cases added
  | ok span =>
      have taken : InStep position pending { scan with builder := span.builder }
          { reading with span } :=
        { inStep with builder := rfl, settled := inStep.settled.addOperand added }
      simp only [OpenSpan.awaited?_builder inStep.settled]
      cases reading.span.awaited? with
      | none => exact .pure taken
      | some op =>
          have reported : SideBySide Eq Names (emit (.folding op)) (emit (.folding op)) :=
            fun _ => .ok rfl
          exact reported.bind fun _ _ _ => .pure taken

/-- Digits and points are appended to the same number. -/
theorem InStep.addDigits (inStep : InStep position pending scan reading) (run : List Char) :
    InStep (position + (Token.number run).width) (pending.append run position)
      { scan with pending := scan.pending.append run position } (reading.addDigits run) where
  builder := inStep.builder
  settled := inStep.settled
  ofScan := by rw [inStep.ofScan]
  ofReading := by rw [← inStep.ofReading, ← inStep.position]; rfl
  operatorIndex := inStep.operatorIndex
  position := by rw [← inStep.position]; rfl

/-- Numbers are settled as the same literal. -/
theorem InStep.settle (inStep : InStep position pending scan reading)
    (shows : stream.Shows whole) :
    SideBySide (InStep position .absent) Names (scan.settle stream) (reading.settle whole) := by
  rw [Scan.settle, Reading.settle, inStep.ofScan, inStep.ofReading]
  cases taken : pending.taken? with
  | none =>
      have absent : pending = .absent := by
        cases pending with
        | absent => rfl
        | _ => cases taken
      exact .pure (absent ▸ inStep)
  | some number =>
      obtain ⟨characters, index⟩ := number
      simp only
      cases Decimal.ofChars? characters with
      | none =>
          exact refuse_sideBySide shows _
      | some decimal => exact inStep.clear.addOperand shows _ _

/-- An operator is taken in by both readers or by none, and its character names it. -/
theorem InStep.addOperator (inStep : InStep position pending scan reading)
    (shows : stream.Shows whole) {op : Operator}
    (additive : pending = .unwrittenZero → op.isMultiplicative = false) :
    SideBySide (InStep (position + (Token.operator op).width) .absent) Names
      (scan.addOperator stream op.symbol position) (reading.addOperator whole op) := by
  have allowed : ¬ (reading.pending = .unwrittenZero ∧ op.isMultiplicative = true) := by
    rw [inStep.ofReading]
    exact fun ⟨leading, multiplicative⟩ => by simp [additive leading] at multiplicative
  have named : Operator.ofSymbol op.symbol = .ok op := Operator.ofSymbol_eq_ok_iff.mpr rfl
  simp only [Scan.addOperator, Reading.addOperator, allowed, Bool.and_eq_true, decide_eq_true_eq,
    if_false, named]
  refine .bind (inStep.settle shows) fun scan reading both => ?_
  rw [both.builder, OpenSpan.run_pushOperator_builder, both.operatorIndex]
  cases added : reading.span.addOperator op with
  | error misfit =>
      exact refuse_sideBySide shows _
  | ok span =>
      exact .pure ⟨rfl, both.settled.addOperator added, both.ofScan, both.ofReading,
        both.position.symm, by rw [both.position]⟩

/-- The tree of a group is taken in by both readers or by none. -/
theorem InStep.leaveGroup {before inner : List Token}
    (inStep : InStep (totalWidth before) pending scan reading) (shows : stream.Shows whole)
    (operand : Expr) :
    SideBySide (InStep (totalWidth (before ++ openParen :: (inner ++ [closeParen]))) .absent) Names
      (Scan.addOperand stream { scan with pending := .absent } operand (totalWidth before))
      (reading.leaveGroup whole inner operand) := by
  have taken := inStep.clear.addOperand shows operand (totalWidth before)
  have width : totalWidth (before ++ openParen :: (inner ++ [closeParen])) =
      totalWidth before + totalWidth (openParen :: inner) + closeParen.width := by
    rw [← List.cons_append, totalWidth_append, totalWidth_append, totalWidth_singleton,
      Nat.add_assoc]
  rw [inStep.position] at taken
  rw [Reading.leaveGroup, inStep.position, ← bind_pure (Scan.addOperand stream _ _ _)]
  refine taken.bind fun scan reading both => .pure ?_
  exact { both with position := by rw [width, both.position] }

/-- Spans end with the same tree, or neither may end. -/
theorem InStep.close (inStep : InStep position pending scan reading) (shows : stream.Shows whole) :
    SideBySide Eq Names (scan.close stream) (reading.close whole) := by
  refine .bind (inStep.settle shows) fun scan reading both => ?_
  rw [both.builder, OpenSpan.finish_builder, both.operatorIndex]
  cases reading.span.close with
  | error misfit =>
      exact refuse_sideBySide shows _
  | ok expr => exact .pure rfl

/-- A multiplicative operator at the start of a span is found and named. -/
theorem checkLeading_of_multiplicative {op : Operator} {rest : List Token}
    (shows : stream.Shows (.operator op :: rest)) (multiplicative : op.isMultiplicative = true) :
    checkLeading stream =
      throw (.problem (.invalidLeadingOperator op (text (.operator op :: rest)))) := by
  have split : [] ++ .operator op :: rest = Token.operator op :: rest := rfl
  have named : charAt? stream.source stream.start = some op.symbol := shows.charAt?_eq split rfl
  rw [checkLeading, shows.segments, Token.segments, List.head?_cons]
  simp only [kind, multiplicative, if_true, named, demand_some_bind, Operator.ofSymbol?_symbol,
    refuse_eq shows]

theorem checkLeading_of_other (shows : stream.Shows whole)
    (additive : ∀ op rest, whole = .operator op :: rest → op.isMultiplicative = false) :
    checkLeading stream = pure () := by
  rw [checkLeading, shows.segments]
  cases whole with
  | nil => rfl
  | cons token rest =>
      cases token with
      | operator op => simp [Token.segments, kind, additive op rest rfl]
      | _ => rfl

/-- Where a parenthesis is never closed, no group is entered. -/
theorem enterGroup_of_unclosed {before after : List Token} (shows : stream.Shows whole)
    (split : before ++ openParen :: after = whole) (unclosed : enclosed? after = none)
    (scan : Scan) (limit depth index : Nat) :
    scan.enterGroup stream limit depth index before.length =
      throw (.problem (.unmatchedParenthesis index (text whole))) := by
  have never : stream.closing? before.length = none := by
    rw [shows.closing?_eq split, unclosed, Option.map_none]
  rw [enterGroup]
  split
  · rw [refuse_eq shows]
  · next isClosed => cases isClosed.symm.trans never

/-- A group is entered by both readers or by none, and is then cut off. -/
theorem InStep.enterGroup {before inner after : List Token}
    (inStep : InStep (totalWidth before) pending scan reading) (shows : stream.Shows whole)
    (split : before ++ openParen :: (inner ++ closeParen :: after) = whole)
    (found : enclosed? (inner ++ closeParen :: after) = some (inner, after)) (limit depth : Nat) :
    SideBySide
      (fun group _ => group.closing = before.length + 1 + inner.length ∧ group.inner.Shows inner)
      Names (scan.enterGroup stream limit depth (totalWidth before) before.length)
      (reading.enterGroup whole limit depth inner) := by
  have closed : stream.closing? before.length = some (before.length + 1 + inner.length) := by
    rw [shows.closing?_eq split, found]
    rfl
  obtain ⟨group, carved, showsInner⟩ := shows.exists_group split
  rw [Scan.enterGroup]
  split
  · next unclosed => cases unclosed.symm.trans closed
  · next closing isClosed =>
      cases isClosed.symm.trans closed
      rw [Reading.enterGroup, inStep.ofScan, inStep.ofReading, inStep.position, refuse_eq shows,
        refuse_eq shows]
      by_cases empty : inner = []
      · simp only [empty, List.length_nil, Nat.add_zero, List.isEmpty_nil, if_true]
        exact fun _ => .error rfl
      have apart : ¬ before.length + 1 + inner.length = before.length + 1 := by simpa using empty
      simp only [empty, apart, List.isEmpty_iff, if_false]
      cases isWritten : pending.isWritten with
      | true => exact fun _ => .error rfl
      | false =>
          by_cases tooDeep : limit < depth
          · simp only [tooDeep, if_true]
            exact fun _ => .error rfl
          · simp only [tooDeep, Bool.false_eq_true, if_false]
            split
            · next missing => cases missing.symm.trans carved
            · next cut isCut =>
                cases isCut.symm.trans carved
                rw [showsInner.text?_eq]
                exact fun _ => .ok ⟨rfl, showsInner⟩

end Scan

/-! ### Spans -/

section Spans

variable {stream : Stream} {whole before after : List Token} {pending : Pending} {scan : Scan}
  {reading : Reading}

/-- A span is read alike from its start if it is so behind the check of its first operator. -/
theorem sideBySide_start (limit depth : Nat) (shows : stream.Shows whole)
    (reads : (∀ op rest, whole = .operator op :: rest → op.isMultiplicative = false) →
      SideBySide Eq Names (scanFrom limit depth stream 0 {})
        (readSpan limit depth whole {} whole)) :
    SideBySide Eq Names
      (do
        Scan.checkLeading stream
        scanFrom limit depth stream 0 {})
      (readSpan limit depth whole {} whole) := by
  by_cases leads : ∃ op rest, whole = .operator op :: rest ∧ op.isMultiplicative = true
  · obtain ⟨op, rest, rfl, multiplicative⟩ := leads
    rw [Scan.checkLeading_of_multiplicative shows multiplicative, readSpan, Reading.addOperator,
      multiplicative]
    exact fun _ => .error rfl
  · have additive : ∀ op rest, whole = .operator op :: rest → op.isMultiplicative = false := by
      intro op rest isHead
      exact eq_false_of_ne_true fun multiplicative => leads ⟨op, rest, isHead, multiplicative⟩
    rw [Scan.checkLeading_of_other shows additive]
    exact reads additive

/-- At a token everything is found that the token carries. -/
theorem scanFrom_token (limit depth : Nat) (shows : stream.Shows whole) {token : Token}
    (split : before ++ token :: after = whole) (scan : Scan) :
    scanFrom limit depth stream before.length scan =
      match token with
      | .number run =>
          scanFrom limit depth stream (before.length + 1)
            { scan with pending := scan.pending.append run (totalWidth before) }
      | .operator op => do
          let scan ← scan.addOperator stream op.symbol (totalWidth before)
          scanFrom limit depth stream (before.length + 1) scan
      | .openParen => do
          let group ← scan.enterGroup stream limit (depth + 1) (totalWidth before) before.length
          Scan.checkLeading group.inner
          let operand ← scanFrom limit (depth + 1) group.inner 0 {}
          let scan ←
            Scan.addOperand stream { scan with pending := .absent } operand (totalWidth before)
          scanFrom limit depth stream (group.closing + 1) scan
      | .closeParen => throw (.problem (.unmatchedParenthesis (totalWidth before) (text whole)))
      | .unknown character =>
          throw (.problem (.unrecognizedCharacter character (totalWidth before) (text whole))) := by
  obtain ⟨within, isHere⟩ := List.getElem?_eq_some_iff.mp (shows.getElem?_segments split)
  rw [scanFrom, dif_pos within, isHere]
  simp only [Stream.Shows.relative?_eq, demand_some_bind]
  cases token with
  | number run =>
      simp only [kind, shows.slice?_eq split, demand_some_bind, toList_text,
        List.flatMap_singleton, chars]
  | operator op => simp only [kind, shows.charAt?_eq split rfl, demand_some_bind]
  | openParen => rfl
  | closeParen => simp only [kind, Scan.refuse_eq shows]
  | unknown character =>
      simp only [kind, shows.charAt?_eq split rfl, demand_some_bind, Scan.refuse_eq shows]

/-- From scans in step with readings, the places of tokens lead to what the tokens lead to. -/
theorem scanFrom_inStep (limit depth : Nat) {tokens : List Token} (shows : stream.Shows whole)
    (split : before ++ tokens = whole) (inStep : scan.InStep (totalWidth before) pending reading)
    (starts : pending = .unwrittenZero →
      ∀ op rest, tokens = .operator op :: rest → op.isMultiplicative = false) :
    SideBySide Eq Names (scanFrom limit depth stream before.length scan)
      (readSpan limit depth whole reading tokens) := by
  fun_induction readSpan limit depth whole reading tokens
    generalizing stream before pending scan with
  | case1 depth whole reading =>
      obtain rfl : before = whole := by rw [← split, List.append_nil]
      have ends : ¬ before.length < stream.segments.length := by
        rw [shows.segments, length_segments]
        exact Nat.lt_irrefl _
      rw [scanFrom, dif_neg ends]
      exact inStep.close shows
  | case2 depth whole reading run rest inductionHypothesis =>
      have next := inStep.addDigits run
      rw [← totalWidth_singleton, ← totalWidth_append] at next
      rw [scanFrom_token limit depth shows split]
      have reads := inductionHypothesis shows (by rw [← split, List.append_assoc]; rfl) next
        fun atStart => by cases pending <;> cases atStart
      rwa [List.length_append, List.length_singleton] at reads
  | case3 depth whole reading op rest inductionHypothesis =>
      have additive : pending = .unwrittenZero → op.isMultiplicative = false :=
        fun atStart => starts atStart op rest rfl
      rw [scanFrom_token limit depth shows split]
      refine (inStep.addOperator shows additive).bind fun scan reading next => ?_
      rw [← totalWidth_singleton, ← totalWidth_append] at next
      have reads := inductionHypothesis reading shows (by rw [← split, List.append_assoc]; rfl) next
        fun atStart => by cases atStart
      rwa [List.length_append, List.length_singleton] at reads
  | case4 depth whole reading rest inner after found readsInner readsAfter =>
      obtain rfl := eq_of_enclosed?_eq_some found
      rw [scanFrom_token limit depth shows split]
      refine (inStep.enterGroup shows split found limit (depth + 1)).bind fun group _ entered => ?_
      obtain ⟨closing, showsInner⟩ := entered
      have ofGroup := sideBySide_start limit (depth + 1) showsInner fun additive =>
        readsInner showsInner (List.nil_append inner) Scan.inStep_empty fun _ => additive
      rw [← bind_assoc]
      refine ofGroup.bind fun operand _ same => ?_
      subst same
      refine (inStep.leaveGroup shows operand).bind fun scan reading next => ?_
      have reads := readsAfter reading shows (by rw [← split]; simp) next
        fun atStart => by cases atStart
      rw [closing]
      have place : before.length + 1 + inner.length + 1 =
          (before ++ openParen :: (inner ++ [closeParen])).length := by
        simp only [List.length_append, List.length_cons, List.length_nil]
        omega
      rwa [← place] at reads
  | case5 depth whole reading rest unclosed =>
      rw [scanFrom_token limit depth shows split]
      simp only [Scan.enterGroup_of_unclosed shows split unclosed]
      rw [inStep.position]
      exact fun _ => .error rfl
  | case6 depth whole reading rest =>
      rw [scanFrom_token limit depth shows split, inStep.position]
      exact .throw rfl
  | case7 depth whole reading character rest =>
      rw [scanFrom_token limit depth shows split, inStep.position]
      exact .throw rfl

end Spans

/-! ### Texts -/

/-- A whole text is read by place as it is read by tokens. -/
theorem parseByPlace_sideBySide (settings : Settings) (source : String) :
    SideBySide Eq Names (parseByPlace settings source) (parse settings source) := by
  have shows := Stream.shows_ofText source
  have reads := sideBySide_start settings.maxDepth 0 shows fun additive =>
    scanFrom_inStep settings.maxDepth 0 shows (List.nil_append _) Scan.inStep_empty
      fun _ => additive
  rw [parseByPlace, parse, ← bind_assoc]
  refine reads.bind fun expr _ same => ?_
  subst same
  exact fun _ => .ok rfl

/-- A text is read by place as it is read by tokens, and everything that is looked up on the way is
found: positions are counted from a place in front, texts are cut out between characters, groups
are cut off, products have their left operands, and the character of an operator names it. -/
theorem parseByPlace_eq (settings : Settings) (source : String) :
    parseByPlace settings source = EStateM.adaptExcept .problem (parse settings source) ∧
      (∀ fault, (parseByPlace settings source).result ≠ .error (.fault fault)) ∧
      ∀ cause, (parse settings source).result ≠ .error (.unknownOperator cause) := by
  have run := parseByPlace_sideBySide settings source
  refine ⟨run.eq_adaptExcept, fun fault faults => ?_, fun cause fails => ?_⟩
  · rcases run.result with ⟨expr, _, reads, -, -⟩ | ⟨stop, error, stops, -, named⟩
    · cases reads.symm.trans faults
    · cases stops.symm.trans faults
      cases named
  · obtain ⟨place⟩ := exists_place fails
    exact place.spot.describes

end Calculator
