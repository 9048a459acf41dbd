import Calculator.Proofs.Grammar.Join
import Calculator.Proofs.Parse.Acceptance

/-!
# Texts with an operator between them

A text that may stand behind an operator is read there as it is read by itself. The trees of
the two texts make the tree of the whole: behind an additive operator, the terms of the one
text follow those of the other; a multiplicative operator joins the last term of the one and
the first factor of the other.
-/

namespace Calculator

open Token

/-- A text that may stand behind an operator: it is not empty and has no sign, and if it starts
with digits and points, at least one of these is a digit. -/
structure FollowsOperator (text : String) : Prop where
  written : text ≠ ""
  notSigned : ∀ first ∈ text.toList.head?, first ≠ '+' ∧ first ≠ '-'
  hasDigit : text.toList.takeWhile isNumeric ≠ [] →
    ∃ character ∈ text.toList.takeWhile isNumeric, character.isDigit

/-- A span whose text may stand behind an operator may do so itself. -/
theorem FollowsOperator.span {span : Span} (wellFormed : span.WellFormed)
    (follows : FollowsOperator (text span.tokens)) : span.FollowsOperator := by
  obtain ⟨-, notSigned, hasDigit⟩ := follows
  have canonical := Span.canonical_tokens wellFormed
  rw [toList_text] at notSigned hasDigit
  refine span.followsOperator_of_head wellFormed (fun op additive isFirst => ?_)
    (fun run isFirst => ?_)
  · obtain ⟨tokens, split⟩ := List.head?_eq_some_iff.mp isFirst
    have isSymbol := notSigned op.symbol (by simp [split, chars])
    cases op with
    | add => exact isSymbol.1 rfl
    | subtract => exact isSymbol.2 rfl
    | multiply => cases additive
    | divide => cases additive
  · obtain ⟨tokens, split⟩ := List.head?_eq_some_iff.mp isFirst
    rw [split] at canonical
    rw [split, takeWhile_flatMap_chars canonical] at hasDigit
    exact hasDigit (canonical.genuine (.number run) List.mem_cons_self).1

/-- A span that may stand behind a lead is read there within the limit. Of its terms only the
first one changes. -/
theorem parse_behind {settings : Settings} {lead : Lead} {span : Span} (ofLead : lead.WellFormed)
    (follows : span.FollowsOperator) (leadWithin : lead.depth ≤ settings.maxDepth)
    (spanWithin : span.depth ≤ settings.maxDepth) :
    ∃ first rest, span.elements = first :: rest ∧
      (parse settings (text (lead.tokens ++ span.tokens))).result =
        .ok (.composite (lead.elements ++ lead.graft first :: rest ++ [.literal 0.0])
          (lead.operators ++ span.operators ++ [.add])) := by
  obtain ⟨first, rest, ofElements, elements, operators⟩ := span.elements_behind lead follows
  have wellFormed : (Source.written (span.behind lead)).WellFormed :=
    span.wellFormed_behind ofLead follows
  have within : (Source.written (span.behind lead)).depth ≤ settings.maxDepth := by
    rw [Source.depth, span.depth_behind follows]
    exact max_le leadWithin spanWithin
  have parsed := congrArg Logged.result (parse_text wellFormed within)
  rw [Logged.result_ending, Source.text, Source.tokens, span.tokens_behind follows, Source.expr,
    Span.expr_eq, elements, operators] at parsed
  exact ⟨first, rest, ofElements, parsed⟩

/-- Two texts with an operator between them are read as their trees joined, if the second one may
stand behind an operator. The zero that closes the first tree makes way. Behind an additive
operator, the elements of the second tree follow. A multiplicative operator has the last element
of the first tree as its left operand, and as its right operand what stands at the bottom of the
left spine of the first element of the second tree; all other elements stay as they are. -/
theorem parse_operator_between {settings : Settings} {before after : String}
    {terms elements : List Expr} {between operators : List Operator}
    (parsedBefore : (parse settings before).result =
      .ok (.composite (terms ++ [.literal 0.0]) (between ++ [.add])))
    (parsedAfter : (parse settings after).result = .ok (.composite elements operators))
    (follows : FollowsOperator after) (op : Operator) :
    (op.isMultiplicative = false →
      (parse settings (before ++ String.singleton op.symbol ++ after)).result =
        .ok (.composite (terms ++ elements) (between ++ op :: operators))) ∧
    (op.isMultiplicative = true → before ≠ "" →
      ∃ front last first rest, terms = front ++ [last] ∧ elements = first :: rest ∧
        (parse settings (before ++ String.singleton op.symbol ++ after)).result =
          .ok (.composite (front ++ .graft op last first :: rest) (between ++ operators))) := by
  obtain ⟨source, ofSource, sourceWithin, rfl, isTree⟩ := exists_source_of_parse parsedBefore
  obtain ⟨source', ofSource', spanWithin, rfl, isTree'⟩ := exists_source_of_parse parsedAfter
  -- The trees tell the terms of the two sources and the operators between them.
  rw [Source.expr_eq, Expr.composite.injEq] at isTree isTree'
  obtain ⟨rfl, rfl⟩ := isTree'
  obtain ⟨ofTerms, ofBetween⟩ := isTree
  obtain rfl : source.elements = terms := List.append_cancel_right ofTerms
  obtain rfl : source.operators = between := List.append_cancel_right ofBetween
  cases source' with
  | empty => exact absurd rfl follows.written
  | written span =>
      have followsSpan : span.FollowsOperator := follows.span ofSource'
      have spelled : source.text ++ String.singleton op.symbol ++ (Source.written span).text =
          text ((source.asLead op).tokens ++ span.tokens) := by
        rw [text_append, Source.tokens_asLead, text_append]
        rfl
      have leadWithin : (source.asLead op).depth ≤ settings.maxDepth := by
        rwa [Source.depth_asLead]
      rw [spelled]
      constructor
      · intro additive
        -- Behind an empty source, the operator is a sign.
        have ofLead : (source.asLead op).WellFormed := by
          cases source with
          | empty => exact additive
          | written span => exact ofSource
        obtain ⟨first, rest, isFirst, parsed⟩ :=
          parse_behind ofLead followsSpan leadWithin spanWithin
        obtain ⟨ofElements, ofOperators, same⟩ := Source.elements_asLead additive source
        rw [ofElements, ofOperators, same] at parsed
        rw [parsed, Source.elements, isFirst, Source.operators]
        simp
      · intro multiplicative written
        cases source with
        | empty => exact absurd rfl written
        | written left =>
            have ofLead : (Lead.behind left op).WellFormed := ofSource
            obtain ⟨first, rest, isFirst, parsed⟩ :=
              parse_behind ofLead followsSpan leadWithin spanWithin
            rw [Lead.elements, Lead.operators, Lead.openSpan, Lead.graft, if_pos multiplicative,
              if_pos multiplicative] at parsed
            refine ⟨left.terms.reverse.map Prod.fst, left.last, first, rest ++ [.literal 0.0], rfl,
              ?_, ?_⟩
            · rw [Source.elements, isFirst, List.cons_append]
            · rw [Source.asLead, parsed]
              simp [Source.operators, Span.operators]

/-- Behind a quotient, the first product of a text takes in the quotient at its bottom, and the
point that the text starts with needs no zero. -/
theorem parse_operator_between_quotient_and_product :
    (parse {} "1-2/3*.5*4+(6)").result = .ok (.composite
      [.literal 1.0, .binary .multiply (.binary .multiply
        (.binary .divide (.literal 2.0) (.literal 3.0)) (.literal 0.5)) (.literal 4.0),
        .composite [.literal 6.0, .literal 0.0] [.add], .literal 0.0]
      [.subtract, .add, .add]) := by
  have ofBefore : (Source.written (.sum (.unsigned (.single (.number ['1']))) .subtract
      (.product (.single (.number ['2'])) .divide (.number ['3'])))).WellFormed :=
    ⟨numberRun_digit true rfl, rfl, numberRun_digit false rfl, rfl, numberRun_digit false rfl⟩
  have isPoint : NumberRun true ['.', '5'] := ⟨by simp, by simp [isNumeric], by simp, by simp⟩
  have ofAfter : (Source.written (.sum (.unsigned (.product (.single (.number ['.', '5']))
      .multiply (.number ['4']))) .add
        (.single (.group (.unsigned (.single (.number ['6']))))))).WellFormed :=
    ⟨⟨isPoint, rfl, numberRun_digit false rfl⟩, rfl, numberRun_digit true rfl⟩
  have parsedBefore : (parse {} "1-2/3").result = .ok (.composite
      ([.literal 1.0, .binary .divide (.literal 2.0) (.literal 3.0)] ++ [.literal 0.0])
      ([.subtract] ++ [.add])) :=
    congrArg Logged.result (parse_text ofBefore (by decide))
  have parsedAfter : (parse {} ".5*4+(6)").result = .ok (.composite
      [.binary .multiply (.literal 0.5) (.literal 4.0),
        .composite [.literal 6.0, .literal 0.0] [.add], .literal 0.0] [.add, .add]) :=
    congrArg Logged.result (parse_text ofAfter (by decide))
  have follows : FollowsOperator ".5*4+(6)" := ⟨by decide, by simp, by simp [isNumeric]⟩
  obtain ⟨front, last, first, rest, isBefore, isAfter, parsed⟩ :=
    (parse_operator_between parsedBefore parsedAfter follows .multiply).2 rfl (by decide)
  obtain ⟨rfl, isLast⟩ := List.append_inj' (show [.literal 1.0] ++ [_] = front ++ [last] from
    isBefore) rfl
  cases isLast
  cases isAfter
  exact parsed

end Calculator
