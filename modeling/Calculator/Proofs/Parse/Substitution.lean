import Calculator.Proofs.Grammar.Gap
import Calculator.Proofs.Parse.Surroundings

/-!
# Groups in place of operands

A group may stand wherever a number may. What stands around the two is read as one context,
and the tree of the contents of the group takes the place of the number. Groups that are open
around the place count towards the limit on nesting, so the group must fit into what they
leave of it.
-/

namespace Calculator

open Logged Token

variable {settings : Settings}

/-- A text that goes on behind an operand: it is empty or starts with an operator. -/
def FollowsOperand (text : String) : Prop :=
  text = "" ∨ ∃ (op : Operator) (after : List Char), text.toList = op.symbol :: after

/-- A digit between two texts is a token by itself. -/
theorem tokenize_digit {before after : String} (awaits : AwaitsOperand before)
    (follows : FollowsOperand after) :
    tokenize (before ++ "1" ++ after) = tokenize before ++ .number ['1'] :: tokenize after := by
  have digit : tokenizeChars (before.toList ++ ['1']) = tokenize before ++ [.number ['1']] :=
    tokenizeChars_append_run awaits.isNumeric_getLast (by simp) (by simp [isNumeric])
  rcases follows with rfl | ⟨op, rest, split⟩
  · simpa [tokenize, tokenizeChars] using digit
  · have ofAfter : tokenize after = ofChar op.symbol :: tokenizeChars rest := by
      rw [tokenize, split]
      exact tokenizeChars_append_cons (isNumeric_symbol op) [] rest
    have characters : (before ++ "1" ++ after).toList =
        before.toList ++ ['1'] ++ op.symbol :: rest := by
      simp [split]
    rw [tokenize, characters, tokenizeChars_append_cons (isNumeric_symbol op), digit, ofAfter]
    simp

/-- The number one is read as such, with an unwritten zero before it or without. -/
theorem numberValue_one (first : Bool) : numberValue (literalChars first ['1']) = 1.0 := by
  cases first <;> rfl

/-! ### Gaps in texts -/

namespace Gap

/-- A text with a factor in a gap is read as the tree of its span within the limit, and refused
with the limit beyond it. -/
theorem result_parse_fill {gap : Gap} {factor : Factor} (ofGap : gap.WellFormed)
    (ofFactor : factor.WellFormed gap.isStart) :
    ((gap.fill factor).depth ≤ settings.maxDepth →
      (parse settings (text (gap.fill factor).tokens)).result = .ok (gap.fill factor).expr) ∧
    (settings.maxDepth < (gap.fill factor).depth →
      (parse settings (text (gap.fill factor).tokens)).result =
        .error (.nestingTooDeep settings.maxDepth)) := by
  have wellFormed : (Source.written (gap.fill factor)).WellFormed :=
    wellFormed_fill.mpr ⟨ofGap, ofFactor⟩
  exact ⟨fun within => congrArg Logged.result (parse_text wellFormed within),
    parse_text_eq_nestingTooDeep wellFormed⟩

theorem text_fill_number (gap : Gap) (run : List Char) :
    text (gap.fill (.number run)).tokens =
      text gap.before ++ String.ofList run ++ text gap.after := by
  have ofRun : text [.number run] = String.ofList run := by
    simp [text, chars]
  rw [tokens_fill, text_append, text_append, Factor.tokens, ofRun, String.append_assoc]

theorem text_fill_group (gap : Gap) (inner : Span) :
    text (gap.fill (.group inner)).tokens =
      text gap.before ++ "(" ++ text inner.tokens ++ ")" ++ text gap.after := by
  have ofGroup : text (Factor.group inner).tokens = "(" ++ text inner.tokens ++ ")" := by
    rw [Factor.tokens, text_append, ← List.singleton_append, text_append]
    rfl
  rw [tokens_fill, text_append, text_append, ofGroup]
  simp only [String.append_assoc]

/-- The groups around a gap are the parentheses that are open before it. -/
theorem level_eq (gap : Gap) {before : String} (isBefore : gap.before = tokenize before) :
    gap.level = before.toList.count '(' - before.toList.count ')' := by
  have nests := gap.nesting_before 0
  rw [isBefore, ← nesting_flatMap_chars (canonical_tokenize before).genuine, tokenize,
    flatMap_chars_tokenizeChars, nesting_eq_some_iff (by decide)] at nests
  have totals := nests.2
  omega

end Gap

/-- A text that may be read with a digit between its parts has a gap there. -/
theorem exists_gap_of_parse {before after : String} (awaits : AwaitsOperand before)
    (follows : FollowsOperand after)
    (isRead : ∃ expr, (parse settings (before ++ "1" ++ after)).result = .ok expr) :
    ∃ gap : Gap, gap.WellFormed ∧ gap.before = tokenize before ∧ gap.after = tokenize after := by
  obtain ⟨expr, parsed⟩ := isRead
  obtain ⟨source, wellFormed, -, spells, -⟩ := exists_source_of_parse parsed
  have tokens := Source.tokenize_text wellFormed
  rw [spells, tokenize_digit awaits follows] at tokens
  cases source with
  | empty => simp [Source.tokens] at tokens
  | written span =>
      obtain ⟨gap, rfl, isBefore, isAfter⟩ := Gap.exists_fill_number wellFormed tokens.symm
      exact ⟨gap, (Gap.wellFormed_fill.mp wellFormed).1, isBefore, isAfter⟩

/-- Where a text may be read with a digit in its gap, what stands around the gap is within the
limit. -/
theorem Gap.result_parse_digit {gap : Gap} (ofGap : gap.WellFormed) {before after : String}
    (isBefore : gap.before = tokenize before) (isAfter : gap.after = tokenize after)
    (isRead : ∃ expr, (parse settings (before ++ "1" ++ after)).result = .ok expr) :
    (gap.fill (.number ['1'])).depth ≤ settings.maxDepth ∧
      (parse settings (before ++ "1" ++ after)).result = .ok (gap.fill (.number ['1'])).expr := by
  obtain ⟨accepted, refused⟩ := @result_parse_fill settings gap (.number ['1']) ofGap
    (numberRun_digit _ rfl)
  rw [text_fill_number, isBefore, isAfter, text_tokenize, text_tokenize] at accepted refused
  have within : (gap.fill (.number ['1'])).depth ≤ settings.maxDepth := by
    obtain ⟨expr, parsed⟩ := isRead
    refine Nat.le_of_not_lt fun beyond => ?_
    cases parsed.symm.trans (refused beyond)
  exact ⟨within, accepted within⟩

/-- How deep parentheses nest in a group behind a text: those that the text leaves open, those
of the group, and those in it. -/
def groupDepth (before inner : String) : Nat :=
  before.toList.count '(' - before.toList.count ')' + 1 + nestingDepth inner

/-- A group may be put in the place of an operand. Around the two stands one context, whatever
the limit: with the number one in it, it is the tree of the text with a digit, and with the tree
of a text, it is the tree of the text with this one in parentheses. The group must fit into what
the limit leaves to it, since parentheses that are open around it count, too. Where it does not
fit, the text is refused with the limit. It always fits where no parenthesis is open. -/
theorem parse_group_for_digit {before after : String} (awaits : AwaitsOperand before)
    (follows : FollowsOperand after) :
    ∃ context : Expr.Context, ∀ settings : Settings,
      (∃ expr, (parse settings (before ++ "1" ++ after)).result = .ok expr) →
        (parse settings (before ++ "1" ++ after)).result = .ok (context.fill (.literal 1.0)) ∧
        ∀ (inner : String) (tree : Expr), inner ≠ "" →
          (parse { settings with maxDepth := settings.maxDepth - 1 } inner).result = .ok tree →
            (groupDepth before inner ≤ settings.maxDepth →
              (parse settings (before ++ "(" ++ inner ++ ")" ++ after)).result =
                .ok (context.fill tree)) ∧
            (settings.maxDepth < groupDepth before inner →
              (parse settings (before ++ "(" ++ inner ++ ")" ++ after)).result =
                .error (.nestingTooDeep settings.maxDepth)) ∧
            (1 ≤ settings.maxDepth → before.toList.count '(' = before.toList.count ')' →
              groupDepth before inner ≤ settings.maxDepth) := by
  by_cases possible : ∃ settings : Settings,
    ∃ expr, (parse settings (before ++ "1" ++ after)).result = .ok expr
  case neg => exact ⟨.hole, fun settings isRead => absurd ⟨settings, isRead⟩ possible⟩
  case pos =>
    obtain ⟨_, isRead⟩ := possible
    obtain ⟨gap, ofGap, isBefore, isAfter⟩ := exists_gap_of_parse awaits follows isRead
    obtain ⟨context, fills⟩ := gap.exists_context
    refine ⟨context, fun settings isRead => ?_⟩
    obtain ⟨within, hasTree⟩ := gap.result_parse_digit ofGap isBefore isAfter isRead
    rw [fills, Factor.expr, numberValue_one] at hasTree
    refine ⟨hasTree, fun inner tree nonempty parsed => ?_⟩
    obtain ⟨source, wellFormed, fits, rfl, rfl⟩ := exists_source_of_parse parsed
    cases source with
    | empty => exact absurd rfl nonempty
    | written span =>
        have filled := @Gap.result_parse_fill settings gap (.group span) ofGap wellFormed
        rw [Gap.text_fill_group, isBefore, isAfter, text_tokenize, text_tokenize, fills,
          Factor.expr_group, Gap.depth_fill] at filled
        -- What stands around the gap is within the limit, so only the group matters.
        have deep : groupDepth before (Source.written span).text =
            gap.level + (Factor.group span).depth := by
          rw [groupDepth, Source.nestingDepth_text wellFormed, ← gap.level_eq isBefore,
            Factor.depth, Source.depth, Nat.add_right_comm, Nat.add_assoc]
        rw [Gap.depth_fill] at within
        refine ⟨fun le => filled.1 (by omega), fun lt => filled.2 (by omega),
          fun positive closed => ?_⟩
        rw [groupDepth, Source.nestingDepth_text wellFormed, closed, Nat.sub_self]
        exact Nat.add_le_of_le_sub' positive fits

section GroupInGroup

/-- A product in a group, with a place for its left factor. -/
private def productInGroup (factor : Factor) : Source :=
  .written (.unsigned (.single (.group (.sum (.unsigned (.single (.number ['2']))) .add
    (.product (.single factor) .multiply (.number ['3']))))))

private theorem wellFormed_productInGroup {factor : Factor} (ofFactor : factor.WellFormed false) :
    (productInGroup factor).WellFormed :=
  ⟨numberRun_digit true rfl, rfl, ofFactor, rfl, numberRun_digit false rfl⟩

private theorem parse_productInGroup (limit : Nat) (one : 1 ≤ limit) :
    ∃ expr, (parse { maxDepth := limit } ("(2+" ++ "1" ++ "*3)")).result = .ok expr := by
  have ofNumber : (Factor.number ['1']).WellFormed false := numberRun_digit false rfl
  have spelled : "(2+" ++ "1" ++ "*3)" = (productInGroup (.number ['1'])).text := by decide
  have parsed := @parse_text { maxDepth := limit } _ (wellFormed_productInGroup ofNumber) one
  rw [spelled]
  exact ⟨_, congrArg Logged.result parsed⟩

private theorem parse_four (limit : Nat) :
    ∃ tree, (parse { maxDepth := limit } "4").result = .ok tree := by
  have wellFormed : (Source.written (.unsigned (.single (.number ['4'])))).WellFormed :=
    numberRun_digit true rfl
  have spelled : "4" = (Source.written (.unsigned (.single (.number ['4'])))).text := by decide
  have parsed := @parse_text { maxDepth := limit } _ wellFormed (Nat.zero_le limit)
  rw [spelled]
  exact ⟨_, congrArg Logged.result parsed⟩

/-- In a group, another group takes the place of an operand where two groups are allowed, and
not where one is. -/
theorem parse_group_for_digit_in_group :
    ∃ context : Expr.Context, ∃ tree,
      (parse { maxDepth := 2 } "(2+1*3)").result = .ok (context.fill (.literal 1.0)) ∧
      (parse { maxDepth := 1 } "4").result = .ok tree ∧
      (parse { maxDepth := 2 } "(2+(4)*3)").result = .ok (context.fill tree) ∧
      (parse { maxDepth := 1 } "(2+(4)*3)").result = .error (.nestingTooDeep 1) := by
  obtain ⟨context, reads⟩ := @parse_group_for_digit "(2+" "*3)" (.inr ⟨['(', '2'], .add, rfl⟩)
    (.inr ⟨.multiply, ['3', ')'], rfl⟩)
  obtain ⟨withDigit, withGroup⟩ := reads { maxDepth := 2 } (parse_productInGroup 2 (by decide))
  obtain ⟨tree, parsed⟩ := parse_four 1
  obtain ⟨tree', parsed'⟩ := parse_four 0
  have refused := ((reads { maxDepth := 1 } (parse_productInGroup 1 (by decide))).2 "4" tree'
    (by decide) parsed').2.1 (by decide)
  exact ⟨context, tree, withDigit, parsed, (withGroup "4" tree (by decide) parsed).1 (by decide),
    refused⟩

/-- It is not enough that the group by itself fits into the limit. -/
theorem not_parse_group_for_digit_of_limit :
    ¬ ∀ (before after : String), AwaitsOperand before → FollowsOperand after →
      ∀ settings : Settings, 1 ≤ settings.maxDepth →
        (∃ expr, (parse settings (before ++ "1" ++ after)).result = .ok expr) →
        ∃ context : Expr.Context,
          (parse settings (before ++ "1" ++ after)).result = .ok (context.fill (.literal 1.0)) ∧
          ∀ (inner : String) (tree : Expr), inner ≠ "" →
            (parse { settings with maxDepth := settings.maxDepth - 1 } inner).result = .ok tree →
              (parse settings (before ++ "(" ++ inner ++ ")" ++ after)).result =
                .ok (context.fill tree) := by
  intro fits
  obtain ⟨context, -, reads⟩ := fits "(2+" "*3)" (.inr ⟨['(', '2'], .add, rfl⟩)
    (.inr ⟨.multiply, ['3', ')'], rfl⟩) { maxDepth := 1 } (Nat.le_refl 1)
    (parse_productInGroup 1 (Nat.le_refl 1))
  obtain ⟨tree, parsed⟩ := parse_four 0
  have accepted := reads "4" tree (by decide) parsed
  have four : (Factor.group (.unsigned (.single (.number ['4'])))).WellFormed false :=
    numberRun_digit true rfl
  have refused := @parse_text_eq_nestingTooDeep { maxDepth := 1 } _
    (wellFormed_productInGroup four) (by decide)
  have spelled : "(2+" ++ "(" ++ "4" ++ ")" ++ "*3)" =
      (productInGroup (.group (.unsigned (.single (.number ['4']))))).text := by decide
  rw [spelled, refused] at accepted
  cases accepted

end GroupInGroup

end Calculator
