import Calculator.Proofs.Expr.Context
import Calculator.Proofs.Grammar.Tree

/-!
# Places for factors

A gap is a place for a factor anywhere in a span, also within its groups. What stands around
the gap does not depend on the factor in it: tokens stand around the tokens of the factor,
and the tree of the span is a context around the tree of the factor. Every number of a
well-formed span stands in a gap.
-/

namespace Calculator

open Token

/-- A place for a factor in a span. -/
inductive Gap where
  /-- The factor is the last one of the span. -/
  | last (lead : Lead)
  /-- The factor has its place in a group, which is the last factor of the span. -/
  | group (lead : Lead) (inner : Gap)
  /-- The factor has its place before the last factor of the span. -/
  | push (before : Gap) (op : Operator) (factor : Factor)

namespace Gap

/-- The span with a factor in the gap. -/
def fill : Gap → Factor → Span
  | last lead, factor => lead.add factor
  | group lead inner, factor => lead.add (.group (inner.fill factor))
  | push before op other, factor => (before.fill factor).push op other

@[simp] theorem fill_last (lead : Lead) (factor : Factor) :
    (last lead).fill factor = lead.add factor := rfl

@[simp] theorem fill_group (lead : Lead) (inner : Gap) (factor : Factor) :
    (group lead inner).fill factor = lead.add (.group (inner.fill factor)) := rfl

@[simp] theorem fill_push (before : Gap) (op : Operator) (other factor : Factor) :
    (push before op other).fill factor = (Lead.behind (before.fill factor) op).add other := rfl

/-! ### Tokens -/

/-- The tokens before the gap. -/
def before : Gap → List Token
  | last lead => lead.tokens
  | group lead inner => lead.tokens ++ .openParen :: inner.before
  | push gap _ _ => gap.before

/-- The tokens behind the gap. -/
def after : Gap → List Token
  | last _ => []
  | group _ inner => inner.after ++ [.closeParen]
  | push gap op other => gap.after ++ .operator op :: other.tokens

theorem tokens_fill (gap : Gap) (factor : Factor) :
    (gap.fill factor).tokens = gap.before ++ (factor.tokens ++ gap.after) := by
  induction gap with
  | last lead => simp [before, after]
  | group lead inner inductionHypothesis =>
      simp [before, after, Factor.tokens, inductionHypothesis]
  | push gap op other inductionHypothesis => simp [before, after, inductionHypothesis]

/-- The number of groups around the gap. -/
def level : Gap → Nat
  | last _ => 0
  | group _ inner => inner.level + 1
  | push gap _ _ => gap.level

/-- Before the gap, the groups around it are open. -/
theorem nesting_before (gap : Gap) (depth : Nat) :
    nesting openParen closeParen depth gap.before = some (depth + gap.level) := by
  induction gap generalizing depth with
  | last lead => exact lead.isBalanced_tokens.nesting_eq depth
  | group lead inner inductionHypothesis =>
      rw [before, nesting_append, lead.isBalanced_tokens.nesting_eq]
      simp [nesting, inductionHypothesis, level, Nat.add_assoc, Nat.add_comm]
  | push gap op other inductionHypothesis => exact inductionHypothesis depth

/-- An item of two lists in a row is an item of the one or of the other. -/
private theorem append_eq_append_cons {α : Type} {first second before after : List α} {item : α}
    (split : first ++ second = before ++ item :: after) :
    (∃ between, first = before ++ item :: between ∧ after = between ++ second) ∨
      ∃ between, before = first ++ between ∧ second = between ++ item :: after := by
  rcases List.append_eq_append_iff.mp split with found | ⟨behind, rfl, rest⟩
  · exact .inr found
  · rcases List.cons_eq_append_iff.mp rest with ⟨rfl, rfl⟩ | ⟨between, rfl, rfl⟩
    · exact .inr ⟨[], by simp, rfl⟩
    · exact .inl ⟨between, rfl, rfl⟩

/-- Every number of a well-formed span stands in a gap. -/
theorem exists_fill_number {span : Span} (wellFormed : span.WellFormed) {run : List Char}
    {before after : List Token} (split : span.tokens = before ++ .number run :: after) :
    ∃ gap : Gap, gap.fill (.number run) = span ∧ gap.before = before ∧ gap.after = after := by
  induction span, wellFormed using Span.induction_on_factors generalizing before after with
  | add lead factor wellFormed leadHypothesis groupHypothesis =>
      obtain ⟨ofLead, ofFactor⟩ := Lead.wellFormed_add.mp wellFormed
      rw [Lead.tokens_add] at split
      -- The number stands in the lead, and there in a span, or in the factor behind the lead.
      rcases append_eq_append_cons split with ⟨between, inLead, rfl⟩ | ⟨between, rfl, inFactor⟩
      · cases lead with
        | start => simp at inLead
        | sign op => simp [List.singleton_eq_append_iff] at inLead
        | behind span op =>
            rcases append_eq_append_cons inLead with
              ⟨between, inSpan, rfl⟩ | ⟨between, -, isOperator⟩
            · obtain ⟨gap, fills, rfl, rfl⟩ := leadHypothesis span op ofLead rfl inSpan
              exact ⟨.push gap op factor, by rw [fill_push, fills], rfl, by simp [Gap.after]⟩
            · simp [List.singleton_eq_append_iff] at isOperator
      · cases factor with
        | number run' =>
            obtain ⟨rfl, rfl, rfl⟩ : between = [] ∧ run = run' ∧ after = [] := by
              simpa [Factor.tokens, List.singleton_eq_append_iff] using inFactor
            exact ⟨.last lead, rfl, by simp [Gap.before], rfl⟩
        | group inner =>
            rw [Factor.tokens, List.cons_append] at inFactor
            rcases List.cons_eq_append_iff.mp inFactor with ⟨-, other⟩ | ⟨between, rfl, inGroup⟩
            · cases other
            rcases append_eq_append_cons inGroup with
              ⟨behind, inInner, rfl⟩ | ⟨behind, -, isParenthesis⟩
            · obtain ⟨gap, fills, rfl, rfl⟩ := groupHypothesis inner ofFactor rfl inInner
              exact ⟨.group lead gap, by rw [fill_group, fills], rfl, rfl⟩
            · simp [List.singleton_eq_append_iff] at isParenthesis

/-! ### Well-formedness -/

/-- Whether a factor in the gap is the first token of its span. -/
def isStart : Gap → Bool
  | last lead => lead.isStart
  | group _ inner => inner.isStart
  | push gap _ _ => gap.isStart

/-- Whether a factor may stand in the gap. -/
def WellFormed : Gap → Prop
  | last lead => lead.WellFormed
  | group lead inner => lead.WellFormed ∧ inner.WellFormed
  | push gap _ other => gap.WellFormed ∧ other.WellFormed false

theorem wellFormed_fill {gap : Gap} {factor : Factor} :
    (gap.fill factor).WellFormed ↔ gap.WellFormed ∧ factor.WellFormed gap.isStart := by
  induction gap with
  | last lead => exact Lead.wellFormed_add
  | group lead inner inductionHypothesis =>
      rw [fill_group, Lead.wellFormed_add, Factor.WellFormed, inductionHypothesis, WellFormed,
        isStart, and_assoc]
  | push gap op other inductionHypothesis =>
      rw [fill_push, Lead.wellFormed_add, Lead.WellFormed, Lead.isStart, inductionHypothesis,
        WellFormed, isStart, and_right_comm]

/-! ### Depth -/

/-- The number of groups nested within each other, without those in the gap. -/
def depth : Gap → Nat
  | last lead => lead.depth
  | group lead inner => max lead.depth (inner.depth + 1)
  | push gap _ other => max gap.depth other.depth

theorem depth_fill (gap : Gap) (factor : Factor) :
    (gap.fill factor).depth = max gap.depth (gap.level + factor.depth) := by
  induction gap with
  | last lead => simp [depth, level]
  | group lead inner inductionHypothesis =>
      simp only [fill_group, Lead.depth_add, Factor.depth, inductionHypothesis, depth, level]
      omega
  | push gap op other inductionHypothesis =>
      simp only [fill_push, Lead.depth_add, Lead.depth, inductionHypothesis, depth, level]
      omega

end Gap

/-! ### Trees -/

theorem Span.terms_push (span : Span) (op : Operator) (factor : Factor) :
    (span.push op factor).terms =
      if op.isMultiplicative then span.terms else (span.last, op) :: span.terms := by
  cases span <;> cases multiplicative : op.isMultiplicative <;>
    simp [push, extend, terms, multiplicative]

theorem Span.last_push (span : Span) (op : Operator) (factor : Factor) :
    (span.push op factor).last =
      if op.isMultiplicative then .binary op span.last (factor.expr false)
      else factor.expr false := by
  cases span <;> cases multiplicative : op.isMultiplicative <;>
    simp [push, extend, last, Term.expr, multiplicative]

/-- A factor behind a lead has its tree in the last term of the span. -/
theorem Lead.exists_context (lead : Lead) :
    ∃ (terms : List (Expr × Operator)) (context : Expr.Context), ∀ factor : Factor,
      (lead.add factor).terms = terms ∧
        (lead.add factor).last = context.fill (factor.expr lead.isStart) := by
  cases lead with
  | start => exact ⟨[], .hole, fun factor => ⟨rfl, rfl⟩⟩
  | sign op => exact ⟨[(.literal 0.0, op)], .hole, fun factor => ⟨rfl, rfl⟩⟩
  | behind span op =>
      cases multiplicative : op.isMultiplicative with
      | true =>
          refine ⟨span.terms, .rhs op span.last .hole, fun factor => ?_⟩
          simp [add, span.terms_push, span.last_push, multiplicative, isStart]
      | false =>
          refine ⟨(span.last, op) :: span.terms, .hole, fun factor => ?_⟩
          simp [add, span.terms_push, span.last_push, multiplicative, isStart]

namespace Gap

/-- Where a factor in the gap has its tree: in the last term of the span, or in one before
it. -/
inductive Seat (gap : Gap) (context : Expr.Context) : Prop where
  | last (terms : List (Expr × Operator))
      (fills : ∀ factor : Factor, (gap.fill factor).terms = terms ∧
        (gap.fill factor).last = context.fill (factor.expr gap.isStart))
  | earlier (newer older : List (Expr × Operator)) (op : Operator) (last : Expr)
      (fills : ∀ factor : Factor,
        (gap.fill factor).terms =
          newer ++ (context.fill (factor.expr gap.isStart), op) :: older ∧
        (gap.fill factor).last = last)

variable {gap : Gap} {context : Expr.Context}

/-- The tree of the span is a context around that of the factor. -/
theorem Seat.exists_context (seat : gap.Seat context) :
    ∃ outer : Expr.Context, ∀ factor : Factor,
      (gap.fill factor).expr = outer.fill (factor.expr gap.isStart) := by
  cases seat with
  | last terms fills =>
      refine ⟨.element (terms.reverse.map Prod.fst) context [.literal 0.0]
        (terms.reverse.map Prod.snd ++ [.add]), fun factor => ?_⟩
      rw [Span.expr, (fills factor).1, (fills factor).2]
      rfl
  | earlier newer older op last fills =>
      refine ⟨.element (older.reverse.map Prod.fst) context
        (newer.reverse.map Prod.fst ++ [last, .literal 0.0])
        (older.reverse.map Prod.snd ++ op :: newer.reverse.map Prod.snd ++ [.add]),
        fun factor => ?_⟩
      rw [Span.expr, (fills factor).1, (fills factor).2]
      simp

/-- One more factor takes in the last term of the span or starts another one. -/
theorem Seat.push (seat : gap.Seat context) (op : Operator) (other : Factor) :
    ∃ context' : Expr.Context, (gap.push op other).Seat context' := by
  cases multiplicative : op.isMultiplicative with
  | true =>
      cases seat with
      | last terms fills =>
          refine ⟨.lhs op context (other.expr false), .last terms fun factor => ?_⟩
          simp [Lead.add, Span.terms_push, Span.last_push, multiplicative, fills factor, isStart]
      | earlier newer older op' last fills =>
          refine ⟨context, .earlier newer older op' (.binary op last (other.expr false))
            fun factor => ?_⟩
          simp [Lead.add, Span.terms_push, Span.last_push, multiplicative, fills factor, isStart]
  | false =>
      cases seat with
      | last terms fills =>
          refine ⟨context, .earlier [] terms op (other.expr false) fun factor => ?_⟩
          simp [Lead.add, Span.terms_push, Span.last_push, multiplicative, fills factor, isStart]
      | earlier newer older op' last fills =>
          refine ⟨context, .earlier ((last, op) :: newer) older op' (other.expr false)
            fun factor => ?_⟩
          simp [Lead.add, Span.terms_push, Span.last_push, multiplicative, fills factor, isStart]

theorem exists_seat (gap : Gap) : ∃ context : Expr.Context, gap.Seat context := by
  induction gap with
  | last lead =>
      obtain ⟨terms, context, fills⟩ := lead.exists_context
      exact ⟨context, .last terms fills⟩
  | group lead inner inductionHypothesis =>
      obtain ⟨terms, around, fills⟩ := lead.exists_context
      obtain ⟨_, seat⟩ := inductionHypothesis
      obtain ⟨within, inside⟩ := seat.exists_context
      refine ⟨around.comp within, .last terms fun factor => ?_⟩
      obtain ⟨ofTerms, ofLast⟩ := fills (.group (inner.fill factor))
      rw [Factor.expr_group, inside, ← Expr.Context.fill_comp] at ofLast
      exact ⟨ofTerms, ofLast⟩
  | push gap op other inductionHypothesis =>
      obtain ⟨context, seat⟩ := inductionHypothesis
      exact seat.push op other

/-- The tree of a span is one context around the tree of any factor in a gap of it. -/
theorem exists_context (gap : Gap) :
    ∃ context : Expr.Context, ∀ factor : Factor,
      (gap.fill factor).expr = context.fill (factor.expr gap.isStart) :=
  gap.exists_seat.elim fun _ seat => seat.exists_context

end Gap

end Calculator
