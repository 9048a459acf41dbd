import Calculator.Proofs.Grammar.Syntax

/-!
# Spans factor by factor

A reader meets a span as a row of factors with operators between them. `Lead` is what
stands before a factor, and `Lead.add` puts the factor behind it where precedence wants
it: a multiplicative operator extends the last term, an additive one starts another.
Every well-formed span arises so in exactly one way, which gives the induction principle
`Span.induction_on_factors`.
-/

namespace Calculator

/-- Extend the last term of a span by a factor. -/
def Span.extend (span : Span) (op : Operator) (factor : Factor) : Span :=
  match span with
  | .unsigned term => .unsigned (.product term op factor)
  | .signed sign term => .signed sign (.product term op factor)
  | .sum span op' term => .sum span op' (.product term op factor)

/-- Put an operator and a factor behind a span. -/
def Span.push (span : Span) (op : Operator) (factor : Factor) : Span :=
  if op.isMultiplicative then span.extend op factor else .sum span op (.single factor)

/-- What stands in a span before one of its factors. -/
inductive Lead where
  /-- Nothing; the factor is the first token of the span. -/
  | start
  | sign (op : Operator)
  | behind (span : Span) (op : Operator)

namespace Lead

/-- The span that ends with a factor behind a lead. -/
def add (lead : Lead) (factor : Factor) : Span :=
  match lead with
  | start => .unsigned (.single factor)
  | sign op => .signed op (.single factor)
  | behind span op => span.push op factor

/-- Whether a factor behind the lead is the first token of its span. -/
def isStart : Lead → Bool
  | start => true
  | sign _ | behind _ _ => false

/-- The tokens of a lead. -/
def tokens : Lead → List Token
  | start => []
  | sign op => [.operator op]
  | behind span op => span.tokens ++ [.operator op]

/-- The number of groups that a lead nests within each other. -/
def depth : Lead → Nat
  | start | sign _ => 0
  | behind span _ => span.depth

/-- Whether a factor may stand behind the lead. -/
def WellFormed : Lead → Prop
  | start => True
  | sign op => op.isMultiplicative = false
  | behind span _ => span.WellFormed

@[simp] theorem tokens_start : start.tokens = [] := rfl

@[simp] theorem tokens_sign (op : Operator) : (sign op).tokens = [.operator op] := rfl

@[simp] theorem tokens_behind (span : Span) (op : Operator) :
    (behind span op).tokens = span.tokens ++ [.operator op] := rfl

@[simp] theorem tokens_add (lead : Lead) (factor : Factor) :
    (lead.add factor).tokens = lead.tokens ++ factor.tokens := by
  cases lead with
  | start => rfl
  | sign op => rfl
  | behind span op =>
      cases span <;> cases multiplicative : op.isMultiplicative <;>
        simp [add, Span.push, Span.extend, tokens, Span.tokens, Term.tokens, multiplicative]

/-- The parentheses of a lead are balanced. -/
theorem isBalanced_tokens (lead : Lead) : Token.IsBalanced lead.tokens := by
  cases lead with
  | start => exact Token.isBalanced_iff_nesting.mpr rfl
  | sign op => exact Token.isBalanced_operator op
  | behind span op => exact span.isBalanced_tokens.append (Token.isBalanced_operator op)

@[simp] theorem depth_add (lead : Lead) (factor : Factor) :
    (lead.add factor).depth = max lead.depth factor.depth := by
  cases lead with
  | start => simp [add, depth, Span.depth, Term.depth]
  | sign op => simp [add, depth, Span.depth, Term.depth]
  | behind span op =>
      cases span <;> cases multiplicative : op.isMultiplicative <;>
        simp [add, Span.push, Span.extend, depth, Span.depth, Term.depth, multiplicative, max_assoc]

/-- A span is an expression exactly if what stands before its last factor may do so and
the factor may follow. -/
theorem wellFormed_add {lead : Lead} {factor : Factor} :
    (lead.add factor).WellFormed ↔ lead.WellFormed ∧ factor.WellFormed lead.isStart := by
  cases lead with
  | start => simp [add, WellFormed, isStart, Span.WellFormed, Term.WellFormed]
  | sign op => simp [add, WellFormed, isStart, Span.WellFormed, Term.WellFormed]
  | behind span op =>
      cases span <;> cases multiplicative : op.isMultiplicative <;>
        simp [add, Span.push, Span.extend, WellFormed, isStart, Span.WellFormed, Term.WellFormed,
          multiplicative, and_assoc]

end Lead

namespace Span

/-- What stands before the last factor of a span. -/
def lead : Span → Lead
  | .unsigned (.single _) => .start
  | .unsigned (.product term op _) => .behind (.unsigned term) op
  | .signed sign (.single _) => .sign sign
  | .signed sign (.product term op _) => .behind (.signed sign term) op
  | .sum span op (.single _) => .behind span op
  | .sum span op (.product term op' _) => .behind (.sum span op term) op'

/-- The last factor of a span. -/
def lastFactor : Span → Factor
  | .unsigned (.single factor) | .unsigned (.product _ _ factor) => factor
  | .signed _ (.single factor) | .signed _ (.product _ _ factor) => factor
  | .sum _ _ (.single factor) | .sum _ _ (.product _ _ factor) => factor

/-- A well-formed span is its last factor put behind its lead. -/
theorem lead_add_lastFactor {span : Span} (wellFormed : span.WellFormed) :
    span.lead.add span.lastFactor = span := by
  cases span with
  | unsigned term =>
      cases term with
      | single factor => rfl
      | product term op factor =>
          have multiplicative := wellFormed.2.1
          simp [lead, lastFactor, Lead.add, push, extend, multiplicative]
  | signed sign term =>
      cases term with
      | single factor => rfl
      | product term op factor =>
          have multiplicative := wellFormed.2.2.1
          simp [lead, lastFactor, Lead.add, push, extend, multiplicative]
  | sum span op term =>
      cases term with
      | single factor =>
          have additive := wellFormed.2.1
          simp [lead, lastFactor, Lead.add, push, additive]
      | product term op' factor =>
          have multiplicative := wellFormed.2.2.2.1
          simp [lead, lastFactor, Lead.add, push, extend, multiplicative]

/-- A span determines its lead and its last factor. -/
theorem lead_add (before : Lead) (factor : Factor) :
    (before.add factor).lead = before ∧ (before.add factor).lastFactor = factor := by
  cases before with
  | start => exact ⟨rfl, rfl⟩
  | sign op => exact ⟨rfl, rfl⟩
  | behind span op =>
      cases span <;> cases multiplicative : op.isMultiplicative <;>
        simp [Lead.add, push, extend, lead, lastFactor, multiplicative]

/-- Every well-formed span is a factor behind a lead. -/
theorem exists_add {span : Span} (wellFormed : span.WellFormed) :
    ∃ (lead : Lead) (factor : Factor), span = lead.add factor :=
  ⟨_, _, (lead_add_lastFactor wellFormed).symm⟩

/-- Induction along the factors of a span and into its groups: a property of well-formed
spans holds if it holds of a factor behind a lead whenever it holds of the span in the lead
and of the contents of the factor. -/
theorem induction_on_factors {motive : (span : Span) → span.WellFormed → Prop}
    (add : ∀ (lead : Lead) (factor : Factor) (wellFormed : (lead.add factor).WellFormed),
      (∀ span op (ofSpan : span.WellFormed), lead = .behind span op → motive span ofSpan) →
      (∀ inner (ofInner : inner.WellFormed), factor = .group inner → motive inner ofInner) →
      motive (lead.add factor) wellFormed)
    (span : Span) (wellFormed : span.WellFormed) : motive span wellFormed := by
  induction size : span.tokens.length using Nat.strong_induction_on generalizing span with
  | h size inductionHypothesis =>
      subst size
      obtain ⟨lead, factor, rfl⟩ := exists_add wellFormed
      refine add lead factor wellFormed (fun before op ofBefore isLead => ?_)
        (fun inner ofInner isFactor => ?_)
      · subst isLead
        exact inductionHypothesis _ (by simp) before ofBefore rfl
      · subst isFactor
        exact inductionHypothesis _ (by simp [Factor.tokens]; omega) inner ofInner rfl

/-- The tokens of a well-formed span are what its text is cut into. -/
theorem canonical_tokens {span : Span} (wellFormed : span.WellFormed) :
    Token.Canonical span.tokens := by
  induction span, wellFormed using induction_on_factors with
  | add lead factor wellFormed leadHypothesis groupHypothesis =>
      obtain ⟨ofLead, ofFactor⟩ := Lead.wellFormed_add.mp wellFormed
      have operator : ∀ op, Token.Canonical [.operator op] := fun op =>
        Token.canonical_cons.mpr ⟨trivial, Token.canonical_nil, by simp⟩
      -- A lead is empty or ends with an operator, which may meet anything.
      have ofLeadTokens : Token.Canonical lead.tokens ∧
          ∀ last ∈ lead.tokens.getLast?, last.isNumber = false := by
        cases lead with
        | start => exact ⟨Token.canonical_nil, by simp⟩
        | sign op => exact ⟨operator op, by simp [Token.isNumber]⟩
        | behind before op =>
            exact ⟨Token.canonical_append.mpr ⟨leadHypothesis before op ofLead rfl, operator op,
              by simp [Token.isNumber]⟩, by simp [Token.isNumber]⟩
      have ofFactorTokens : Token.Canonical factor.tokens := by
        cases factor with
        | number run =>
            exact Token.canonical_cons.mpr
              ⟨⟨ofFactor.written, ofFactor.numeric⟩, Token.canonical_nil, by simp⟩
        | group inner =>
            have close : Token.Canonical [.closeParen] :=
              Token.canonical_cons.mpr ⟨trivial, Token.canonical_nil, by simp⟩
            have contents := Token.canonical_append.mpr
              ⟨groupHypothesis inner ofFactor rfl, close, by simp [Token.isNumber]⟩
            exact Token.canonical_cons.mpr ⟨trivial, contents, by simp [Token.isNumber]⟩
      rw [Lead.tokens_add]
      exact Token.canonical_append.mpr ⟨ofLeadTokens.1, ofFactorTokens,
        fun last isLast _ _ both => by simp [ofLeadTokens.2 last isLast] at both⟩

end Span

/-- The tokens of a well-formed source are what its text is cut into. -/
theorem Source.tokenize_text {source : Source} (wellFormed : source.WellFormed) :
    tokenize source.text = source.tokens := by
  refine (tokenize_eq_iff ?_).mpr rfl
  cases source with
  | empty => exact Token.canonical_nil
  | written span => exact Span.canonical_tokens wellFormed

end Calculator
