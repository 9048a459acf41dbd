import Calculator.Proofs.Grammar.Gap
import Calculator.Proofs.Grammar.Printed

/-!
# Spans behind operators

A span behind an operator makes one span with what stands before the operator. An additive
operator puts the terms of the span behind the others. A multiplicative one takes the first
factor of the span as its right operand, so the product that it starts goes to the bottom of
the left spine of the first term, and nothing else of the two trees changes.
-/

namespace Calculator

/-! ### Grafts -/

/-- Put an operation at the bottom of the left spine of a term, with what stands there as its
right operand. -/
def Expr.graft (op : Operator) (lhs : Expr) : Expr → Expr
  | .binary op' first rhs => .binary op' (graft op lhs first) rhs
  | operand => .binary op lhs operand

/-- The term that a term becomes behind a lead. -/
def Lead.graft : Lead → Expr → Expr
  | start, term | sign _, term => term
  | behind span op, term => if op.isMultiplicative then .graft op span.last term else term

/-- The lead has to do with the bottom of the left spine only. -/
theorem Lead.graft_binary (lead : Lead) (op : Operator) (lhs rhs : Expr) :
    lead.graft (.binary op lhs rhs) = .binary op (lead.graft lhs) rhs := by
  cases lead with
  | start => rfl
  | sign sign => rfl
  | behind span op' =>
      cases multiplicative : op'.isMultiplicative <;> simp [graft, Expr.graft, multiplicative]

theorem Factor.graft_expr (factor : Factor) (first : Bool) (op : Operator) (lhs : Expr) :
    Expr.graft op lhs (factor.expr first) = .binary op lhs (factor.expr first) := by
  cases factor with
  | number run => rw [expr, Expr.graft]; nofun
  | group span => rw [expr, Expr.graft]; nofun

/-- A factor behind a lead completes the last term of the span. -/
theorem Lead.terms_last_add (lead : Lead) (factor : Factor) :
    (lead.add factor).terms = lead.openSpan.terms ∧
      (lead.add factor).last = lead.graft (factor.expr lead.isStart) := by
  cases lead with
  | start => exact ⟨rfl, rfl⟩
  | sign op => exact ⟨rfl, rfl⟩
  | behind span op =>
      cases multiplicative : op.isMultiplicative <;>
        simp [add, span.terms_push, span.last_push, openSpan, graft, isStart, factor.graft_expr,
          multiplicative]

/-! ### Terms behind leads -/

namespace Term

/-- The span that ends with a term behind a lead. -/
def behind (lead : Lead) : Term → Span
  | single factor => lead.add factor
  | product term op factor => (term.behind lead).push op factor

variable {lead : Lead}

theorem tokens_behind : (term : Term) → term.WellFormed false →
    (term.behind lead).tokens = lead.tokens ++ term.tokens
  | single factor, _ => by rw [behind, Lead.tokens_add, tokens]
  | product term op factor, ⟨ofTerm, multiplicative, _⟩ => by
      have pushed := Lead.tokens_add (.behind (term.behind lead) op) factor
      rw [Lead.add, Lead.tokens_behind, term.tokens_behind ofTerm] at pushed
      simp [behind, pushed, tokens]

theorem depth_behind : (term : Term) → term.WellFormed false →
    (term.behind lead).depth = max lead.depth term.depth
  | single factor, _ => by rw [behind, Lead.depth_add, depth]
  | product term op factor, ⟨ofTerm, _, _⟩ => by
      have pushed := Lead.depth_add (.behind (term.behind lead) op) factor
      rw [Lead.add, Lead.depth, term.depth_behind ofTerm] at pushed
      rw [behind, pushed, depth, max_assoc]

theorem wellFormed_behind (ofLead : lead.WellFormed) : (term : Term) → term.WellFormed false →
    (term.behind lead).WellFormed
  | single factor, ofFactor => by
      refine Lead.wellFormed_add.mpr ⟨ofLead, ?_⟩
      cases lead.isStart with
      | true => exact (Factor.atStart ofFactor).1
      | false => exact ofFactor
  | product term op factor, ⟨ofTerm, _, ofFactor⟩ =>
      have before : (Lead.behind (term.behind lead) op).WellFormed :=
        term.wellFormed_behind ofLead ofTerm
      Lead.wellFormed_add.mpr ⟨before, ofFactor⟩

/-- A term at the start of its span may stand anywhere unless its first token is a number
without a digit. -/
theorem wellFormed_of_head : (term : Term) → term.WellFormed true →
    (∀ run, term.tokens.head? = some (.number run) → ∃ character ∈ run, character.isDigit) →
      term.WellFormed false
  | single (.number run), isRun, hasDigit =>
      have isRun : NumberRun true run := isRun
      show NumberRun false run from { isRun with hasDigit := fun _ => hasDigit run rfl }
  | single (.group _), ofGroup, _ => ofGroup
  | product term op factor, ⟨ofTerm, multiplicative, ofFactor⟩, hasDigit => by
      rw [tokens, List.head?_append_of_ne_nil _ term.tokens_ne_nil] at hasDigit
      exact ⟨term.wellFormed_of_head ofTerm hasDigit, multiplicative, ofFactor⟩

/-- Behind a lead, the product that is under way goes to the bottom of the left spine of a term. -/
theorem terms_last_behind (lead : Lead) : (term : Term) → term.WellFormed false →
    (term.behind lead).terms = lead.openSpan.terms ∧
      (term.behind lead).last = lead.graft (term.expr lead.isStart)
  | single factor, _ => lead.terms_last_add factor
  | product term op factor, ⟨ofTerm, multiplicative, _⟩ => by
      obtain ⟨terms, last⟩ := term.terms_last_behind lead ofTerm
      rw [behind, Span.terms_push, Span.last_push, if_pos multiplicative, if_pos multiplicative,
        terms, last, expr, Lead.graft_binary]
      exact ⟨rfl, rfl⟩

end Term

/-! ### Spans behind leads -/

/-- The terms before the one that a factor behind a lead belongs to, in order. -/
def Lead.elements (lead : Lead) : List Expr :=
  lead.openSpan.terms.reverse.map Prod.fst

/-- The operators behind these terms, in order. -/
def Lead.operators (lead : Lead) : List Operator :=
  lead.openSpan.terms.reverse.map Prod.snd

namespace Span

/-- The terms of a span, in order. -/
def elements (span : Span) : List Expr :=
  span.terms.reverse.map Prod.fst ++ [span.last]

/-- The operators between the terms of a span, in order. -/
def operators (span : Span) : List Operator :=
  span.terms.reverse.map Prod.snd

theorem expr_eq (span : Span) :
    span.expr = .composite (span.elements ++ [.literal 0.0]) (span.operators ++ [.add]) := by
  rw [expr, elements, operators, List.append_assoc]
  rfl

theorem elements_sum (span : Span) (op : Operator) (term : Term) :
    (sum span op term).elements = span.elements ++ [term.expr false] := by
  simp [elements, terms, last]

theorem operators_sum (span : Span) (op : Operator) (term : Term) :
    (sum span op term).operators = span.operators ++ [op] := by
  simp [operators, terms]

/-- Whether a span may stand behind an operator: it has no sign, and its first factor needs no
unwritten zero. -/
def FollowsOperator : Span → Prop
  | unsigned term => term.WellFormed false
  | signed _ _ => False
  | sum span op term =>
      span.FollowsOperator ∧ op.isMultiplicative = false ∧ term.WellFormed false

/-- The span that ends with a span behind a lead. A sign has no place there and is left out. -/
def behind (lead : Lead) : Span → Span
  | unsigned term | signed _ term => term.behind lead
  | sum span op term => sum (span.behind lead) op term

/-- What a span needs to stand behind an operator shows in its first token. -/
theorem followsOperator_of_head : (span : Span) → span.WellFormed →
    (∀ op, op.isMultiplicative = false → span.tokens.head? ≠ some (.operator op)) →
    (∀ run, span.tokens.head? = some (.number run) → ∃ character ∈ run, character.isDigit) →
      span.FollowsOperator
  | unsigned term, wellFormed, _, hasDigit => term.wellFormed_of_head wellFormed hasDigit
  | signed sign _, ⟨additive, _⟩, notSigned, _ => notSigned sign additive rfl
  | sum span op term, ⟨ofSpan, additive, ofTerm⟩, notSigned, hasDigit => by
      rw [tokens, List.head?_append_of_ne_nil _ span.tokens_ne_nil] at notSigned hasDigit
      exact ⟨span.followsOperator_of_head ofSpan notSigned hasDigit, additive, ofTerm⟩

variable {lead : Lead}

theorem tokens_behind : (span : Span) → span.FollowsOperator →
    (span.behind lead).tokens = lead.tokens ++ span.tokens
  | unsigned term, follows => term.tokens_behind follows
  | sum span op term, ⟨follows, _, _⟩ => by
      rw [behind, tokens, tokens, span.tokens_behind follows, List.append_assoc]

theorem depth_behind : (span : Span) → span.FollowsOperator →
    (span.behind lead).depth = max lead.depth span.depth
  | unsigned term, follows => term.depth_behind follows
  | sum span op term, ⟨follows, _, _⟩ => by
      rw [behind, depth, depth, span.depth_behind follows, max_assoc]

theorem wellFormed_behind (ofLead : lead.WellFormed) : (span : Span) → span.FollowsOperator →
    (span.behind lead).WellFormed
  | unsigned term, follows => term.wellFormed_behind ofLead follows
  | sum span _ _, ⟨follows, additive, ofTerm⟩ =>
      ⟨span.wellFormed_behind ofLead follows, additive, ofTerm⟩

/-- Behind a lead, only the first term of a span changes, and the others stay as they are. -/
theorem elements_behind (lead : Lead) : (span : Span) → span.FollowsOperator →
    ∃ first rest, span.elements = first :: rest ∧
      (span.behind lead).elements = lead.elements ++ lead.graft first :: rest ∧
      (span.behind lead).operators = lead.operators ++ span.operators
  | unsigned term, follows => by
      obtain ⟨ofTerms, ofLast⟩ := term.terms_last_behind lead follows
      -- By itself the span starts with an unwritten zero, which its first number does not need.
      have same : term.expr true = term.expr lead.isStart := by
        cases lead.isStart with
        | true => rfl
        | false => exact (term.atStart follows).2
      refine ⟨term.expr true, [], rfl, ?_, ?_⟩
      · rw [behind, elements, ofTerms, ofLast, same, Lead.elements]
      · rw [behind, operators, ofTerms, Lead.operators, operators, terms]
        simp
  | sum span op term, ⟨follows, _, _⟩ => by
      obtain ⟨first, rest, ofElements, joined, between⟩ := span.elements_behind lead follows
      refine ⟨first, rest ++ [term.expr false], ?_, ?_, ?_⟩
      · rw [elements_sum, ofElements, List.cons_append]
      · rw [behind, elements_sum, joined, List.append_assoc, List.cons_append]
      · rw [behind, operators_sum, operators_sum, between, List.append_assoc]

end Span

/-! ### Sources as leads -/

namespace Source

/-- The terms of a source, in order. The empty one has a zero for its only term. -/
def elements : Source → List Expr
  | empty => [.literal 0.0]
  | written span => span.elements

/-- The operators between the terms of a source, in order. -/
def operators : Source → List Operator
  | empty => []
  | written span => span.operators

theorem expr_eq (source : Source) :
    source.expr = .composite (source.elements ++ [.literal 0.0]) (source.operators ++ [.add]) := by
  cases source with
  | empty => rfl
  | written span => exact span.expr_eq

/-- A source with an operator behind it is a lead. -/
def asLead (op : Operator) : Source → Lead
  | empty => .sign op
  | written span => .behind span op

@[simp] theorem tokens_asLead (op : Operator) (source : Source) :
    (source.asLead op).tokens = source.tokens ++ [.operator op] := by
  cases source <;> rfl

@[simp] theorem depth_asLead (op : Operator) (source : Source) :
    (source.asLead op).depth = source.depth := by
  cases source <;> rfl

/-- Behind an additive operator, a term stands behind all terms of the source. -/
theorem elements_asLead {op : Operator} (additive : op.isMultiplicative = false)
    (source : Source) :
    (source.asLead op).elements = source.elements ∧
      (source.asLead op).operators = source.operators ++ [op] ∧
      ∀ term, (source.asLead op).graft term = term := by
  cases source with
  | empty => exact ⟨rfl, rfl, fun _ => rfl⟩
  | written span =>
      simp [asLead, Lead.elements, Lead.operators, Lead.openSpan, Lead.graft, elements, operators,
        Span.elements, Span.operators, additive]

end Source

end Calculator
