import Calculator.Proofs.Calculate.Safety
import Mathlib.Data.List.Perm.Basic

/-!
# Every operator is applied once

A multiplicative operator is applied when a product is read, and an additive one when a span is
folded, which also closes each span by adding zero. Up to their order, the operators that
are reported for a span are therefore those of its tokens, where an opening parenthesis stands
for the addition that closes its group.
-/

namespace Calculator

open Logged Token

namespace Event

/-- The operator that a product is reported for. -/
def product? : Event → Option Operator
  | folding op => some op
  | group _ _ | parsed _ _ | folded _ _ _ _ | malformed _ _ => none

/-- The operator that two operands of a span are folded by. -/
def fold? : Event → Option Operator
  | folded op _ _ _ => some op
  | group _ _ | folding _ | parsed _ _ | malformed _ _ => none

theorem IsOfSpan.fold?_eq_none {low high : Nat} {event : Event}
    (isOfSpan : event.IsOfSpan low high) : event.fold? = none := by
  cases event <;> first | rfl | cases isOfSpan

end Event

/-- The operators of the products that a log reports. -/
def products (log : List Event) : List Operator :=
  log.filterMap Event.product?

/-- The operators that a log reports spans to be folded by. -/
def folds (log : List Event) : List Operator :=
  log.filterMap Event.fold?

@[simp] theorem products_append (first second : List Event) :
    products (first ++ second) = products first ++ products second :=
  List.filterMap_append

@[simp] theorem folds_append (first second : List Event) :
    folds (first ++ second) = folds first ++ folds second :=
  List.filterMap_append

/-- The operator that a token has a product reported for. -/
def Token.product? : Token → Option Operator
  | .operator op => if op.isMultiplicative then some op else none
  | .number _ | .openParen | .closeParen | .unknown _ => none

/-- The operator that a token has a span folded by. An opening parenthesis has its group closed by
an addition. -/
def Token.fold? : Token → Option Operator
  | .operator op => if op.isMultiplicative then none else some op
  | .openParen => some .add
  | .number _ | .closeParen | .unknown _ => none

/-! ### Products are reported while a span is read -/

mutual

theorem Factor.products_events (first : Bool) (depth : Nat) : (factor : Factor) →
    factor.WellFormed first →
    (products (factor.events depth)).Perm (factor.tokens.filterMap Token.product?)
  | .number run, _ => .nil
  | .group span, wellFormed => by
      have tokens : (openParen :: span.tokens ++ [closeParen]).filterMap Token.product? =
          span.tokens.filterMap Token.product? := by
        rw [List.cons_append, List.filterMap_cons_none rfl, List.filterMap_append]
        exact List.append_nil _
      rw [Factor.tokens, tokens]
      exact span.products_events (depth + 1) wellFormed

theorem Term.products_events (first : Bool) (depth : Nat) : (term : Term) →
    term.WellFormed first →
    (products (term.events depth)).Perm (term.tokens.filterMap Token.product?)
  | .single factor, wellFormed => factor.products_events first depth wellFormed
  | .product term op factor, ⟨ofTerm, multiplicative, ofFactor⟩ => by
      have before := (term.products_events first depth ofTerm).append
        (factor.products_events false depth ofFactor)
      have own : products [.folding op] = [op] := rfl
      have token : Token.product? (.operator op) = some op := if_pos multiplicative
      rw [Term.events, Term.tokens, products_append, products_append, own, List.filterMap_append,
        List.filterMap_cons_some token]
      exact (List.perm_append_singleton op _).trans ((before.cons op).trans List.perm_middle.symm)

/-- Each multiplicative operator of a span has its product reported. -/
theorem Span.products_events (depth : Nat) : (span : Span) → span.WellFormed →
    (products (span.events depth)).Perm (span.tokens.filterMap Token.product?)
  | .unsigned term, wellFormed => term.products_events true depth wellFormed
  | .signed sign term, ⟨additive, wellFormed⟩ => by
      have token : Token.product? (.operator sign) = none := if_neg (by simp [additive])
      rw [Span.events, Span.tokens, List.filterMap_cons_none token]
      exact term.products_events false depth wellFormed
  | .sum span op term, ⟨ofSpan, additive, ofTerm⟩ => by
      have token : Token.product? (.operator op) = none := if_neg (by simp [additive])
      rw [Span.events, Span.tokens, products_append, List.filterMap_append,
        List.filterMap_cons_none token]
      exact (span.products_events depth ofSpan).append (term.products_events false depth ofTerm)

end

/-! ### Spans are folded while the tree is evaluated -/

/-- The operators of the operations that are reported. -/
def reported (operations : List Operation) : List Operator :=
  (operations.filter (·.isReported)).map (·.op)

@[simp] theorem reported_append (first second : List Operation) :
    reported (first ++ second) = reported first ++ reported second := by
  simp [reported]

theorem folds_events (operations : List Operation) :
    folds (operations.flatMap Operation.events) = reported operations := by
  induction operations with
  | nil => rfl
  | cons operation operations inductionHypothesis =>
      rw [List.flatMap_cons, folds_append, inductionHypothesis]
      cases isReported : operation.isReported <;>
        simp [reported, Operation.events, folds, Event.fold?, isReported]

theorem products_events (operations : List Operation) :
    products (operations.flatMap Operation.events) = [] := by
  induction operations with
  | nil => rfl
  | cons operation operations inductionHypothesis =>
      rw [List.flatMap_cons, products_append, inductionHypothesis]
      cases isReported : operation.isReported <;>
        simp [Operation.events, products, Event.product?, isReported]

/-- A span is closed by an addition. -/
theorem Span.reported_operations (span : Span) {operators : List Operator}
    (ofFolds : (reported span.folds).Perm operators) :
    (reported span.operations).Perm (.add :: operators) := by
  have closing : reported [⟨.add, span.total, 0.0, true⟩] = [.add] := rfl
  rw [operations, reported_append, closing]
  exact (List.perm_append_singleton _ _).trans (ofFolds.cons _)

mutual

theorem Factor.reported_operations (first : Bool) : (factor : Factor) → factor.WellFormed first →
    (reported factor.operations).Perm (factor.tokens.filterMap Token.fold?)
  | .number run, _ => .nil
  | .group span, wellFormed => by
      have tokens : (openParen :: span.tokens ++ [closeParen]).filterMap Token.fold? =
          .add :: span.tokens.filterMap Token.fold? := by
        rw [List.cons_append, List.filterMap_cons_some (rfl : fold? openParen = some .add),
          List.filterMap_append]
        exact congrArg _ (List.append_nil _)
      rw [Factor.operations_group, Factor.tokens, tokens]
      exact span.reported_operations (span.reported_folds wellFormed)

theorem Term.reported_operations (first : Bool) : (term : Term) → term.WellFormed first →
    (reported (term.operations first)).Perm (term.tokens.filterMap Token.fold?)
  | .single factor, wellFormed => factor.reported_operations first wellFormed
  | .product term op factor, ⟨ofTerm, multiplicative, ofFactor⟩ => by
      have token : Token.fold? (.operator op) = none := if_pos multiplicative
      rw [Term.operations, Term.tokens, reported_append, reported_append, List.filterMap_append,
        List.filterMap_cons_none token]
      simpa [reported] using (term.reported_operations first ofTerm).append
        (factor.reported_operations false ofFactor)

/-- Each additive operator of a span folds it, and each group in it is closed. -/
theorem Span.reported_folds : (span : Span) → span.WellFormed →
    (reported span.folds).Perm (span.tokens.filterMap Token.fold?)
  | .unsigned term, wellFormed => term.reported_operations true wellFormed
  | .signed sign term, ⟨additive, wellFormed⟩ => by
      have token : Token.fold? (.operator sign) = some sign := if_neg (by simp [additive])
      rw [Span.folds, Span.tokens, reported_append, List.filterMap_cons_some token]
      exact (List.perm_append_singleton sign _).trans
        ((term.reported_operations false wellFormed).cons sign)
  | .sum span op term, ⟨ofSpan, additive, ofTerm⟩ => by
      have token : Token.fold? (.operator op) = some op := if_neg (by simp [additive])
      rw [Span.folds, Span.tokens, reported_append, reported_append, List.filterMap_append,
        List.filterMap_cons_some token]
      exact (span.reported_folds ofSpan).append ((List.perm_append_singleton op _).trans
        ((term.reported_operations false ofTerm).cons op))

end

/-! ### Calculations -/

variable {settings : Settings} {text : String}

theorem Source.products_events {source : Source} (wellFormed : source.WellFormed) :
    (products source.events).Perm (source.tokens.filterMap Token.product?) := by
  cases source with
  | empty => exact .nil
  | written span => exact span.products_events 0 wellFormed

theorem Source.reported_operations {source : Source} (wellFormed : source.WellFormed) :
    (reported source.operations).Perm (.add :: source.tokens.filterMap Token.fold?) := by
  cases source with
  | empty => exact List.Perm.refl _
  | written span => exact span.reported_operations (span.reported_folds wellFormed)

/-- Nothing is folded while a source is read. -/
theorem Source.folds_events (source : Source) : folds source.events = [] := by
  cases source with
  | empty => rfl
  | written span =>
      exact List.filterMap_eq_nil_iff.mpr fun event member =>
        (span.isOfSpan_events (Nat.le_refl _) event member).fold?_eq_none

/-- A calculation that succeeds reports that a source is read, and then all its operations. -/
theorem events_calculate {value : Float} (succeeds : (calculate settings text).result = .ok value) :
    ∃ source : Source, source.WellFormed ∧ source.text = text ∧
      (calculate settings text).events.toList = source.events ++ [.parsed text source.expr] ++
        source.operations.flatMap Operation.events := by
  obtain ⟨outcome, log, calculates, -, ends⟩ := exists_calculation settings text
  rw [calculates, result_ending] at succeeds
  subst succeeds
  cases ends with
  | value ofText _ =>
      obtain ⟨source, wellFormed, within, rfl, rfl⟩ := exists_source_of_parse ofText
      refine ⟨source, wellFormed, rfl, ?_⟩
      have succeeds := congrArg Logged.result calculates
      rw [calculate_text wellFormed within, pure_eq_ending, carryOut_eq] at succeeds ⊢
      split at succeeds
      · rw [adaptExcept_ending, after_ending, result_ending, result_ending] at succeeds
        cases succeeds
      · next notRefused =>
          rw [if_neg notRefused, adaptExcept_ending, after_ending, events_ending, List.append_nil]

/-- A calculation that succeeds applies the operators of its text and no others, up to their
order, and closes the whole text by one more addition. -/
theorem applied_perm {value : Float} (succeeds : (calculate settings text).result = .ok value) :
    (products (calculate settings text).events.toList).Perm
        ((tokenize text).filterMap Token.product?) ∧
      (folds (calculate settings text).events.toList).Perm
        (.add :: (tokenize text).filterMap Token.fold?) := by
  obtain ⟨source, wellFormed, rfl, events⟩ := events_calculate succeeds
  have noProduct : products [.parsed source.text source.expr] = [] := rfl
  have noFold : folds [.parsed source.text source.expr] = [] := rfl
  rw [events, Source.tokenize_text wellFormed, products_append, products_append, products_events,
    noProduct, folds_append, folds_append, folds_events, source.folds_events, noFold,
    List.append_nil, List.append_nil, List.nil_append, List.nil_append]
  exact ⟨source.products_events wellFormed, source.reported_operations wellFormed⟩

/-! ### Counts -/

theorem count_product? {op : Operator} (multiplicative : op.isMultiplicative = true)
    (tokens : List Token) :
    (tokens.filterMap Token.product?).count op = tokens.count (.operator op) := by
  rw [List.count_filterMap, List.count_eq_countP]
  refine List.countP_congr fun token _ => ?_
  cases token with
  | operator other =>
      cases op <;> cases other <;> simp_all [Token.product?, Operator.isMultiplicative]
  | _ => simp [Token.product?]

theorem count_fold?_subtract (tokens : List Token) :
    (tokens.filterMap Token.fold?).count .subtract = tokens.count (.operator .subtract) := by
  rw [List.count_filterMap, List.count_eq_countP]
  refine List.countP_congr fun token _ => ?_
  cases token with
  | operator op => cases op <;> simp [Token.fold?, Operator.isMultiplicative]
  | _ => simp [Token.fold?]

/-- Additive operators and opening parentheses have spans folded. -/
theorem length_fold? (tokens : List Token) :
    (tokens.filterMap Token.fold?).length =
      tokens.count (.operator .add) + tokens.count (.operator .subtract) +
        tokens.count .openParen := by
  induction tokens with
  | nil => rfl
  | cons token tokens inductionHypothesis =>
      cases token with
      | operator op =>
          cases op <;>
            simp [Token.fold?, Operator.isMultiplicative, inductionHypothesis] <;> omega
      | openParen => simp [Token.fold?, inductionHypothesis]; omega
      | _ => simp [List.filterMap_cons, Token.fold?, inductionHypothesis]

/-- A calculation that succeeds applies every operator of its text once. Each multiplication and
each division has one product reported. Each addition and each subtraction is carried out by
one reported fold, and so is the addition that closes each group and the one that closes the
text. -/
theorem calculate_applies_operators_once {settings : Settings} {text : String} {value : Float}
    (succeeds : (calculate settings text).result = .ok value) :
    (products (calculate settings text).events.toList).count .multiply = text.toList.count '*' ∧
    (products (calculate settings text).events.toList).count .divide = text.toList.count '/' ∧
    (folds (calculate settings text).events.toList).length =
      text.toList.count '+' + text.toList.count '-' + text.toList.count '(' + 1 ∧
    (folds (calculate settings text).events.toList).count .subtract = text.toList.count '-' := by
  obtain ⟨ofProducts, ofFolds⟩ := applied_perm succeeds
  have symbols (op : Operator) :
      text.toList.count op.symbol = (tokenize text).count (.operator op) :=
    count_toList text (by cases op <;> rfl) rfl
  have opening : text.toList.count '(' = (tokenize text).count .openParen :=
    count_toList text rfl rfl
  refine ⟨?_, ?_, ?_, ?_⟩
  · rw [ofProducts.count_eq, count_product? rfl]
    exact (symbols .multiply).symm
  · rw [ofProducts.count_eq, count_product? rfl]
    exact (symbols .divide).symm
  · rw [ofFolds.length_eq, List.length_cons, length_fold?, ← symbols .add, ← symbols .subtract,
      ← opening]
    rfl
  · have different : Operator.add ≠ .subtract := nofun
    rw [ofFolds.count_eq, List.count_cons_of_ne different, count_fold?_subtract]
    exact (symbols .subtract).symm

/-- A sign is an operator, too. -/
theorem calculate_applies_operators_once_signed_product :
    (products (calculate {} "-2*(3-1)").events.toList).count .multiply = 1 ∧
      (folds (calculate {} "-2*(3-1)").events.toList).length = 4 ∧
      (folds (calculate {} "-2*(3-1)").events.toList).count .subtract = 2 := by
  have wellFormed : (Source.written (.signed .subtract (.product (.single (.number ['2'])) .multiply
      (.group (.sum (.unsigned (.single (.number ['3']))) .subtract
        (.single (.number ['1']))))))).WellFormed :=
    ⟨rfl, numberRun_digit false rfl, rfl, numberRun_digit true rfl, rfl, numberRun_digit false rfl⟩
  have succeeds : (calculate {} "-2*(3-1)").result = .ok _ :=
    (result_calculate_text wellFormed (by decide)).trans (if_neg fun refused => nomatch refused.1)
  obtain ⟨ofMultiply, -, ofFolds, ofSubtract⟩ := calculate_applies_operators_once succeeds
  exact ⟨ofMultiply.trans (by decide), ofFolds.trans (by decide), ofSubtract.trans (by decide)⟩

end Calculator
