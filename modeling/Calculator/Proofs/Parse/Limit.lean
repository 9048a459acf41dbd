import Calculator.Proofs.Parse.Rules
import Mathlib.Data.Nat.Find

/-!
# The limit on nesting

How deep groups may nest decides whether a text is read to its end, and nothing else. The
rules of `Outcome` stay true under a higher limit unless they speak of the limit, and they
never do so where the limit allows for all opening parentheses of the text. So there is a
least limit that a text needs, with one result from there on.
-/

namespace Calculator

open Token

/-- The results that do not speak of a limit. -/
def NotTooDeep (outcome : Except ParseError Expr) : Prop :=
  ∀ limit, outcome ≠ .error (.nestingTooDeep limit)

theorem notTooDeep_ok (expr : Expr) : NotTooDeep (.ok expr) := by
  rintro limit ⟨⟩

section Limits

variable {limit limit' depth : Nat}

/-- What may be read may be read under a higher limit. -/
theorem Checked.Admissible.mono {checked : Checked} (le : limit ≤ limit')
    (admissible : checked.Admissible limit depth) : checked.Admissible limit' depth where
  wellFormed := admissible.wellFormed
  within := Nat.le_trans admissible.within le

/-- A problem other than the limit is the same problem under a higher limit. -/
theorem Problem.mono {expression : String} {progress : Progress} {rest : List Token}
    {error : ParseError} {log : List Event} (le : limit ≤ limit')
    (notTooDeep : NotTooDeep (.error error))
    (problem : Problem limit depth expression progress rest error log) :
    Problem limit' depth expression progress rest error log := by
  cases problem with
  | leadingOperator multiplicative => exact .leadingOperator multiplicative
  | missingOperand begun follows => exact .missingOperand begun follows
  | invalidNumber invalid follows => exact .invalidNumber invalid follows
  | numberBehindGroup valid follows => exact .numberBehindGroup valid follows
  | groupBehindNumber balanced nonempty => exact .groupBehindNumber balanced nonempty
  | groupBehindGroup wellFormed within =>
      exact .groupBehindGroup wellFormed (Nat.le_trans within le)
  | emptyGroup => exact .emptyGroup
  | tooDeep => exact absurd rfl (notTooDeep limit)
  | unclosed unpaired => exact .unclosed unpaired
  | unopened => exact .unopened
  | unrecognized => exact .unrecognized

/-- Tokens that are not stopped by the limit come out the same under a higher one. -/
theorem Outcome.mono {tokens : List Token} {outcome : Except ParseError Expr} {log : List Event}
    (le : limit ≤ limit') (notTooDeep : NotTooDeep outcome)
    (holds : Outcome limit depth tokens outcome log) :
    Outcome limit' depth tokens outcome log := by
  induction holds with
  | empty => exact .empty
  | accepted span wellFormed within => exact .accepted span wellFormed (Nat.le_trans within le)
  | rejected admissible split problem =>
      exact .rejected (admissible.mono le) split (problem.mono le notTooDeep)
  | nested admissible split balanced nonempty within _ inductionHypothesis =>
      exact .nested (admissible.mono le) split balanced nonempty (Nat.le_trans within le)
        (inductionHypothesis notTooDeep)

/-- A limit is only reported as it is. -/
theorem Outcome.limit_eq {tokens : List Token} {reported : Nat} {log : List Event}
    (holds : Outcome limit depth tokens (.error (.nestingTooDeep reported)) log) :
    reported = limit := by
  generalize failed : Except.error (ParseError.nestingTooDeep reported) = outcome at holds
  induction holds with
  | empty => cases failed
  | accepted => cases failed
  | rejected admissible split problem =>
      cases failed
      cases problem
      rfl
  | nested admissible split balanced nonempty within _ inductionHypothesis =>
      exact inductionHypothesis failed

/-- A limit that allows for every opening parenthesis is not reached. -/
theorem Outcome.notTooDeep {tokens : List Token} {outcome : Except ParseError Expr}
    {log : List Event} (enough : depth + tokens.count openParen ≤ limit)
    (holds : Outcome limit depth tokens outcome log) : NotTooDeep outcome := by
  induction holds with
  | empty => exact notTooDeep_ok _
  | accepted => exact notTooDeep_ok _
  | rejected admissible split problem =>
      cases problem with
      | tooDeep balanced nonempty beyond =>
          subst split
          simp only [List.count_append, List.count_cons_self] at enough
          omega
      | _ => exact fun _ => by simp
  | nested admissible split balanced nonempty within _ inductionHypothesis =>
      subst split
      simp only [List.count_append, List.count_cons_self] at enough
      exact inductionHypothesis (by omega)

end Limits

/-- The result of reading a text is the one that the rules give. -/
theorem result_parse_eq_iff {settings : Settings} {text : String}
    {outcome : Except ParseError Expr} :
    (parse settings text).result = outcome ↔
      ∃ log, Outcome settings.maxDepth 0 (tokenize text) outcome log := by
  constructor
  · rintro rfl
    obtain ⟨outcome, log, reads, holds⟩ := exists_parse_outcome settings text
    rw [reads, Logged.result_ending]
    exact ⟨log, holds⟩
  · rintro ⟨log, holds⟩
    rw [parse_eq_ending holds.reads, Logged.result_ending]

/-- A text that is refused for a limit is refused for the one that was set. -/
theorem result_parse_of_tooDeep {settings : Settings} {text : String}
    (tooDeep : ¬ NotTooDeep (parse settings text).result) :
    (parse settings text).result = .error (.nestingTooDeep settings.maxDepth) := by
  obtain ⟨log, holds⟩ := result_parse_eq_iff.mp (Eq.refl (parse settings text).result)
  simp only [NotTooDeep, not_forall, not_not] at tooDeep
  obtain ⟨reported, isReported⟩ := tooDeep
  rw [isReported] at holds ⊢
  rw [holds.limit_eq]

/-- Some limit is enough for a text. -/
theorem exists_outcome_notTooDeep (text : String) :
    ∃ outcome log, Outcome (text.toList.count '(') 0 (tokenize text) outcome log ∧
      NotTooDeep outcome := by
  have counts : text.toList.count '(' = (tokenize text).count openParen := count_toList text rfl rfl
  obtain ⟨outcome, log, -, holds⟩ :=
    exists_outcome (text.toList.count '(') 0 (canonical_tokenize text) (Nat.zero_le _)
  exact ⟨outcome, log, holds, holds.notTooDeep (by omega)⟩

/-- The limit on nesting is a threshold and nothing else. For each text there is a least limit,
at most the number of its opening parentheses, from which on the text always comes out the
same, as a tree or with an error that is not about the limit. Under every lower limit it is
refused for the limit. For a text with a tree, the least limit is how deep its parentheses
nest. -/
theorem parse_limit_threshold (text : String) :
    ∃ (least : Nat) (outcome : Except ParseError Expr),
      least ≤ text.toList.count '(' ∧
      (∀ limit, outcome ≠ .error (.nestingTooDeep limit)) ∧
      (∀ settings : Settings, least ≤ settings.maxDepth →
        (parse settings text).result = outcome) ∧
      (∀ settings : Settings, settings.maxDepth < least →
        (parse settings text).result = .error (.nestingTooDeep settings.maxDepth)) ∧
      ∀ expr, outcome = .ok expr → least = nestingDepth text := by
  classical
  have enough : ∃ limit outcome log, Outcome limit 0 (tokenize text) outcome log ∧
      NotTooDeep outcome := ⟨_, exists_outcome_notTooDeep text⟩
  obtain ⟨outcome, log, holds, notTooDeep⟩ := Nat.find_spec enough
  have above : ∀ settings : Settings, Nat.find enough ≤ settings.maxDepth →
      (parse settings text).result = outcome := fun settings le =>
    result_parse_eq_iff.mpr ⟨log, holds.mono le notTooDeep⟩
  have below : ∀ settings : Settings, settings.maxDepth < Nat.find enough →
      (parse settings text).result = .error (.nestingTooDeep settings.maxDepth) := by
    intro settings lt
    refine result_parse_of_tooDeep fun notTooDeep => ?_
    obtain ⟨log, holds⟩ := result_parse_eq_iff.mp (Eq.refl (parse settings text).result)
    exact Nat.find_min enough lt ⟨_, log, holds, notTooDeep⟩
  refine ⟨Nat.find enough, outcome, Nat.find_min' enough (exists_outcome_notTooDeep text),
    notTooDeep, above, below, ?_⟩
  rintro expr rfl
  obtain ⟨source, wellFormed, within, rfl, -⟩ :=
    exists_source_of_parse (above { maxDepth := Nat.find enough } (Nat.le_refl _))
  have depth := Source.nestingDepth_text wellFormed
  refine Nat.le_antisymm (Nat.le_of_not_lt fun deeper => ?_) (depth ▸ within)
  have refused := below { maxDepth := nestingDepth source.text } deeper
  rw [parse_text wellFormed (Nat.le_of_eq depth.symm), Logged.result_ending] at refused
  cases refused

end Calculator
