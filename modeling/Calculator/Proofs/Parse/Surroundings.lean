import Calculator.Proofs.Parse.Rules
import Calculator.Proofs.Token.Alphabet

/-!
# Groups and their surroundings

What is wrong inside a group is reported as if the contents of the group were a text of their
own, whatever stands around the group. Two facts carry this: a text is cut into tokens
separately on either side of a parenthesis, and the rules of `Outcome` stay true when one more
group is allowed and one more is open.
-/

namespace Calculator

open Token

/-! ### One level deeper -/

/-- An error as it reads under another limit. -/
def ParseError.underLimit (limit : Nat) : ParseError → ParseError
  | nestingTooDeep _ => nestingTooDeep limit
  | error => error

theorem ParseError.underLimit_of_ne {error : ParseError} (limit : Nat)
    (notLimit : ∀ other, error ≠ nestingTooDeep other) : error.underLimit limit = error := by
  cases error with
  | nestingTooDeep other => exact absurd rfl (notLimit other)
  | _ => rfl

section Deepen

variable {limit depth : Nat}

/-- What may be read may still be read one level deeper. -/
theorem Checked.Admissible.deepen {checked : Checked}
    (admissible : checked.Admissible limit depth) : checked.Admissible (limit + 1) (depth + 1) where
  wellFormed := admissible.wellFormed
  within := by
    have within := admissible.within
    omega

/-- A problem is the same problem one level deeper. -/
theorem Problem.deepen {expression : String} {progress : Progress} {rest : List Token}
    {error : ParseError} {log : List Event}
    (problem : Problem limit depth expression progress rest error log) :
    ∃ log', Problem (limit + 1) (depth + 1) expression progress rest
      (error.underLimit (limit + 1)) log' := by
  cases problem with
  | leadingOperator multiplicative => exact ⟨_, .leadingOperator multiplicative⟩
  | missingOperand begun follows => exact ⟨_, .missingOperand begun follows⟩
  | invalidNumber invalid follows => exact ⟨_, .invalidNumber invalid follows⟩
  | numberBehindGroup valid follows => exact ⟨_, .numberBehindGroup valid follows⟩
  | groupBehindNumber balanced nonempty => exact ⟨_, .groupBehindNumber balanced nonempty⟩
  | groupBehindGroup wellFormed within => exact ⟨_, .groupBehindGroup wellFormed (by omega)⟩
  | emptyGroup => exact ⟨_, .emptyGroup⟩
  | tooDeep balanced nonempty beyond => exact ⟨_, .tooDeep balanced nonempty (by omega)⟩
  | unclosed unpaired => exact ⟨_, .unclosed unpaired⟩
  | unopened => exact ⟨_, .unopened⟩
  | unrecognized => exact ⟨_, .unrecognized⟩

/-- Tokens are refused for the same reason one level deeper. -/
theorem Outcome.deepen {tokens : List Token} {error : ParseError} {log : List Event}
    (outcome : Outcome limit depth tokens (.error error) log) :
    ∃ log',
      Outcome (limit + 1) (depth + 1) tokens (.error (error.underLimit (limit + 1))) log' := by
  generalize failed : Except.error error = result at outcome
  induction outcome with
  | empty => cases failed
  | accepted => cases failed
  | rejected admissible split problem =>
      cases failed
      obtain ⟨log', problem⟩ := problem.deepen
      exact ⟨_, .rejected admissible.deepen split problem⟩
  | nested admissible split balanced nonempty within _ inductionHypothesis =>
      cases failed
      obtain ⟨log', inside⟩ := inductionHypothesis rfl
      exact ⟨_, .nested admissible.deepen split balanced nonempty (by omega) inside⟩

end Deepen

/-! ### Texts around a group -/

/-- A text behind which an operand is due: it is empty or ends with an operator. -/
def AwaitsOperand (text : String) : Prop :=
  text = "" ∨ ∃ (before : List Char) (op : Operator), text.toList = before ++ [op.symbol]

/-- A text with a group is cut into tokens part by part. -/
theorem tokenize_group (before inner after : String) :
    tokenize (before ++ "(" ++ inner ++ ")" ++ after) =
      tokenize before ++ .openParen :: (tokenize inner ++ .closeParen :: tokenize after) := by
  have characters : (before ++ "(" ++ inner ++ ")" ++ after).toList =
      before.toList ++ '(' :: (inner.toList ++ ')' :: after.toList) := by
    simp
  rw [tokenize, characters, tokenizeChars_append_cons rfl, tokenizeChars_append_cons rfl]
  rfl

/-- A text behind which an operand is due does not end with a digit or point. -/
theorem AwaitsOperand.isNumeric_getLast {text : String} (awaits : AwaitsOperand text) :
    ∀ character ∈ text.toList.getLast?, isNumeric character = false := by
  rcases awaits with rfl | ⟨before, op, split⟩
  · simp
  · simp [split, isNumeric_symbol]

/-- Where a text without a digit or point at its end may be read with a digit behind it, its
tokens are a lead. -/
theorem exists_lead_of_digit {settings : Settings} {characters : List Char}
    (ends : ∀ character ∈ characters.getLast?, isNumeric character = false)
    (isRead : ∃ expr, (parse settings (String.ofList (characters ++ ['1']))).result = .ok expr) :
    ∃ lead : Lead, lead.tokens = tokenizeChars characters ∧ lead.WellFormed ∧
      lead.depth ≤ settings.maxDepth := by
  obtain ⟨expr, parsed⟩ := isRead
  obtain ⟨source, wellFormed, within, spells, -⟩ := exists_source_of_parse parsed
  have tokens := Source.tokenize_text wellFormed
  rw [spells, tokenize, String.toList_ofList,
    tokenizeChars_append_run ends (by simp) (by simp [isNumeric])] at tokens
  cases source with
  | empty => simp [Source.tokens] at tokens
  | written span =>
      obtain ⟨lead, factor, rfl⟩ := Span.exists_add wellFormed
      have deep : (lead.add factor).depth ≤ settings.maxDepth := within
      rw [Lead.depth_add] at deep
      rw [Source.tokens, Lead.tokens_add] at tokens
      refine ⟨lead, ?_, (Lead.wellFormed_add.mp wellFormed).1,
        Nat.le_trans (Nat.le_max_left _ _) deep⟩
      cases factor with
      | number run => exact (List.append_inj' tokens rfl).1.symm
      | group inner =>
          -- A group does not end with a number.
          rw [Factor.tokens, List.cons_append, ← List.cons_append, ← List.append_assoc] at tokens
          cases (List.append_inj' tokens rfl).2

/-- Where an operand is due, the tokens of a text that may be read with one are a lead. -/
theorem AwaitsOperand.exists_lead {settings : Settings} {text : String}
    (awaits : AwaitsOperand text)
    (isRead : ∃ expr, (parse settings (text ++ "1")).result = .ok expr) :
    ∃ lead : Lead, lead.tokens = tokenize text ∧ lead.WellFormed ∧
      lead.depth ≤ settings.maxDepth := by
  refine exists_lead_of_digit awaits.isNumeric_getLast ?_
  have spelled : String.ofList (text.toList ++ ['1']) = text ++ "1" := by
    rw [String.ofList_append, String.ofList_toList]
  rwa [spelled]

/-- An error inside a group does not depend on what stands around the group. Where the
contents of a group are refused as a text of their own, with room for one group less, a text
with this group is refused with exactly that error, unless it speaks of the limit, which is
then the limit of the whole text. -/
theorem parse_error_in_group (settings : Settings) (room : 1 ≤ settings.maxDepth)
    {before inner : String} (after : String) {error : ParseError} (awaits : AwaitsOperand before)
    (isRead : ∃ expr, (parse settings (before ++ "1")).result = .ok expr) (nonempty : inner ≠ "")
    (balanced : Balanced '(' ')' inner.toList)
    (failed : (parse { settings with maxDepth := settings.maxDepth - 1 } inner).result =
      .error error) :
    ((∀ limit, error ≠ .nestingTooDeep limit) →
      (parse settings (before ++ "(" ++ inner ++ ")" ++ after)).result = .error error) ∧
    (∀ limit, error = .nestingTooDeep limit →
      (parse settings (before ++ "(" ++ inner ++ ")" ++ after)).result =
        .error (.nestingTooDeep settings.maxDepth)) := by
  obtain ⟨lead, isLead, wellFormed, within⟩ := awaits.exists_lead isRead
  obtain ⟨log, outcome⟩ := parse_eq_error_iff.mp failed
  obtain ⟨log', inside⟩ := outcome.deepen
  have admissible : (Checked.due lead).Admissible settings.maxDepth 0 :=
    ⟨wellFormed, by rwa [Nat.zero_add]⟩
  have isBalanced : IsBalanced (tokenize inner) := by
    rw [← balanced_flatMap_chars_iff (canonical_tokenize inner), tokenize,
      flatMap_chars_tokenizeChars]
    exact balanced
  have contents : tokenize inner ≠ [] := by
    intro empty
    have spelled := text_tokenize inner
    rw [empty, text_nil] at spelled
    exact nonempty spelled.symm
  simp only [Nat.sub_add_cancel room] at inside
  have split : (Checked.due lead).tokens ++
      .openParen :: (tokenize inner ++ .closeParen :: tokenize after) =
        tokenize (before ++ "(" ++ inner ++ ")" ++ after) := by
    rw [tokenize_group, ← isLead, Checked.tokens_due]
  have refused : (parse settings (before ++ "(" ++ inner ++ ")" ++ after)).result =
      .error (error.underLimit settings.maxDepth) :=
    parse_eq_error_iff.mpr ⟨_, .nested admissible split isBalanced contents room inside⟩
  constructor
  · intro notLimit
    rw [refused, ParseError.underLimit_of_ne _ notLimit]
  · rintro limit rfl
    exact refused

/-- In a group, a missing operand is reported at its place in the group, whatever follows. -/
theorem parse_error_in_group_missing_operand :
    (parse { maxDepth := 1 } "2*(3+)-(é").result = .error (.missingOperand 1 "3+") := by
  have product : (Source.written (.unsigned (.product (.single (.number ['2'])) .multiply
      (.number ['1'])))).WellFormed :=
    ⟨numberRun_digit true rfl, rfl, numberRun_digit false rfl⟩
  have isRead : ∃ expr, (parse { maxDepth := 1 } ("2*" ++ "1")).result = .ok expr :=
    ⟨_, congrArg Logged.result (parse_text product (by decide))⟩
  have balanced : Balanced '(' ')' "3+".toList := (balanced_iff_nesting (by decide)).mpr (by decide)
  let lead : Lead := .behind (.unsigned (.single (.number ['3']))) .add
  have admissible : (Checked.due lead).Admissible 0 0 := ⟨numberRun_digit true rfl, Nat.le_refl 0⟩
  have problem : Problem 0 0 (text (tokenize "3+")) ⟨.due lead, none⟩ []
      (.missingOperand lead.operatorIndex (text (tokenize "3+"))) [] :=
    .missingOperand Lead.noConfusion .stop
  have failed : (parse { maxDepth := 0 } "3+").result = .error (.missingOperand 1 "3+") :=
    parse_eq_error_iff.mpr ⟨_, .rejected admissible rfl problem⟩
  have refused := (parse_error_in_group { maxDepth := 1 } (Nat.le_refl 1) "-(é"
    (.inr ⟨['2'], .multiply, rfl⟩) isRead (by decide) balanced failed).1 (by simp)
  have spelled : "2*" ++ "(" ++ "3+" ++ ")" ++ "-(é" = "2*(3+)-(é" := by decide
  rwa [spelled] at refused

end Calculator
