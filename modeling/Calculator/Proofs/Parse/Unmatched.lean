import Calculator.Proofs.Token.Partner
import Calculator.Proofs.Parse.FirstProblem
import Calculator.Proofs.Parse.Surroundings

/-!
# Parentheses without a partner

The contents of a group are balanced, so a parenthesis is found to be unmatched only outside
all groups, and what has been read before it is balanced, too. It is then the first one of the
whole text that has no partner. It is reported exactly if nothing else was wrong before it,
which is to say that what stands before it may be read as it is or with one more operand.
-/

namespace Calculator

open Token

/-! ### Where reading gets to -/

/-- The parentheses of what has been passed are balanced. -/
theorem Checked.isBalanced_tokens (checked : Checked) : IsBalanced checked.tokens := by
  cases checked with
  | due lead => exact lead.isBalanced_tokens
  | closed lead inner => exact (lead.add (.group inner)).isBalanced_tokens

theorem Progress.isBalanced_tokens (progress : Progress) : IsBalanced progress.tokens := by
  obtain ⟨checked, _ | run⟩ := progress
  · exact checked.isBalanced_tokens
  · exact checked.isBalanced_tokens.append (isBalanced_singleton (by simp) (by simp))

/-- Where what has been read so far may be completed, reading gets behind it. This is the
converse of `Checked.completable`. -/
theorem Completable.exists_checked {settings : Settings} {characters : List Char}
    (completable : Completable settings characters)
    (ends : ∀ character ∈ characters.getLast?, isNumeric character = false) :
    ∃ checked : Checked, checked.Admissible settings.maxDepth 0 ∧
      checked.tokens = tokenizeChars characters := by
  rcases completable with ⟨expr, parsed⟩ | isRead
  · obtain ⟨source, wellFormed, within, spells, -⟩ := exists_source_of_parse parsed
    have tokens := Source.tokenize_text wellFormed
    rw [spells, tokenize, String.toList_ofList] at tokens
    cases source with
    | empty => exact ⟨.due .start, ⟨trivial, Nat.zero_le _⟩, tokens.symm⟩
    | written span =>
        obtain ⟨lead, factor, rfl⟩ := Span.exists_add wellFormed
        cases factor with
        | group inner =>
            exact ⟨.closed lead inner, ⟨wellFormed, by rwa [Nat.zero_add]⟩, tokens.symm⟩
        | number run =>
            have isRun := isNumber_getLast_tokenizeChars ends (.number run)
              (by simp [tokens, Source.tokens, Factor.tokens])
            cases isRun
  · obtain ⟨lead, tokens, wellFormed, within⟩ := exists_lead_of_digit ends isRead
    exact ⟨.due lead, ⟨wellFormed, by rwa [Nat.zero_add]⟩, tokens⟩

/-- Reading gets behind any characters that may be completed without the number at their
end. -/
theorem exists_progress_of_completable {settings : Settings} {characters : List Char}
    (completable : Completable settings (characters.rdropWhile isNumeric)) :
    ∃ progress : Progress, progress.checked.Admissible settings.maxDepth 0 ∧
      progress.tokens = tokenizeChars characters := by
  have ends : ∀ character ∈ (characters.rdropWhile isNumeric).getLast?,
      isNumeric character = false := by
    intro character isLast
    obtain ⟨nonempty, rfl⟩ := List.mem_getLast?_eq_getLast isLast
    exact Bool.eq_false_iff.mpr (List.rdropWhile_last_not isNumeric characters nonempty)
  have numeric : ∀ character ∈ characters.rtakeWhile isNumeric, isNumeric character :=
    fun character member => List.mem_rtakeWhile_imp member
  have parts : characters.rdropWhile isNumeric ++ characters.rtakeWhile isNumeric = characters :=
    List.rdropWhile_append_rtakeWhile
  obtain ⟨checked, admissible, tokens⟩ := completable.exists_checked ends
  by_cases written : characters.rtakeWhile isNumeric = []
  · refine ⟨⟨checked, none⟩, admissible, ?_⟩
    rw [written, List.append_nil] at parts
    rw [Progress.tokens_checked, tokens, parts]
  · refine ⟨⟨checked, some (characters.rtakeWhile isNumeric)⟩, admissible, ?_⟩
    rw [Progress.tokens_digits, tokens, ← tokenizeChars_append_run ends written numeric, parts]

/-! ### The problem -/

section Outcomes

variable {limit depth : Nat}

/-- What follows the progress may be a parenthesis without a partner. -/
theorem Problem.unmatched (expression : String) (progress : Progress) {rest : List Token}
    (starts : StartsUnpartnered openParen closeParen rest) :
    Problem limit depth expression progress rest
      (.unmatchedParenthesis (totalWidth progress.tokens) expression) [] := by
  cases starts with
  | unopened rest => exact .unopened
  | @unclosed rest never =>
      refine .unclosed (Option.eq_none_iff_forall_ne_some.mpr fun (inner, after) found => ?_)
      obtain ⟨balanced, split⟩ := enclosed?_eq_some_iff.mp found
      exact never inner after split balanced

/-- A parenthesis is only found to be unmatched outside all groups, where it has no partner
behind balanced tokens. -/
theorem Outcome.unmatched {tokens : List Token} {index : Nat} {expression : String}
    {log : List Event}
    (outcome : Outcome limit depth tokens (.error (.unmatchedParenthesis index expression)) log) :
    expression = text tokens ∧ ∃ (progress : Progress) (rest : List Token),
      progress.checked.Admissible limit depth ∧ progress.tokens ++ rest = tokens ∧
        StartsUnpartnered openParen closeParen rest ∧ totalWidth progress.tokens = index := by
  generalize failed : Except.error (ParseError.unmatchedParenthesis index expression) = result
    at outcome
  induction outcome with
  | empty => cases failed
  | accepted => cases failed
  | @rejected depth whole rest progress error log admissible split problem =>
      cases failed
      cases problem with
      | unopened => exact ⟨rfl, progress, _, admissible, split, .unopened _, rfl⟩
      | unclosed unpaired =>
          refine ⟨rfl, progress, _, admissible, split, .unclosed ?_, rfl⟩
          intro inner others splitRest balanced
          rw [enclosed?_eq_some_iff.mpr ⟨balanced, splitRest⟩] at unpaired
          cases unpaired
  | nested admissible split balanced nonempty within inside inductionHypothesis =>
      -- The contents of a group are balanced, so each parenthesis in it has its partner.
      obtain ⟨-, progress, rest, -, rfl, starts, -⟩ := inductionHypothesis failed
      have isLeast := starts.isLeast (by decide) progress.isBalanced_tokens
      exact absurd isLeast.1 (balanced.not_unpartnered (by decide) _)

end Outcomes

/-! ### Texts -/

/-- Tokens start with a parenthesis without a partner exactly if their characters do. -/
theorem startsUnpartnered_flatMap_chars_iff {tokens : List Token} (canonical : Canonical tokens) :
    StartsUnpartnered '(' ')' (tokens.flatMap chars) ↔
      StartsUnpartnered openParen closeParen tokens := by
  have cut := tokenizeChars_flatMap_chars canonical
  constructor
  · intro starts
    generalize tokens.flatMap chars = characters at starts cut
    subst cut
    cases starts with
    | unopened rest => exact @tokenizeChars_append_cons ')' rfl [] rest ▸ .unopened _
    | @unclosed rest never =>
        rw [show tokenizeChars ('(' :: rest) = openParen :: tokenizeChars rest from
          tokenizeChars_append_cons rfl [] rest]
        refine .unclosed fun inner others split balanced => ?_
        have ofInner : Canonical inner :=
          Canonical.infix (canonical_tokenizeChars rest)
            ⟨[], closeParen :: others, by simp [split]⟩
        refine never (inner.flatMap chars) (others.flatMap chars) ?_
          ((balanced_flatMap_chars_iff ofInner).mpr balanced)
        rw [← flatMap_chars_tokenizeChars rest, split]
        simp [chars]
  · intro starts
    cases starts with
    | unopened rest => exact .unopened _
    | @unclosed rest never =>
        refine .unclosed fun inner others split balanced => ?_
        have ofRest := (canonical_cons.mp canonical).2.1
        have splitChars : rest.flatMap chars = inner ++ ')' :: others := split
        have splitRest : rest = tokenizeChars inner ++ closeParen :: tokenizeChars others := by
          rw [← tokenizeChars_flatMap_chars ofRest, splitChars]
          exact tokenizeChars_append_cons rfl inner others
        refine never _ _ splitRest ?_
        rw [← flatMap_chars_tokenizeChars inner] at balanced
        exact (balanced_flatMap_chars_iff (canonical_tokenizeChars inner)).mp balanced

/-- A text is cut into tokens separately before and behind a parenthesis without a partner. -/
theorem StartsUnpartnered.tokenizeChars_append {after : List Char}
    (starts : StartsUnpartnered '(' ')' after) (before : List Char) :
    tokenizeChars (before ++ after) = tokenizeChars before ++ tokenizeChars after := by
  cases starts with
  | unopened rest =>
      exact (tokenizeChars_append_cons rfl before rest).trans
        (congrArg _ (tokenizeChars_append_cons rfl [] rest).symm)
  | @unclosed rest never =>
      exact (tokenizeChars_append_cons rfl before rest).trans
        (congrArg _ (tokenizeChars_append_cons rfl [] rest).symm)

/-- Parentheses without a partner are reported exactly. The report names the first parenthesis
that has none when all are matched with a stack, by its position in the whole text, and is made
exactly if what stands before it, less a number at its end, may be read as it is or with one
more operand. In particular the text of a group is never reported, and no text with such a
parenthesis is read. -/
theorem unmatched_parenthesis_iff (settings : Settings) (source : String) (index : Nat)
    (expression : String) :
    ((parse settings source).result = .error (.unmatchedParenthesis index expression) ↔
      expression = source ∧ ∃ before after, source.toList = before ++ after ∧
        IsLeast {position | Unpartnered '(' ')' source.toList position} before.length ∧
        (String.ofList before).utf8ByteSize = index ∧
        Completable settings (before.rdropWhile isNumeric)) ∧
    ∀ expr, (parse settings source).result = .ok expr →
      ∀ position, ¬ Unpartnered '(' ')' source.toList position := by
  have spells : (tokenize source).flatMap chars = source.toList :=
    flatMap_chars_tokenizeChars source.toList
  refine ⟨⟨?_, ?_⟩, ?_⟩
  · intro failed
    obtain ⟨log, outcome⟩ := parse_eq_error_iff.mp failed
    obtain ⟨rfl, progress, rest, admissible, split, starts, rfl⟩ := outcome.unmatched
    have canonical : Canonical (progress.tokens ++ rest) := split ▸ canonical_tokenize source
    obtain ⟨ofProgress, ofRest, -⟩ := canonical_append.mp canonical
    rw [← split, List.flatMap_append] at spells
    refine ⟨text_tokenize source, progress.tokens.flatMap chars, rest.flatMap chars, spells.symm,
      ?_, ?_, ?_⟩
    · rw [← spells, isLeast_unpartnered_iff (by decide)]
      exact ⟨(balanced_flatMap_chars_iff ofProgress).mpr progress.isBalanced_tokens,
        (startsUnpartnered_flatMap_chars_iff ofRest).mpr starts⟩
    · rw [totalWidth_eq_utf8ByteSize, text]
    · rw [progress.rdropWhile_chars]
      · exact Checked.completable admissible
      · obtain ⟨checked, digits⟩ := progress
        rintro run ⟨⟩
        exact (ofProgress.genuine (.number run) (by simp)).2
  · rintro ⟨rfl, before, after, split, isLeast, rfl, completable⟩
    rw [split, isLeast_unpartnered_iff (by decide)] at isLeast
    obtain ⟨-, starts⟩ := isLeast
    obtain ⟨progress, admissible, tokens⟩ := exists_progress_of_completable completable
    have cut : progress.tokens ++ tokenizeChars after = tokenize expression := by
      rw [tokens, tokenize, split, starts.tokenizeChars_append]
    have position : totalWidth progress.tokens = (String.ofList before).utf8ByteSize := by
      rw [tokens, totalWidth_eq_utf8ByteSize, text, flatMap_chars_tokenizeChars]
    rw [← flatMap_chars_tokenizeChars after,
      startsUnpartnered_flatMap_chars_iff (canonical_tokenizeChars after)] at starts
    have problem : Problem settings.maxDepth 0 (text (tokenize expression)) progress
        (tokenizeChars after) (.unmatchedParenthesis (totalWidth progress.tokens)
          (text (tokenize expression))) [] := .unmatched _ progress starts
    have outcome : Outcome settings.maxDepth 0 (tokenize expression) _ _ :=
      .rejected admissible cut problem
    rw [position, text_tokenize] at outcome
    exact parse_eq_error_iff.mpr ⟨_, outcome⟩
  · intro expr parsed
    obtain ⟨source, wellFormed, -, rfl, -⟩ := exists_source_of_parse parsed
    rw [Source.text, toList_text]
    refine Balanced.not_unpartnered (by decide) ?_
    cases source with
    | empty => exact (balanced_iff_nesting (by decide)).mpr rfl
    | written span =>
        exact (balanced_flatMap_chars_iff (Span.canonical_tokens wellFormed)).mpr
          span.isBalanced_tokens

/-- A parenthesis that is never closed is reported even where an operator is missing before it,
since only what stands before the number must be in order. -/
theorem unmatched_parenthesis_behind_number :
    (parse {} "(1)+2(3").result = .error (.unmatchedParenthesis 5 "(1)+2(3") := by
  have balanced : Balanced '(' ')' "(1)+2".toList :=
    (balanced_iff_nesting (by decide)).mpr (by decide)
  have starts : StartsUnpartnered '(' ')' ['(', '3'] := by
    refine .unclosed fun inner others split _ => ?_
    have member : ')' ∈ ['3'] := split ▸ List.mem_append_cons_self
    cases member with
    | tail _ member => cases member
  let group : Span := .unsigned (.single (.group (.unsigned (.single (.number ['1'])))))
  have completable : Completable {} "(1)+".toList :=
    @Checked.completable {} (.due (.behind group .add)) 0 ⟨numberRun_digit true rfl, by decide⟩
  refine (unmatched_parenthesis_iff {} "(1)+2(3" 5 _).1.mpr
    ⟨rfl, "(1)+2".toList, ['(', '3'], rfl, ?_, rfl, completable⟩
  exact (isLeast_unpartnered_iff (by decide)).mpr ⟨balanced, starts⟩

end Calculator
