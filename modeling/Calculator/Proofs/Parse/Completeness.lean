import Calculator.Proofs.Parse.Outcome

/-!
# Written expressions are read

The converse of `Outcome`: the tokens of a well-formed span are read, with its tree and its
events, as long as its groups nest within the limit, and otherwise the limit is the only
thing that stops them. `Reads` says that some progress is made from the start of a span
whatever follows it.
-/

namespace Calculator

open Logged Token

/-- The tokens of some progress bring a fresh reading there, whatever follows. -/
def Reads (limit depth : Nat) (progress : Progress) : Prop :=
  ∀ whole rest, readSpan limit depth whole {} (progress.tokens ++ rest) =
    after (progress.checked.events depth) (readSpan limit depth whole progress.reading rest)

/-- The progress behind a factor. A number is not yet settled there. -/
def Lead.progress (lead : Lead) : Factor → Progress
  | .number run => ⟨.due lead, some run⟩
  | .group inner => ⟨.closed lead inner, none⟩

theorem Factor.tokens_group_append (inner : Span) (rest : List Token) :
    (Factor.group inner).tokens ++ rest = .openParen :: (inner.tokens ++ .closeParen :: rest) := by
  simp [Factor.tokens]

/-- Reading goes on at a group that is closed with its contents. -/
theorem readSpan_group {limit depth : Nat} {whole inner : List Token} (reading : Reading)
    (balanced : IsBalanced inner) (after : List Token) :
    readSpan limit depth whole reading (.openParen :: (inner ++ .closeParen :: after)) = (do
      reading.enterGroup whole limit (depth + 1) inner
      let operand ← readSpan limit (depth + 1) inner {} inner
      let reading ← reading.leaveGroup whole inner operand
      readSpan limit depth whole reading after) := by
  have found := enclosed?_eq_some_iff.mpr ⟨balanced, Eq.refl (inner ++ closeParen :: after)⟩
  rw [readSpan]
  split
  · next inner' after' found' =>
      obtain ⟨rfl, rfl⟩ : inner = inner' ∧ after = after' := by
        simpa using found.symm.trans found'
      rfl
  · next unpaired => cases found.symm.trans unpaired

section Steps

theorem reads_start (limit depth : Nat) : Reads limit depth ⟨.due .start, none⟩ := by
  intro whole rest
  simp only [Progress.tokens_checked, Checked.tokens_due, Lead.tokens_start, Checked.events_due,
    Lead.events_start, after_nil]
  rfl

variable {limit depth : Nat}

/-- A sign may be read at the start of a span. -/
theorem reads_sign {op : Operator} (additive : op.isMultiplicative = false) :
    Reads limit depth ⟨.due (.sign op), none⟩ := by
  intro whole rest
  have before := reads_start limit depth whole (.operator op :: rest)
  simp only [Progress.reading_checked, Checked.reading_due] at before
  rw [readSpan, Lead.addOperator_sign whole additive, ending_ok_bind, after_after] at before
  simpa using before

/-- Digits may be read anywhere. -/
theorem Reads.number {checked : Checked} (reads : Reads limit depth ⟨checked, none⟩)
    (run : List Char) : Reads limit depth ⟨checked, some run⟩ := by
  intro whole rest
  have before := reads whole (.number run :: rest)
  rw [readSpan] at before
  simpa using before

/-- A group may be read where an operand is due, if its contents may. -/
theorem Reads.group {lead : Lead} {inner : Span} (reads : Reads limit depth ⟨.due lead, none⟩)
    (within : depth + 1 ≤ limit)
    (contents : readSpan limit (depth + 1) inner.tokens {} inner.tokens =
      ending (.ok inner.expr) (inner.events (depth + 1))) :
    Reads limit depth ⟨.closed lead inner, none⟩ := by
  intro whole rest
  have before := reads whole (.openParen :: (inner.tokens ++ .closeParen :: rest))
  have notWritten : lead.reading.pending.isWritten = false :=
    Progress.isWritten_reading ⟨.due lead, none⟩
  simp only [Progress.reading_checked, Checked.reading_due] at before
  rw [readSpan_group _ inner.isBalanced_tokens,
    enterGroup_ok whole inner.tokens_ne_nil notWritten within, contents] at before
  simp only [ending_ok_bind, after_after, lead.leaveGroup_eq whole inner] at before
  simpa [Factor.tokens, Lead.events_add, Factor.events] using before

/-- Behind a factor that may stand there, an operator may be read. -/
theorem Reads.operator {lead : Lead} {factor : Factor} (ofFactor : factor.WellFormed lead.isStart)
    (reads : Reads limit depth (lead.progress factor)) (op : Operator) :
    Reads limit depth ⟨.due (.behind (lead.add factor) op), none⟩ := by
  intro whole rest
  have before := reads whole (.operator op :: rest)
  cases factor with
  | number run =>
      have taken := lead.addOperator_taken whole (.number run) op
        ((Checked.due lead).pending_addDigits run)
        (lead.settle_number whole (numberRun_iff.mp ofFactor).2)
      simp only [Lead.progress, Progress.reading_digits, Checked.reading_due] at before taken
      rw [readSpan, taken, ending_ok_bind, after_after] at before
      simpa [Factor.tokens, Lead.events_add_number] using before
  | group inner =>
      have taken := lead.addOperator_taken whole (.group inner) op
        (by simp) (settle_absent whole (lead.pending_taken (.group inner)))
      simp only [Lead.progress, Progress.reading_checked, Checked.reading_closed] at before
      rw [readSpan, taken, ending_ok_bind, after_nil] at before
      simpa using before

/-- Behind a factor that may stand there, the span may end. -/
theorem Reads.close {lead : Lead} {factor : Factor} (ofFactor : factor.WellFormed lead.isStart)
    (reads : Reads limit depth (lead.progress factor)) (whole : List Token) :
    readSpan limit depth whole {} (lead.add factor).tokens =
      ending (.ok (lead.add factor).expr) ((lead.add factor).events depth) := by
  have before := reads whole []
  cases factor with
  | number run =>
      have closes := close_eq_ok whole (lead.settle_number whole (numberRun_iff.mp ofFactor).2)
        (Span.close_openSpan _)
      simp only [Lead.progress, Progress.reading_digits, Checked.reading_due] at before
      rw [readSpan, closes, after_ending] at before
      simpa [Factor.tokens, Lead.events_add_number] using before
  | group inner =>
      have closes := close_eq_ok whole (settle_absent whole (lead.pending_taken (.group inner)))
        (Span.close_openSpan _)
      simp only [Lead.progress, Progress.reading_checked, Checked.reading_closed] at before
      rw [readSpan, closes, after_ending] at before
      simpa using before

end Steps

/-- The progress behind the last factor of a span. -/
def Span.progress (span : Span) : Progress :=
  span.lead.progress span.lastFactor

theorem Lead.progress_add (lead : Lead) (factor : Factor) :
    (lead.add factor).progress = lead.progress factor := by
  rw [Span.progress, (Span.lead_add lead factor).1, (Span.lead_add lead factor).2]

/-- A lead is read if the span in it is. -/
theorem reads_due {limit depth : Nat} {lead : Lead} (wellFormed : lead.WellFormed)
    (ofSpan : ∀ span op, lead = .behind span op → Reads limit depth span.progress) :
    Reads limit depth ⟨.due lead, none⟩ := by
  cases lead with
  | start => exact reads_start limit depth
  | sign op => exact reads_sign wellFormed
  | behind span op =>
      have reads := ofSpan span op rfl
      obtain ⟨before, factor, rfl⟩ := Span.exists_add wellFormed
      rw [Lead.progress_add] at reads
      exact reads.operator (Lead.wellFormed_add.mp wellFormed).2 op

/-- A well-formed span within the limit is read up to its end, whatever follows it. -/
theorem reads_span {limit depth : Nat} {span : Span} (wellFormed : span.WellFormed)
    (within : depth + span.depth ≤ limit) : Reads limit depth span.progress := by
  induction span, wellFormed using Span.induction_on_factors generalizing depth with
  | add lead factor wellFormed leadHypothesis groupHypothesis =>
      obtain ⟨ofLead, ofFactor⟩ := Lead.wellFormed_add.mp wellFormed
      rw [Lead.depth_add] at within
      rw [Lead.progress_add]
      have reads : Reads limit depth ⟨.due lead, none⟩ := by
        refine reads_due ofLead fun span op isLead => ?_
        subst isLead
        rw [Lead.depth] at within
        exact leadHypothesis span op ofLead rfl (by omega)
      cases factor with
      | number run => exact reads.number run
      | group inner =>
          rw [Factor.depth] at within
          have contents : Reads limit (depth + 1) inner.progress :=
            groupHypothesis inner ofFactor rfl (by omega)
          obtain ⟨before, factor, rfl⟩ := Span.exists_add ofFactor
          rw [Lead.progress_add] at contents
          exact reads.group (by omega) (contents.close (Lead.wellFormed_add.mp ofFactor).2 _)

/-- What stands before a factor is read, whatever follows it. -/
theorem reads_lead {limit depth : Nat} {lead : Lead} (wellFormed : lead.WellFormed)
    (within : depth + lead.depth ≤ limit) : Reads limit depth ⟨.due lead, none⟩ := by
  refine reads_due wellFormed fun span op isLead => ?_
  subst isLead
  exact reads_span wellFormed within

/-- The tokens of a well-formed span within the limit are read as its tree. -/
theorem readSpan_eq_ok {limit depth : Nat} {span : Span} (wellFormed : span.WellFormed)
    (within : depth + span.depth ≤ limit) (whole : List Token) :
    readSpan limit depth whole {} span.tokens = ending (.ok span.expr) (span.events depth) := by
  have reads := reads_span wellFormed within
  obtain ⟨lead, factor, rfl⟩ := Span.exists_add wellFormed
  rw [Lead.progress_add] at reads
  exact reads.close (Lead.wellFormed_add.mp wellFormed).2 whole

/-- Where a well-formed span nests deeper than the limit, nothing but the limit stops it. -/
theorem readSpan_eq_nestingTooDeep {limit depth : Nat} {span : Span} (wellFormed : span.WellFormed)
    (start : depth ≤ limit) (beyond : limit < depth + span.depth) (whole rest : List Token) :
    ∃ log, readSpan limit depth whole {} (span.tokens ++ rest) =
      ending (.error (.nestingTooDeep limit)) log := by
  induction span, wellFormed using Span.induction_on_factors generalizing depth whole rest with
  | add lead factor wellFormed leadHypothesis groupHypothesis =>
      obtain ⟨ofLead, ofFactor⟩ := Lead.wellFormed_add.mp wellFormed
      rw [Lead.depth_add] at beyond
      rw [Lead.tokens_add, List.append_assoc]
      by_cases leadWithin : depth + lead.depth ≤ limit
      case neg =>
        -- The limit is passed in the lead, which then ends with a span and an operator.
        cases lead with
        | start => exact absurd start leadWithin
        | sign op => exact absurd start leadWithin
        | behind span op =>
            rw [Lead.tokens_behind, List.append_assoc]
            exact leadHypothesis span op ofLead rfl start (Nat.lt_of_not_le leadWithin) whole _
      case pos =>
        have before := reads_lead ofLead leadWithin whole (factor.tokens ++ rest)
        simp only [Progress.tokens_checked, Progress.reading_checked, Checked.tokens_due,
          Checked.reading_due] at before
        rw [before]
        cases factor with
        | number run => rw [Factor.depth] at beyond; omega
        | group inner =>
            have notWritten : lead.reading.pending.isWritten = false :=
              Progress.isWritten_reading ⟨.due lead, none⟩
            rw [Factor.depth] at beyond
            rw [Factor.tokens_group_append, readSpan_group _ inner.isBalanced_tokens]
            by_cases within : depth + 1 ≤ limit
            case neg =>
              rw [enterGroup_tooDeep whole inner.tokens_ne_nil notWritten
                (Nat.lt_of_not_le within), ending_error_bind, after_ending]
              exact ⟨_, rfl⟩
            case pos =>
              obtain ⟨log, stops⟩ :=
                groupHypothesis inner ofFactor rfl within (by omega) inner.tokens []
              rw [List.append_nil] at stops
              rw [enterGroup_ok whole inner.tokens_ne_nil notWritten within, ending_ok_bind, stops,
                ending_error_bind, after_ending, after_ending]
              exact ⟨_, rfl⟩

end Calculator
