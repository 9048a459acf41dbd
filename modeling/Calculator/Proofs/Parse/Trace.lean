import Calculator.Proofs.Parse.Unmatched
import Calculator.Proofs.Token.Groups

/-!
# What reading reports

Reading reports the groups it enters and the products it completes. The groups it reports are
those of the text from left to right, each with its contents and its depth, up to the problem
that stops it or all of them. A whole text that has been read is reported last, and nothing else
ever is.
-/

namespace Calculator

open Logged Token

namespace Event

/-- The group that is reported to be read, with its depth. -/
def group? : Event → Option (String × Nat)
  | group text depth => some (text, depth)
  | folding _ | parsed _ _ | folded _ _ _ _ | malformed _ _ => none

/-- Whether a whole text is reported to have been read. -/
def isParsed : Event → Bool
  | parsed _ _ => true
  | group _ _ | folding _ | folded _ _ _ _ | malformed _ _ => false

/-- Whether an event belongs to the reading of a span `low` groups deep that stays within `high`
groups: it is a deeper group, or a product. -/
def IsOfSpan (low high : Nat) : Event → Prop
  | group _ depth => low < depth ∧ depth ≤ high
  | folding _ => True
  | parsed _ _ | folded _ _ _ _ | malformed _ _ => False

theorem IsOfSpan.isParsed_eq {low high : Nat} {event : Event}
    (isOfSpan : event.IsOfSpan low high) : event.isParsed = false := by
  cases event <;> first | rfl | cases isOfSpan

/-- The events of a group belong to the span that the group is in. -/
theorem isOfSpan_group {depth limit : Nat} {log : List Event} (text : String)
    (within : depth + 1 ≤ limit) (inside : ∀ event ∈ log, event.IsOfSpan (depth + 1) limit) :
    ∀ event ∈ group text (depth + 1) :: log, event.IsOfSpan depth limit := by
  refine List.forall_mem_cons.mpr ⟨⟨Nat.lt_succ_self depth, within⟩, fun event member => ?_⟩
  have isOfSpan := inside event member
  cases event with
  | group text inner => exact ⟨Nat.lt_of_succ_lt isOfSpan.1, isOfSpan.2⟩
  | folding op => trivial
  | parsed source expr => cases isOfSpan
  | folded op lhs rhs value => cases isOfSpan
  | malformed elements operators => cases isOfSpan

theorem IsOfSpan.bounds {low high : Nat} {event : Event} (isOfSpan : event.IsOfSpan low high) :
    ∀ group ∈ event.group?, low < group.2 ∧ group.2 ≤ high := by
  cases event with
  | group text depth => rintro _ ⟨⟩; exact isOfSpan
  | _ => rintro _ ⟨⟩

end Event

/-- The groups that a log reports, one after another. -/
def groups (log : List Event) : List (String × Nat) :=
  log.filterMap Event.group?

@[simp] theorem groups_append (first second : List Event) :
    groups (first ++ second) = groups first ++ groups second :=
  List.filterMap_append

@[simp] theorem groups_group (text : String) (depth : Nat) (log : List Event) :
    groups (.group text depth :: log) = (text, depth) :: groups log := rfl

@[simp] theorem Lead.groups_folding (lead : Lead) : groups lead.folding = [] := by
  cases lead with
  | start => rfl
  | sign op => rfl
  | behind span op =>
      cases multiplicative : op.isMultiplicative <;>
        simp [folding, multiplicative, groups, Event.group?]

@[simp] theorem groups_parsedEvents (text : String) (outcome : Except ParseError Expr) :
    groups (parsedEvents text outcome) = [] := by
  cases outcome <;> rfl

/-! ### Groups of tokens -/

section Tokens

variable {depth : Nat} {first inner : List Token}

theorem groupsOf_chars_append (canonical : Canonical first) (balanced : IsBalanced first)
    (second : List Token) :
    groupsOf depth ((first ++ second).flatMap chars) =
      groupsOf depth (first.flatMap chars) ++ groupsOf depth (second.flatMap chars) := by
  rw [List.flatMap_append, groupsOf_append ((balanced_flatMap_chars_iff canonical).mpr balanced)]

theorem groupsOf_chars_operator (op : Operator) :
    groupsOf depth ([.operator op].flatMap chars) = [] := by
  refine groupsOf_eq_nil ?_
  cases op <;> decide

theorem groupsOf_chars_group (canonical : Canonical inner) (balanced : IsBalanced inner)
    (after : List Token) :
    groupsOf depth ((.openParen :: (inner ++ .closeParen :: after)).flatMap chars) =
      some (text inner, depth + 1) ::
        (groupsOf (depth + 1) (inner.flatMap chars) ++ groupsOf depth (after.flatMap chars)) := by
  have contents := (balanced_flatMap_chars_iff canonical).mpr balanced
  have characters : (openParen :: (inner ++ closeParen :: after)).flatMap chars =
      ('(' :: inner.flatMap chars ++ [')']) ++ after.flatMap chars := by simp [chars]
  rw [characters, groupsOf_append (contents.group (by decide)), groupsOf_group contents,
    List.cons_append, text]

end Tokens

/-! ### Spans that have been read -/

/-- Where the span in a lead reports its groups from left to right, the lead does. -/
theorem Lead.groups_events {lead : Lead} (wellFormed : lead.WellFormed) (depth : Nat)
    (ofSpan : ∀ (span : Span) (op : Operator), span.WellFormed → lead = .behind span op →
      (groups (span.events depth)).map some = groupsOf depth (span.tokens.flatMap chars)) :
    (groups (lead.events depth)).map some = groupsOf depth (lead.tokens.flatMap chars) := by
  cases lead with
  | start => rfl
  | sign op => exact (groupsOf_chars_operator op).symm
  | behind span op =>
      have spanCanonical := Span.canonical_tokens wellFormed
      rw [events_behind, ofSpan span op wellFormed rfl, tokens_behind,
        groupsOf_chars_append spanCanonical span.isBalanced_tokens, groupsOf_chars_operator,
        List.append_nil]

/-- Reading a span reports its groups from left to right. -/
theorem Span.groups_events {span : Span} (wellFormed : span.WellFormed) (depth : Nat) :
    (groups (span.events depth)).map some = groupsOf depth (span.tokens.flatMap chars) := by
  induction span, wellFormed using induction_on_factors generalizing depth with
  | add lead factor wellFormed leadHypothesis groupHypothesis =>
      obtain ⟨ofLead, ofFactor⟩ := Lead.wellFormed_add.mp wellFormed
      have canonical := canonical_tokens wellFormed
      rw [Lead.tokens_add] at canonical
      have leadCanonical : Canonical lead.tokens := canonical.infix ⟨[], factor.tokens, rfl⟩
      have leadGroups := Lead.groups_events ofLead depth fun span op ofSpan isLead =>
        leadHypothesis span op ofSpan isLead depth
      have factorGroups : (groups (factor.events depth)).map some =
          groupsOf depth (factor.tokens.flatMap chars) := by
        cases factor with
        | number run =>
            have noGroup : '(' ∉ run := fun member =>
              (ne_paren_of_isNumeric (ofFactor.numeric _ member)).1 rfl
            exact (groupsOf_eq_nil (by simpa [Factor.tokens, chars] using noGroup)).symm
        | group inner =>
            have innerCanonical := canonical_tokens ofFactor
            rw [Factor.events, groups_group, List.map_cons, groupHypothesis inner ofFactor rfl,
              Factor.tokens, List.cons_append,
              groupsOf_chars_group innerCanonical inner.isBalanced_tokens]
            exact (congrArg _ (List.append_nil _)).symm
      rw [Lead.events_add, groups_append, groups_append, Lead.groups_folding, List.append_nil,
        List.map_append, leadGroups, factorGroups, Lead.tokens_add,
        groupsOf_chars_append leadCanonical lead.isBalanced_tokens]

mutual

theorem Factor.isOfSpan_events {depth limit : Nat} : (factor : Factor) →
    depth + factor.depth ≤ limit → ∀ event ∈ factor.events depth, event.IsOfSpan depth limit
  | .number _, _ => by simp [Factor.events]
  | .group span, within => by
      rw [Factor.depth] at within
      exact Event.isOfSpan_group _ (by omega) (span.isOfSpan_events (by omega))

theorem Term.isOfSpan_events {depth limit : Nat} : (term : Term) →
    depth + term.depth ≤ limit → ∀ event ∈ term.events depth, event.IsOfSpan depth limit
  | .single factor, within => factor.isOfSpan_events within
  | .product term op factor, within => by
      rw [Term.depth] at within
      rw [Term.events, List.forall_mem_append, List.forall_mem_append]
      exact ⟨⟨term.isOfSpan_events (by omega), factor.isOfSpan_events (by omega)⟩,
        by simp [Event.IsOfSpan]⟩

/-- Reading a span reports groups that are nested in it, and products. -/
theorem Span.isOfSpan_events {depth limit : Nat} : (span : Span) →
    depth + span.depth ≤ limit → ∀ event ∈ span.events depth, event.IsOfSpan depth limit
  | .unsigned term, within => term.isOfSpan_events within
  | .signed _ term, within => term.isOfSpan_events within
  | .sum span op term, within => by
      rw [Span.depth] at within
      rw [Span.events, List.forall_mem_append]
      exact ⟨span.isOfSpan_events (by omega), term.isOfSpan_events (by omega)⟩

end

/-! ### Readings that stop -/

section Stopped

variable {limit depth : Nat} {tokens : List Token} {log : List Event}

theorem Checked.groups_events {checked : Checked} (wellFormed : checked.WellFormed)
    (depth : Nat) :
    (groups (checked.events depth)).map some = groupsOf depth (checked.tokens.flatMap chars) := by
  cases checked with
  | closed lead inner => exact Span.groups_events wellFormed depth
  | due lead =>
      exact Lead.groups_events wellFormed depth fun span _ ofSpan _ =>
        Span.groups_events ofSpan depth

theorem Checked.isOfSpan_events {checked : Checked} (admissible : checked.Admissible limit depth) :
    ∀ event ∈ checked.events depth, event.IsOfSpan depth limit := by
  have within := admissible.within
  cases checked with
  | closed lead inner => exact (lead.add (.group inner)).isOfSpan_events within
  | due lead =>
      cases lead with
      | start => simp [events, Lead.events]
      | sign op => simp [events, Lead.events]
      | behind span op => exact span.isOfSpan_events within

/-- What is reported after the progress are groups that follow it. -/
theorem Problem.groups_prefix {expression : String} {progress : Progress} {rest : List Token}
    {error : ParseError} (canonical : Canonical rest)
    (problem : Problem limit depth expression progress rest error log) :
    ∃ following, progress.tokens ++ rest = progress.checked.tokens ++ following ∧
      (groups log).map some <+: groupsOf depth (following.flatMap chars) := by
  -- Digits open no group, so they may be counted as what follows.
  obtain ⟨following, split, atOnce⟩ : ∃ following,
      progress.tokens ++ rest = progress.checked.tokens ++ following ∧
        (progress.digits = none → following = rest) := by
    obtain ⟨checked, _ | run⟩ := progress
    · exact ⟨rest, rfl, fun _ => rfl⟩
    · exact ⟨.number run :: rest, by simp, nofun⟩
  refine ⟨following, split, ?_⟩
  cases problem with
  | @groupBehindGroup lead before inner after wellFormed =>
      have innerCanonical := Span.canonical_tokens wellFormed
      rw [atOnce rfl, groups_group, List.map_cons, Span.groups_events wellFormed,
        groupsOf_chars_group innerCanonical inner.isBalanced_tokens]
      exact List.cons_prefix_cons.mpr ⟨rfl, List.prefix_append _ _⟩
  | _ => exact List.nil_prefix

theorem Problem.isOfSpan_events {expression : String} {progress : Progress} {rest : List Token}
    {error : ParseError} (problem : Problem limit depth expression progress rest error log) :
    ∀ event ∈ log, event.IsOfSpan depth limit := by
  cases problem with
  | @groupBehindGroup lead before inner after wellFormed within =>
      exact Event.isOfSpan_group _ (by omega) (inner.isOfSpan_events within)
  | _ => simp

/-- However the reading of a span ends, it reports a first part of its groups. -/
theorem Outcome.groups_prefix {outcome : Except ParseError Expr} (canonical : Canonical tokens)
    (ends : Outcome limit depth tokens outcome log) :
    (groups log).map some <+: groupsOf depth (tokens.flatMap chars) := by
  induction ends with
  | empty => exact List.nil_prefix
  | @accepted depth span wellFormed => exact Span.groups_events wellFormed depth ▸ List.prefix_rfl
  | @rejected depth whole rest progress error log admissible split problem =>
      have restCanonical : Canonical rest := canonical.infix ⟨progress.tokens, [], by simpa⟩
      obtain ⟨following, split', reported⟩ := problem.groups_prefix restCanonical
      rw [← split, split'] at canonical ⊢
      have checkedCanonical : Canonical progress.checked.tokens :=
        canonical.infix ⟨[], following, rfl⟩
      rw [groups_append, List.map_append, Checked.groups_events admissible.wellFormed,
        groupsOf_chars_append checkedCanonical progress.checked.isBalanced_tokens]
      exact (List.prefix_append_right_inj _).mpr reported
  | @nested depth whole inner after checked error log admissible split balanced _ _ _
      inductionHypothesis =>
      subst split
      have checkedCanonical : Canonical checked.tokens := canonical.infix ⟨[], _, rfl⟩
      have innerCanonical : Canonical inner :=
        canonical.infix ⟨checked.tokens ++ [.openParen], .closeParen :: after, by simp⟩
      rw [groups_append, List.map_append, Checked.groups_events admissible.wellFormed,
        groupsOf_chars_append checkedCanonical checked.isBalanced_tokens, groups_group,
        groupsOf_chars_group innerCanonical balanced, List.map_cons]
      refine (List.prefix_append_right_inj _).mpr (List.cons_prefix_cons.mpr ⟨rfl, ?_⟩)
      exact (inductionHypothesis innerCanonical).trans (List.prefix_append _ _)

/-- A span that is read has all its groups reported. -/
theorem Outcome.groups_eq {expr : Expr} (ends : Outcome limit depth tokens (.ok expr) log) :
    (groups log).map some = groupsOf depth (tokens.flatMap chars) := by
  cases ends with
  | empty => rfl
  | accepted span wellFormed => exact Span.groups_events wellFormed depth

/-- However the reading of a span ends, no group beyond the limit is reported, and nothing but
groups and products. -/
theorem Outcome.isOfSpan_events {outcome : Except ParseError Expr}
    (ends : Outcome limit depth tokens outcome log) :
    ∀ event ∈ log, event.IsOfSpan depth limit := by
  induction ends with
  | empty => simp
  | accepted span wellFormed within => exact span.isOfSpan_events within
  | rejected admissible split problem =>
      exact List.forall_mem_append.mpr
        ⟨Checked.isOfSpan_events admissible, problem.isOfSpan_events⟩
  | nested admissible split balanced nonempty within failed inductionHypothesis =>
      exact List.forall_mem_append.mpr
        ⟨Checked.isOfSpan_events admissible, Event.isOfSpan_group _ within inductionHypothesis⟩

end Stopped

/-! ### Texts -/

/-- Whether a text is read or not, the groups that are reported are the first ones of the text
from left to right, each with what stands between its opening parenthesis and the partner of that
and, as its depth, with one more than the number of groups around it. No depth is beyond the
limit. If the text is read, all its groups are reported, one for each opening parenthesis, and at
last the text and its tree are. These are reported at no other time. -/
theorem parse_reports_groups (settings : Settings) (source : String) :
    (groups (parse settings source).events.toList).map some <+: groupsOf 0 source.toList ∧
    (∀ group ∈ groups (parse settings source).events.toList,
      1 ≤ group.2 ∧ group.2 ≤ settings.maxDepth) ∧
    (∀ cause, (parse settings source).result = .error cause →
      ∀ event ∈ (parse settings source).events.toList, event.isParsed = false) ∧
    ∀ expr, (parse settings source).result = .ok expr →
      (groups (parse settings source).events.toList).map some = groupsOf 0 source.toList ∧
      (groups (parse settings source).events.toList).length = source.toList.count '(' ∧
      ∃ log, (parse settings source).events.toList = log ++ [.parsed source expr] ∧
        (∀ event ∈ log, event.isParsed = false) ∧
        (Event.parsed source expr).message =
          "parsed " ++ Text.quoted source ++ " as " ++ expr.render := by
  obtain ⟨outcome, log, reads, ends⟩ := exists_parse_outcome settings source
  have isOfSpan := ends.isOfSpan_events
  have notParsed : ∀ event ∈ log, event.isParsed = false := fun event member =>
    (isOfSpan event member).isParsed_eq
  have characters : (tokenize source).flatMap chars = source.toList :=
    flatMap_chars_tokenizeChars source.toList
  rw [reads, result_ending, events_ending, groups_append, groups_parsedEvents, List.append_nil]
  refine ⟨?_, ?_, ?_, ?_⟩
  · rw [← characters]
    exact ends.groups_prefix (canonical_tokenize source)
  · intro group member
    obtain ⟨event, reported, isGroup⟩ := List.mem_filterMap.mp member
    exact (isOfSpan event reported).bounds group isGroup
  · rintro cause rfl
    simpa [parsedEvents] using notParsed
  · rintro expr rfl
    have all := ends.groups_eq
    rw [characters] at all
    refine ⟨all, ?_, log, rfl, notParsed, rfl⟩
    rw [← length_groupsOf 0, ← all, List.length_map]

/-- Both groups of a text are reported, the outer one first. -/
theorem parse_reports_groups_nested :
    groups (parse {} "2*((1)+3)").events.toList = [("(1)+3", 1), ("1", 2)] := by
  have wellFormed : (Source.written (.unsigned (.product (.single (.number ['2'])) .multiply
      (.group (.sum (.unsigned (.single (.group (.unsigned (.single (.number ['1'])))))) .add
        (.single (.number ['3']))))))).WellFormed :=
    ⟨numberRun_digit true rfl, rfl, numberRun_digit true rfl, rfl, numberRun_digit false rfl⟩
  have parsed : (parse {} "2*((1)+3)").result = .ok _ :=
    congrArg Logged.result (parse_text wellFormed (by decide))
  have all := ((parse_reports_groups {} "2*((1)+3)").2.2.2 _ parsed).1
  exact List.map_injective_iff.mpr (Option.some_injective _) (all.trans (by decide))

end Calculator
