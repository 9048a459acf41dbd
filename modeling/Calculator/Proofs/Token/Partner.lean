import Calculator.Proofs.Token.Nesting
import Mathlib.Order.Bounds.Basic

/-!
# Partners

Parentheses are matched with a stack: an opening one is put on it, and a closing one is the
partner of the opening one on top. What is left on the stack at the end, and what closes when
the stack is empty, has no partner. `isLeast_unpartnered_iff` says where the first of these
stands: behind balanced items, and either it closes or it is never closed. The items may be
tokens as well as characters.
-/

namespace Calculator

/-- How far items have been matched. Items are named by their positions. -/
structure Matching where
  /-- The number of items that have been passed. -/
  passed : Nat := 0
  /-- The opening items that are still open, newest first. -/
  unclosed : List Nat := []
  /-- The closing items that found nothing open. -/
  unopened : List Nat := []
  /-- The opening items that have been closed, each with its partner. -/
  pairs : List (Nat × Nat) := []

namespace Matching

variable {α : Type} [DecidableEq α]

/-- Pass one item. -/
def step (opening closing : α) (matching : Matching) (item : α) : Matching :=
  let here := matching.passed
  if item = opening then
    { matching with passed := here + 1, unclosed := here :: matching.unclosed }
  else if item = closing then
    match matching.unclosed with
    | [] => { matching with passed := here + 1, unopened := here :: matching.unopened }
    | partner :: others =>
        { matching with
          passed := here + 1, unclosed := others, pairs := (partner, here) :: matching.pairs }
  else { matching with passed := here + 1 }

/-- Pass some items. -/
def run (opening closing : α) (matching : Matching) (items : List α) : Matching :=
  items.foldl (step opening closing) matching

variable {opening closing : α} {matching : Matching}

@[simp] theorem run_nil : run opening closing matching [] = matching := rfl

@[simp] theorem run_cons (item : α) (items : List α) :
    run opening closing matching (item :: items) =
      run opening closing (step opening closing matching item) items := rfl

@[simp] theorem run_append (first second : List α) :
    run opening closing matching (first ++ second) =
      run opening closing (run opening closing matching first) second :=
  List.foldl_append

@[simp] theorem passed_step (item : α) :
    (step opening closing matching item).passed = matching.passed + 1 := by
  rw [step]
  split
  · rfl
  · split
    · split <;> rfl
    · rfl

@[simp] theorem passed_run (items : List α) :
    (run opening closing matching items).passed = matching.passed + items.length := by
  induction items generalizing matching with
  | nil => rfl
  | cons item items inductionHypothesis =>
      rw [run_cons, inductionHypothesis, passed_step, List.length_cons]
      omega

/-! ### What stays as it is -/

/-- A matching that comes from another one by passing more items. Only new items have been
added, and what found nothing open is not forgotten. -/
structure Continues (earlier later : Matching) : Prop where
  unclosed : ∀ position ∈ later.unclosed, position ∈ earlier.unclosed ∨ earlier.passed ≤ position
  unopened : ∀ position ∈ later.unopened, position ∈ earlier.unopened ∨ earlier.passed ≤ position
  kept : ∀ position ∈ earlier.unopened, position ∈ later.unopened

theorem continues_refl (matching : Matching) : matching.Continues matching :=
  ⟨fun _ => .inl, fun _ => .inl, fun _ => id⟩

theorem continues_step (item : α) : matching.Continues (step opening closing matching item) := by
  have newest : ∀ positions : List Nat, ∀ position ∈ matching.passed :: positions,
      position ∈ positions ∨ matching.passed ≤ position := by
    intro positions position member
    rcases List.mem_cons.mp member with rfl | member
    · exact .inr (Nat.le_refl _)
    · exact .inl member
  rw [step]
  split
  · exact ⟨newest _, fun _ => .inl, fun _ => id⟩
  · split
    · split
      · next empty =>
          exact ⟨fun _ => .inl, newest _, fun _ member => List.mem_cons_of_mem _ member⟩
      · next partner others stack =>
          refine ⟨fun _ member => .inl ?_, fun _ => .inl, fun _ => id⟩
          rw [stack]
          exact List.mem_cons_of_mem _ member
    · exact ⟨fun _ => .inl, fun _ => .inl, fun _ => id⟩

theorem Continues.trans {first second third : Matching} (le : first.passed ≤ second.passed)
    (earlier : first.Continues second) (later : second.Continues third) :
    first.Continues third where
  unclosed := fun position member =>
    (later.unclosed position member).elim (earlier.unclosed position) fun new =>
      .inr (Nat.le_trans le new)
  unopened := fun position member =>
    (later.unopened position member).elim (earlier.unopened position) fun new =>
      .inr (Nat.le_trans le new)
  kept := fun position member => later.kept position (earlier.kept position member)

theorem continues_run (opening closing : α) (matching : Matching) (items : List α) :
    matching.Continues (run opening closing matching items) := by
  induction items generalizing matching with
  | nil => exact continues_refl matching
  | cons item items inductionHypothesis =>
      exact (continues_step item).trans (by simp) (inductionHypothesis _)

/-! ### The stack -/

/-- Behind items that leave `final` of `depth` open ones open, the stack is that high above
what it held before, and no item found nothing open. -/
theorem run_of_nesting {items : List α} {depth final : Nat}
    (inside : nesting opening closing depth items = some final) {above below : List Nat}
    (stack : matching.unclosed = above ++ below) (height : above.length = depth) :
    ∃ above', (run opening closing matching items).unclosed = above' ++ below ∧
      above'.length = final ∧
      (run opening closing matching items).unopened = matching.unopened := by
  induction items generalizing matching depth above with
  | nil =>
      cases inside
      exact ⟨above, stack, height, rfl⟩
  | cons item items inductionHypothesis =>
      simp only [nesting] at inside
      rw [run_cons, step]
      by_cases opens : item = opening
      · simp only [if_pos opens] at inside ⊢
        have raised : matching.passed :: matching.unclosed = (matching.passed :: above) ++ below := by
          rw [stack, List.cons_append]
        exact inductionHypothesis inside raised (by rw [List.length_cons, height])
      by_cases closes : item = closing
      · simp only [if_neg opens, if_pos closes] at inside ⊢
        subst height
        cases above with
        | nil => cases inside
        | cons partner above =>
            simp only [stack, List.cons_append]
            exact inductionHypothesis inside rfl rfl
      · simp only [if_neg opens, if_neg closes] at inside ⊢
        exact inductionHypothesis inside stack height

/-- What lies below the stack stays there as long as it is not closed. -/
theorem suffix_unclosed {items : List α} {depth : Nat} {above below : List Nat}
    (inside : ∀ part others, items = part ++ closing :: others →
      nesting opening closing depth part ≠ some 0)
    (stack : matching.unclosed = above ++ below) (height : above.length = depth) :
    below <:+ (run opening closing matching items).unclosed := by
  induction items generalizing matching depth above with
  | nil => exact ⟨above, stack.symm⟩
  | cons item items inductionHypothesis =>
      rw [run_cons, step]
      by_cases opens : item = opening
      · simp only [if_pos opens]
        have raised : matching.passed :: matching.unclosed = (matching.passed :: above) ++ below := by
          rw [stack, List.cons_append]
        have higher : (matching.passed :: above).length = depth + 1 := by
          rw [List.length_cons, height]
        refine inductionHypothesis (fun part others split closed => ?_) raised higher
        exact inside (item :: part) others (by simp [split]) (by simpa [nesting, opens] using closed)
      by_cases closes : item = closing
      · simp only [if_neg opens, if_pos closes]
        subst height
        cases above with
        | nil => exact absurd rfl (inside [] items (by simp [closes]))
        | cons partner above =>
            simp only [stack, List.cons_append]
            refine inductionHypothesis (fun part others split closed => ?_) rfl rfl
            refine inside (item :: part) others (by simp [split]) ?_
            simpa only [nesting, List.length_cons, if_neg opens, if_pos closes] using closed
      · simp only [if_neg opens, if_neg closes]
        refine inductionHypothesis (fun part others split closed => ?_) stack height
        exact inside (item :: part) others (by simp [split])
          (by simpa [nesting, opens, closes] using closed)

end Matching

section Unpartnered

variable {α : Type} [DecidableEq α]

/-- All items, matched from the start. -/
def matchUp (opening closing : α) (items : List α) : Matching :=
  Matching.run opening closing {} items

theorem passed_matchUp (opening closing : α) (items : List α) :
    (matchUp opening closing items).passed = items.length := by
  rw [matchUp, Matching.passed_run, Nat.zero_add]

/-- The item at a position opens or closes and has no partner. -/
def Unpartnered (opening closing : α) (items : List α) (position : Nat) : Prop :=
  position ∈ (matchUp opening closing items).unclosed ∨
    position ∈ (matchUp opening closing items).unopened

instance (opening closing : α) (items : List α) (position : Nat) :
    Decidable (Unpartnered opening closing items position) :=
  inferInstanceAs (Decidable (_ ∨ _))

/-- Behind balanced items, the first one closes what is not open or opens what is never
closed. -/
inductive StartsUnpartnered (opening closing : α) : List α → Prop where
  | unopened (rest : List α) : StartsUnpartnered opening closing (closing :: rest)
  | unclosed {rest : List α}
      (never : ∀ inner others, rest = inner ++ closing :: others →
        ¬ Balanced opening closing inner) :
      StartsUnpartnered opening closing (opening :: rest)

variable {opening closing : α} (distinct : opening ≠ closing)
include distinct

/-- Balanced items are matched among themselves. -/
theorem Balanced.matchUp_eq {items : List α} (balanced : Balanced opening closing items) :
    (matchUp opening closing items).unclosed = [] ∧
      (matchUp opening closing items).unopened = [] := by
  have inside := (balanced_iff_nesting distinct).mp balanced
  have empty : ({} : Matching).unclosed = [] ++ [] := rfl
  obtain ⟨above, stack, height, unopened⟩ := Matching.run_of_nesting inside empty rfl
  rw [List.append_nil, List.eq_nil_of_length_eq_zero height] at stack
  exact ⟨stack, unopened⟩

/-- In balanced items every item has its partner. -/
theorem Balanced.not_unpartnered {items : List α} (balanced : Balanced opening closing items)
    (position : Nat) : ¬ Unpartnered opening closing items position := by
  obtain ⟨unclosed, unopened⟩ := balanced.matchUp_eq distinct
  simp [Unpartnered, unclosed, unopened]

/-- An opening item is left on the stack if no closing one stands behind balanced items. -/
theorem mem_unclosed_of_forall_not_balanced (before : List α) {rest : List α}
    (never : ∀ inner others, rest = inner ++ closing :: others →
      ¬ Balanced opening closing inner) :
    before.length ∈ (matchUp opening closing (before ++ opening :: rest)).unclosed := by
  have passed := passed_matchUp opening closing before
  rw [matchUp, Matching.run_append, ← matchUp, Matching.run_cons]
  generalize matchUp opening closing before = matching at passed ⊢
  have top : (matching.step opening closing opening).unclosed =
      [] ++ before.length :: matching.unclosed := by
    simp [Matching.step, passed]
  have notClosed : ∀ part others, rest = part ++ closing :: others →
      nesting opening closing 0 part ≠ some 0 := fun part others split closed =>
    never part others split ((balanced_iff_nesting distinct).mpr closed)
  have stays := Matching.suffix_unclosed notClosed top rfl
  exact stays.subset (by simp)

/-- Where an item behind balanced ones has no partner, it is the first such item. -/
theorem StartsUnpartnered.isLeast {before after : List α}
    (starts : StartsUnpartnered opening closing after)
    (balanced : Balanced opening closing before) :
    IsLeast {position | Unpartnered opening closing (before ++ after) position}
      before.length := by
  obtain ⟨unclosed, unopened⟩ := balanced.matchUp_eq distinct
  have passed := passed_matchUp opening closing before
  have split : matchUp opening closing (before ++ after) =
      Matching.run opening closing (matchUp opening closing before) after := by
    simp [matchUp]
  have continues := Matching.continues_run opening closing (matchUp opening closing before) after
  generalize matchUp opening closing before = matching at *
  constructor
  · cases starts with
    | unopened rest =>
        have kept := (Matching.continues_run opening closing
          (matching.step opening closing closing) rest).kept
        refine .inr ?_
        rw [split, ← passed]
        exact kept matching.passed (by simp [Matching.step, distinct.symm, unclosed])
    | unclosed never => exact .inl (mem_unclosed_of_forall_not_balanced distinct before never)
  · rintro position (member | member)
    · rw [split] at member
      simpa [unclosed, passed] using continues.unclosed position member
    · rw [split] at member
      simpa [unopened, passed] using continues.unopened position member

/-- Items are balanced, or there is a first one without a partner behind balanced ones. -/
theorem balanced_or_startsUnpartnered (items : List α) :
    Balanced opening closing items ∨ ∃ before after, items = before ++ after ∧
      Balanced opening closing before ∧ StartsUnpartnered opening closing after := by
  induction size : items.length using Nat.strong_induction_on generalizing items with
  | h size inductionHypothesis =>
      subst size
      -- Balanced items in front of others change nothing about them.
      have goOn : ∀ front rest : List α, items = front ++ rest → rest.length < items.length →
          Balanced opening closing front →
          Balanced opening closing items ∨ ∃ before after, items = before ++ after ∧
            Balanced opening closing before ∧ StartsUnpartnered opening closing after :=
        fun front rest split shorter balanced =>
        (inductionHypothesis rest.length shorter rest rfl).imp
          (fun ofRest => split ▸ balanced.append distinct ofRest)
          fun ⟨before, after, splitRest, ofBefore, starts⟩ =>
            ⟨front ++ before, after, by rw [split, splitRest, List.append_assoc],
              balanced.append distinct ofBefore, starts⟩
      cases items with
      | nil => exact .inl ((balanced_iff_nesting distinct).mpr rfl)
      | cons item rest =>
          by_cases opens : item = opening
          · subst opens
            by_cases closed : ∃ inner others, rest = inner ++ closing :: others ∧
                Balanced item closing inner
            · obtain ⟨inner, others, rfl, balanced⟩ := closed
              have shorter : others.length < (item :: (inner ++ closing :: others)).length := by
                simp only [List.length_cons, List.length_append]
                omega
              exact goOn (item :: inner ++ [closing]) others (by simp) shorter
                (balanced.group distinct)
            · refine .inr ⟨[], _, rfl, (balanced_iff_nesting distinct).mpr rfl, .unclosed ?_⟩
              exact fun inner others split balanced => closed ⟨inner, others, split, balanced⟩
          by_cases closes : item = closing
          · subst closes
            exact .inr ⟨[], _, rfl, (balanced_iff_nesting distinct).mpr rfl, .unopened rest⟩
          · exact goOn [item] rest rfl (by simp)
              ((balanced_iff_nesting distinct).mpr (by simp [nesting, opens, closes]))

/-- The first item without a partner stands behind balanced items, and there it closes what is
not open or opens what is never closed. -/
theorem isLeast_unpartnered_iff {before after : List α} :
    IsLeast {position | Unpartnered opening closing (before ++ after) position} before.length ↔
      Balanced opening closing before ∧ StartsUnpartnered opening closing after := by
  constructor
  · intro isLeast
    rcases balanced_or_startsUnpartnered distinct (before ++ after) with balanced | found
    · exact absurd isLeast.1 (balanced.not_unpartnered distinct _)
    · obtain ⟨before', after', split, balanced, starts⟩ := found
      have isLeast' := starts.isLeast distinct balanced
      rw [← split] at isLeast'
      obtain ⟨rfl, rfl⟩ := List.append_inj split (isLeast.unique isLeast')
      exact ⟨balanced, starts⟩
  · rintro ⟨balanced, starts⟩
    exact starts.isLeast distinct balanced

end Unpartnered

end Calculator
