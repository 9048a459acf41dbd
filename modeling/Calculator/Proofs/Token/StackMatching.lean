import Calculator.Proofs.Token.Closing
import Calculator.Proofs.Token.Groups
import Mathlib.Data.List.Nodup

/-!
# Matching by counts and by a stack

The partner of an opening item is found by two counts and no stack.
`closingIndex?_eq_some_iff_paired` says that it is the item that takes the opening one off the
stack when all items are matched from the start, whatever else is in the list. Counting looks at
nothing before the opening item and at nothing behind its partner. So what stands between the two
is matched by itself as it is in the whole list, which is how groups in groups are read.
-/

namespace Calculator

open Token

/-! ### Positions -/

/-- What stands at a position stands between what comes before it and what comes behind. -/
theorem exists_split_of_getElem? {α : Type} {items : List α} {position : Nat} {item : α}
    (isAt : items[position]? = some item) :
    ∃ before rest, items = before ++ item :: rest ∧ before.length = position := by
  obtain ⟨within, rfl⟩ := List.getElem?_eq_some_iff.mp isAt
  refine ⟨items.take position, items.drop (position + 1), ?_, ?_⟩
  · rw [← List.drop_eq_getElem_cons within, List.take_append_drop]
  · exact List.length_take_of_le (Nat.le_of_lt within)

/-- Positions behind an item are counted from there. -/
theorem getElem?_behind {α : Type} (before rest : List α) (item : α) (index : Nat) :
    (before ++ item :: rest)[before.length + 1 + index]? = rest[index]? := by
  have behind : before.length ≤ before.length + 1 + index := by omega
  have fromItem : before.length + 1 + index - before.length = index + 1 := by omega
  rw [List.getElem?_append_right behind, fromItem, List.getElem?_cons_succ]

/-- What stands between two items is cut out by their positions. -/
theorem extract_between {α : Type} (before inner after : List α) (first last : α) :
    (before ++ first :: (inner ++ last :: after)).extract (before.length + 1)
      (before.length + 1 + inner.length) = inner := by
  simp [List.drop_length_add_append]

/-! ### The opening items -/

namespace Matching

variable {α : Type} [DecidableEq α] {opening closing : α} {matching : Matching}

/-- The opening items that have been passed: those on the stack and those that have been closed. -/
def openers (matching : Matching) : List Nat :=
  matching.unclosed ++ matching.pairs.map Prod.fst

/-- An item that closes moves an opening one from the stack to the pairs, and only an opening item
is new. -/
theorem openers_step (item : α) :
    (step opening closing matching item).openers.Perm
      ([item].idxsOf opening matching.passed ++ matching.openers) := by
  by_cases opens : item = opening
  · simp [step, openers, opens]
  by_cases closes : item = closing
  · subst closes
    cases stack : matching.unclosed with
    | nil => simp [step, openers, opens, stack]
    | cons partner others => simp [step, openers, opens, stack]
  · simp [step, openers, opens, closes]

/-- Each opening item that is passed is on the stack or has been closed, and not twice. -/
theorem openers_run (items : List α) :
    (run opening closing matching items).openers.Perm
      (items.idxsOf opening matching.passed ++ matching.openers) := by
  induction items generalizing matching with
  | nil => exact List.Perm.refl _
  | cons item items inductionHypothesis =>
      let next := step opening closing matching item
      have passed : next.passed = matching.passed + 1 := passed_step item
      have inOrder : ([item] ++ items).idxsOf opening matching.passed =
          [item].idxsOf opening matching.passed ++ items.idxsOf opening (matching.passed + 1) :=
        List.idxsOf_append
      calc ((run opening closing next items).openers).Perm
            (items.idxsOf opening (matching.passed + 1) ++ next.openers) :=
            passed ▸ inductionHypothesis
        List.Perm _ (items.idxsOf opening (matching.passed + 1) ++
              ([item].idxsOf opening matching.passed ++ matching.openers)) :=
            (openers_step item).append_left _
        List.Perm _ (([item] ++ items).idxsOf opening matching.passed ++ matching.openers) := by
            rw [inOrder, ← List.append_assoc]
            exact List.perm_append_comm.append_right _

/-- Pairs stay paired. -/
theorem suffix_pairs (items : List α) :
    matching.pairs <:+ (run opening closing matching items).pairs := by
  induction items generalizing matching with
  | nil => exact List.suffix_refl _
  | cons item items inductionHypothesis =>
      have next : matching.pairs <:+ (step opening closing matching item).pairs := by
        rw [step]
        split
        · exact List.suffix_refl _
        · split
          · split
            · exact List.suffix_refl _
            · exact List.suffix_cons _ _
          · exact List.suffix_refl _
      exact next.trans inductionHypothesis

end Matching

section Paired

variable {α : Type} [DecidableEq α]

/-- Two items are partners when all items are matched with a stack. -/
def Paired (opening closing : α) (items : List α) (opened closed : Nat) : Prop :=
  (opened, closed) ∈ (matchUp opening closing items).pairs

instance (opening closing : α) (items : List α) (opened closed : Nat) :
    Decidable (Paired opening closing items opened closed) :=
  inferInstanceAs (Decidable (_ ∈ _))

variable {opening closing : α} {items : List α} {opened closed : Nat}

/-- What opens is left on the stack or has been closed. -/
theorem openers_matchUp (opening closing : α) (items : List α) :
    (matchUp opening closing items).openers.Perm (items.idxsOf opening) := by
  have passed := @Matching.openers_run _ _ opening closing {} items
  rwa [show ({} : Matching).openers = [] from rfl, List.append_nil] at passed

theorem nodup_openers (opening closing : α) (items : List α) :
    (matchUp opening closing items).openers.Nodup :=
  (openers_matchUp opening closing items).nodup_iff.mpr List.nodup_idxsOf

/-- An opening item has one partner at most. -/
theorem Paired.unique {other : Nat} (paired : Paired opening closing items opened closed)
    (paired' : Paired opening closing items opened other) : closed = other := by
  have once := (List.nodup_append'.mp (nodup_openers opening closing items)).2.1
  exact congrArg Prod.snd (List.inj_on_of_nodup_map once paired paired' rfl)

/-- An opening item has a partner unless it is left on the stack. -/
theorem mem_unclosed_iff_forall_not_paired (opens : items[opened]? = some opening) :
    opened ∈ (matchUp opening closing items).unclosed ↔
      ∀ closed, ¬ Paired opening closing items opened closed := by
  obtain ⟨within, isOpening⟩ := List.getElem?_eq_some_iff.mp opens
  have passed : opened ∈ (matchUp opening closing items).openers := by
    rw [(openers_matchUp opening closing items).mem_iff, List.mem_idxsOf_iff_getElem_pos within]
    exact beq_iff_eq.mpr isOpening
  constructor
  · intro unclosed closed paired
    have apart := (List.nodup_append'.mp (nodup_openers opening closing items)).2.2
    exact apart unclosed (List.mem_map_of_mem paired)
  · intro alone
    rcases List.mem_append.mp passed with unclosed | isFirst
    · exact unclosed
    · obtain ⟨⟨_, closed⟩, paired, rfl⟩ := List.mem_map.mp isFirst
      exact absurd paired (alone closed)

/-- Balanced items between an opening item and a closing one make these partners. -/
theorem Balanced.paired (distinct : opening ≠ closing) {inner : List α}
    (balanced : Balanced opening closing inner) (before after : List α) :
    Paired opening closing (before ++ opening :: (inner ++ closing :: after)) before.length
      (before.length + 1 + inner.length) := by
  have inside := (balanced_iff_nesting distinct).mp balanced
  have passed := passed_matchUp opening closing before
  rw [Paired, matchUp, Matching.run_append, ← matchUp, Matching.run_cons, Matching.run_append,
    Matching.run_cons]
  generalize matchUp opening closing before = matching at passed ⊢
  have top : (matching.step opening closing opening).unclosed =
      [] ++ before.length :: matching.unclosed := by
    simp [Matching.step, passed]
  -- Behind the balanced items the opening one is on top of the stack again.
  obtain ⟨above, stack, height, -⟩ := Matching.run_of_nesting inside top rfl
  rw [List.eq_nil_of_length_eq_zero height, List.nil_append] at stack
  have here : ((matching.step opening closing opening).run opening closing inner).passed =
      before.length + 1 + inner.length := by
    rw [Matching.passed_run, Matching.passed_step, passed]
  generalize (matching.step opening closing opening).run opening closing inner = reached
    at stack here ⊢
  refine (Matching.suffix_pairs after).subset ?_
  simp [Matching.step, distinct.symm, stack, here]

/-- In balanced items every opening one has a partner. -/
theorem Balanced.exists_paired (distinct : opening ≠ closing)
    (balanced : Balanced opening closing items) (opens : items[opened]? = some opening) :
    ∃ closed, Paired opening closing items opened closed := by
  by_contra alone
  have unclosed := (mem_unclosed_iff_forall_not_paired opens).mpr (not_exists.mp alone)
  rw [(balanced.matchUp_eq distinct).1] at unclosed
  cases unclosed

/-! ### The counts -/

/-- The counts agree at the partner that an opening item has on the stack. -/
theorem closingIndex?_eq_some_iff_paired (distinct : opening ≠ closing)
    (opens : items[opened]? = some opening) :
    closingIndex? opening closing items opened = some closed ↔
      Paired opening closing items opened closed := by
  obtain ⟨before, rest, rfl, rfl⟩ := exists_split_of_getElem? opens
  rw [closingIndex?_eq_some_iff distinct]
  constructor
  · rintro ⟨inner, after, rfl, balanced, rfl⟩
    exact balanced.paired distinct before after
  · intro paired
    by_cases isClosed : ∃ inner after, rest = inner ++ closing :: after ∧
        Balanced opening closing inner
    · obtain ⟨inner, after, rfl, balanced⟩ := isClosed
      exact ⟨inner, after, rfl, balanced, paired.unique (balanced.paired distinct before after)⟩
    · have unclosed := mem_unclosed_of_forall_not_balanced distinct before
        fun inner after split balanced => isClosed ⟨inner, after, split, balanced⟩
      exact absurd paired ((mem_unclosed_iff_forall_not_paired opens).mp unclosed closed)

/-- The counts never agree exactly if the opening item is never closed. -/
theorem closingIndex?_eq_none_iff (distinct : opening ≠ closing)
    (opens : items[opened]? = some opening) :
    closingIndex? opening closing items opened = none ↔
      ∀ closed, ¬ Paired opening closing items opened closed := by
  rw [Option.eq_none_iff_forall_ne_some]
  exact forall_congr' fun closed => not_congr (closingIndex?_eq_some_iff_paired distinct opens)

/-- The outer parenthesis is never closed: the only closing one is the partner of the inner. -/
example : closingIndex? openParen closeParen (tokenize "((1)") 0 = none ∧
    Paired openParen closeParen (tokenize "((1)") 1 3 := by decide

/-- What opens among balanced items is closed among them, and stays closed there when others
stand around them. -/
theorem Balanced.exists_closingIndex? (distinct : opening ≠ closing) {inner : List α}
    (balanced : Balanced opening closing inner) {index : Nat}
    (opens : inner[index]? = some opening) :
    ∃ partner, index < partner ∧ partner < inner.length ∧
      closingIndex? opening closing inner index = some partner ∧
      ∀ before after, closingIndex? opening closing (before ++ (inner ++ after))
        (before.length + index) = some (before.length + partner) := by
  obtain ⟨partner, paired⟩ := balanced.exists_paired distinct opens
  obtain ⟨behind, within⟩ := bounds_of_mem_pairs (index, partner) paired
  have isClosed := (closingIndex?_eq_some_iff_paired distinct opens).mpr paired
  refine ⟨partner, behind, within, isClosed, fun before after => ?_⟩
  rw [closingIndex?_append_right, closingIndex?_append_left isClosed, Option.map_some]

end Paired

/-! ### Tokens -/

/-- Reading cuts a group off where the counts agree. -/
theorem Token.enclosed?_eq_map_closingIndex? {tokens : List Token} {opened : Nat}
    (opens : tokens[opened]? = some openParen) :
    enclosed? (tokens.drop (opened + 1)) =
      (closingIndex? openParen closeParen tokens opened).map fun closed =>
        (tokens.extract (opened + 1) closed, tokens.drop (closed + 1)) := by
  obtain ⟨before, rest, rfl, rfl⟩ := exists_split_of_getElem? opens
  rw [closingIndex?_eq_map_enclosed?, Option.map_map, List.drop_length_add_append,
    List.drop_succ_cons, List.drop_zero]
  cases isGroup : enclosed? rest with
  | none => rfl
  | some group =>
      obtain ⟨inner, after⟩ := group
      obtain rfl := eq_of_enclosed?_eq_some isGroup
      have behind : (before ++ openParen :: (inner ++ closeParen :: after)).drop
          (before.length + 1 + inner.length + 1) = after := by
        simp [Nat.add_assoc, List.drop_length_add_append, Nat.add_comm 1]
      rw [Option.map_some, Function.comp_apply, extract_between, behind]

/-- Parentheses are matched as with a stack, at every level. For an opening parenthesis anywhere in
a list of tokens, which need not be balanced, the two counts agree at the partner that it has when
the whole list is matched with a stack, and never if it is left on the stack without one. Reading
cuts its group off there. The tokens of the group are balanced, and matching these alone finds the
partner that an opening parenthesis among them has in the whole list, counted from the start of
the group. -/
theorem counts_match_as_stack (tokens : List Token) (opened : Nat)
    (opens : tokens[opened]? = some openParen) :
    (∀ closed, closingIndex? openParen closeParen tokens opened = some closed ↔
      Paired openParen closeParen tokens opened closed) ∧
    (closingIndex? openParen closeParen tokens opened = none ↔
      ∀ closed, ¬ Paired openParen closeParen tokens opened closed) ∧
    (closingIndex? openParen closeParen tokens opened = none ↔
      opened ∈ (matchUp openParen closeParen tokens).unclosed) ∧
    (enclosed? (tokens.drop (opened + 1)) =
      (closingIndex? openParen closeParen tokens opened).map fun closed =>
        (tokens.extract (opened + 1) closed, tokens.drop (closed + 1))) ∧
    ∀ closed, closingIndex? openParen closeParen tokens opened = some closed →
      tokens[closed]? = some closeParen ∧
      IsBalanced (tokens.extract (opened + 1) closed) ∧
      ∀ other, opened < other → other < closed → tokens[other]? = some openParen →
        ∃ partner, other < partner ∧ partner < closed ∧
          Paired openParen closeParen tokens other partner ∧
          closingIndex? openParen closeParen (tokens.extract (opened + 1) closed)
            (other - opened - 1) = some (partner - opened - 1) := by
  have distinct : openParen ≠ closeParen := by decide
  refine ⟨fun closed => closingIndex?_eq_some_iff_paired distinct opens,
    closingIndex?_eq_none_iff distinct opens,
    (closingIndex?_eq_none_iff distinct opens).trans (mem_unclosed_iff_forall_not_paired opens).symm,
    enclosed?_eq_map_closingIndex? opens, fun closed isClosed => ?_⟩
  obtain ⟨before, rest, rfl, rfl⟩ := exists_split_of_getElem? opens
  obtain ⟨inner, after, rfl, balanced, rfl⟩ := (closingIndex?_eq_some_iff distinct).mp isClosed
  rw [extract_between]
  have isClosing : (before ++ openParen :: (inner ++ closeParen :: after))[
      before.length + 1 + inner.length]? = some closeParen := by
    rw [getElem?_behind, List.getElem?_append_right (Nat.le_refl _), Nat.sub_self]
    rfl
  refine ⟨isClosing, balanced, fun other behind within isOpening => ?_⟩
  obtain ⟨index, rfl⟩ := Nat.exists_eq_add_of_le (Nat.succ_le_of_lt behind)
  have inGroup : inner[index]? = some openParen := by
    rw [getElem?_behind] at isOpening
    rwa [List.getElem?_append_left (by omega)] at isOpening
  obtain ⟨partner, later, inside, isPartner, amongOthers⟩ :=
    balanced.exists_closingIndex? distinct inGroup
  have around := amongOthers (before ++ [openParen]) (closeParen :: after)
  rw [List.length_append, List.length_singleton, List.append_assoc] at around
  have paired := (closingIndex?_eq_some_iff_paired distinct isOpening).mp around
  have fromGroup : ∀ position, before.length + 1 + position - before.length - 1 = position := by
    omega
  refine ⟨before.length + 1 + partner, by omega, by omega, paired, ?_⟩
  rw [fromGroup, fromGroup]
  exact isPartner

/-- In the middle of other parentheses, of which the first and the last have no partner. -/
theorem counts_match_as_stack_among_unpartnered :
    (tokenize ")+((1)*(2))-(")[2]? = some openParen ∧
      Paired openParen closeParen (tokenize ")+((1)*(2))-(") 2 10 ∧
      IsBalanced ((tokenize ")+((1)*(2))-(").extract 3 10) ∧
      ∃ partner, Paired openParen closeParen (tokenize ")+((1)*(2))-(") 7 partner ∧
        closingIndex? openParen closeParen ((tokenize ")+((1)*(2))-(").extract 3 10) 4 =
          some (partner - 3) := by
  have opens : (tokenize ")+((1)*(2))-(")[2]? = some openParen := by decide
  have isClosed : closingIndex? openParen closeParen (tokenize ")+((1)*(2))-(") 2 = some 10 := by
    decide
  obtain ⟨paired, -, -, -, ofGroup⟩ := counts_match_as_stack _ 2 opens
  obtain ⟨-, balanced, inside⟩ := ofGroup 10 isClosed
  obtain ⟨partner, -, -, isPartner, alone⟩ := inside 7 (by decide) (by decide) (by decide)
  exact ⟨opens, (paired 10).mp isClosed, balanced, partner, isPartner, alone⟩

end Calculator
