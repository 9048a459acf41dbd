import Calculator.Proofs.Token.Partner
import Mathlib.Data.List.Basic

/-!
# Groups from left to right

What stands behind balanced items is matched as it is by itself, and so is what stands between
an opening item and its partner. `groupsOf` goes through the opening parentheses of a text from left
to right and says of each where its group ends and how many groups it is in. Both composition
laws carry over to it, so the groups of a text are found span by span.
-/

namespace Calculator

/-- Pairs of positions, counted from `offset` positions earlier on. -/
def shiftPairs (offset : Nat) (pairs : List (Nat × Nat)) : List (Nat × Nat) :=
  pairs.map (Prod.map (offset + ·) (offset + ·))

namespace Matching

variable {α : Type} [DecidableEq α] {opening closing : α} {base matching : Matching}

/-- What has been matched behind the items of `base`: positions count on from there, and the
stack lies on that of `base`. -/
def above (base matching : Matching) : Matching where
  passed := base.passed + matching.passed
  unclosed := matching.unclosed.map (base.passed + ·) ++ base.unclosed
  unopened := matching.unopened.map (base.passed + ·) ++ base.unopened
  pairs := shiftPairs base.passed matching.pairs ++ base.pairs

/-- Items are matched as they are by themselves, unless they close what is open below. -/
theorem run_above {items : List α}
    (inside : base.unclosed = [] ∨
      nesting opening closing matching.unclosed.length items ≠ none) :
    run opening closing (base.above matching) items =
      base.above (run opening closing matching items) := by
  induction items generalizing matching with
  | nil => rfl
  | cons item items inductionHypothesis =>
      have goOn (stepped : step opening closing (base.above matching) item =
          base.above (step opening closing matching item))
          (stays : nesting opening closing matching.unclosed.length (item :: items) ≠ none →
            nesting opening closing (step opening closing matching item).unclosed.length items ≠
              none) :
          run opening closing (base.above matching) (item :: items) =
            base.above (run opening closing matching (item :: items)) := by
        rw [run_cons, run_cons, stepped]
        exact inductionHypothesis (inside.imp_right stays)
      by_cases opens : item = opening
      · refine goOn ?_ ?_
        · simp [step, above, opens, Nat.add_assoc]
        · simp [step, nesting, opens]
      by_cases closes : item = closing
      · subst closes
        cases stack : matching.unclosed with
        | nil =>
            -- This would close an item of the base, so the base has none that is open.
            have below : base.unclosed = [] :=
              inside.resolve_right (by simp [nesting, opens, stack])
            refine goOn ?_ ?_
            · simp [step, above, opens, stack, below, Nat.add_assoc]
            · simp [nesting, opens, stack]
        | cons partner others =>
            refine goOn ?_ ?_
            · simp [step, above, shiftPairs, opens, stack, Nat.add_assoc]
            · simp [step, nesting, opens, stack]
      · refine goOn ?_ ?_
        · simp [step, above, opens, closes, Nat.add_assoc]
        · simp [step, nesting, opens, closes]

/-- Every position that a matching speaks of has been passed, and a partner comes behind what it
closes. -/
structure Ordered (matching : Matching) : Prop where
  unclosed : ∀ position ∈ matching.unclosed, position < matching.passed
  pairs : ∀ pair ∈ matching.pairs, pair.1 < pair.2 ∧ pair.2 < matching.passed

theorem Ordered.step (ordered : matching.Ordered) (item : α) :
    (matching.step opening closing item).Ordered := by
  have unclosed : ∀ position ∈ matching.unclosed, position < matching.passed + 1 :=
    fun position member => Nat.lt_succ_of_lt (ordered.unclosed position member)
  have pairs : ∀ pair ∈ matching.pairs, pair.1 < pair.2 ∧ pair.2 < matching.passed + 1 :=
    fun pair member => (ordered.pairs pair member).imp_right Nat.lt_succ_of_lt
  rw [Matching.step]
  split
  · exact ⟨List.forall_mem_cons.mpr ⟨Nat.lt_succ_self _, unclosed⟩, pairs⟩
  · split
    · split
      · exact ⟨unclosed, pairs⟩
      · next partner others stack =>
          rw [stack] at unclosed
          have earlier : partner < matching.passed := ordered.unclosed partner (by simp [stack])
          exact ⟨(List.forall_mem_cons.mp unclosed).2,
            List.forall_mem_cons.mpr ⟨⟨earlier, Nat.lt_succ_self _⟩, pairs⟩⟩
    · exact ⟨unclosed, pairs⟩

theorem Ordered.run (ordered : matching.Ordered) (items : List α) :
    (matching.run opening closing items).Ordered := by
  induction items generalizing matching with
  | nil => exact ordered
  | cons item items inductionHypothesis => exact inductionHypothesis (ordered.step item)

end Matching

/-! ### Partners -/

/-- The position of the partner of an opening item. -/
def partner? {α : Type} [DecidableEq α] (opening closing : α) (items : List α) (position : Nat) :
    Option Nat :=
  ((matchUp opening closing items).pairs.find? fun pair => pair.1 = position).map Prod.snd

/-- The number of groups that a position is in. -/
def surrounding {α : Type} [DecidableEq α] (opening closing : α) (items : List α)
    (position : Nat) : Nat :=
  (matchUp opening closing items).pairs.countP fun pair => pair.1 < position ∧ position < pair.2

theorem find?_shiftPairs (offset : Nat) (pairs : List (Nat × Nat)) (position : Nat) :
    ((shiftPairs offset pairs).find? fun pair => pair.1 = offset + position).map Prod.snd =
      ((pairs.find? fun pair => pair.1 = position).map Prod.snd).map (offset + ·) := by
  simp [shiftPairs, List.find?_map, Function.comp_def]

theorem countP_shiftPairs (offset : Nat) (pairs : List (Nat × Nat)) (position : Nat) :
    ((shiftPairs offset pairs).countP fun pair =>
      pair.1 < offset + position ∧ offset + position < pair.2) =
        pairs.countP fun pair => pair.1 < position ∧ position < pair.2 := by
  simp [shiftPairs, List.countP_map, Function.comp_def]

/-- All pairs that have been shifted lie behind the offset. -/
theorem le_of_mem_shiftPairs {offset : Nat} {pairs : List (Nat × Nat)} :
    ∀ pair ∈ shiftPairs offset pairs, offset ≤ pair.1 := by
  rw [shiftPairs, List.forall_mem_map]
  exact fun pair _ => Nat.le_add_right offset pair.1

section Partners

variable {α : Type} [DecidableEq α] {opening closing : α}

/-- A partner comes behind what it closes. -/
theorem bounds_of_mem_pairs {items : List α} :
    ∀ pair ∈ (matchUp opening closing items).pairs, pair.1 < pair.2 ∧ pair.2 < items.length := by
  have start : ({} : Matching).Ordered := ⟨by simp, by simp⟩
  have ordered := (@Matching.Ordered.run _ _ opening closing _ start items).pairs
  rwa [Matching.passed_run, Nat.zero_add] at ordered

theorem lt_of_partner?_eq_some {items : List α} {position stop : Nat}
    (found : partner? opening closing items position = some stop) : stop < items.length := by
  obtain ⟨pair, isPair, rfl⟩ := Option.map_eq_some_iff.mp found
  exact (bounds_of_mem_pairs pair (List.mem_of_find?_eq_some isPair)).2

variable (distinct : opening ≠ closing)
include distinct

/-- Behind balanced items, others are matched as they are by themselves. -/
theorem Balanced.pairs_append {first : List α} (balanced : Balanced opening closing first)
    (second : List α) :
    (matchUp opening closing (first ++ second)).pairs =
      shiftPairs first.length (matchUp opening closing second).pairs ++
        (matchUp opening closing first).pairs := by
  have closed := (balanced.matchUp_eq distinct).1
  have passed := passed_matchUp opening closing first
  have behind : Matching.run opening closing (matchUp opening closing first) second =
      (matchUp opening closing first).above (matchUp opening closing second) :=
    @Matching.run_above _ _ opening closing _ {} second (.inl closed)
  rw [matchUp, Matching.run_append, ← matchUp, behind, Matching.above, passed]

/-- Balanced items in a group are matched as they are by themselves, and then the group is. -/
theorem Balanced.pairs_group {inner : List α} (balanced : Balanced opening closing inner) :
    (matchUp opening closing (opening :: inner ++ [closing])).pairs =
      (0, inner.length + 1) :: shiftPairs 1 (matchUp opening closing inner).pairs := by
  let opened : Matching := { passed := 1, unclosed := [0] }
  have walk : nesting opening closing 0 inner ≠ none := by
    rw [(balanced_iff_nesting distinct).mp balanced]
    exact Option.some_ne_none 0
  have inside : opened.run opening closing inner = opened.above (matchUp opening closing inner) :=
    @Matching.run_above _ _ opening closing opened {} inner (.inr walk)
  have closed := (balanced.matchUp_eq distinct).1
  have passed := passed_matchUp opening closing inner
  have start : Matching.step opening closing {} opening = opened := by simp [Matching.step, opened]
  rw [matchUp, List.cons_append, Matching.run_cons, start, Matching.run_append, inside]
  simp [Matching.above, Matching.step, distinct.symm, closed, passed, opened, shiftPairs,
    Nat.add_comm]

end Partners

/-! ### Groups of texts -/

/-- The group that opens at a position of a text: what stands in it, and how many groups that is
in, this one and `depth` groups around the text included. There is none if nothing closes it. -/
def groupAt? (depth : Nat) (characters : List Char) (position : Nat) : Option (String × Nat) :=
  (partner? '(' ')' characters position).map fun stop =>
    (String.ofList ((characters.take stop).drop (position + 1)),
      depth + surrounding '(' ')' characters position + 1)

/-- What the opening parentheses of a text open, from left to right. -/
def groupsOf (depth : Nat) (characters : List Char) : List (Option (String × Nat)) :=
  (characters.idxsOf '(').map (groupAt? depth characters)

/-- Every opening parenthesis is listed. -/
theorem length_groupsOf (depth : Nat) (characters : List Char) :
    (groupsOf depth characters).length = characters.count '(' := by
  rw [groupsOf, List.length_map, List.idxsOf, List.length_findIdxs, List.count]

section Groups

variable {depth : Nat} {first inner : List Char}

theorem groupAt?_append_left (balanced : Balanced '(' ')' first) (second : List Char)
    {position : Nat} (within : position < first.length) :
    groupAt? depth (first ++ second) position = groupAt? depth first position := by
  have pairs := balanced.pairs_append (by decide) second
  have behind : ∀ pair ∈ shiftPairs first.length (matchUp '(' ')' second).pairs,
      position < pair.1 := fun pair member =>
    Nat.lt_of_lt_of_le within (le_of_mem_shiftPairs pair member)
  have partner : partner? '(' ')' (first ++ second) position =
      partner? '(' ')' first position := by
    rw [partner?, pairs, List.find?_append, List.find?_eq_none.mpr, Option.none_or, partner?]
    intro pair member
    simpa using (behind pair member).ne'
  have around : surrounding '(' ')' (first ++ second) position =
      surrounding '(' ')' first position := by
    rw [surrounding, pairs, List.countP_append, List.countP_eq_zero.mpr, Nat.zero_add, surrounding]
    intro pair member
    simp [Nat.lt_asymm (behind pair member)]
  rw [groupAt?, groupAt?, partner, around]
  cases found : partner? '(' ')' first position with
  | none => rfl
  | some stop =>
      have bound := lt_of_partner?_eq_some found
      rw [Option.map_some, Option.map_some, List.take_append_of_le_length (Nat.le_of_lt bound)]

theorem groupAt?_append_right (balanced : Balanced '(' ')' first) (second : List Char)
    (position : Nat) :
    groupAt? depth (first ++ second) (first.length + position) =
      groupAt? depth second position := by
  have pairs := balanced.pairs_append (by decide) second
  have before : ∀ pair ∈ (matchUp '(' ')' first).pairs, pair.2 < first.length + position :=
    fun pair member => Nat.lt_add_right _ (bounds_of_mem_pairs pair member).2
  have partner : partner? '(' ')' (first ++ second) (first.length + position) =
      (partner? '(' ')' second position).map (first.length + ·) := by
    have none : (matchUp '(' ')' first).pairs.find?
        (fun pair => pair.1 = first.length + position) = none := by
      rw [List.find?_eq_none]
      intro pair member
      have := bounds_of_mem_pairs pair member
      simp only [decide_eq_true_eq]
      omega
    rw [partner?, pairs, List.find?_append, none, Option.or_none, find?_shiftPairs, partner?]
  have around : surrounding '(' ')' (first ++ second) (first.length + position) =
      surrounding '(' ')' second position := by
    have none : (matchUp '(' ')' first).pairs.countP
        (fun pair => pair.1 < first.length + position ∧ first.length + position < pair.2) = 0 := by
      rw [List.countP_eq_zero]
      intro pair member
      simp [Nat.lt_asymm (before pair member)]
    rw [surrounding, pairs, List.countP_append, none, countP_shiftPairs, Nat.add_zero, surrounding]
  rw [groupAt?, groupAt?, partner, around, Option.map_map]
  refine congrArg (Option.map · _) (funext fun stop => ?_)
  simp [Nat.add_assoc, List.take_length_add_append, List.drop_length_add_append]

/-- Behind a balanced text, another one has the groups that it has by itself. -/
theorem groupsOf_append (balanced : Balanced '(' ')' first) (second : List Char) :
    groupsOf depth (first ++ second) = groupsOf depth first ++ groupsOf depth second := by
  rw [groupsOf, List.idxsOf, List.findIdxs_append, List.map_append, Nat.zero_add,
    List.findIdxs_start (s := first.length), List.map_map]
  refine congrArg₂ (· ++ ·) (List.map_congr_left fun position member => ?_)
    (List.map_congr_left fun position _ => ?_)
  · exact groupAt?_append_left balanced second (by simpa using List.lt_add_of_mem_findIdxs _ member)
  · rw [Function.comp_apply, Nat.add_comm]
    exact groupAt?_append_right balanced second position

theorem groupAt?_group_zero (balanced : Balanced '(' ')' inner) :
    groupAt? depth ('(' :: inner ++ [')']) 0 = some (String.ofList inner, depth + 1) := by
  have pairs := balanced.pairs_group (by decide)
  have partner : partner? '(' ')' ('(' :: inner ++ [')']) 0 = some (inner.length + 1) := by
    rw [partner?, pairs]
    rfl
  have around : surrounding '(' ')' ('(' :: inner ++ [')']) 0 = 0 := by
    simp [surrounding]
  rw [groupAt?, partner, around]
  simp

theorem groupAt?_group_succ (balanced : Balanced '(' ')' inner) {position : Nat}
    (within : position < inner.length) :
    groupAt? depth ('(' :: inner ++ [')']) (1 + position) =
      groupAt? (depth + 1) inner position := by
  have pairs := balanced.pairs_group (by decide)
  have partner : partner? '(' ')' ('(' :: inner ++ [')']) (1 + position) =
      (partner? '(' ')' inner position).map (1 + ·) := by
    rw [partner?, pairs, List.find?_cons_of_neg (by simp [Nat.add_comm 1]), find?_shiftPairs,
      partner?]
  have around : depth + surrounding '(' ')' ('(' :: inner ++ [')']) (1 + position) =
      depth + 1 + surrounding '(' ')' inner position := by
    rw [surrounding, pairs, List.countP_cons_of_pos (by simpa [Nat.add_comm 1] using within),
      countP_shiftPairs, surrounding, Nat.add_comm _ 1, Nat.add_assoc]
  rw [groupAt?, groupAt?, partner, around, Option.map_map]
  cases found : partner? '(' ')' inner position with
  | none => rfl
  | some stop =>
      have bound := lt_of_partner?_eq_some found
      have text : (('(' :: inner ++ [')']).take (1 + stop)).drop (1 + position + 1) =
          (inner.take stop).drop (position + 1) := by
        simp [Nat.add_comm 1, List.take_append_of_le_length (Nat.le_of_lt bound)]
      rw [Option.map_some, Option.map_some, Function.comp_apply, text]

/-- A text in parentheses is a group, and the groups in it are one group deeper. -/
theorem groupsOf_group (balanced : Balanced '(' ')' inner) :
    groupsOf depth ('(' :: inner ++ [')']) =
      some (String.ofList inner, depth + 1) :: groupsOf (depth + 1) inner := by
  have positions : ('(' :: inner ++ [')']).idxsOf '(' =
      0 :: (inner.idxsOf '(').map (· + 1) := by
    have behind : inner.findIdxs (· == '(') 1 = (inner.findIdxs (· == '(')).map (· + 1) :=
      List.findIdxs_start
    simp [List.idxsOf, behind]
  rw [groupsOf, positions, List.map_cons, groupAt?_group_zero balanced, List.map_map, groupsOf]
  refine congrArg _ (List.map_congr_left fun position member => ?_)
  have within : position < inner.length := by simpa using List.lt_add_of_mem_findIdxs _ member
  rw [Function.comp_apply, Nat.add_comm, groupAt?_group_succ balanced within]

/-- Other characters than parentheses open nothing. -/
theorem groupsOf_eq_nil {characters : List Char} (none : '(' ∉ characters) :
    groupsOf depth characters = [] := by
  have positions : characters.idxsOf '(' = [] := by
    rw [List.idxsOf, List.findIdxs_eq_nil_iff]
    intro character member
    simp only [beq_eq_false_iff_ne]
    rintro rfl
    exact none member
  rw [groupsOf, positions, List.map_nil]

end Groups

end Calculator
