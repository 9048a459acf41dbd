import Calculator.Token.Group
import Calculator.Proofs.Token.Canonical

/-!
# Nesting of parentheses

`nesting` walks over a list and counts the parentheses that are still open. A list is
balanced if no prefix closes more than it opens and as many are closed as opened,
which is to say that the walk from zero ends at zero. A group is cut off exactly at
the closing parenthesis behind balanced contents. `deepest` is how many parentheses are
open at most, and a scope is the whole list or the contents of one of its groups.
Balance and scopes are the same for tokens and for the characters they cover.
-/

namespace Calculator

section Nesting

variable {α : Type} [DecidableEq α] {opening closing : α}

/-- No prefix has more closing than opening items, and in total there are as many of
either kind. -/
structure Balanced (opening closing : α) (items : List α) : Prop where
  prefixes : ∀ part, part <+: items → part.count closing ≤ part.count opening
  totals : items.count closing = items.count opening

/-- The number of items still open behind a list that starts with `depth` of them
open; nothing if one is closed that was never opened. -/
def nesting (opening closing : α) (depth : Nat) : List α → Option Nat
  | [] => some depth
  | item :: items =>
      if item = opening then nesting opening closing (depth + 1) items
      else if item = closing then
        match depth with
        | 0 => none
        | depth + 1 => nesting opening closing depth items
      else nesting opening closing depth items

theorem nesting_append (depth : Nat) (first second : List α) :
    nesting opening closing depth (first ++ second) =
      (nesting opening closing depth first).bind fun depth =>
        nesting opening closing depth second := by
  induction first generalizing depth with
  | nil => rfl
  | cons item items inductionHypothesis =>
      simp only [List.cons_append, nesting]
      split
      · exact inductionHypothesis _
      · split
        · cases depth with
          | zero => rfl
          | succ depth => exact inductionHypothesis _
        · exact inductionHypothesis _

/-- What is open at the end is what was open before, and no prefix closes more. -/
theorem nesting_eq_some_iff (distinct : opening ≠ closing) {depth final : Nat} {items : List α} :
    nesting opening closing depth items = some final ↔
      (∀ part, part <+: items → part.count closing ≤ depth + part.count opening) ∧
        depth + items.count opening = final + items.count closing := by
  induction items generalizing depth with
  | nil => simp [nesting]
  | cons item items inductionHypothesis =>
      -- Prefixes of `item :: items` are the empty one and those that start with `item`.
      have prefixes : ∀ bound : List α → Prop, (∀ part, part <+: item :: items → bound part) ↔
          bound [] ∧ ∀ part, part <+: items → bound (item :: part) := by
        intro bound
        constructor
        · intro all
          exact ⟨all [] (by simp), fun part isPrefix => all _ (by simpa using isPrefix)⟩
        · rintro ⟨empty, others⟩ part isPrefix
          cases part with
          | nil => exact empty
          | cons first part =>
              obtain ⟨rfl, partIsPrefix⟩ := List.cons_prefix_cons.mp isPrefix
              exact others part partIsPrefix
      simp only [prefixes, nesting]
      by_cases opens : item = opening
      · subst opens
        simp only [↓reduceIte, inductionHypothesis, List.count_cons_self,
          List.count_cons_of_ne distinct]
        grind
      · by_cases closes : item = closing
        · subst closes
          simp only [opens, ↓reduceIte, List.count_cons_self, List.count_cons_of_ne opens]
          cases depth with
          | zero =>
              -- The item itself, as a prefix, closes more than was open.
              simp only [reduceCtorEq, false_iff, not_and]
              intro bounded
              exact absurd (bounded.2 [] (by simp)) (by simp)
          | succ depth =>
              simp only [inductionHypothesis]
              grind
        · simp [opens, closes, inductionHypothesis, List.count_cons_of_ne]

theorem balanced_iff_nesting (distinct : opening ≠ closing) {items : List α} :
    Balanced opening closing items ↔ nesting opening closing 0 items = some 0 := by
  rw [nesting_eq_some_iff distinct]
  constructor
  · rintro ⟨prefixes, totals⟩
    exact ⟨by simpa using prefixes, by omega⟩
  · rintro ⟨prefixes, totals⟩
    exact ⟨by simpa using prefixes, by omega⟩

/-- Balanced items leave the number of open ones as it is. -/
theorem Balanced.nesting_eq (distinct : opening ≠ closing) {items : List α}
    (balanced : Balanced opening closing items) (depth : Nat) :
    nesting opening closing depth items = some depth := by
  rw [nesting_eq_some_iff distinct]
  exact ⟨fun part isPrefix => Nat.le_add_left_of_le (balanced.prefixes part isPrefix),
    by rw [balanced.totals]⟩

theorem Balanced.append (distinct : opening ≠ closing) {first second : List α}
    (ofFirst : Balanced opening closing first) (ofSecond : Balanced opening closing second) :
    Balanced opening closing (first ++ second) := by
  rw [balanced_iff_nesting distinct, nesting_append, ofFirst.nesting_eq distinct]
  exact ofSecond.nesting_eq distinct 0

/-- Balanced items may be put between an opening item and a closing one. -/
theorem Balanced.group (distinct : opening ≠ closing) {inner : List α}
    (balanced : Balanced opening closing inner) :
    Balanced opening closing (opening :: inner ++ [closing]) := by
  have walk := balanced.nesting_eq distinct 1
  rw [balanced_iff_nesting distinct]
  simp [nesting, nesting_append, walk, distinct.symm]

/-- The whole list, or what stands in it between an opening item and its partner. -/
def IsScopeOf (opening closing : α) (scope items : List α) : Prop :=
  scope = items ∨ ∃ before after, items = before ++ opening :: (scope ++ closing :: after) ∧
    Balanced opening closing scope

/-- The scopes of a group are scopes of the list around it. -/
theorem IsScopeOf.inside {scope inner : List α} (isScope : IsScopeOf opening closing scope inner)
    (balanced : Balanced opening closing inner) (before after : List α) :
    IsScopeOf opening closing scope (before ++ opening :: (inner ++ closing :: after)) := by
  rcases isScope with rfl | ⟨before', after', rfl, scopeBalanced⟩
  · exact .inr ⟨before, after, rfl, balanced⟩
  · exact .inr ⟨before ++ opening :: before', after' ++ closing :: after, by simp, scopeBalanced⟩

/-- The largest number of items open at once in a list that starts with `depth` of them
open. -/
def deepest (opening closing : α) (depth : Nat) : List α → Nat
  | [] => depth
  | item :: items =>
      if item = opening then deepest opening closing (depth + 1) items
      else if item = closing then max depth (deepest opening closing (depth - 1) items)
      else deepest opening closing depth items

@[simp] theorem deepest_nil (depth : Nat) : deepest opening closing depth [] = depth := rfl

@[simp] theorem deepest_opening (depth : Nat) (items : List α) :
    deepest opening closing depth (opening :: items) =
      deepest opening closing (depth + 1) items := by
  simp [deepest]

/-- Closing one of the open items leaves one less open. -/
theorem deepest_closing (distinct : opening ≠ closing) (depth : Nat) (items : List α) :
    deepest opening closing (depth + 1) (closing :: items) =
      max (depth + 1) (deepest opening closing depth items) := by
  simp [deepest, distinct.symm]

/-- Items that neither open nor close are passed over. -/
theorem deepest_append_of_forall {others : List α}
    (neither : ∀ item ∈ others, item ≠ opening ∧ item ≠ closing) (depth : Nat) (items : List α) :
    deepest opening closing depth (others ++ items) = deepest opening closing depth items := by
  induction others with
  | nil => rfl
  | cons item others inductionHypothesis =>
      obtain ⟨notOpening, notClosing⟩ := neither item (by simp)
      rw [List.cons_append, deepest, if_neg notOpening, if_neg notClosing]
      exact inductionHypothesis fun other member => neither other (by simp [member])

theorem le_deepest (depth : Nat) (items : List α) :
    depth ≤ deepest opening closing depth items := by
  induction items generalizing depth with
  | nil => exact Nat.le_refl depth
  | cons item items inductionHypothesis =>
      rw [deepest]
      split
      · exact Nat.le_of_succ_le (inductionHypothesis (depth + 1))
      · split
        · exact Nat.le_max_left _ _
        · exact inductionHypothesis depth

end Nesting

namespace Token

/-- A list of tokens in which every parenthesis has its partner. -/
abbrev IsBalanced (tokens : List Token) : Prop :=
  Balanced openParen closeParen tokens

theorem isBalanced_iff_nesting {tokens : List Token} :
    IsBalanced tokens ↔ nesting openParen closeParen 0 tokens = some 0 :=
  balanced_iff_nesting (by decide)

/-- Balanced tokens leave the number of open parentheses as it is. -/
theorem IsBalanced.nesting_eq {tokens : List Token} (balanced : IsBalanced tokens) (depth : Nat) :
    nesting openParen closeParen depth tokens = some depth :=
  Balanced.nesting_eq (by decide) balanced depth

theorem IsBalanced.append {first second : List Token} (ofFirst : IsBalanced first)
    (ofSecond : IsBalanced second) : IsBalanced (first ++ second) :=
  Balanced.append (by decide) ofFirst ofSecond

/-- A token that is no parenthesis is balanced. -/
theorem isBalanced_singleton {token : Token} (notOpen : token ≠ openParen)
    (notClose : token ≠ closeParen) : IsBalanced [token] := by
  rw [isBalanced_iff_nesting]
  simp [nesting, notOpen, notClose]

theorem isBalanced_operator (op : Operator) : IsBalanced [.operator op] :=
  isBalanced_singleton (by simp) (by simp)

/-- A group is balanced if its contents are. -/
theorem IsBalanced.group {inner : List Token} (balanced : IsBalanced inner) :
    IsBalanced (openParen :: inner ++ [closeParen]) :=
  Balanced.group (by decide) balanced

/-- The search for the closing parenthesis passes over tokens that stay inside. -/
theorem enclosedFrom_append (passed : List Token) {tokens rest : List Token} {depth final : Nat}
    (inside : nesting openParen closeParen depth tokens = some final) :
    enclosedFrom passed depth (tokens ++ rest) =
      enclosedFrom (tokens.reverse ++ passed) final rest := by
  induction tokens generalizing passed depth with
  | nil => cases inside; rfl
  | cons token tokens inductionHypothesis =>
      cases token with
      | openParen =>
          simpa [enclosedFrom] using inductionHypothesis (openParen :: passed) inside
      | closeParen =>
          cases depth with
          | zero => cases inside
          | succ depth =>
              simpa [enclosedFrom] using inductionHypothesis (closeParen :: passed) inside
      | number run =>
          simpa [enclosedFrom] using inductionHypothesis (number run :: passed) inside
      | operator op =>
          simpa [enclosedFrom] using inductionHypothesis (operator op :: passed) inside
      | unknown character =>
          simpa [enclosedFrom] using inductionHypothesis (unknown character :: passed) inside

/-- The tokens between the search's start and the closing parenthesis it finds close
exactly what was open. -/
theorem nesting_of_enclosedFrom {passed tokens inner after : List Token} {depth : Nat}
    (found : enclosedFrom passed depth tokens = some (inner, after)) :
    ∃ behind, inner = passed.reverse ++ behind ∧
      nesting openParen closeParen depth behind = some 0 := by
  fun_induction enclosedFrom passed depth tokens with
  | case1 => cases found
  | case2 => cases found; exact ⟨[], by simp, rfl⟩
  | case3 passed rest depth inductionHypothesis =>
      obtain ⟨behind, rfl, closes⟩ := inductionHypothesis found
      exact ⟨closeParen :: behind, by simp, by simpa [nesting] using closes⟩
  | case4 passed depth rest inductionHypothesis =>
      obtain ⟨behind, rfl, closes⟩ := inductionHypothesis found
      exact ⟨openParen :: behind, by simp, by simpa [nesting] using closes⟩
  | case5 passed depth token rest notClose notOpen inductionHypothesis =>
      obtain ⟨behind, rfl, closes⟩ := inductionHypothesis found
      have different : token ≠ closeParen := fun same => notClose same
      have different' : token ≠ openParen := fun same => notOpen same
      exact ⟨token :: behind, by simp, by simpa [nesting, different, different'] using closes⟩

/-- A group is cut off exactly at the closing parenthesis behind balanced contents. -/
theorem enclosed?_eq_some_iff {tokens inner after : List Token} :
    enclosed? tokens = some (inner, after) ↔
      IsBalanced inner ∧ tokens = inner ++ closeParen :: after := by
  constructor
  · intro found
    obtain ⟨behind, rfl, closes⟩ := nesting_of_enclosedFrom found
    exact ⟨isBalanced_iff_nesting.mpr closes, eq_of_enclosed?_eq_some found⟩
  · rintro ⟨balanced, rfl⟩
    rw [enclosed?, enclosedFrom_append [] (balanced.nesting_eq 0)]
    simp [enclosedFrom]

/-! ### Tokens and characters -/

/-- Digits and points are no parentheses. -/
theorem ne_paren_of_isNumeric {character : Char} (numeric : isNumeric character) :
    character ≠ '(' ∧ character ≠ ')' := by
  constructor <;> (rintro rfl; cases numeric)

private theorem nesting_chars_of_isNumeric {run : List Char}
    (numeric : ∀ character ∈ run, isNumeric character) (depth : Nat) :
    nesting '(' ')' depth run = some depth := by
  induction run with
  | nil => rfl
  | cons character run inductionHypothesis =>
      obtain ⟨notOpen, notClose⟩ := ne_paren_of_isNumeric (numeric character (by simp))
      simp only [nesting, notOpen, notClose, ↓reduceIte]
      exact inductionHypothesis fun other member => numeric other (by simp [member])

/-- Parentheses nest in the tokens of a text as they do in the text. -/
theorem nesting_flatMap_chars {tokens : List Token} (genuine : ∀ token ∈ tokens, token.Genuine)
    (depth : Nat) :
    nesting '(' ')' depth (tokens.flatMap chars) = nesting openParen closeParen depth tokens := by
  induction tokens generalizing depth with
  | nil => rfl
  | cons token tokens inductionHypothesis =>
      have others := inductionHypothesis fun token member => genuine token (by simp [member])
      rw [List.flatMap_cons, nesting_append]
      cases token with
      | number run =>
          rw [chars, nesting_chars_of_isNumeric (genuine (number run) (by simp)).2]
          simpa [nesting] using others depth
      | operator op => cases op <;> simpa [chars, nesting, Operator.symbol] using others depth
      | openParen => simpa [chars, nesting] using others (depth + 1)
      | closeParen => cases depth <;> simp [chars, nesting, others]
      | unknown character =>
          have own := genuine (unknown character) (by simp)
          have notOpen : character ≠ '(' := by rintro rfl; cases own
          have notClose : character ≠ ')' := by rintro rfl; cases own
          simpa [chars, nesting, notOpen, notClose] using others depth

/-- A genuine token covers a character that is no digit or point once if the character makes it,
and not at all otherwise. -/
theorem Genuine.count_chars {token made : Token} (genuine : token.Genuine) {character : Char}
    (makes : ofChar character = made) (notRun : made.isNumber = false) :
    token.chars.count character = if token == made then 1 else 0 := by
  cases run : token.isNumber with
  | true =>
      have different : token ≠ made := by rintro rfl; simp [run] at notRun
      cases token <;> cases run
      have notNumeric : ¬ isNumeric character := fun numeric => by
        rw [← makes, ofChar_of_isNumeric numeric] at notRun
        cases notRun
      rw [if_neg (by simpa using different), List.count_eq_zero]
      exact fun member => notNumeric (genuine.2 character member)
  | false =>
      obtain ⟨covered, covers, -, makesToken⟩ := genuine.chars_eq run
      have same : token = made ↔ covered = character := by
        rw [← makesToken, ← makes]
        refine ⟨fun same => ?_, fun same => by rw [same]⟩
        simpa using congrArg chars same
      simp [covers, List.count_singleton, same]

/-- Tokens have as many of a character as there are tokens it makes, digits and points apart. -/
theorem count_flatMap_chars {tokens : List Token} (genuine : ∀ token ∈ tokens, token.Genuine)
    {character : Char} {made : Token} (makes : ofChar character = made)
    (notRun : made.isNumber = false) :
    (tokens.flatMap chars).count character = tokens.count made := by
  induction tokens with
  | nil => rfl
  | cons token tokens inductionHypothesis =>
      obtain ⟨own, others⟩ := List.forall_mem_cons.mp genuine
      rw [List.flatMap_cons, List.count_append, own.count_chars makes notRun,
        inductionHypothesis others, List.count_cons, Nat.add_comm]

theorem count_toList (text : String) {character : Char} {made : Token}
    (makes : ofChar character = made) (notRun : made.isNumber = false) :
    text.toList.count character = (tokenize text).count made := by
  rw [← count_flatMap_chars (canonical_tokenize text).genuine makes notRun, ← toList_text,
    text_tokenize]

/-- Tokens are balanced exactly if the characters they cover are. -/
theorem balanced_flatMap_chars_iff {tokens : List Token} (canonical : Canonical tokens) :
    Balanced '(' ')' (tokens.flatMap chars) ↔ IsBalanced tokens := by
  rw [balanced_iff_nesting (by decide), nesting_flatMap_chars canonical.genuine,
    isBalanced_iff_nesting]

/-- The scopes of canonical tokens are canonical. -/
theorem Canonical.scope {scope tokens : List Token} (canonical : Canonical tokens)
    (isScope : IsScopeOf openParen closeParen scope tokens) : Canonical scope := by
  rcases isScope with rfl | ⟨before, after, rfl, -⟩
  · exact canonical
  · exact canonical.infix ⟨before ++ [openParen], closeParen :: after, by simp⟩

/-- The scopes of tokens cover scopes of their characters. -/
theorem isScopeOf_flatMap_chars {scope tokens : List Token} (canonical : Canonical tokens)
    (isScope : IsScopeOf openParen closeParen scope tokens) :
    IsScopeOf '(' ')' (scope.flatMap chars) (tokens.flatMap chars) := by
  have ofScope := canonical.scope isScope
  rcases isScope with rfl | ⟨before, after, rfl, balanced⟩
  · exact .inl rfl
  · refine .inr ⟨before.flatMap chars, after.flatMap chars, by simp [chars], ?_⟩
    exact (balanced_flatMap_chars_iff ofScope).mpr balanced

end Token

end Calculator
