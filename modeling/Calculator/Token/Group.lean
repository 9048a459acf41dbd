import Calculator.Token

/-!
# Groups of tokens

A group reaches from an opening parenthesis to the closing one that pairs with it.
`Token.eq_of_enclosed?_eq_some` says that cutting a group off loses nothing.
-/

namespace Calculator

namespace Token

/-- Split tokens at the closing parenthesis that pairs with one already opened.
`inner` holds the tokens passed so far, newest first, and `depth` counts the
parentheses among them that are still open. -/
def enclosedFrom (inner : List Token) (depth : Nat) : List Token → Option (List Token × List Token)
  | [] => none
  | closeParen :: rest =>
      match depth with
      | 0 => some (inner.reverse, rest)
      | depth + 1 => enclosedFrom (closeParen :: inner) depth rest
  | openParen :: rest => enclosedFrom (openParen :: inner) (depth + 1) rest
  | token :: rest => enclosedFrom (token :: inner) depth rest

/-- The tokens of a group whose opening parenthesis stands just before `tokens`, and
the tokens behind its closing one; nothing if the group is never closed. -/
def enclosed? (tokens : List Token) : Option (List Token × List Token) :=
  enclosedFrom [] 0 tokens

theorem eq_of_enclosedFrom_eq_some {passed : List Token} {depth : Nat} {tokens inner after : List Token}
    (found : enclosedFrom passed depth tokens = some (inner, after)) :
    passed.reverse ++ tokens = inner ++ closeParen :: after := by
  fun_induction enclosedFrom passed depth tokens with
  | case1 => cases found
  | case2 => cases found; rfl
  | case3 _ _ _ inductionHypothesis => simpa using inductionHypothesis found
  | case4 _ _ _ inductionHypothesis => simpa using inductionHypothesis found
  | case5 _ _ _ _ _ _ inductionHypothesis => simpa using inductionHypothesis found

/-- A group, its closing parenthesis and what follows make up the tokens they were
cut from. -/
theorem eq_of_enclosed?_eq_some {tokens inner after : List Token}
    (found : enclosed? tokens = some (inner, after)) :
    tokens = inner ++ closeParen :: after := by
  simpa using eq_of_enclosedFrom_eq_some found

/-- The tokens of a group and those behind it are fewer than all of them. -/
theorem length_lt_of_enclosed?_eq_some {tokens inner after : List Token}
    (found : enclosed? tokens = some (inner, after)) :
    inner.length < tokens.length ∧ after.length < tokens.length := by
  rw [eq_of_enclosed?_eq_some found]
  simp only [List.length_append, List.length_cons]
  omega

end Token

end Calculator
