import Calculator.Token

/-!
# Where tokens lie

The tokens of a text lie one after another from its first byte, each where the one
before it ends. Positions count UTF-8 bytes.
-/

namespace Calculator

/-- A token and the bytes it occupies, from `start` up to but excluding `stop`. -/
structure LocatedToken where
  token : Token
  start : Nat
  stop : Nat
  deriving DecidableEq

namespace LocatedToken

/-- Lay tokens out one after another from `start`, behind those already laid out. -/
def layOut (laid : Array LocatedToken) (start : Nat) : List Token → Array LocatedToken
  | [] => laid
  | token :: rest =>
      layOut (laid.push ⟨token, start, start + token.width⟩) (start + token.width) rest

end LocatedToken

/-- The tokens of a text with their places in it. -/
def locateTokens (source : String) : Array LocatedToken :=
  LocatedToken.layOut #[] 0 (tokenize source)

end Calculator
