import Calculator.Text.Printed

/-!
# Quoted text

A text in double quotes, with a backslash before quotes and backslashes and short
names for some control characters. Printed characters stand for themselves, so that a
quoted text of them is readable as it is, and all others are written by their codes.
-/

namespace Calculator

namespace Text

/-- A character as it is written inside quotes. One that is not printed and has no short
name is written by its code in hexadecimal. -/
def quotedChar (character : Char) : List Char :=
  if character = '"' then ['\\', '"']
  else if character = '\\' then ['\\', '\\']
  else if character = '\t' then ['\\', 't']
  else if character = '\n' then ['\\', 'n']
  else if character = '\r' then ['\\', 'r']
  else if character = '\x00' then ['\\', '0']
  else if isPrinted character then [character]
  else '\\' :: 'u' :: '\x7b' :: Nat.toDigits 16 character.toNat ++ ['\x7d']

/-- A text in quotes. -/
def quoted (text : String) : String :=
  String.ofList ('"' :: text.toList.flatMap quotedChar ++ ['"'])

/-- An accent by itself is not printed, but the letter with the accent is. -/
example : (quoted "\u0301é").toList = "\"\\u\x7b301\x7dé\"".toList := by decide +kernel

end Text

end Calculator
