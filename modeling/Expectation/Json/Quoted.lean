/-!
# Quoted strings

The written form of a string in a JSON document: quotation marks around it, a
backslash before quotation marks and backslashes, a short escape where there is
one, and four hexadecimal digits for the other control characters. Every other
character stands for itself.
-/

namespace Expectation.Json

/-- The digit with a value below sixteen. -/
def hexDigit (n : Nat) : Char :=
  if n < 10 then Char.ofNat (48 + n) else Char.ofNat (87 + n)

/-- The written form of a character inside a quoted string. -/
def escapeChar (c : Char) : List Char :=
  if c = '"' then ['\\', '"']
  else if c = '\\' then ['\\', '\\']
  else if c = '\n' then ['\\', 'n']
  else if c = '\r' then ['\\', 'r']
  else if c = '\t' then ['\\', 't']
  else if c = '\x08' then ['\\', 'b']
  else if c = '\x0C' then ['\\', 'f']
  else if c.toNat < 0x20 then
    ['\\', 'u', '0', '0', hexDigit (c.toNat / 16), hexDigit (c.toNat % 16)]
  else [c]

/-- The written form of a text inside a quoted string. -/
def escapeChars (cs : List Char) : List Char :=
  cs.flatMap escapeChar

/-- A string in quotation marks. -/
def quote (s : String) : String :=
  String.ofList ('"' :: escapeChars s.toList ++ ['"'])

example : quote "a\"\\\n\x01é" = "\"a\\\"\\\\\\n\\u0001é\"" := by decide

end Expectation.Json
