import ReactiveKernel.Text.Printable
import ReactiveKernel.Text.Extender

/-!
# Quoted text in messages

A text between double quotes with every character visible: five controls and signs have short
escapes, and what cannot be seen, or would merge with the character before it, is written by
its code point.
-/

namespace ReactiveKernel.Text

/-- The lower-case hexadecimal digits of a number. -/
def hexDigits (n : Nat) : List Char := Nat.toDigits 16 n

/-- A character by its code point between braces. -/
def codePoint (c : Char) : List Char := ['\\', 'u', '\x7b'] ++ hexDigits c.toNat ++ ['\x7d']

/-- One character inside the quotes. -/
def quotedChar (c : Char) : List Char :=
  if c = '\x00' then ['\\', '0']
  else if c = '\t' then ['\\', 't']
  else if c = '\r' then ['\\', 'r']
  else if c = '\n' then ['\\', 'n']
  else if c = '"' then ['\\', '"']
  else if c = '\\' then ['\\', '\\']
  else if isExtender c || !isPrintable c then codePoint c
  else [c]

/-- A text between double quotes. -/
def quotedChars (cs : List Char) : List Char := '"' :: cs.flatMap quotedChar ++ ['"']

/-- A text between double quotes. -/
def quoted (s : String) : String := String.ofList (quotedChars s.toList)

end ReactiveKernel.Text
