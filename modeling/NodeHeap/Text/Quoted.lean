import NodeHeap.Text.Hidden

/-!
# Quoted text

A text between double quotes, on one line and with nothing hidden in it: the quote and the backslash
are written with a backslash, four controls by their letter, and every other hidden character by its
code point.
-/

namespace NodeHeap.Text

/-- A code point in lower-case hexadecimal between braces, after a backslash and `u`. -/
def escapedCodePoint (c : Char) : List Char :=
  ['\\', 'u', '\x7b'] ++ Nat.toDigits 16 c.toNat ++ ['\x7d']

/-- How a character is written between the quotes. -/
def quotedChar (c : Char) : List Char :=
  if c = '\x00' then ['\\', '0']
  else if c = '\t' then ['\\', 't']
  else if c = '\r' then ['\\', 'r']
  else if c = '\n' then ['\\', 'n']
  else if c = '\x22' then ['\\', '\x22']
  else if c = '\\' then ['\\', '\\']
  else if isHidden c then escapedCodePoint c
  else [c]

/-- The text between double quotes. -/
def quoted (text : String) : String :=
  String.ofList (['\x22'] ++ text.toList.flatMap quotedChar ++ ['\x22'])

end NodeHeap.Text
