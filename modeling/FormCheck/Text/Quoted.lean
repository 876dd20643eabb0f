import FormCheck.Unicode.Property

/-!
# Quoted texts

Reports show a text between double quotes, with escapes for quotes, backslashes, the common control
characters, and every character that does not print by itself: marks that extend the character
before them, and characters without a visible shape other than the space.

The reason of a `MalformedRule` quotes texts in this way.
-/

namespace FormCheck.Text

open Unicode

/-- Characters without a visible shape of their own. -/
def unprintable : CharSet :=
  .unions [Category.other, Category.zl, Category.zp, .diff Category.zs (.single ' ')]

/-- A character as it stands between the quotes. -/
def quotedChar (c : Char) : List Char :=
  if c = '\x00' then ['\\', '0']
  else if c = '\t' then ['\\', 't']
  else if c = '\r' then ['\\', 'r']
  else if c = '\n' then ['\\', 'n']
  else if c = '"' ∨ c = '\\' then ['\\', c]
  else if c.toNat < 0x7F ∧ ' ' ≤ c then [c]
  else if Property.graphemeExtend.contains c || unprintable.contains c then
    '\\' :: 'u' :: '\x7b' :: (Nat.toDigits 16 c.toNat ++ ['\x7d'])
  else [c]

/-- A text between double quotes. -/
def quoted (s : String) : String :=
  String.ofList ('"' :: (s.toList.flatMap quotedChar ++ ['"']))

end FormCheck.Text
