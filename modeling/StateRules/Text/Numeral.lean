import StateRules.Text.Lines

/-!
Texts in which a number may be spelled.

The decimal digits of every script stand in rows of ten, from zero to nine, so the
places of the zeros say what each of them is worth (`digitValue?`). A text is
brought into its plain form before it is read as a number: digits of any script
become the common ones, blanks beyond ASCII become spaces, and whatever else is
not ASCII becomes a mark that no number has. Only the blanks of ASCII may then
stand around the number.
-/

namespace StateRules.Text

/-- Where the rows of decimal digits beyond ASCII begin, in ascending order. -/
def digitRows : List Nat :=
  [0x660, 0x6F0, 0x7C0, 0x966, 0x9E6, 0xA66, 0xAE6, 0xB66, 0xBE6, 0xC66, 0xCE6, 0xD66, 0xDE6,
    0xE50, 0xED0, 0xF20, 0x1040, 0x1090, 0x17E0, 0x1810, 0x1946, 0x19D0, 0x1A80, 0x1A90,
    0x1B50, 0x1BB0, 0x1C40, 0x1C50, 0xA620, 0xA8D0, 0xA900, 0xA9D0, 0xA9F0, 0xAA50, 0xABF0,
    0xFF10, 0x104A0, 0x10D30, 0x11066, 0x110F0, 0x11136, 0x111D0, 0x112F0, 0x11450, 0x114D0,
    0x11650, 0x116C0, 0x11730, 0x118E0, 0x11950, 0x11C50, 0x11D50, 0x11DA0, 0x16A60, 0x16AC0,
    0x16B50, 0x1D7CE, 0x1D7D8, 0x1D7E2, 0x1D7EC, 0x1D7F6, 0x1E140, 0x1E2F0, 0x1E950, 0x1FBF0]

def digitValue? (c : Char) : Option Nat :=
  (digitRows.find? fun start => start ≤ c.toNat && c.toNat < start + 10).map fun start =>
    c.toNat - start

def strangeMark : Char := '?'

def plainChar (c : Char) : Char :=
  if c < '\x7f' then c
  else if isBlank c then ' '
  else
    match digitValue? c with
    | some n => Char.ofNat (48 + n)
    | none => strangeMark

def isPlainBlank (c : Char) : Bool :=
  c = ' ' || c = '\t' || c = '\n' || c = '\x0b' || c = '\x0c' || c = '\r'

/-- A text without the blanks of ASCII at its ends. -/
def trimPlain (text : List Char) : List Char :=
  ((text.dropWhile isPlainBlank).reverse.dropWhile isPlainBlank).reverse

end StateRules.Text
