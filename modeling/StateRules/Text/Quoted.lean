import StateRules.Text.Printable
import StateRules.Text.Lines

/-!
Texts and bytes between quotes, as a written value shows them. The mark is the
apostrophe, unless the text holds an apostrophe and no double quote. The mark
itself and the backslash get a backslash in front; tab, line feed and carriage
return have a letter of their own; what does not show as itself is given by
number, in two, four or eight hexadecimal digits.
-/

namespace StateRules.Text

def hexDigit (n : Nat) : Char := Char.ofNat (if n < 10 then 48 + n else 87 + n)

def hexDigits : Nat → Nat → List Char
  | 0, _ => []
  | width + 1, n => hexDigits width (n / 16) ++ [hexDigit (n % 16)]

def escapeCode (code : Nat) : List Char :=
  if code < 0x100 then '\\' :: 'x' :: hexDigits 2 code
  else if code < 0x10000 then '\\' :: 'u' :: hexDigits 4 code
  else '\\' :: 'U' :: hexDigits 8 code

/-- One character of a quoted text, given the quotation mark and the characters
that show as themselves. -/
def escapeWith (shows : Char → Bool) (mark c : Char) : List Char :=
  if c = mark || c = '\\' then ['\\', c]
  else if c = '\t' then ['\\', 't']
  else if c = '\n' then ['\\', 'n']
  else if c = '\r' then ['\\', 'r']
  else if shows c then [c]
  else escapeCode c.toNat

def quoteMark (text : List Char) : Char :=
  if text.contains '\x27' && !text.contains '\x22' then '\x22' else '\x27'

/-- A text between quotes, given the characters that show as themselves. -/
def quoteWith (shows : Char → Bool) (text : List Char) : List Char :=
  let mark := quoteMark text
  mark :: text.flatMap (escapeWith shows mark) ++ [mark]

/-- A text as a written value shows it. -/
def quoted (text : String) : String :=
  String.ofList (quoteWith isPrintable text.toList)

def ofByte (byte : UInt8) : Char := Char.ofNat byte.toNat

/-- Bytes as a written value shows them: only the printable part of ASCII shows
as itself. -/
def quotedBytes (bytes : List UInt8) : String :=
  "b" ++ String.ofList (quoteWith (fun c => ' ' ≤ c && c < '\x7f') (bytes.map ofByte))

def byteLines (bytes : List UInt8) : List (List UInt8) :=
  (cutAt isByteLineEnd (bytes.map ofByte)).map fun line =>
    line.body.map fun c => UInt8.ofNat c.toNat

end StateRules.Text
