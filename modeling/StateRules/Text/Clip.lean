/-!
Texts cut to a room counted in bytes.

Names in messages are given only so much room. A character that no longer fits is left out together
with everything behind it, and where a part of it would still have had room, a replacement mark
stands for that part.
-/

namespace StateRules.Text

/-- The bytes that some characters take. -/
def size : List Char → Nat
  | [] => 0
  | c :: rest => c.utf8Size + size rest

/-- The mark for a part of a character. -/
def replacement : Char := '\ufffd'

/-- The characters that have room in a number of bytes, and the mark for a part of the
next one. -/
def clip (room : Nat) : List Char → List Char
  | [] => []
  | c :: rest =>
      if c.utf8Size ≤ room then c :: clip (room - c.utf8Size) rest
      else if room = 0 then []
      else [replacement]

/-- A text cut to a room. -/
def clipped (room : Nat) (s : String) : String := String.ofList (clip room s.toList)

end StateRules.Text
