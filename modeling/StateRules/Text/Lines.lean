/-!
Texts cut into lines, and lines pushed to the right.

A text is handled here as its list of characters. Cutting keeps what ended each line, so nothing is
lost (`join_cutAt`), and indenting works on the same pieces: four spaces go in front of every line
that shows something, and a line of blanks alone stays where it is.
-/

namespace StateRules.Text

/-- The characters that end a line of text. A carriage return directly followed
by a line feed is one line end, not two. -/
def isLineEnd (c : Char) : Bool :=
  c = '\n' || c = '\r' || c = '\x0b' || c = '\x0c' || c = '\x1c' || c = '\x1d' || c = '\x1e' ||
    c = '\x85' || c = '\u2028' || c = '\u2029'

def isByteLineEnd (c : Char) : Bool := c = '\n' || c = '\r'

/-- The characters that leave no mark: line ends, tabs, the information
separators and the spaces of every width, the no-break ones included. -/
def isBlank (c : Char) : Bool :=
  isLineEnd c || c = ' ' || c = '\t' || c = '\x1f' || c = '\xa0' || c = '\u1680' ||
    ('\u2000' ≤ c && c ≤ '\u200a') || c = '\u202f' || c = '\u205f' || c = '\u3000'

/-- One line of a text and the characters that ended it. Only the last line of a
text can have an empty ending. -/
structure Line where
  body : List Char
  ending : List Char
deriving DecidableEq, Repr

def Line.whole (line : Line) : List Char := line.body ++ line.ending

/-- A character that ends no line belongs to the first line of what follows. -/
def lead (c : Char) : List Line → List Line
  | [] => [⟨[c], []⟩]
  | line :: rest => {line with body := c :: line.body} :: rest

def cutAt (ends : Char → Bool) : List Char → List Line
  | [] => []
  | '\r' :: '\n' :: rest =>
      if ends '\r' then ⟨[], ['\r', '\n']⟩ :: cutAt ends rest
      else lead '\r' (cutAt ends ('\n' :: rest))
  | c :: rest =>
      if ends c then ⟨[], [c]⟩ :: cutAt ends rest else lead c (cutAt ends rest)

/-- The lines of a text. -/
def cut (text : List Char) : List Line := cutAt isLineEnd text

theorem flatMap_whole_lead (c : Char) (lines : List Line) :
    (lead c lines).flatMap Line.whole = c :: lines.flatMap Line.whole := by
  cases lines <;> simp [lead, Line.whole]

/-- Cutting a text into lines loses nothing. -/
theorem join_cutAt (ends : Char → Bool) (text : List Char) :
    (cutAt ends text).flatMap Line.whole = text := by
  fun_induction cutAt ends text <;> simp_all [flatMap_whole_lead]
  all_goals simp [Line.whole]

def lines (text : String) : List String :=
  (cut text.toList).map fun line => String.ofList line.body

def indentStep : List Char := [' ', ' ', ' ', ' ']

def Line.indent (line : Line) : List Char :=
  if line.body.all isBlank then line.whole else indentStep ++ line.whole

/-- A text with every line that shows something pushed one step to the right. -/
def indent (text : String) : String :=
  String.ofList ((cut text.toList).flatMap Line.indent)

end StateRules.Text
