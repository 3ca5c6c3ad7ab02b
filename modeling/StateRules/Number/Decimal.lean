import StateRules.Number.Binary

/-!
Binary numbers in decimal digits. Writing takes the fewest digits that read back
as the same number and, of those, the ones nearest to it; the text is positional
from `0.0001` up to below `10 ^ 16` and has an exponent of at least two digits
otherwise. Reading rounds to the nearest number.
-/

namespace StateRules.Number

def digitsValue (digits : List Char) : Nat :=
  digits.foldl (fun n c => 10 * n + (c.toNat - 48)) 0

def decimalDigits (n : Nat) : List Char := Nat.toDigits 10 n

def decimalQuotient (d : Nat) (place : Int) : Nat × Nat :=
  if 0 ≤ place then (d * Nat.pow 10 place.toNat, 1) else (d, Nat.pow 10 (-place).toNat)

/-- The number nearest to `d * 10 ^ place`. Since `d` is below `2 ^ (d.log2 + 1)`, a
place that is low enough takes it below every positive number, and a high enough one
beyond every finite number, so the power itself is only formed in between. -/
def ofDecimal (negative : Bool) (d : Nat) (place : Int) : Binary :=
  if d = 0 || d.log2 + place < -330 then .finite negative 0 Binary.leastExponent
  else if 310 < place then .infinite negative
  else
    let (num, den) := decimalQuotient d place
    Binary.nearest negative num den

/-- Digits without the underscores that group them. An underscore anywhere but
between two digits groups nothing and stays. -/
def dropSeparators : List Char → List Char
  | a :: '_' :: b :: rest =>
      if a.isDigit && b.isDigit then a :: dropSeparators (b :: rest)
      else a :: '_' :: dropSeparators (b :: rest)
  | c :: rest => c :: dropSeparators rest
  | [] => []

/-- The digits that a text begins with behind an optional sign. Where underscores
stand among them that group nothing, there are none. -/
def leadingDigits (text : List Char) : List Char :=
  let body :=
    match text with
    | '-' :: rest | '+' :: rest => rest
    | _ => text
  let run := dropSeparators (body.takeWhile fun c => c.isDigit || c = '_')
  if run.all Char.isDigit then run else []

def digitLimit : Nat := 4300

def signedDigits? (text : List Char) : Option Int :=
  let number (digits : List Char) : Option Nat :=
    if !digits.isEmpty && digits.all Char.isDigit then some (digitsValue digits) else none
  match text with
  | '-' :: digits => (number digits).map fun n => -(n : Int)
  | '+' :: digits => (number digits).map Int.ofNat
  | digits => (number digits).map Int.ofNat

/-- Digits with an optional fraction and an optional exponent, without a sign. -/
def unsignedDecimal? (negative : Bool) (text : List Char) : Option Binary :=
  let front := text.takeWhile (· ≠ 'e')
  let whole := front.takeWhile (· ≠ '.')
  let fraction := (front.dropWhile (· ≠ '.')).drop 1
  let exponent :=
    match text.dropWhile (· ≠ 'e') with
    | [] => some 0
    | _ :: digits => signedDigits? digits
  let digits := whole ++ fraction
  if !digits.isEmpty && digits.all Char.isDigit then
    exponent.map fun e => ofDecimal negative (digitsValue digits) (e - fraction.length)
  else none

/-- The number a decimal text stands for, with the tag that an undefined one is
to carry. Upper and lower case are the same. -/
def Binary.ofText? (tag : Nat) (text : List Char) : Option Binary :=
  let unsigned (negative : Bool) (body : List Char) : Option Binary :=
    if body = ['i', 'n', 'f'] || body = ['i', 'n', 'f', 'i', 'n', 'i', 't', 'y'] then
      some (.infinite negative)
    else if body = ['n', 'a', 'n'] then some (.undefined tag)
    else unsignedDecimal? negative body
  match (dropSeparators text).map Char.toLower with
  | '-' :: body => unsigned true body
  | '+' :: body => unsigned false body
  | body => unsigned false body

/-- The place of the first decimal digit of `num / den`: the least `k` with
`num / den < 10 ^ k`, for every positive number. -/
def decimalMagnitude (num den : Nat) : Int :=
  ((decimalDigits (num * Nat.pow 10 400 / den)).length : Int) - 400

/-- The points of the decimal grid with step `10 ^ place` on either side of
`num / den`, the nearer one first. -/
def gridNeighbours (num den : Nat) (place : Int) : List Nat :=
  let (n, d) :=
    if 0 ≤ place then (num, den * Nat.pow 10 place.toNat)
    else (num * Nat.pow 10 (-place).toNat, den)
  let below := n / d
  if Binary.roundDiv n d = below then [below, below + 1] else [below + 1, below]

/-- The fewest digits, and their place, that read back as the number with
mantissa `m` and exponent `e`. Seventeen digits always do. -/
def shortestDigits (m : Nat) (e : Int) : Nat × Int :=
  let (num, den) := if 0 ≤ e then (m * Nat.pow 2 e.toNat, 1) else (m, Nat.pow 2 (-e).toNat)
  let top := decimalMagnitude num den
  let readsBack (place : Int) (d : Nat) : Bool := ofDecimal false d place = .finite false m e
  let found := (List.range 17).findSome? fun i =>
    let place := top - (i + 1 : Nat)
    ((gridNeighbours num den place).find? (readsBack place)).map fun d => (d, place)
  found.getD (0, 0)

/-- Digits without the zeros at their end. -/
def dropTrailingZeros (digits : List Char) : List Char :=
  (digits.reverse.dropWhile (· = '0')).reverse

def exponentText (e : Int) : List Char :=
  let digits := decimalDigits e.natAbs
  'e' :: (if e < 0 then '-' else '+') :: (if digits.length < 2 then '0' :: digits else digits)

def layDigits (digits : List Char) (point : Int) : List Char :=
  if -4 < point && point ≤ 16 then
    if point ≤ 0 then '0' :: '.' :: List.replicate (-point).toNat '0' ++ digits
    else if digits.length ≤ point.toNat then
      digits ++ List.replicate (point.toNat - digits.length) '0' ++ ['.', '0']
    else digits.take point.toNat ++ '.' :: digits.drop point.toNat
  else
    match digits with
    | [first] => first :: exponentText (point - 1)
    | first :: rest => first :: '.' :: rest ++ exponentText (point - 1)
    | [] => []

/-- A number in decimal digits. -/
def Binary.text : Binary → String
  | .undefined _ => "nan"
  | .infinite negative => if negative then "-inf" else "inf"
  | .finite negative m e =>
      let body :=
        if m = 0 then ['0', '.', '0']
        else
          let (d, place) := shortestDigits m e
          let digits := decimalDigits d
          layDigits (dropTrailingZeros digits) (digits.length + place)
      String.ofList (if negative then '-' :: body else body)

end StateRules.Number
