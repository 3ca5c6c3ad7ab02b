/-!
Whole numbers spelled in a base. Digits beyond nine are letters of either case, single
underscores may stand between digits, and a number may begin with a mark that tells its
base: where the base is left open, that mark decides, and without one the base is ten.
-/

namespace StateRules.Number

def digitWorth? (c : Char) : Option Nat :=
  if c.isDigit then some (c.toNat - '0'.toNat)
  else if c.isLower then some (c.toNat - 'a'.toNat + 10)
  else if c.isUpper then some (c.toNat - 'A'.toNat + 10)
  else none

/-- The number whose digits stand behind those that were read, which are worth `read`.
An underscore has to follow a digit, and so has the end. -/
def readDigits (base read : Nat) (behindDigit : Bool) : List Char → Option Nat
  | [] => if behindDigit then some read else none
  | '_' :: rest => if behindDigit then readDigits base read false rest else none
  | c :: rest =>
      (digitWorth? c).bind fun d =>
        if d < base then readDigits base (base * read + d) true rest else none

def markedBase? (c : Char) : Option Nat :=
  match c.toLower with
  | 'x' => some 16
  | 'o' => some 8
  | 'b' => some 2
  | _ => none

/-- A number without a sign. Where the base is left open, only zero may begin with a
zero and have no mark. -/
def readUnsigned (base : Nat) (text : List Char) : Option Nat :=
  let plain : Option Nat :=
    if base = 0 then
      (readDigits 10 0 false text).bind fun n =>
        if text.head? = some '0' && n ≠ 0 then none else some n
    else readDigits base 0 false text
  match text with
  | '0' :: mark :: rest =>
      match markedBase? mark with
      | some marked =>
          if base = 0 || base = marked then
            readDigits marked 0 false (if rest.head? = some '_' then rest.drop 1 else rest)
          else plain
      | none => plain
  | _ => plain

/-- A number with an optional sign, spelled in a base, which is zero where it is left
open. -/
def readInBase (base : Nat) (text : List Char) : Option Int :=
  match text with
  | '-' :: rest => (readUnsigned base rest).map fun n => -(n : Int)
  | '+' :: rest => (readUnsigned base rest).map Int.ofNat
  | text => (readUnsigned base text).map Int.ofNat

end StateRules.Number
