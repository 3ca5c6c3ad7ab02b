/-!
Binary floating-point numbers of double precision, as exact values. A finite
number is a mantissa of at most 53 bits times a power of two, so comparing it
with a whole number of any size needs no rounding. Rounding happens in one
place, `Binary.nearest`, which takes a quotient to the nearest number and a tie
to the even mantissa.
-/

namespace StateRules.Number

/-- A binary floating-point number. `finite negative m e` stands for `m * 2 ^ e`
with its sign, so that zero keeps one. An undefined number carries a tag that
tells one occurrence from another. -/
inductive Binary where
  | finite (negative : Bool) (mantissa : Nat) (exponent : Int)
  | infinite (negative : Bool)
  | undefined (tag : Nat)
deriving DecidableEq, Repr

/-- What a number is worth. Two finite numbers are worth the same exactly when
they are the same point of the line, whichever way they are written. -/
inductive Worth where
  | finite (value : Dyadic)
  | infinite (negative : Bool)
  | undefined (tag : Nat)
deriving DecidableEq

def Worth.ofInt (n : Int) : Worth := .finite (Dyadic.ofInt n)

/-- The order of the line with both infinities. An undefined number is below
nothing and above nothing. -/
def Worth.atMost : Worth → Worth → Bool
  | .undefined _, _ | _, .undefined _ => false
  | .infinite true, _ | _, .infinite false => true
  | .finite a, .finite b => a ≤ b
  | _, _ => false

namespace Binary

def signed (negative : Bool) (n : Nat) : Int := if negative then -n else n

def worth : Binary → Worth
  | finite negative m e => .finite (Dyadic.ofIntWithPrec (signed negative m) (-e))
  | infinite negative => .infinite negative
  | undefined tag => .undefined tag

def isUndefined : Binary → Bool
  | undefined _ => true
  | _ => false

def isZero : Binary → Bool
  | finite _ 0 _ => true
  | _ => false

/-- The quotient rounded to the nearest whole number, a tie to the even one. -/
def roundDiv (num den : Nat) : Nat :=
  let quotient := num / den
  let twice := 2 * (num % den)
  if twice < den || (twice = den && quotient % 2 = 0) then quotient else quotient + 1

/-- `num / (den * 2 ^ e)` as a quotient of two natural numbers. -/
def scale (num den : Nat) (e : Int) : Nat × Nat :=
  if 0 ≤ e then (num, den * Nat.pow 2 e.toNat) else (num * Nat.pow 2 (-e).toNat, den)

/-- The least power of two that `num / den` reaches, for positive operands. -/
def magnitude (num den : Nat) : Int :=
  let guess : Int := (num.log2 : Int) - den.log2
  let (n, d) := scale num den guess
  if d ≤ n then guess else guess - 1

def leastExponent : Int := -1074

def greatestExponent : Int := 971

/-- The number nearest to `num / den`; beyond the greatest finite number that is
infinity. -/
def nearest (negative : Bool) (num den : Nat) : Binary :=
  if num = 0 || den = 0 then finite negative 0 leastExponent
  else
    let e := max (magnitude num den - 52) leastExponent
    let (n, d) := scale num den e
    let m := roundDiv n d
    let (m, e) := if m = Nat.pow 2 53 then (Nat.pow 2 52, e + 1) else (m, e)
    if greatestExponent < e then infinite negative else finite negative m e

/-- The number nearest to a whole number. -/
def ofInt (n : Int) : Binary := nearest (n < 0) n.natAbs 1

/-- The whole part of a finite number, cut towards zero. -/
def truncate? : Binary → Option Int
  | finite negative m e =>
      some (signed negative (if 0 ≤ e then m * Nat.pow 2 e.toNat else m / Nat.pow 2 (-e).toNat))
  | _ => none

end Binary

end StateRules.Number
