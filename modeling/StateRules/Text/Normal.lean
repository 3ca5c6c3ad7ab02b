import StateRules.Text.Decomposition

/-!
The normal form of a name.

Two names that look alike may be spelled with different characters. The normal form of a name takes
each character apart into what it is made of, puts the marks behind each letter in order, and joins
letters and marks again where there is a character for both (`normalForm`). Names of ASCII
characters stay as they are.
-/

namespace StateRules.Text

/-- The first syllable of those that are made of two or three letters, a row of which has
one for each vowel and each ending. -/
def firstSyllable : Nat := 0xAC00

/-- The letters that a syllable is made of: a lead, a vowel, and possibly an ending. -/
def syllableLetters (place : Nat) : List Nat :=
  let ending := place % 28
  [0x1100 + place / 588, 0x1161 + place % 588 / 28] ++ if ending = 0 then [] else [0x11A7 + ending]

/-- How deep characters may be made of characters that are made of others. -/
def layers : Nat := 4

/-- What a character is made of. -/
def takenApart : Nat → Nat → List Nat
  | 0, c => [c]
  | depth + 1, c =>
      if firstSyllable ≤ c && c < firstSyllable + 11172 then syllableLetters (c - firstSyllable)
      else
        match markedLetters.find? fun entry => entry.head? = some c with
        | some entry => entry.tail.flatMap (takenApart depth)
        | none =>
            match standIns.find? fun entry => entry.head? = some c with
            | some entry => entry.tail
            | none =>
                (standInRows.findSome? fun entry =>
                  match entry with
                  | [first, last, other] =>
                      if first ≤ c && c ≤ last then some [other + (c - first)] else none
                  | _ => none).getD [c]

def rank (c : Nat) : Nat :=
  (markRanks.findSome? fun entry =>
    match entry with
    | [first, last, rank] => if first ≤ c && c ≤ last then some rank else none
    | _ => none).getD 0

/-- A character in front of some others whose marks are in order; a mark goes behind those of
lower rank. -/
def putInOrder (c : Nat) : List Nat → List Nat
  | [] => [c]
  | d :: rest => if rank d ≠ 0 && rank d < rank c then d :: putInOrder c rest else c :: d :: rest

/-- The character for two in a row, if there is one. -/
def joined? (first second : Nat) : Option Nat :=
  if 0x1100 ≤ first && first < 0x1113 && 0x1161 ≤ second && second < 0x1176 then
    some (firstSyllable + (first - 0x1100) * 588 + (second - 0x1161) * 28)
  else if firstSyllable ≤ first && first < firstSyllable + 11172 &&
      (first - firstSyllable) % 28 = 0 && 0x11A7 < second && second < 0x11C3 then
    some (first + (second - 0x11A7))
  else
    (markedLetters.find? fun entry => entry.tail = [first, second]).bind List.head?

/-- A letter with what is behind it, joined as far as possible; `passed` are the marks in
between that could not be joined, from the last on. Behind a mark that was passed only one of
higher rank can be joined. -/
def joinFrom (letter : Nat) (passed : List Nat) : List Nat → List Nat
  | [] => letter :: passed.reverse
  | c :: rest =>
      let isBehind := match passed with | [] => true | mark :: _ => rank mark < rank c
      match if isBehind then joined? letter c else none with
      | some both => joinFrom both passed rest
      | none =>
          if rank c = 0 then letter :: (passed.reverse ++ joinFrom c [] rest)
          else joinFrom letter (c :: passed) rest

def joinAll : List Nat → List Nat
  | [] => []
  | c :: rest => if rank c = 0 then joinFrom c [] rest else c :: joinAll rest

/-- Whether all characters of a text are ASCII ones. -/
def isPlain (text : String) : Bool := text.toList.all fun c => c.toNat < 0x80

def normalForm (text : String) : String :=
  if isPlain text then text
  else
    let parts := text.toList.flatMap fun c => takenApart layers c.toNat
    String.ofList ((joinAll (parts.foldr putInOrder [])).map Char.ofNat)

end StateRules.Text
