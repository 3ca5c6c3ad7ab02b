import StateRules.Value.Reading

/-!
Whether a value counts as true, and which whole number it stands for.

An object may say itself whether it counts as true (`__bool__`), or else how long it is (`__len__`);
without either it counts as true unless it is a tuple without items.
-/

namespace StateRules

namespace Value

/-- The whole number that a value stands for where a position or a length is asked
for. -/
def toIndex (m : Interpretation) (v : Value) : Act Int :=
  match v.integer? with
  | some n => pure n
  | none => do
      match ← v.consult m "__index__" [] with
      | none => Act.fail (.notIndex v.formalName)
      | some answer =>
          Act.ofOption (.unfit (.whole "__index__") answer.formalName) answer.integer?

/-- The bound of what can be a position or a length at all: positions lie below it, and none
lies below its negative. -/
def positionBound : Int := Int.pow 2 63

def ownLength? (m : Interpretation) (v : Value) : Act (Option Int) := do
  match ← v.consult m "__len__" [] with
  | none => pure none
  | some answer => do
      let length ← answer.toIndex m
      if length < 0 then Act.fail (.negative "__len__")
      else if positionBound ≤ length then Act.fail .hugeLength
      else pure (some length)

/-- `bool`: whether a value counts as true. -/
def holds (m : Interpretation) (v : Value) : Act Bool := do
  match ← v.consult m "__bool__" [] with
  | some (.boolean b) => pure b
  | some answer => Act.fail (.unfit .truth answer.formalName)
  | none =>
      match ← v.ownLength? m with
      | some length => pure (length ≠ 0)
      | none => pure v.truth

/-- A value that is no object counts as true by what it is made of. -/
theorem holds_of_shared_none {v : Value} (m : Interpretation) (hbool : v.shared? "__bool__" = none)
    (hlen : v.shared? "__len__" = none) : v.holds m = pure v.truth := by
  simp [holds, ownLength?, consult_of_shared_none hbool, consult_of_shared_none hlen]

end Value

end StateRules
