import StateRules.Value.Comparison

/-!
Values that no class has a say in.

What a value comes to as a text, and whether it equals another, may be up to operations
that classes bring. The values of a kind are settled when it never is: they are then
written, named and compared by what they are made of, without a call and without a fault.

Atoms, the values that neither have parts nor are objects, are settled whatever calls
mean (`settled_isAtom`).
-/

namespace StateRules

/-- The values of a kind are written, named and compared by what they are made of. -/
structure Settled (m : Interpretation) (P : Value → Prop) : Prop where
  write : ∀ {v}, P v → v.write m = pure v.written
  writeDisplay : ∀ {v}, P v → v.writeDisplay m = pure v.display
  writeLabel : ∀ {v}, P v → v.writeLabel m = pure v.label
  equals : ∀ {a b}, P a → P b → a.equals m b = pure (a.equal b)
  resembles : ∀ {a b}, P a → P b → a.resembles m b = pure (a.same b)

namespace Value

/-- Whether a value has no parts and is no object. A function's label is a part of it
unless it is a text. -/
def isAtom : Value → Bool
  | .null | .boolean _ | .integer _ | .float _ | .text _ | .bytes _ | .any | .unset
  | .member _ | .basicType _ | .function _ .unset | .function _ (.text _) | .placeholder _
  | .feature _ _ _ | .classType _ _ => true
  | _ => false

theorem write_of_isAtom (m : Interpretation) {v : Value} (h : v.isAtom = true) :
    v.write m = pure v.written := by
  cases v with
  | list _ | tuple _ | mapping _ _ | token _ | renderable _ _ | object _ _ _ _
  | declaration _ => cases h
  | _ => rfl

theorem shownAs_of_isAtom (m : Interpretation) {v : Value} (h : v.isAtom = true)
    (operation : String) : v.shownAs m operation = pure (.text v.written) := by
  cases v with
  | list _ | tuple _ | mapping _ _ | token _ | renderable _ _ | object _ _ _ _
  | declaration _ => cases h
  | _ => rfl

theorem writeDisplay_of_isAtom (m : Interpretation) {v : Value} (h : v.isAtom = true) :
    v.writeDisplay m = pure v.display := by
  cases v with
  | list _ | tuple _ | mapping _ _ | token _ | renderable _ _ | object _ _ _ _
  | declaration _ => cases h
  | _ => rfl

theorem naming_function (m : Interpretation) (f : Function) (name : String) :
    (Value.function f (.text name)).naming m =
      pure (.text (Value.function f (.text name)).label) := by
  have hholds : (Value.text name).holds m = pure (!name.isEmpty) := by
    rw [holds_of_shared_none m rfl rfl, truth_text]
  have hshown : (Value.function f (.text name)).shownAs m "__repr__" = pure (.text f.shown) :=
    shownAs_of_isAtom m rfl "__repr__"
  cases hname : name.isEmpty <;> simp [naming, isUnset, byName, hholds, hname, hshown, label]

theorem naming_of_isAtom (m : Interpretation) {v : Value} (h : v.isAtom = true) :
    v.naming m = pure (.text v.label) := by
  cases v with
  | list _ | tuple _ | mapping _ _ | token _ | renderable _ _ | object _ _ _ _
  | declaration _ => cases h
  | function f label =>
      cases label with
      | unset => rfl
      | text name => exact naming_function m f name
      | _ => cases h
  | _ => rfl

theorem writeLabel_of_isAtom (m : Interpretation) {v : Value} (h : v.isAtom = true) :
    v.writeLabel m = pure v.label := by
  rw [writeLabel, naming_of_isAtom m h]
  rfl

theorem equals_of_isAtom (m : Interpretation) {a b : Value} (ha : a.isAtom = true)
    (hb : b.isAtom = true) : a.equals m b = pure (a.equal b) := by
  cases a with
  | list _ | tuple _ | mapping _ _ | token _ | renderable _ _ | object _ _ _ _
  | declaration _ => cases ha
  | _ =>
      cases b with
      | list _ | tuple _ | mapping _ _ | token _ | renderable _ _ | object _ _ _ _
      | declaration _ => cases hb
      | _ => rfl

theorem same_of_identical {a b : Value} (ha : a.isAtom = true) (h : a.identical b = true) :
    a.same b = true := by
  cases a with
  | object _ _ _ _ => cases ha
  | float x =>
      cases b with
      | float y =>
          obtain ⟨_, rfl⟩ : x.isUndefined = true ∧ x = y := by simpa [identical] using h
          exact same_refl _
      | _ => cases h
  | _ => cases h

theorem same_of_isUndefinedNumber {a b : Value} (hb : b.isAtom = true)
    (ha : a.isUndefinedNumber = true) (h : a.identical b = false) : a.same b = false := by
  cases a with
  | float x =>
      cases x with
      | undefined tag =>
          cases b with
          | float y =>
              cases y with
              | undefined other =>
                  have hne : tag ≠ other := by
                    simpa [identical, Number.Binary.isUndefined] using h
                  simp [same, sameScalar, scalar?, Number.Binary.worth, hne]
              | _ => rfl
          | member m =>
              cases hn : m.integer? <;> cases hs : m.text? <;>
                simp [same, sameScalar, scalar?, Number.Binary.worth, Number.Worth.ofInt, hn,
                  hs]
          | list _ | tuple _ | mapping _ _ | token _ | renderable _ _ | object _ _ _ _
          | declaration _ => cases hb
          | _ => rfl
      | _ => cases ha
  | _ => cases ha

theorem resembles_of_isAtom (m : Interpretation) {a b : Value} (ha : a.isAtom = true)
    (hb : b.isAtom = true) : a.resembles m b = pure (a.same b) := by
  cases h : a.identical b with
  | true => simp [resembles, h, same_of_identical ha h]
  | false =>
      cases hu : a.isUndefinedNumber with
      | true =>
          simp [resembles, h, equals_of_isAtom m ha hb, equal, hu,
            same_of_isUndefinedNumber hb hu h]
      | false => simp [resembles, h, equals_of_isAtom m ha hb, equal, hu]

end Value

theorem settled_isAtom (m : Interpretation) : Settled m fun v => v.isAtom = true where
  write := Value.write_of_isAtom m
  writeDisplay := Value.writeDisplay_of_isAtom m
  writeLabel := Value.writeLabel_of_isAtom m
  equals := Value.equals_of_isAtom m
  resembles := Value.resembles_of_isAtom m

end StateRules
