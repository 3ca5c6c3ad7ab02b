import StateRules.Guard
import StateRules.Proofs.Entity.Silence

/-!
What calls leave in the log.

A call that a script stands behind is recorded as a call and emits nothing. What a type makes of
what it is called with and how numbers, texts and sequences are ordered is found out in silence, and
so is what a script does with an entity, as long as the values that it needs are had in silence
(`Script.IsSilent`). So wherever scripts say what calls mean, the operations that classes bring are
silent however deep the calls may lie within one another (`Interpretation.isSilent_upTo`).
-/

namespace StateRules

variable {m : Interpretation} {part : Component}

namespace Value

section Ordering

variable (hm : m.IsSilent part)
include hm

theorem isSilent_ownRelation? (a : Value) (greater : Bool) (b : Value) :
    (a.ownRelation? m greater b).IsSilent part := by
  unfold ownRelation?
  split
  refine (isSilent_consult hm a _ _).bind fun answer => ?_
  split
  · exact (isSilent_holds hm _).map _
  · split
    · refine (isSilent_consult hm b _ _).bind fun answer => ?_
      split
      · exact (isSilent_holds hm _).map _
      · exact .pure _
    · exact .pure _

/-- Putting two values in order is silent if putting their parts in order is. -/
theorem isSilent_relate (a : Value) (onLeft : Bool) (b : Value)
    {parts : Bool → Act (Option Bool)} (hparts : ∀ asked, (parts asked).IsSilent part) :
    (a.relate m onLeft b parts).IsSilent part := by
  unfold relate
  extract_lets aFirst last next
  have hlast (own : Option Bool) : (last own).IsSilent part := by
    unfold last
    split
    · exact .pure _
    · exact .fail _
  have hnext (own : Option Bool) : (next own).IsSilent part := by
    unfold next
    split
    · exact .pure _
    · refine (hparts aFirst).bind fun verdict => ?_
      split
      · exact .pure _
      · exact .ite ((isSilent_ownRelation? hm b _ a).bind hlast)
          ((isSilent_ownRelation? hm a _ b).bind hlast)
  exact .ite ((isSilent_ownRelation? hm a _ b).bind hnext)
    ((isSilent_ownRelation? hm b _ a).bind hnext)

end Ordering

end Value

mutual

theorem Value.isSilent_atLeastFrom (hm : m.IsSilent part) (a : Value) (onLeft : Bool) (b : Value) :
    (a.atLeastFrom m onLeft b).IsSilent part := by
  match a with
  | .list items =>
      unfold Value.atLeastFrom
      refine Value.isSilent_relate hm _ _ _ fun asked => ?_
      split
      · exact (isSilent_atLeastItems hm items asked _).map _
      · exact .pure _
  | .tuple items =>
      unfold Value.atLeastFrom
      refine Value.isSilent_relate hm _ _ _ fun asked => ?_
      split
      · exact (isSilent_atLeastItems hm items asked _).map _
      · exact .pure _
  | .object cls shared identity fields =>
      unfold Value.atLeastFrom
      refine Value.isSilent_relate hm _ _ _ fun asked => ?_
      split
      · exact (isSilent_atLeastFields hm fields asked _).map _
      · exact .pure _
  | .null | .boolean _ | .integer _ | .float _ | .text _ | .bytes _ | .any | .unset | .member _
  | .mapping _ _ | .token _ | .declaration _ | .basicType _ | .function _ _ | .placeholder _
  | .renderable _ _ | .feature _ _ _ | .classType _ _ =>
      unfold Value.atLeastFrom
      exact Value.isSilent_relate hm _ _ _ fun _ => .pure _

theorem isSilent_atLeastItems (hm : m.IsSilent part) (items : List Value) (onLeft : Bool)
    (others : List Value) : (atLeastItems m items onLeft others).IsSilent part := by
  match items with
  | [] => exact .pure _
  | item :: items =>
      unfold atLeastItems
      split
      · exact .pure _
      · next other rest =>
          have hnext (alike : Bool) : (if alike then atLeastItems m items onLeft rest
              else item.atLeastFrom m onLeft other).IsSilent part :=
            .ite (isSilent_atLeastItems hm items onLeft rest)
              (Value.isSilent_atLeastFrom hm item onLeft other)
          exact .ite ((Act.IsSilent.pure _).bind hnext)
            ((Value.isSilent_equalsFrom hm item onLeft other).bind hnext)

theorem isSilent_atLeastFields (hm : m.IsSilent part) (fields : List (String × Value))
    (onLeft : Bool) (others : List Value) :
    (atLeastFields m fields onLeft others).IsSilent part := by
  match fields with
  | [] => exact .pure _
  | (name, item) :: fields =>
      unfold atLeastFields
      split
      · exact .pure _
      · next other rest =>
          have hnext (alike : Bool) : (if alike then atLeastFields m fields onLeft rest
              else item.atLeastFrom m onLeft other).IsSilent part :=
            .ite (isSilent_atLeastFields hm fields onLeft rest)
              (Value.isSilent_atLeastFrom hm item onLeft other)
          exact .ite ((Act.IsSilent.pure _).bind hnext)
            ((Value.isSilent_equalsFrom hm item onLeft other).bind hnext)

end

section Converting

variable (hm : m.IsSilent part)
include hm

theorem isSilent_toInteger (v : Value) : (toInteger m v).IsSilent part := by
  unfold toInteger
  extract_lets ownWhole
  have hown (operation : String) : (ownWhole operation).IsSilent part := by
    refine (Value.isSilent_consult hm v _ _).bind fun answer => ?_
    split
    · exact .pure _
    · exact (Act.IsSilent.ofOption _ _).bind fun n => .pure _
  refine (hown _).bind fun n => ?_
  split
  · exact .pure _
  · refine (hown _).bind fun n => ?_
    split
    · exact .pure _
    · refine (Value.isSilent_consult hm v _ _).bind fun answer => ?_
      split
      · exact .ofExcept _
      · exact (Value.isSilent_index? hm _).bind fun n => (Act.IsSilent.ofOption _ n).map _

theorem isSilent_toIntegerIn (v base : Value) : (toIntegerIn m v base).IsSilent part :=
  (Value.isSilent_toIndex hm base).bind fun _ => .ite (.fail _)
    ((Act.IsSilent.ofOption _ _).bind fun _ => (Act.IsSilent.ofOption _ _).map _)

theorem isSilent_toFloat (v : Value) : (toFloat m v).IsSilent part := by
  refine (Value.isSilent_consult hm v _ _).bind fun answer => ?_
  split
  · exact .pure _
  · exact .fail _
  · refine (Value.isSilent_consult hm v _ _).bind fun answer => ?_
    split
    · exact (Act.IsSilent.ofOption _ _).bind fun n => .ofExcept _
    · exact .ofExcept _

omit hm in
theorem isSilent_toDecoded (v : Value) : (toDecoded v).IsSilent part := by
  unfold toDecoded
  split
  · exact .pure _
  · exact .fail _

namespace BasicType

theorem isSilent_convert (t : BasicType) (v : Value) : (t.convert m v).IsSilent part := by
  cases t with
  | boolean => exact (Value.isSilent_holds hm v).map _
  | integer => exact isSilent_toInteger hm v
  | float => exact isSilent_toFloat hm v
  | text => exact Value.isSilent_spell hm v
  | list => exact (Value.isSilent_items hm v).map _
  | tuple => exact (Value.isSilent_items hm v).map _
  | mapping => exact (Value.isSilent_addEntries hm v []).map _
  | object => exact .fail _

theorem isSilent_call (t : BasicType) (arguments : Arguments) :
    (t.call m arguments).IsSilent part := by
  cases t with
  | object => exact .ite (.pure _) (.fail _)
  | integer =>
      refine (Act.IsSilent.ofExcept _).bind fun given => ?_
      split
      · exact .pure _
      · exact isSilent_convert hm _ _
      · exact isSilent_toIntegerIn hm _ _
      · exact .fail _
  | text =>
      refine (Act.IsSilent.ofExcept _).bind fun given => ?_
      split
      · refine (Act.IsSilent.ofExcept _).bind fun _ => (Act.IsSilent.ofExcept _).bind fun _ => ?_
        split
        · exact .pure _
        · exact .ite (isSilent_convert hm _ _) (isSilent_toDecoded _)
      · exact .pure _
  | mapping =>
      unfold call
      dsimp only
      split
      · exact (isSilent_collectEntries hm _ _).map _
      · exact (Value.isSilent_addEntries hm _ _).bind fun entries =>
          (isSilent_collectEntries hm entries _).map _
      · exact .fail _
  | boolean | float | list | tuple =>
      refine (Act.IsSilent.ofExcept _).bind fun given => ?_
      split
      · exact .pure _
      · exact isSilent_convert hm _ _

end BasicType

end Converting

/-- Whether a value that a script needs is had in silence. -/
def Needed.IsSilent (part : Component) (v : Needed) : Prop :=
  ∀ m : Interpretation, m.IsSilent part → (v m).IsSilent part

/-- Whether all that a script needs is had in silence. -/
def Script.IsSilent (part : Component) : Script → Prop
  | .give v => v.IsSilent part
  | .entity | .part _ | .fail _ => True
  | .threshold _ least reached missed =>
      least.IsSilent part ∧ reached.IsSilent part ∧ missed.IsSilent part
  | .select _ cases => ∀ case ∈ cases, case.1.IsSilent part ∧ case.2.IsSilent part

section Calls

variable (hm : m.IsSilent part)
include hm

theorem isSilent_selectCase (item : Value) {cases : List (Needed × Needed)}
    (h : ∀ case ∈ cases, case.1.IsSilent part ∧ case.2.IsSilent part) :
    (selectCase m item cases).IsSilent part := by
  induction cases with
  | nil => exact .fail _
  | cons case rest ih =>
      obtain ⟨⟨hkey, hanswer⟩, hrest⟩ := List.forall_mem_cons.mp h
      exact (hkey m hm).bind fun key => (Value.isSilent_equalsFrom hm key _ item).bind fun _ =>
        .ite (hanswer m hm) (ih hrest)

theorem Script.isSilent_run {script : Script} (h : script.IsSilent part) (entity : Value) :
    (script.run m entity).IsSilent part := by
  cases script with
  | give v => exact h m hm
  | entity => exact .pure _
  | part name => exact Value.isSilent_part hm entity name
  | threshold name least reached missed =>
      obtain ⟨hleast, hreached, hmissed⟩ := h
      exact (Value.isSilent_part hm entity name).bind fun item => (hleast m hm).bind fun least =>
        (Value.isSilent_atLeastFrom hm item _ least).bind fun _ =>
          .ite (hreached m hm) (hmissed m hm)
  | select name cases =>
      exact (Value.isSilent_part hm entity name).bind fun item => isSilent_selectCase hm item h
  | fail fault => exact .fail _

theorem Value.isSilent_perform {scripts : Scripts} (hscripts : ∀ name, (scripts name).IsSilent part)
    (v : Value) (arguments : Arguments) : (v.perform m scripts arguments).IsSilent part := by
  unfold perform
  split
  · exact (Act.IsSilent.ofExcept _).bind fun entity =>
      (Act.IsSilent.note _).bind fun _ => Script.isSilent_run hm (hscripts _) entity
  · exact BasicType.isSilent_call hm _ _
  · exact (Act.IsSilent.ofExcept _).bind fun _ => .pure _
  · exact Class.isSilent_make hm _ _ _ _
  · exact .fail _
  · split
    · exact (isSilent_bound hm _ _).bind fun _ => hm.call _ _
    · exact .fail _
  · exact .fail _

theorem Value.isSilent_calledBack (v : Value) : (v.calledBack m).IsSilent part := by
  unfold calledBack
  split
  · exact .pure _
  · exact (isSilent_read hm v _).bind fun _ => (hm.call _ _).bind fun _ => .pure _

end Calls

/-- Where scripts need nothing that leaves a record, no operation leaves one, however deep the calls
may lie within one another. -/
theorem Interpretation.isSilent_upTo {scripts : Scripts}
    (hscripts : ∀ name, (scripts name).IsSilent part) (depth : Nat) :
    (upTo scripts depth).IsSilent part := by
  induction depth with
  | zero => exact isSilent_exhausted part
  | succ depth ih =>
      exact ⟨Value.isSilent_perform ih hscripts, Value.isSilent_write ih,
        Value.isSilent_resembles ih, Value.isSilent_checkKey ih, Value.isSilent_calledBack ih⟩

end StateRules
