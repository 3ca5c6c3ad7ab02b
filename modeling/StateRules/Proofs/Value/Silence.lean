import StateRules.Guard
import StateRules.Proofs.Journal

/-!
What the log of a part of the library is free of.

Operations on values emit no records of their own. Whatever they leave in the log comes of the
operations that classes bring, which an interpretation stands for. So where these leave no record of
some part of the library (`Interpretation.IsSilent`), neither does reading a value, asking whether
it counts as true, taking it apart, writing it or comparing it with another. There is one lemma for
each operation, and each follows the computation from one part to the next.
-/

namespace StateRules

namespace Act

/-- The records of a part of the library that a computation leaves. -/
def recordsOf {α : Type} (part : Component) (act : Act α) : List Record :=
  act.records.filter fun record => record.component = part

/-- Whether a computation leaves no record of a part of the library. -/
def IsSilent {α : Type} (part : Component) (act : Act α) : Prop := act.recordsOf part = []

variable {α β : Type} {part : Component}

theorem recordsOf_bind_of_ok {first : Act α} {a : α} (h : first.result = .ok a)
    (next : α → Act β) :
    (first >>= next).recordsOf part = first.recordsOf part ++ (next a).recordsOf part := by
  rw [bind_of_ok h]
  exact List.filter_append ..

theorem recordsOf_bind_of_error {first : Act α} {fault : Fault} (h : first.result = .error fault)
    (next : α → Act β) : (first >>= next).recordsOf part = first.recordsOf part := by
  rw [bind_of_error h]
  rfl

theorem recordsOf_emit {record : Record} (h : record.component = part) :
    (emit record).recordsOf part = [record] := List.filter_cons_of_pos (decide_eq_true h)

/-- A silent part adds nothing to the records of those behind it. -/
theorem IsSilent.recordsOf_bind {first : Act α} (hsilent : first.IsSilent part) {a : α}
    (h : first.result = .ok a) (next : α → Act β) :
    (first >>= next).recordsOf part = (next a).recordsOf part := by
  rw [recordsOf_bind_of_ok h, hsilent, List.nil_append]

namespace IsSilent

@[simp]
theorem pure (a : α) : (Pure.pure a : Act α).IsSilent part := rfl

@[simp]
theorem fail (fault : Fault) : (Act.fail fault : Act α).IsSilent part := rfl

@[simp]
theorem ofExcept (result : Except Fault α) : (Act.ofExcept result).IsSilent part := rfl

@[simp]
theorem ofOption (fault : Fault) (found : Option α) : (Act.ofOption fault found).IsSilent part := by
  cases found <;> rfl

@[simp]
theorem note (call : Call) : (Act.note call).IsSilent part := rfl

theorem attempt {act : Act α} (h : act.IsSilent part) : act.attempt.IsSilent part := h

theorem bind_of_ok {first : Act α} {next : α → Act β} (hfirst : first.IsSilent part)
    (hnext : ∀ a, first.result = .ok a → (next a).IsSilent part) :
    (first >>= next).IsSilent part := by
  cases h : first.result with
  | error fault => rwa [IsSilent, recordsOf_bind_of_error h]
  | ok a =>
      rw [IsSilent, hfirst.recordsOf_bind h]
      exact hnext a h

theorem bind {first : Act α} {next : α → Act β} (hfirst : first.IsSilent part)
    (hnext : ∀ a, (next a).IsSilent part) : (first >>= next).IsSilent part :=
  hfirst.bind_of_ok fun a _ => hnext a

theorem map {act : Act α} (h : act.IsSilent part) (f : α → β) : (f <$> act).IsSilent part := by
  rw [map_eq_pure_bind]
  exact h.bind fun a => .pure (f a)

theorem mapM {f : α → Act β} (h : ∀ a, (f a).IsSilent part) (items : List α) :
    (items.mapM f).IsSilent part := by
  induction items with
  | nil => exact .pure _
  | cons item rest ih =>
      rw [List.mapM_cons]
      exact (h item).bind fun b => ih.bind fun others => .pure (b :: others)

theorem forM {f : α → Act Unit} (h : ∀ a, (f a).IsSilent part)
    (items : List α) : (items.forM f).IsSilent part := by
  induction items with
  | nil => exact .pure _
  | cons item rest ih => exact (h item).bind fun _ => ih

theorem ite {c : Prop} [Decidable c] {one two : Act α} (hone : one.IsSilent part)
    (htwo : two.IsSilent part) : (if c then one else two).IsSilent part := by
  split
  · exact hone
  · exact htwo

end IsSilent

end Act

/-- Whether the operations that classes bring leave no record of a part of the library. -/
structure Interpretation.IsSilent (part : Component) (m : Interpretation) : Prop where
  call : ∀ v arguments, (m.call v arguments).IsSilent part
  write : ∀ v, (m.write v).IsSilent part
  resembles : ∀ a b, (m.resembles a b).IsSilent part
  checkKey : ∀ v, (m.checkKey v).IsSilent part
  finish : ∀ v, (m.finish v).IsSilent part

/-- Where no calls can go on, there are none that could leave a record. -/
theorem Interpretation.isSilent_exhausted (part : Component) : exhausted.IsSilent part :=
  ⟨fun _ _ => rfl, fun _ => rfl, fun _ _ => rfl, fun _ => rfl, fun _ => rfl⟩

namespace Value

section Reading

variable {m : Interpretation} {part : Component} (hm : m.IsSilent part)
include hm

theorem isSilent_bound (owner item : Value) : (owner.bound m item).IsSilent part := by
  unfold bound
  split
  · exact .pure _
  · exact hm.call _ _

theorem isSilent_find (v : Value) (name : String) : (v.find m name).IsSilent part := by
  unfold find
  dsimp only
  split
  · exact .ofOption _ _
  · exact .ite (isSilent_bound hm v _) (.ofOption _ _)

theorem isSilent_read (v : Value) (name : String) : (v.read m name).IsSilent part := by
  unfold read
  extract_lets direct
  have hdirect : direct.IsSilent part := by
    unfold direct
    split
    · exact isSilent_find hm v name
    · exact (isSilent_bound hm v _).bind fun _ => hm.call _ _
  split
  · exact hdirect
  · refine hdirect.attempt.bind fun found => ?_
    split
    · exact .pure _
    · exact .ite ((isSilent_bound hm v _).bind fun _ => hm.call _ _) (.fail _)

theorem isSilent_read? (v : Value) (name : String) : (v.read? m name).IsSilent part := by
  refine (isSilent_read hm v name).attempt.bind fun found => ?_
  split
  · exact .pure _
  · exact .ite (.pure _) (.fail _)

theorem isSilent_consult (v : Value) (operation : String) (items : List Value) :
    (v.consult m operation items).IsSilent part := by
  unfold consult
  split
  · exact .pure _
  · exact (isSilent_bound hm v _).bind fun item => (hm.call _ _).map _

theorem isSilent_isA (v : Value) (t : TypeRef) : (v.isA m t).IsSilent part := by
  refine .ite (.pure _) ?_
  split
  · exact (isSilent_read? hm _ _).bind fun claimed => .pure _
  · exact .pure _

theorem isSilent_countsAs (v : Value) (own : Bool) : (v.countsAs m own).IsSilent part := by
  refine .ite (.pure _) ?_
  split
  · exact (isSilent_read? hm _ _).bind fun _ => .pure _
  · exact .pure _

theorem isSilent_toIndex (v : Value) : (v.toIndex m).IsSilent part := by
  unfold toIndex
  split
  · exact .pure _
  · refine (isSilent_consult hm v _ _).bind fun answer => ?_
    split
    · exact .fail _
    · exact .ofOption _ _

theorem isSilent_ownLength? (v : Value) : (v.ownLength? m).IsSilent part := by
  refine (isSilent_consult hm v _ _).bind fun answer => ?_
  split
  · exact .pure _
  · refine (isSilent_toIndex hm _).bind fun length => ?_
    exact .ite (.fail _) (.ite (.fail _) (.pure _))

theorem isSilent_holds (v : Value) : (v.holds m).IsSilent part := by
  refine (isSilent_consult hm v _ _).bind fun answer => ?_
  split
  · exact .pure _
  · exact .fail _
  · refine (isSilent_ownLength? hm v).bind fun length => ?_
    split <;> exact .pure _

end Reading

end Value

/-- Whether handing out items leaves no record of a part of the library. -/
def Supply.IsSilent (part : Component) : Supply → Prop
  | .atHand _ => True
  | .byNumber next => ∀ i, (next i).IsSilent part

theorem Supply.IsSilent.toList {part : Component} {supply : Supply} (h : supply.IsSilent part) :
    supply.toList.IsSilent part := by
  have hgather (next : Nat → Act (Option Value)) (hnext : ∀ i, (next i).IsSilent part)
      (limit i : Nat) : (gather next limit i).IsSilent part := by
    induction limit generalizing i with
    | zero => exact .fail _
    | succ limit ih =>
        refine (hnext i).bind fun item => ?_
        split
        · exact .pure _
        · exact (ih (i + 1)).bind fun rest => .pure _
  cases supply with
  | atHand items => exact .pure items
  | byNumber next => exact hgather next h _ _

theorem Supply.IsSilent.any {part : Component} {supply : Supply} (h : supply.IsSilent part)
    {ask : Value → Act Bool}
    (hask : ∀ item, (ask item).IsSilent part) : (supply.any ask).IsSilent part := by
  have hfrom (next : Nat → Act (Option Value)) (hnext : ∀ i, (next i).IsSilent part)
      (limit i : Nat) : (anyFrom next ask limit i).IsSilent part := by
    induction limit generalizing i with
    | zero => exact .fail _
    | succ limit ih =>
        refine (hnext i).bind fun item => ?_
        split
        · exact .pure _
        · exact (hask _).bind fun _ => .ite (.pure _) (ih (i + 1))
  have hall (items : List Value) : (items.anyM ask).IsSilent part := by
    induction items with
    | nil => exact .pure _
    | cons item rest ih =>
        refine (hask item).bind fun isSo => ?_
        split
        · exact .pure _
        · exact ih
  cases supply with
  | atHand items => exact hall items
  | byNumber next => exact hfrom next h _ _

/-- Whether finding out where items come from leaves no record of a part of the library, and handing
them out leaves none either. -/
structure Act.IsSilentSupply (part : Component) (act : Act Supply) : Prop where
  found : act.IsSilent part
  handed : ∀ supply, act.result = .ok supply → supply.IsSilent part

namespace Act.IsSilentSupply

variable {part : Component}

theorem fail (fault : Fault) : (Act.fail fault).IsSilentSupply part :=
  ⟨.fail fault, fun _ h => by cases h⟩

theorem pure {supply : Supply} (h : supply.IsSilent part) :
    (Pure.pure supply : Act Supply).IsSilentSupply part :=
  ⟨.pure supply, fun _ hsupply => Except.ok.inj hsupply ▸ h⟩

theorem bind {α : Type} {first : Act α} {next : α → Act Supply} (hfirst : first.IsSilent part)
    (hnext : ∀ a, (next a).IsSilentSupply part) : (first >>= next).IsSilentSupply part := by
  refine ⟨hfirst.bind fun a => (hnext a).found, fun supply h => ?_⟩
  obtain ⟨a, _, hsupply⟩ := result_bind_eq_ok_iff.mp h
  exact (hnext a).handed supply hsupply

/-- Going on from what a search for items came to is silent if it is for items that are handed out
in silence and for every fault. -/
theorem bind_attempt {α : Type} {act : Act Supply}
    (hact : act.IsSilentSupply part) {next : Except Fault Supply → Act α}
    (hok : ∀ supply : Supply, supply.IsSilent part → (next (.ok supply)).IsSilent part)
    (herror : ∀ fault, (next (.error fault)).IsSilent part) :
    (act.attempt >>= next).IsSilent part := by
  refine hact.found.attempt.bind_of_ok fun found h => ?_
  obtain rfl : act.result = found := Except.ok.inj h
  cases hresult : act.result with
  | error fault => exact herror fault
  | ok supply => exact hok supply (hact.handed supply hresult)

end Act.IsSilentSupply

namespace Value

section Supply

variable {m : Interpretation} {part : Component} (hm : m.IsSilent part)
include hm

theorem isSilent_atPositions (v : Value) (i : Nat) : (v.atPositions m i).IsSilent part := by
  refine (isSilent_consult hm v _ _).attempt.bind fun found => ?_
  split
  · exact .pure _
  · exact .ite (.pure _) (.fail _)

theorem isSilentSupply_ownSupply (v guide : Value) : (v.ownSupply m guide).IsSilentSupply part := by
  refine .bind (isSilent_bound hm v guide).attempt fun found => ?_
  split
  · exact .fail _
  · refine .bind (hm.call _ _) fun answer => ?_
    split
    · exact .pure fun i => isSilent_consult hm answer _ _
    · exact .fail _
  · split
    · exact .pure fun i => isSilent_atPositions hm v i
    · split
      · exact .pure trivial
      · exact .fail _

theorem isSilentSupply_supply (v : Value) : (v.supply m).IsSilentSupply part := by
  unfold supply
  split
  · exact isSilentSupply_ownSupply hm v _
  · split
    · exact .pure trivial
    · split
      · exact .pure fun i => isSilent_atPositions hm v i
      · exact .fail _

theorem isSilent_tellsLength (v : Value) : (v.tellsLength m).IsSilent part := by
  refine (isSilent_ownLength? hm v).attempt.bind fun found => ?_
  split
  · exact .pure _
  · exact .ite (.pure _) (.fail _)

theorem isSilent_askForCount (v : Value) : (v.askForCount m).IsSilent part := by
  refine (isSilent_tellsLength hm v).bind fun tells => .ite (.pure _) ?_
  refine (isSilent_consult hm v _ _).attempt.bind fun found => ?_
  split
  · exact .pure _
  · exact (Act.IsSilent.ofOption _ _).bind fun count => .ite (.fail _) (.pure _)
  · exact .ite (.pure _) (.fail _)

theorem isSilent_items (v : Value) : (v.items m).IsSilent part := by
  have hsupply := isSilentSupply_supply hm v
  refine hsupply.found.bind_of_ok fun supply h => ?_
  exact (isSilent_askForCount hm v).bind fun _ => (hsupply.handed supply h).toList

end Supply

section Writing

variable {m : Interpretation} {part : Component} (hm : m.IsSilent part)

theorem isSilent_asText (operation : String) (answer : Value) :
    (answer.asText operation).IsSilent part := .ofOption _ _

include hm

theorem isSilent_ownText? (v : Value) : (v.ownText? m).IsSilent part := by
  unfold ownText?
  split
  · refine (isSilent_bound hm _ _).attempt.bind fun found => ?_
    split
    · exact (hm.call _ _).map _
    · exact .pure _
  · exact isSilent_consult hm _ _ _

theorem isSilent_writeRead (v : Value) (declared : List String) :
    (v.writeRead m declared).IsSilent part := by
  refine (isSilent_read hm v _).bind fun cls => (isSilent_read hm cls _).bind fun title => ?_
  refine (Act.IsSilent.mapM (fun name => ?_) declared).bind fun parts => ?_
  · exact (isSilent_read hm v name).bind fun item => (hm.write item).map _
  · exact (Act.IsSilent.ofOption _ _).bind fun title => .pure _

end Writing

end Value

variable {m : Interpretation} {part : Component}

mutual

theorem Value.isSilent_write (hm : m.IsSilent part) (v : Value) : (v.write m).IsSilent part := by
  match v with
  | .list items => exact (isSilent_writeItems hm items).map _
  | .tuple items => exact (isSilent_writeItems hm items).map _
  | .mapping kind entries => exact (isSilent_writeEntries hm kind entries).map _
  | .token shown => exact Value.isSilent_asText _ shown
  | .object cls shared identity fields =>
      unfold Value.write
      refine (Value.isSilent_ownText? hm _).bind fun answer => ?_
      split
      · exact Value.isSilent_asText _ _
      · refine .ite (.pure _) (.ite ((isSilent_writeFields hm fields).map _) ?_)
        exact Value.isSilent_writeRead hm _ _
  | .declaration d => exact Declaration.isSilent_write hm d
  | .null | .boolean _ | .integer _ | .float _ | .text _ | .bytes _ | .any | .unset | .member _
  | .basicType _ | .function _ _ | .placeholder _ | .renderable _ _ | .feature _ _ _
  | .classType _ _ => exact .pure _

theorem isSilent_writeItems (hm : m.IsSilent part) (items : List Value) :
    (writeItems m items).IsSilent part := by
  match items with
  | [] => exact .pure _
  | item :: rest =>
      exact (Value.isSilent_write hm item).bind fun first =>
        (isSilent_writeItems hm rest).bind fun others => .pure _

theorem isSilent_writeEntries (hm : m.IsSilent part) (kind : MappingKind)
    (entries : List (Value × Value)) : (writeEntries m kind entries).IsSilent part := by
  match entries with
  | [] => exact .pure _
  | (key, item) :: rest =>
      exact (Value.isSilent_write hm key).bind fun key =>
        (Value.isSilent_write hm item).bind fun item =>
        (isSilent_writeEntries hm kind rest).bind fun others => .pure _

theorem isSilent_writeFields (hm : m.IsSilent part) (fields : List (String × Value)) :
    (writeFields m fields).IsSilent part := by
  match fields with
  | [] => exact .pure _
  | (name, item) :: rest =>
      exact (Value.isSilent_write hm item).bind fun item =>
        (isSilent_writeFields hm rest).bind fun others => .pure _

theorem Declaration.isSilent_write (hm : m.IsSilent part) (d : Declaration) :
    (d.write m).IsSilent part := by
  match d with
  | .simple source destination event =>
      exact (Value.isSilent_write hm source).bind fun source =>
        (Value.isSilent_write hm destination).bind fun destination =>
          (Value.isSilent_write hm event).bind fun event => .pure _
  | .sourceBlock source destination event entries =>
      exact (Value.isSilent_write hm source).bind fun source =>
        (Value.isSilent_write hm destination).bind fun destination =>
          (Value.isSilent_write hm event).bind fun event =>
            (isSilent_writeItems hm entries).bind fun entries => .pure _
  | .toEntry destination event =>
      exact (Value.isSilent_write hm destination).bind fun destination =>
        (Value.isSilent_write hm event).bind fun event => .pure _
  | .eventBlock event entries guard =>
      exact (Value.isSilent_write hm event).bind fun event =>
        (isSilent_writeItems hm entries).bind fun entries =>
          (Value.isSilent_write hm guard).bind fun guard => .pure _

end

namespace Value

section Naming

variable (hm : m.IsSilent part)
include hm

theorem isSilent_shownAs (v : Value) (operation : String) :
    (v.shownAs m operation).IsSilent part := by
  unfold shownAs
  extract_lets next
  have hnext (given : Option Value) : (next given).IsSilent part := by
    unfold next
    split
    · exact (isSilent_asText _ _).bind fun _ => .pure _
    · exact (isSilent_write hm v).map _
  split
  · exact (Act.IsSilent.pure _).bind hnext
  · exact (isSilent_ownText? hm _).bind hnext

theorem isSilent_spell (v : Value) : (v.spell m).IsSilent part := by
  unfold spell
  split
  · exact .pure _
  · exact .pure _
  · exact (isSilent_write hm _).map _
  · refine (isSilent_consult hm _ _ _).bind fun answer => ?_
    split
    · exact (isSilent_asText _ _).bind fun _ => .pure _
    · exact isSilent_shownAs hm _ _

theorem isSilent_writeDisplay (v : Value) : (v.writeDisplay m).IsSilent part := by
  refine (isSilent_consult hm v _ _).bind fun answer => ?_
  split
  · exact .ofOption _ _
  · exact (isSilent_spell hm v).bind fun spelled => .pure _

theorem isSilent_byName (v : Value) (name : Option Value) : (v.byName m name).IsSilent part := by
  unfold byName
  split
  · exact isSilent_shownAs hm v _
  · exact (isSilent_holds hm _).bind fun given => .ite (.pure _) (isSilent_shownAs hm v _)

theorem isSilent_naming (v : Value) : (v.naming m).IsSilent part := by
  unfold naming
  split
  · exact isSilent_byName hm _ _
  · refine .ite ?_ (isSilent_shownAs hm _ _)
    exact (isSilent_countsAs hm _ _).bind fun _ =>
      (isSilent_read? hm _ _).bind fun name => isSilent_byName hm _ name
  all_goals first | exact isSilent_shownAs hm _ _ | exact .pure _

theorem isSilent_writeLabel (v : Value) : (v.writeLabel m).IsSilent part :=
  (isSilent_naming hm v).bind fun name => isSilent_writeDisplay hm name

end Naming

section Comparing

variable (hm : m.IsSilent part)
include hm

theorem isSilent_verdict? (a b : Value) : (a.verdict? m b).IsSilent part := by
  unfold verdict?
  split
  · exact .pure _
  · refine (isSilent_bound hm a _).attempt.bind fun found => ?_
    split
    · exact .pure _
    · exact (hm.call _ _).bind fun answer => (isSilent_holds hm answer).map _

theorem isSilent_sharesClass (a b : Value) : (a.sharesClass m b).IsSilent part :=
  (isSilent_read hm b _).bind fun _ => (isSilent_read hm a _).bind fun _ => .pure _

theorem isSilent_resembleAll (items others : List Value) :
    (resembleAll m items others).IsSilent part := by
  induction items generalizing others with
  | nil => exact .pure _
  | cons item items ih =>
      unfold resembleAll
      split
      · exact .pure _
      · next other rest =>
          have hnext (alike : Bool) : (if alike then resembleAll m items rest
              else pure false).IsSilent part := .ite (ih _) (.pure _)
          exact .ite ((Act.IsSilent.pure _).bind hnext) ((hm.resembles _ _).bind hnext)

theorem isSilent_recordVerdict? (a b : Value) (fields : List String) :
    (a.recordVerdict? m b fields).IsSilent part := by
  refine (isSilent_sharesClass hm a b).bind fun shares => .ite ?_ (.pure _)
  refine (Act.IsSilent.mapM (isSilent_read hm a) fields).bind fun own => ?_
  refine (Act.IsSilent.mapM (isSilent_read hm b) fields).bind fun others => ?_
  exact (isSilent_resembleAll hm own others).map _

theorem isSilent_ownVerdict? (a b : Value) : (a.ownVerdict? m b).IsSilent part := by
  refine (isSilent_verdict? hm a b).bind fun answer => ?_
  split
  · exact .pure _
  · split
    · refine (isSilent_verdict? hm b _).bind fun verdict => ?_
      split
      · exact .ite (.pure _) (isSilent_recordVerdict? hm _ _ _)
      · exact .pure _
    · exact .pure _

theorem isSilent_lastVerdict? (a b : Value) : (a.lastVerdict? m b).IsSilent part := by
  unfold lastVerdict?
  extract_lets next
  have hnext (claimed : Option Bool) : (next claimed).IsSilent part := by
    unfold next
    split
    · exact .ite ((isSilent_resembleAll hm _ _).map _) (.pure _)
    · exact .pure _
  split
  · exact (isSilent_recordVerdict? hm _ _ _).bind hnext
  · exact hnext _

/-- Judging whether two values are equal is silent if comparing their parts is. -/
theorem isSilent_judge (a : Value) (onLeft : Bool) (b : Value) {parts : Bool → Act (Option Bool)}
    (hparts : ∀ asked, (parts asked).IsSilent part) : (a.judge m onLeft b parts).IsSilent part := by
  unfold judge
  extract_lets aFirst conclude next
  have hnext (own : Option Bool) : (next own).IsSilent part := by
    unfold next
    split
    · exact .pure _
    · split
      extract_lets behind
      have hbehind (verdict : Option Bool) : (behind verdict).IsSilent part := by
        unfold behind
        split
        · exact .pure _
        · refine (isSilent_ownVerdict? hm _ _).bind fun verdict => ?_
          split
          · exact .pure _
          · exact .ite (.pure _) ((isSilent_lastVerdict? hm _ _).bind fun _ => .pure _)
      exact .ite ((Act.IsSilent.pure _).bind hbehind) ((hparts _).bind hbehind)
  exact .ite ((isSilent_ownVerdict? hm a b).bind hnext) ((isSilent_ownVerdict? hm b a).bind hnext)

end Comparing

theorem isSilent_alike (a b : Value) {equals next : Act Bool} (hequals : equals.IsSilent part)
    (hnext : next.IsSilent part) : (Value.alike a b equals next).IsSilent part :=
  .ite hnext (hequals.bind fun _ => .ite hnext (.pure _))

end Value

theorem isSilent_coveredBy {looks : List (Value × Value × (Value → Act Bool))}
    (h : ∀ look ∈ looks, ∀ other, (look.2.2 other).IsSilent part)
    (entries : List (Value × Value)) : (coveredBy looks entries).IsSilent part := by
  induction entries with
  | nil => exact .pure _
  | cons entry rest ih =>
      unfold coveredBy
      split
      · next _ item equals hfound =>
          exact Value.isSilent_alike _ _ (h _ (List.mem_of_find?_eq_some hfound) _) ih
      · exact .pure _

mutual

theorem Value.isSilent_equalsFrom (hm : m.IsSilent part) (a : Value) (onLeft : Bool) (b : Value) :
    (a.equalsFrom m onLeft b).IsSilent part := by
  match a with
  | .list items =>
      unfold Value.equalsFrom
      refine Value.isSilent_judge hm _ _ _ fun asked => ?_
      split
      · exact .ite ((isSilent_equalItems hm items asked _).map _) (.pure _)
      · exact .pure _
  | .tuple items =>
      unfold Value.equalsFrom
      refine Value.isSilent_judge hm _ _ _ fun asked => ?_
      split
      · exact (isSilent_equalItems hm items asked _).map _
      · exact .pure _
  | .mapping kind entries =>
      unfold Value.equalsFrom
      refine Value.isSilent_judge hm _ _ _ fun asked => ?_
      split
      · refine .ite ?_ (.pure _)
        have hlooks := isSilent_coveredBy (isSilent_entryLooks hm entries)
        exact .ite ((isSilent_equalEntries hm entries _).bind fun covered => .pure _)
          ((hlooks _).bind fun covered => .pure _)
      · exact .pure _
  | .token shown =>
      unfold Value.equalsFrom
      refine Value.isSilent_judge hm _ _ _ fun asked => ?_
      split
      · exact .pure _
      · exact .ite ((Value.isSilent_countsAs hm _ _).map _) (.pure _)
  | .object cls shared identity fields =>
      unfold Value.equalsFrom
      refine Value.isSilent_judge hm _ _ _ fun asked => ?_
      split
      · exact .pure _
      · split
        · exact (isSilent_equalFields hm fields asked _).map _
        · exact .pure _
      · exact Value.isSilent_recordVerdict? hm _ _ _
      · exact Value.isSilent_recordVerdict? hm _ _ _
      · dsimp only
        split
        · exact .pure _
        · next names _ =>
            have hfields (shares : Bool) :
                (if shares then do
                  let others ← names.mapM (b.read m)
                  some <$> equalFields m fields asked others
                else pure none).IsSilent part :=
              .ite ((Act.IsSilent.mapM (Value.isSilent_read hm b) names).bind fun others =>
                (isSilent_equalFields hm fields asked others).map _) (.pure _)
            exact .ite
              (.ite ((Value.isSilent_sharesClass hm _ _).bind hfields)
                ((Value.isSilent_sharesClass hm _ _).bind hfields))
              (.ite (Value.isSilent_recordVerdict? hm _ _ _)
                (Value.isSilent_recordVerdict? hm _ _ _))
  | .declaration d =>
      unfold Value.equalsFrom
      refine Value.isSilent_judge hm _ _ _ fun asked => ?_
      split
      · exact (Declaration.isSilent_equalsFrom hm d asked _).map _
      · exact (Value.isSilent_countsAs hm _ _).bind fun _ => .pure _
  | .null | .boolean _ | .integer _ | .float _ | .text _ | .bytes _ | .any | .unset | .member _
  | .basicType _ | .function _ _ | .placeholder _ | .renderable _ _ | .feature _ _ _
  | .classType _ _ =>
      unfold Value.equalsFrom
      refine Value.isSilent_judge hm _ _ _ fun asked => ?_
      split <;> exact .pure _

theorem isSilent_equalItems (hm : m.IsSilent part) (items : List Value) (onLeft : Bool)
    (others : List Value) : (equalItems m items onLeft others).IsSilent part := by
  match items, others with
  | [], _ => exact .pure _
  | _ :: _, [] => exact .pure _
  | item :: items, other :: others =>
      exact Value.isSilent_alike _ _ (Value.isSilent_equalsFrom hm item onLeft other)
        (isSilent_equalItems hm items onLeft others)

theorem isSilent_equalFields (hm : m.IsSilent part) (fields : List (String × Value))
    (onLeft : Bool) (others : List Value) : (equalFields m fields onLeft others).IsSilent part := by
  match fields, others with
  | [], _ => exact .pure _
  | (_, _) :: _, [] => exact .pure _
  | (_, item) :: fields, other :: others =>
      exact Value.isSilent_alike _ _ (Value.isSilent_equalsFrom hm item onLeft other)
        (isSilent_equalFields hm fields onLeft others)

theorem isSilent_equalEntries (hm : m.IsSilent part) (entries others : List (Value × Value)) :
    (equalEntries m entries others).IsSilent part := by
  match entries with
  | [] => exact .pure _
  | (key, item) :: entries =>
      unfold equalEntries
      split
      · exact Value.isSilent_alike _ _ (Value.isSilent_equalsFrom hm item true _)
          (isSilent_equalEntries hm entries others)
      · exact .pure _

theorem isSilent_entryLooks (hm : m.IsSilent part) (entries : List (Value × Value)) :
    ∀ look ∈ entryLooks m entries, ∀ other, (look.2.2 other).IsSilent part := by
  match entries with
  | [] => exact fun look hlook => absurd hlook List.not_mem_nil
  | (key, item) :: entries =>
      refine List.forall_mem_cons.mpr ⟨?_, isSilent_entryLooks hm entries⟩
      exact Value.isSilent_equalsFrom hm item false

theorem Declaration.isSilent_equalsFrom (hm : m.IsSilent part) (d : Declaration) (onLeft : Bool)
    (e : Declaration) : (d.equalsFrom m onLeft e).IsSilent part := by
  match d with
  | .simple source destination event =>
      have hparts (source' destination' event' : Value) (last : Bool) :
          (Value.alike source source' (source.equalsFrom m onLeft source')
            (Value.alike destination destination' (destination.equalsFrom m onLeft destination')
              (Value.alike event event' (event.equalsFrom m onLeft event')
                (pure last)))).IsSilent part :=
        Value.isSilent_alike _ _ (Value.isSilent_equalsFrom hm source onLeft source')
          (Value.isSilent_alike _ _ (Value.isSilent_equalsFrom hm destination onLeft destination')
            (Value.isSilent_alike _ _ (Value.isSilent_equalsFrom hm event onLeft event')
              (.pure last)))
      unfold Declaration.equalsFrom
      split
      · exact hparts _ _ _ _
      · exact hparts _ _ _ _
      · exact .pure _
  | .sourceBlock source destination event entries =>
      have hparts (source' destination' event' : Value) {last : Act Bool}
          (hlast : last.IsSilent part) :
          (Value.alike source source' (source.equalsFrom m onLeft source')
            (Value.alike destination destination' (destination.equalsFrom m onLeft destination')
              (Value.alike event event' (event.equalsFrom m onLeft event') last))).IsSilent part :=
        Value.isSilent_alike _ _ (Value.isSilent_equalsFrom hm source onLeft source')
          (Value.isSilent_alike _ _ (Value.isSilent_equalsFrom hm destination onLeft destination')
            (Value.isSilent_alike _ _ (Value.isSilent_equalsFrom hm event onLeft event') hlast))
      unfold Declaration.equalsFrom
      split
      · exact hparts _ _ _ (.pure _)
      · exact hparts _ _ _ (isSilent_equalItems hm entries onLeft _)
      · exact .pure _
  | .toEntry destination event =>
      unfold Declaration.equalsFrom
      split
      · exact Value.isSilent_alike _ _ (Value.isSilent_equalsFrom hm destination onLeft _)
          (Value.isSilent_alike _ _ (Value.isSilent_equalsFrom hm event onLeft _) (.pure _))
      · exact .pure _
  | .eventBlock event entries guard =>
      unfold Declaration.equalsFrom
      split
      · refine Value.isSilent_alike _ _ (Value.isSilent_equalsFrom hm event onLeft _) ?_
        refine (isSilent_equalItems hm entries onLeft _).bind fun alike => .ite ?_ (.pure _)
        exact Value.isSilent_alike _ _ (Value.isSilent_equalsFrom hm guard onLeft _) (.pure _)
      · exact .pure _

end

namespace Value

theorem isSilent_equals (hm : m.IsSilent part) (a b : Value) : (a.equals m b).IsSilent part :=
  isSilent_equalsFrom hm a true b

theorem isSilent_resembles (hm : m.IsSilent part) (a b : Value) :
    (a.resembles m b).IsSilent part :=
  .ite (.pure _) (isSilent_equals hm a b)

end Value

end StateRules
