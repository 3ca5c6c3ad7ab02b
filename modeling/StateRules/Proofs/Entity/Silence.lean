import StateRules.Accessor
import StateRules.Proofs.Value.Silence

/-!
What reading and copying an entity leaves in the log: nothing.

An accessor reads the state of an entity under a key or a name and writes it into a copy. On the way
it looks at keys, sets attributes, makes objects and follows the recipes that objects give for their
copies. All of this calls what classes bring and emits nothing itself, so it is silent where these
operations are (`Accessor.isSilent_field`).
-/

namespace StateRules

variable {m : Interpretation} {part : Component}

/-- Whether reading a state and writing one leave no record of a part of the library. -/
structure Accessor.IsSilent (part : Component) (m : Interpretation) (accessor : Accessor) :
    Prop where
  get : ∀ entity, (accessor.get m entity).IsSilent part
  set : ∀ entity state, (accessor.set m entity state).IsSilent part

theorem Value.isSilent_checkOwnKey (hm : m.IsSilent part) (v item : Value) :
    (v.checkOwnKey m item).IsSilent part := by
  refine (isSilent_bound hm v item).attempt.bind fun found => ?_
  split
  · exact .fail _
  · exact .fail _
  · exact (hm.call _ _).bind fun answer => .ite (.pure _) (.fail _)

mutual

theorem Value.isSilent_checkKey (hm : m.IsSilent part) (v : Value) :
    (v.checkKey m).IsSilent part := by
  match v with
  | .tuple items => exact isSilent_checkKeyItems hm items
  | .list _ | .mapping _ _ | .token _ => exact .fail _
  | .object cls shared identity fields =>
      unfold Value.checkKey
      dsimp only
      split
      · exact Value.isSilent_checkOwnKey hm _ _
      · refine .ite (.fail _) ?_
        split
        · exact .pure _
        · exact isSilent_checkKeyFields hm fields
        · exact .ite (isSilent_checkKeyFields hm fields)
            ((Act.IsSilent.mapM (Value.isSilent_read hm _) _).bind fun items =>
              .forM hm.checkKey items)
  | .declaration d => exact Declaration.isSilent_checkKey hm d
  | .null | .boolean _ | .integer _ | .float _ | .text _ | .bytes _ | .any | .unset | .member _
  | .basicType _ | .function _ _ | .placeholder _ | .renderable _ _ | .feature _ _ _
  | .classType _ _ => exact .pure _

theorem isSilent_checkKeyItems (hm : m.IsSilent part) (items : List Value) :
    (checkKeyItems m items).IsSilent part := by
  match items with
  | [] => exact .pure _
  | item :: rest =>
      exact (Value.isSilent_checkKey hm item).bind fun _ => isSilent_checkKeyItems hm rest

theorem isSilent_checkKeyFields (hm : m.IsSilent part) (fields : List (String × Value)) :
    (checkKeyFields m fields).IsSilent part := by
  match fields with
  | [] => exact .pure _
  | (_, item) :: rest =>
      exact (Value.isSilent_checkKey hm item).bind fun _ => isSilent_checkKeyFields hm rest

theorem Declaration.isSilent_checkKey (hm : m.IsSilent part) (d : Declaration) :
    (d.checkKey m).IsSilent part := by
  match d with
  | .simple source destination event =>
      exact (Value.isSilent_checkKey hm source).bind fun _ =>
        (Value.isSilent_checkKey hm destination).bind fun _ => Value.isSilent_checkKey hm event
  | .sourceBlock source destination event entries =>
      exact (Value.isSilent_checkKey hm source).bind fun _ =>
        (Value.isSilent_checkKey hm destination).bind fun _ =>
          (Value.isSilent_checkKey hm event).bind fun _ => isSilent_checkKeyItems hm entries
  | .toEntry destination event =>
      exact (Value.isSilent_checkKey hm destination).bind fun _ => Value.isSilent_checkKey hm event
  | .eventBlock event entries guard =>
      exact (Value.isSilent_checkKey hm event).bind fun _ =>
        (isSilent_checkKeyItems hm entries).bind fun _ => Value.isSilent_checkKey hm guard

end

section Keys

variable (hm : m.IsSilent part)
include hm

theorem Value.isSilent_sameKey (kept key : Value) : (kept.sameKey m key).IsSilent part :=
  .ite (.pure _) (Value.isSilent_resembles hm kept key)

theorem isSilent_findEntry (key : Value) (entries : List (Value × Value)) :
    (findEntry m key entries).IsSilent part := by
  induction entries with
  | nil => exact .pure _
  | cons entry rest ih =>
      exact (Value.isSilent_sameKey hm _ _).bind fun _ => .ite (.pure _) ih

theorem isSilent_putEntry (key item : Value) (entries : List (Value × Value)) :
    (putEntry m key item entries).IsSilent part := by
  induction entries with
  | nil => exact .pure _
  | cons entry rest ih =>
      exact (Value.isSilent_sameKey hm _ _).bind fun _ =>
        .ite (.pure _) (ih.bind fun _ => .pure _)

theorem isSilent_collectEntries (kept entries : List (Value × Value)) :
    (collectEntries m kept entries).IsSilent part := by
  induction entries generalizing kept with
  | nil => exact .pure _
  | cons entry rest ih =>
      exact (Value.isSilent_checkKey hm _).bind fun _ =>
        (isSilent_putEntry hm _ _ kept).bind fun kept => ih kept

end Keys

namespace Value

section Items

theorem isSilent_narrow (t : BasicType) : t.narrow.IsSilent part := by
  cases t <;> first | exact .pure _ | exact .fail _

variable (hm : m.IsSilent part)
include hm

theorem isSilent_isMapping (v : Value) : (v.isMapping m).IsSilent part := by
  unfold isMapping
  split
  · exact .pure _
  · refine (isSilent_read hm _ _).bind fun claimed => ?_
    split
    · exact .pure _
    · exact .pure _
    · exact .pure _
    · exact .ite ((hm.checkKey _).bind fun _ => .fail _) (.fail _)
  · exact .pure _

theorem isSilent_has (v : Value) (name : String) : (v.has m name).IsSilent part :=
  (isSilent_read? hm v name).map _

theorem isSilent_index? (v : Value) : (v.index? m).IsSilent part :=
  .ite ((isSilent_toIndex hm v).map _) (.pure _)

theorem isSilent_itemOf (sequence : String) (wrongKey : Fault) (items : List Value) (key : Value) :
    (itemOf m sequence wrongKey items key).IsSilent part := by
  refine (isSilent_index? hm key).bind fun position => ?_
  split
  · exact .fail _
  · exact .ite (.fail _) (.ofOption _ _)

theorem isSilent_item (v key : Value) : (v.item m key).IsSilent part := by
  refine (isSilent_consult hm v _ _).bind fun answer => ?_
  split
  · exact .pure _
  · dsimp only
    split
    · exact (isSilent_checkKey hm key).bind fun _ =>
        (isSilent_findEntry hm key _).bind fun found => .ofOption _ found
    · exact isSilent_narrow _
    · exact .fail _
    · exact isSilent_itemOf hm _ _ _ key
    · exact isSilent_itemOf hm _ _ _ key
    · exact isSilent_itemOf hm _ _ _ key
    · exact isSilent_itemOf hm _ _ _ key
    · exact .fail _

theorem isSilent_part (v : Value) (name : String) : (v.part m name).IsSilent part := by
  unfold Value.part
  split
  · exact .ofOption _ _
  · exact (isSilent_isMapping hm _).bind fun _ =>
      .ite (isSilent_item hm _ _) (isSilent_read hm _ name)

theorem isSilent_contains (v item : Value) : (v.contains m item).IsSilent part := by
  unfold contains
  split
  · refine (isSilent_bound hm v _).bind fun own => .ite (.fail _) ?_
    exact (hm.call _ _).bind fun answer => isSilent_holds hm answer
  · refine (isSilentSupply_supply hm v).bind_attempt (fun supply hsupply => ?_) fun fault => ?_
    · split
      · exact .pure _
      · next h _ => cases h; exact hsupply.any fun kept => isSilent_resembles hm kept item
      · next h _ => cases h
    · split
      · exact .pure _
      · next h _ => cases h
      · exact .ite (.fail _) (.fail _)

end Items

section Setting

variable (hm : m.IsSilent part)
include hm

theorem isSilent_setDirectly (v : Value) (name : String) (item : Value) :
    (v.setDirectly m name item).IsSilent part := by
  unfold setDirectly
  split
  · refine .ite ((isSilent_consult hm _ _ _).bind fun answer => ?_) (.ofExcept _)
    split
    · exact .pure _
    · exact .fail _
  · exact .ofExcept _
  · exact .ofExcept _

theorem isSilent_set (v : Value) (name : String) (item : Value) :
    (v.set m name item).IsSilent part := by
  refine (isSilent_consult hm v _ _).bind fun answer => ?_
  split
  · exact .pure _
  · exact isSilent_setDirectly hm v name item

theorem isSilent_setItem (v key item : Value) : (v.setItem m key item).IsSilent part := by
  have hput (entries : List (Value × Value)) (kind : MappingKind) :
      (do
        key.checkKey m
        Value.mapping kind <$> putEntry m key item entries).IsSilent part :=
    (isSilent_checkKey hm key).bind fun _ => (isSilent_putEntry hm key item entries).map _
  refine (isSilent_consult hm v _ _).bind fun answer => ?_
  split
  · exact .pure _
  · split
    · exact hput _ _
    · exact hput _ _
    · exact .fail _
    · exact .fail _

theorem isSilent_boundToClass (cls item : Value) : (cls.boundToClass m item).IsSilent part := by
  unfold boundToClass
  split
  · exact .pure _
  · exact hm.call _ _

theorem isSilent_setAll (frozen : Bool) (v : Value) (items : List (String × Value)) :
    (v.setAll m frozen items).IsSilent part := by
  induction items generalizing v with
  | nil => exact .pure _
  | cons item rest ih =>
      exact .ite ((isSilent_setDirectly hm v _ _).bind ih) ((isSilent_set hm v _ _).bind ih)

theorem isSilent_fill (v : Value) (given : Arguments) :
    (v.fill m given).IsSilent part := by
  unfold fill
  split
  · split
    · exact (isSilent_bound hm _ _).bind fun filler =>
        (hm.call _ _).bind fun answer => .ite (hm.finish _) (.fail _)
    · split
      · refine (Act.IsSilent.ofExcept _).bind fun items => ?_
        exact (isSilent_setAll hm _ _ items).bind fun v => .ite (hm.finish v) (.pure _)
      · exact .pure _
  · exact .pure _

end Setting

end Value

section Making

variable (hm : m.IsSilent part)
include hm

theorem Class.isSilent_create (cls : Class) (shared : List (String × Value)) (identity : Identity)
    (given : Arguments) : (cls.create m shared identity given).IsSilent part := by
  unfold create
  dsimp only
  split
  · exact (Value.isSilent_boundToClass hm _ _).bind fun maker => hm.call _ _
  · split
    · exact (Act.IsSilent.ofExcept _).bind fun items => .pure _
    · exact .pure _
    · exact .ite (.fail _) (.pure _)
    · exact .ite (.fail _) (.pure _)

theorem Class.isSilent_make (cls : Class) (shared : List (String × Value)) (identity : Identity)
    (given : Arguments) : (cls.make m shared identity given).IsSilent part :=
  (cls.isSilent_create hm shared identity given).bind fun created =>
    .ite (created.isSilent_fill hm given) (.pure _)

/-- Putting a pair among some entries, and going on from there, is silent if going on is. -/
theorem isSilent_putPair {α : Type} (key item : Value) (kept : List (Value × Value))
    {next : List (Value × Value) → Act α} (hnext : ∀ kept, (next kept).IsSilent part) :
    (do
      key.checkKey m
      let kept ← putEntry m key item kept
      next kept).IsSilent part :=
  (Value.isSilent_checkKey hm key).bind fun _ => (isSilent_putEntry hm key item kept).bind hnext

theorem isSilent_toEntries (index : Nat) (kept : List (Value × Value)) (pairs : List Value) :
    (toEntries m index kept pairs).IsSilent part := by
  induction pairs generalizing index kept with
  | nil => exact .pure _
  | cons pair rest ih =>
      unfold toEntries
      extract_lets next
      have hnext (parts : List Value) : (next parts).IsSilent part := by
        unfold next
        split
        · exact isSilent_putPair hm _ _ kept fun kept => ih _ kept
        · exact .fail _
      refine (Value.isSilent_items hm pair).attempt.bind fun found => ?_
      split
      · exact hnext _
      · exact (Act.IsSilent.fail _).bind hnext

theorem isSilent_toEntriesFrom {next : Nat → Act (Option Value)}
    (hnext : ∀ i, (next i).IsSilent part) (limit i : Nat) (kept : List (Value × Value)) :
    (toEntriesFrom m next limit i kept).IsSilent part := by
  induction limit generalizing i kept with
  | zero => exact .fail _
  | succ limit ih =>
      refine (hnext i).bind fun handed => ?_
      split
      · exact .pure _
      · extract_lets next
        have hgoing (parts : List Value) : (next parts).IsSilent part := by
          unfold next
          split
          · exact isSilent_putPair hm _ _ kept fun kept => ih _ kept
          · exact .fail _
        refine (Value.isSilent_items hm _).attempt.bind fun found => ?_
        split
        · exact hgoing _
        · exact (Act.IsSilent.fail _).bind hgoing

theorem isSilent_lookUpAll (v : Value) (kept : List (Value × Value)) (keys : List Value) :
    (lookUpAll m v kept keys).IsSilent part := by
  induction keys generalizing kept with
  | nil => exact .pure _
  | cons key rest ih =>
      exact (Value.isSilent_item hm v key).bind fun item => isSilent_putPair hm key item kept ih

end Making

namespace Value

section Copying

variable (hm : m.IsSilent part)
include hm

theorem isSilentSupply_keySupply (v keys : Value) : (v.keySupply m keys).IsSilentSupply part := by
  have hsupply := isSilentSupply_supply hm keys
  constructor
  · exact hsupply.bind_attempt (fun supply _ => .pure supply) fun fault => .fail _
  · intro supply h
    obtain ⟨found, hfound, hrest⟩ := Act.result_bind_eq_ok_iff.mp h
    obtain rfl : (keys.supply m).result = found := Except.ok.inj hfound
    cases hresult : (keys.supply m).result with
    | error fault => simp [hresult] at hrest
    | ok kept =>
        rw [hresult] at hrest
        exact Except.ok.inj hrest ▸ hsupply.handed kept hresult

theorem isSilent_addKeyed (v : Value) (kept : List (Value × Value)) :
    (v.addKeyed m kept).IsSilent part := by
  refine (isSilent_read hm v _).bind fun lister => (hm.call _ _).bind fun keys => ?_
  have hsupply := isSilentSupply_keySupply hm v keys
  exact hsupply.found.bind_of_ok fun supply h =>
    (hsupply.handed supply h).toList.bind fun keys => isSilent_lookUpAll hm v kept keys

theorem isSilent_addEntries (v : Value) (kept : List (Value × Value)) :
    (v.addEntries m kept).IsSilent part := by
  unfold addEntries
  split
  · exact .ite (.pure _) (isSilent_collectEntries hm kept _)
  · refine (isSilent_has hm _ _).bind fun _ => .ite (isSilent_addKeyed hm _ kept) ?_
    have hsupply := isSilentSupply_supply hm v
    refine hsupply.found.bind_of_ok fun supply h => ?_
    have hhanded := hsupply.handed supply h
    split
    · exact isSilent_toEntries hm _ kept _
    · exact isSilent_toEntriesFrom hm hhanded _ _ kept

theorem isSilent_refill (v : Value) (given : List (Value × Value)) :
    (v.refill m given).IsSilent part := by
  refine (isSilent_read hm v _).bind fun maker => ?_
  split
  · exact .ite (Class.isSilent_make hm _ _ _ _) (hm.call _ _)
  · exact hm.call _ _

theorem isSilent_handOn (v : Value) (cls : Class) (name : String) (fields : List String) :
    (v.handOn m cls name fields).IsSilent part := by
  induction fields with
  | nil => exact .pure _
  | cons field rest ih =>
      exact .ite (.ite (.fail _) ih)
        (.ite ih ((isSilent_read hm v field).bind fun item => ih.bind fun others => .pure _))

theorem isSilent_readDescriptions (v : Value) : (v.readDescriptions m).IsSilent part := by
  have hnext (items : List Value) : (items.forM fun item => do
      let _ ← item.read m "_field_type"
      pure ()).IsSilent part :=
    .forM (fun item => (isSilent_read hm item _).bind fun _ => .pure _) items
  refine (isSilent_read hm v _).bind fun described => ?_
  split
  · exact hnext _
  · exact (isSilent_read hm _ _).bind fun _ => (hm.call _ _).bind fun answer =>
      (isSilent_items hm answer).bind hnext

theorem isSilent_replaceField (v key : Value) (name : String) (item : Value) :
    (v.replaceField m key name item).IsSilent part := by
  refine .ite ?_ ((isSilent_readDescriptions hm v).bind fun _ => isSilent_refill hm v _)
  split
  · exact (isSilent_handOn hm _ _ name _).bind fun others => isSilent_refill hm _ _
  · exact isSilent_refill hm _ _

theorem isSilent_refuseName (key : Value) :
    (do
      let shown ← (Value.list [key]).write m
      Act.fail (.unknownNames shown) : Act Value).IsSilent part :=
  (isSilent_write hm _).bind fun _ => .fail _

theorem isSilent_makeTuple (maker : Value) (items : List Value) (key : Value) :
    (maker.makeTuple m items key).IsSilent part :=
  (hm.call _ _).bind fun _ => .ite (.pure _) (isSilent_refuseName hm key)

theorem isSilent_replaceItem (v key : Value) (name : String) (item : Value) :
    (v.replaceItem m key name item).IsSilent part := by
  unfold replaceItem
  split
  · extract_lets given isKnown next
    have hnext (maker : Option Value) : (next maker).IsSilent part := by
      unfold next
      extract_lets renew
      have hrenew (handed : List Value) : (renew handed).IsSilent part := by
        unfold renew
        extract_lets renewed copy conclude
        have hconclude (done : Unit) : (conclude done).IsSilent part :=
          .ite (.pure _) (isSilent_refuseName hm key)
        split
        · exact (isSilent_makeTuple hm _ _ key).bind fun _ =>
            .ite (.pure _) (isSilent_refuseName hm key)
        · refine (isSilent_ownLength? hm copy).bind fun count => ?_
          split
          · exact .ite (hconclude ()) ((Act.IsSilent.fail _).bind hconclude)
          · exact hconclude ()
      split
      · exact (isSilent_items hm _).bind hrenew
      · exact (Act.IsSilent.pure _).bind hrenew
    exact .ite ((Act.IsSilent.pure _).bind hnext) (((isSilent_read hm _ _).map _).bind hnext)
  · exact .pure _

theorem isSilent_replaceByOffer (v key : Value) (name : String) (item : Value) :
    (v.replaceByOffer m key name item).IsSilent part :=
  .ite (isSilent_replaceItem hm v key name item)
    ((isSilent_read hm v _).bind fun _ => hm.call _ _)

theorem isSilent_takeOver (v state : Value) : (v.takeOver m state).IsSilent part := by
  refine .ite (.pure _) ((isSilent_read? hm v _).bind fun setter => ?_)
  split
  · exact (isSilent_read hm v _).bind fun _ => (hm.call _ _).bind fun _ => .pure _
  · split
    · exact .pure _
    · extract_lets next
      have hnext (done : Unit) : (next done).IsSilent part :=
        (isSilent_addEntries hm _ []).bind fun entries => .pure _
      split
      · exact .ite ((Act.IsSilent.fail _).bind hnext) (hnext ())
      · exact hnext ()
    · exact .fail _

theorem isSilent_followRecipe (v recipe : Value) : (v.followRecipe m recipe).IsSilent part := by
  unfold followRecipe
  extract_lets operation next
  have hnext (done : Unit) : (next done).IsSilent part := by
    refine (isSilent_items hm recipe).bind fun parts => ?_
    split
    · exact .fail _
    · exact .fail _
    · refine .ite (.fail _) (.ite ?_ ((isSilent_writeLabel hm _).bind fun _ => .fail _))
      exact (isSilent_items hm _).bind fun _ => (hm.call _ _).bind fun made =>
        isSilent_takeOver hm made _
  exact .ite (.pure _) (.ite ((Act.IsSilent.fail _).bind hnext) (hnext ()))

theorem isSilent_checkNewArguments (v : Value) : (v.checkNewArguments m).IsSilent part := by
  refine (isSilent_consult hm v _ _).bind fun answer => ?_
  split
  · split
    · exact .fail _
    · exact .fail _
  · refine (isSilent_consult hm v _ _).bind fun answer => ?_
    split
    · exact .ofOption _ _
    · exact .pure _

theorem isSilent_ownState (v : Value) : (v.ownState m).IsSilent part :=
  .ite (.pure _) ((isSilent_read hm v _).bind fun _ => hm.call _ _)

theorem isSilent_rebuild (v : Value) : (v.rebuild m).IsSilent part := by
  unfold rebuild
  split
  · refine (isSilent_checkNewArguments hm _).bind fun arguments => ?_
    refine (isSilent_ownState hm _).bind fun state => ?_
    split
    · exact (isSilent_boundToClass hm _ _).bind fun maker =>
        (hm.call _ _).bind fun made => isSilent_takeOver hm made state
    · exact isSilent_takeOver hm _ state
  · exact .pure _

theorem isSilent_refit (v : Value) : (v.refit m).IsSilent part := by
  unfold refit
  split
  · exact (isSilent_ownState hm _).bind fun state => (isSilent_holds hm state).bind fun _ =>
      .ite (isSilent_takeOver hm _ state) (.pure _)
  · exact .pure _

theorem isSilent_copyByRecipe (v : Value) : (v.copyByRecipe m).IsSilent part := by
  have hfollow (giver : Value) (items : Arguments) :
      (m.call giver items >>= v.followRecipe m).IsSilent part :=
    (hm.call giver items).bind (isSilent_followRecipe hm v)
  have hplain : (if v.hasByNature "__reduce__" then v.refit m
      else do
        let giver ← v.read? m "__reduce__"
        let giver := giver.getD .null
        if ← giver.holds m then
          let recipe ← m.call giver .empty
          v.followRecipe m recipe
        else Act.fail (.notCopied v.type.written)).IsSilent part := by
    refine .ite (isSilent_refit hm v) ((isSilent_read? hm v _).bind fun giver => ?_)
    exact (isSilent_holds hm _).bind fun _ => .ite (hfollow _ _) (.fail _)
  unfold copyByRecipe
  extract_lets next
  have hnext (offered : Option Value) : (next offered).IsSilent part := by
    unfold next
    split
    · exact (isSilent_boundToClass hm _ _).bind fun _ => hfollow _ _
    · exact isSilent_rebuild hm v
  refine .ite (.ite ((Act.IsSilent.pure _).bind hnext) ((isSilent_read? hm v _).bind hnext)) ?_
  refine (isSilent_read? hm v _).bind fun giver => ?_
  split
  · exact hplain
  · exact hplain
  · exact hfollow _ _

theorem isSilent_copy (v : Value) : (v.copy m).IsSilent part := by
  unfold copy
  split
  · exact (isSilent_boundToClass hm _ _).bind fun copier =>
      .ite (isSilent_copyByRecipe hm v) (hm.call _ _)
  · exact isSilent_copyByRecipe hm v

theorem isSilent_withField (v key : Value) (name : String) (item : Value) :
    (v.withField m key name item).IsSilent part := by
  unfold withField
  extract_lets isRecord next
  have hnext (copier : Option Value) : (next copier).IsSilent part := by
    refine .ite (isSilent_replaceByOffer hm v key name item) ?_
    refine (isSilent_isA hm v _).bind fun _ => .ite ?_ ?_
    · exact (isSilent_copy hm v).bind fun copy => isSilent_setItem hm copy key item
    · exact (isSilent_isMapping hm v).bind fun _ =>
        (isSilent_copy hm v).bind fun copy => isSilent_set hm copy name item
  refine (isSilent_countsAs hm v _).bind fun _ => .ite ?_ ?_
  · exact (isSilent_countsAs hm v _).bind fun _ => isSilent_replaceField hm v key name item
  · exact (isSilent_isA hm v _).bind fun _ =>
      .ite ((isSilent_read? hm v _).bind hnext) ((Act.IsSilent.pure _).bind hnext)

theorem isSilent_withPart (v key : Value) (name : String) (item : Value) :
    (v.withPart m key name item).IsSilent part := by
  unfold withPart
  split
  · exact .pure _
  · exact isSilent_withField hm _ key name item
  · exact .ofExcept _
  · exact isSilent_set hm _ name item

end Copying

end Value

theorem Accessor.isSilent_readField (hm : m.IsSilent part) (attr : Value) (name : String)
    (entity : Value) : (readField attr name m entity).IsSilent part := by
  unfold readField
  split
  · exact .ofOption _ _
  · refine (Value.isSilent_isMapping hm _).bind fun _ => .ite ?_ ?_
    · exact (Value.isSilent_contains hm _ attr).bind fun _ =>
        .ite (Value.isSilent_item hm _ attr) (.fail _)
    · exact (Value.isSilent_has hm _ name).bind fun _ =>
        .ite (Value.isSilent_read hm _ name) (.fail _)

/-- The accessor of a field leaves nothing in the log itself. -/
theorem Accessor.isSilent_field (hm : m.IsSilent part) (attr : Value) (name : String) :
    (field attr name).IsSilent part m where
  get := isSilent_readField hm attr name
  set entity state := Value.isSilent_withPart hm entity attr name state

end StateRules
