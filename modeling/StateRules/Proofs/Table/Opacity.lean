import StateRules.Proofs.Table.Correspondence
import StateRules.Proofs.Table.Wildcard

/-!
States are opaque.

Nothing is asked of a state but whether it equals another one, whether it is the same as another
one, and whether it is a marker or a function. Let two rows of declarations be the same but for
their states (`Value.Matches`), and let the states that stand in the same places be
indistinguishable in these respects. There is something to object to in both or in neither, and what
both read as corresponds, so they are built into tables that correspond.

There is one more thing that happens to a state: it is rendered, and what that comes to is up to the
state alone. Where nothing else is wrong with two declarations, they are accepted alike exactly if
they can be rendered alike (`states_are_opaque_iff_rendered`).
-/

namespace StateRules

/-- Whether two values that stand where declarations should are of one shape, with the same events
and guards and with states that correspond. -/
inductive Value.Matches (R : Value → Value → Prop) : Value → Value → Prop where
  | simple {source source' destination destination' event : Value} :
      StartsAlike R source source' → EndsAlike R destination destination' →
        Matches R (.declaration (.simple source destination event))
          (.declaration (.simple source' destination' event))
  | toEntry {destination destination' event : Value} :
      R destination destination' →
        Matches R (.declaration (.toEntry destination event))
          (.declaration (.toEntry destination' event))
  | sourceBlock {source source' destination destination' event : Value}
      {entries entries' : List Value} :
      StartsAlike R source source' → EndsAlike R destination destination' →
        List.Forall₂ (Matches R) entries entries' →
          Matches R (.declaration (.sourceBlock source destination event entries))
            (.declaration (.sourceBlock source' destination' event entries'))
  | eventBlock {event guard : Value} {entries entries' : List Value} :
      List.Forall₂ (Matches R) entries entries' →
        Matches R (.declaration (.eventBlock event entries guard))
          (.declaration (.eventBlock event entries' guard))
  | other {v v' : Value} :
      (∀ d, v ≠ .declaration d) → (∀ d, v' ≠ .declaration d) → Matches R v v'

variable {m : Interpretation} {R : Value → Value → Prop}

theorem Value.IsSound.exists_declaration {v : Value} (h : v.IsSound m) :
    ∃ d, v = .declaration d := by
  cases v with
  | declaration d => exact ⟨d, rfl⟩
  | _ => exact h.elim

theorem StartsAlike.written {source source' : Value} (h : StartsAlike R source source')
    (hwritten : source.IsWritable m) (hwritten' : source'.IsWritable m) :
    StartsAlike (WrittenAlike m R) source source' :=
  h.imp_left fun hstate => ⟨hstate, hwritten, hwritten'⟩

theorem EndsAlike.of_given {destination destination' : Value}
    (h : EndsAlike R destination destination') (hgiven : destination.isUnset = false) :
    R destination destination' := by
  obtain hstate | ⟨rfl, _⟩ := h
  · exact hstate
  · cases hgiven

theorem forall₂_forall_iff {α β : Type} {R : α → β → Prop} {p : α → Prop} {q : β → Prop}
    {xs : List α} {ys : List β} (h : List.Forall₂ R xs ys) (hpq : ∀ x y, R x y → (p x ↔ q y)) :
    (∀ x ∈ xs, p x) ↔ ∀ y ∈ ys, q y := by
  induction h with
  | nil => simp
  | cons hxy _ ih => rw [List.forall_mem_cons, List.forall_mem_cons, hpq _ _ hxy, ih]

theorem forall₂_flatMap_of_mem {α β γ δ : Type} {R : α → β → Prop} {S : γ → δ → Prop}
    {f : α → List γ} {g : β → List δ} {xs : List α} {ys : List β} (h : List.Forall₂ R xs ys)
    (hfg : ∀ x ∈ xs, ∀ y ∈ ys, R x y → List.Forall₂ S (f x) (g y)) :
    List.Forall₂ S (xs.flatMap f) (ys.flatMap g) := by
  induction h with
  | nil => exact .nil
  | cons hxy _ ih =>
      rw [List.flatMap_cons, List.flatMap_cons]
      refine List.rel_append (hfg _ List.mem_cons_self _ List.mem_cons_self hxy) (ih ?_)
      intro x hx y hy
      exact hfg x (List.mem_cons_of_mem _ hx) y (List.mem_cons_of_mem _ hy)

theorem Value.Matches.toEntrySteps {source source' entry entry' : Value}
    (h : entry.Matches R entry') (hsource : StartsAlike (WrittenAlike m R) source source')
    (hsound : entry.IsSoundToEntry m) (hrenders : entry.RendersInSource m)
    (hrenders' : entry'.RendersInSource m) :
    List.Forall₂ (Step.Corresponds (WrittenAlike m R)) (Value.toEntrySteps source entry)
      (Value.toEntrySteps source' entry') := by
  obtain ⟨_, _, rfl, _, _⟩ := hsound
  cases h with
  | toEntry hdestination =>
      obtain ⟨hwritten, _⟩ :=
        renders_toEntry_iff.mp (rendersInSource_declaration_iff.mp hrenders)
      obtain ⟨hwritten', _⟩ :=
        renders_toEntry_iff.mp (rendersInSource_declaration_iff.mp hrenders')
      exact .cons ⟨hsource, rfl, .literal ⟨hdestination, hwritten, hwritten'⟩⟩ .nil
  | other hnone _ => exact absurd rfl (hnone _)

section Sound

variable (hR : Indistinguishable m R)
include hR

theorem Indistinguishable.isDestination_iff {destination destination' : Value}
    (h : EndsAlike R destination destination') :
    destination.IsDestination ↔ destination'.IsDestination := by
  obtain hstate | ⟨rfl, rfl⟩ := h
  · constructor
    · rintro ⟨hknown, hproper⟩
      exact ⟨hR.function hstate ▸ hknown, hR.any hstate ▸ hproper⟩
    · rintro ⟨hknown, hproper⟩
      exact ⟨(hR.function hstate).trans hknown, (hR.any hstate).trans hproper⟩
  · exact Iff.rfl

theorem Indistinguishable.isUnset_eq {destination destination' : Value}
    (h : EndsAlike R destination destination') : destination.isUnset = destination'.isUnset := by
  obtain hstate | ⟨rfl, rfl⟩ := h
  · exact hR.unset hstate
  · rfl

theorem Value.Matches.isSoundToEntry_iff {entry entry' : Value} (h : entry.Matches R entry') :
    entry.IsSoundToEntry m ↔ entry'.IsSoundToEntry m := by
  cases h with
  | toEntry hdestination =>
      have hiff := hR.isDestination_iff (.inl hdestination)
      constructor
      · rintro ⟨_, _, ⟨⟩, hevent, hfits⟩
        exact ⟨_, _, rfl, hevent, hiff.mp hfits⟩
      · rintro ⟨_, _, ⟨⟩, hevent, hfits⟩
        exact ⟨_, _, rfl, hevent, hiff.mpr hfits⟩
  | other hnone hnone' =>
      refine iff_of_false ?_ ?_
      · rintro ⟨_, _, hentry, _⟩
        exact hnone _ hentry
      · rintro ⟨_, _, hentry, _⟩
        exact hnone' _ hentry
  | _ =>
      refine iff_of_false ?_ ?_ <;>
        · rintro ⟨_, _, ⟨⟩, _⟩

theorem Value.Matches.isSoundFromEntry_iff {guard entry entry' : Value}
    (h : entry.Matches R entry') :
    Value.IsSoundFromEntry guard entry ↔ Value.IsSoundFromEntry guard entry' := by
  cases h with
  | simple hsource hdestination =>
      have hiff := hR.isDestination_iff hdestination
      have hunset := hR.isUnset_eq hdestination
      constructor
      · rintro ⟨_, _, ⟨⟩, hgiven, hfits⟩
        exact ⟨_, _, rfl, hunset ▸ hgiven, hiff.mp hfits⟩
      · rintro ⟨_, _, ⟨⟩, hgiven, hfits⟩
        exact ⟨_, _, rfl, hunset ▸ hgiven, hiff.mpr hfits⟩
  | other hnone hnone' =>
      refine iff_of_false ?_ ?_
      · rintro ⟨_, _, hentry, _⟩
        exact hnone _ hentry
      · rintro ⟨_, _, hentry, _⟩
        exact hnone' _ hentry
  | _ =>
      refine iff_of_false ?_ ?_ <;>
        · rintro ⟨_, _, ⟨⟩, _⟩

/-- In declarations that match there is something to object to in both or in neither. -/
theorem Value.Matches.isSound_iff {v v' : Value} (h : v.Matches R v') :
    v.IsSound m ↔ v'.IsSound m := by
  cases h with
  | simple _ hdestination =>
      simp only [Value.IsSound, Declaration.IsSound, hR.isUnset_eq hdestination,
        hR.isDestination_iff hdestination]
  | toEntry _ => exact Iff.rfl
  | sourceBlock _ hdestination hentries =>
      have hiff := forall₂_forall_iff hentries fun _ _ hentry => hentry.isSoundToEntry_iff hR
      simp only [Value.IsSound, Declaration.IsSound, hR.isUnset_eq hdestination, hiff]
  | @eventBlock _ guard _ _ hentries =>
      have hentry (entry entry' : Value) (hmatches : entry.Matches R entry') :
          Value.IsSoundFromEntry guard entry ↔ Value.IsSoundFromEntry guard entry' :=
        hmatches.isSoundFromEntry_iff hR
      have hiff := forall₂_forall_iff hentries hentry
      simp only [Value.IsSound, Declaration.IsSound, hiff]
  | other hnone hnone' =>
      refine iff_of_false (fun h => ?_) fun h => ?_
      · obtain ⟨d, rfl⟩ := h.exists_declaration
        exact hnone d rfl
      · obtain ⟨d, rfl⟩ := h.exists_declaration
        exact hnone' d rfl

/-- Declarations that match are accepted alike exactly if they can be rendered alike, unless there
is something to object to in them anyway. -/
theorem Value.Matches.accepted_iff_iff {v v' : Value} (h : v.Matches R v') :
    (v.Accepted m ↔ v'.Accepted m) ↔ (v.IsSound m → (v.Renders m ↔ v'.Renders m)) := by
  rw [Value.accepted_iff, Value.accepted_iff, ← h.isSound_iff hR]
  constructor
  · intro haccepted hsound
    simpa only [hsound, and_true] using haccepted
  · intro hrenders
    exact and_congr_left hrenders

theorem EndsAlike.written {destination destination' : Value}
    (h : EndsAlike R destination destination')
    (hwritten : destination.isUnset = false → destination.IsWritable m)
    (hwritten' : destination'.isUnset = false → destination'.IsWritable m) :
    EndsAlike (WrittenAlike m R) destination destination' := by
  have hunset := hR.isUnset_eq h
  cases hgiven : destination.isUnset with
  | true =>
      rw [hgiven] at hunset
      exact .inr ⟨Value.isUnset_iff.mp hgiven, Value.isUnset_iff.mp hunset.symm⟩
  | false =>
      rw [hgiven] at hunset
      obtain hstate | ⟨rfl, _⟩ := h
      · exact .inl ⟨hstate, hwritten hgiven, hwritten' hunset.symm⟩
      · cases hgiven

theorem Value.Matches.fromEntrySteps {event guard entry entry' : Value}
    (h : entry.Matches R entry') (hsound : Value.IsSoundFromEntry guard entry)
    (hrenders : entry.RendersInEvent m) (hrenders' : entry'.RendersInEvent m) :
    List.Forall₂ (Step.Corresponds (WrittenAlike m R)) (Value.fromEntrySteps event guard entry)
      (Value.fromEntrySteps event guard entry') := by
  obtain ⟨_, _, rfl, hgiven, _⟩ := hsound
  cases h with
  | simple hsource hdestination =>
      obtain ⟨hnamed, hwritten, _⟩ :=
        renders_simple_iff.mp (rendersInEvent_declaration_iff.mp hrenders)
      obtain ⟨hnamed', hwritten', _⟩ :=
        renders_simple_iff.mp (rendersInEvent_declaration_iff.mp hrenders')
      have hsource := hsource.written hnamed.isWritable hnamed'.isWritable
      have hdestination := hdestination.written hR hwritten hwritten'
      refine .cons ⟨hsource, rfl, ?_⟩ .nil
      unfold entryTarget
      split
      · next hnull => exact .literal (hdestination.of_given (hgiven hnull))
      · exact .guarded hdestination
  | other hnone _ => exact absurd rfl (hnone _)

/-- What declarations that match read as corresponds, if both are accepted. -/
theorem Value.Matches.steps {v v' : Value} (h : v.Matches R v') (haccepted : v.Accepted m)
    (haccepted' : v'.Accepted m) :
    List.Forall₂ (Step.Corresponds (WrittenAlike m R)) v.steps v'.steps := by
  obtain ⟨hrenders, hsound⟩ := Value.accepted_iff.mp haccepted
  obtain ⟨hrenders', _⟩ := Value.accepted_iff.mp haccepted'
  cases h with
  | simple hsource hdestination =>
      obtain ⟨hnamed, hgiven, harrival⟩ := accepted_simple_iff.mp haccepted
      obtain ⟨hnamed', _, harrival'⟩ := accepted_simple_iff.mp haccepted'
      have hsource := hsource.written hnamed.isWritable hnamed'.isWritable
      have hdestination := hdestination.written hR (fun _ => harrival.written)
        fun _ => harrival'.written
      exact .cons ⟨hsource, rfl, .literal (hdestination.of_given hgiven)⟩ .nil
  | toEntry _ => exact hsound.elim
  | sourceBlock hsource _ hentries =>
      obtain ⟨hwritten, hrenders⟩ := renders_sourceBlock_iff.mp hrenders
      obtain ⟨hwritten', hrenders'⟩ := renders_sourceBlock_iff.mp hrenders'
      obtain ⟨_, _, hsound⟩ := hsound
      refine forall₂_flatMap_of_mem hentries fun entry hentry entry' hentry' hmatches => ?_
      exact hmatches.toEntrySteps (hsource.written hwritten hwritten') (hsound entry hentry)
        (hrenders entry hentry) (hrenders' entry' hentry')
  | eventBlock hentries =>
      obtain ⟨_, hrenders, _⟩ := renders_eventBlock_iff.mp hrenders
      obtain ⟨_, hrenders', _⟩ := renders_eventBlock_iff.mp hrenders'
      obtain ⟨_, _, hsound⟩ := hsound
      refine forall₂_flatMap_of_mem hentries fun entry hentry entry' hentry' hmatches => ?_
      exact hmatches.fromEntrySteps hR (hsound entry hentry) (hrenders entry hentry)
        (hrenders' entry' hentry')
  | other hnone _ =>
      obtain ⟨d, rfl⟩ := hsound.exists_declaration
      exact absurd rfl (hnone d)

end Sound

theorem exists_build_iff {declarations : List Value} :
    (∃ table, (build m declarations).result = .ok table) ↔
      (∀ declaration ∈ declarations, declaration.Accepted m) ∧
        (Table.empty.takeSteps m (declarations.flatMap Value.steps)).act.result = .ok () := by
  simp only [build_eq_ok_iff, exists_and_left, exists_eq', and_true]

/-- Rows of accepted declarations that match get in alike and lead to tables that correspond. -/
theorem corresponds_of_accepted (hR : Indistinguishable m R)
    {declarations declarations' : List Value}
    (h : List.Forall₂ (Value.Matches R) declarations declarations')
    (haccepted : ∀ declaration ∈ declarations, declaration.Accepted m)
    (haccepted' : ∀ declaration ∈ declarations', declaration.Accepted m) :
    (Table.empty.takeSteps m (declarations.flatMap Value.steps)).Corresponds (WrittenAlike m R)
      (Table.empty.takeSteps m (declarations'.flatMap Value.steps)) := by
  refine Table.Corresponds.empty.takeSteps hR (forall₂_flatMap_of_mem h ?_)
  intro declaration hmem declaration' hmem' hmatches
  exact hmatches.steps hR (haccepted declaration hmem) (haccepted' declaration' hmem')

/-- States are opaque to all but rendering. Let a relation hold only of states that cannot be told
apart. Two declarations that are the same but for states that it holds of are accepted alike exactly
if they can be rendered alike, unless there is something to object to in them anyway. Of two rows of
such declarations, both or neither are built if that is so for each of them. If both are, their
tables correspond, rule by rule and state by state, with the same guards and events, and a search
for states that correspond comes upon the same place in both. -/
theorem states_are_opaque_iff_rendered {m : Interpretation} {R : Value → Value → Prop}
    (hR : Indistinguishable m R) :
    (∀ v v' : Value, v.Matches R v' →
      ((v.Accepted m ↔ v'.Accepted m) ↔ (v.IsSound m → (v.Renders m ↔ v'.Renders m)))) ∧
    ∀ declarations declarations' : List Value,
      List.Forall₂ (Value.Matches R) declarations declarations' →
        (List.Forall₂ (fun v v' => v.IsSound m → (v.Renders m ↔ v'.Renders m)) declarations
            declarations' →
          ((∃ table, (build m declarations).result = .ok table) ↔
            ∃ table', (build m declarations').result = .ok table')) ∧
        ∀ table table', (build m declarations).result = .ok table →
          (build m declarations').result = .ok table' →
            table.Corresponds R table' ∧
              ∀ state state' event : Value, R state state' → ∀ found,
                (table.searchIndex m state event).result = .ok found ↔
                  (table'.searchIndex m state' event).result = .ok found := by
  refine ⟨fun _ _ h => h.accepted_iff_iff hR, fun declarations declarations' h => ⟨?_, ?_⟩⟩
  · intro hrendered
    have halike : List.Forall₂ (fun v v' => v.Accepted m ↔ v'.Accepted m) declarations
        declarations' :=
      h.mp (fun _ _ hmatches hiff => (hmatches.accepted_iff_iff hR).mpr hiff) hrendered
    have haccepted := forall₂_forall_iff halike fun _ _ hiff => hiff
    rw [exists_build_iff, exists_build_iff, ← haccepted]
    refine and_congr_right fun hall => ?_
    exact (corresponds_of_accepted hR h hall (haccepted.mp hall)).ok_iff
  · intro table table' hbuild hbuild'
    obtain ⟨haccepted, hok, rfl⟩ := build_eq_ok_iff.mp hbuild
    obtain ⟨haccepted', _, rfl⟩ := build_eq_ok_iff.mp hbuild'
    have hcorresponds := (corresponds_of_accepted hR h haccepted haccepted').table hok
    have htable := hcorresponds.imp fun _ _ hwritten => hwritten.1
    refine ⟨htable, fun state state' event hstate found => ?_⟩
    exact hR.result_searchFrom_iff htable.rules hstate event 0 found

/-- A room that goes by a number or by a truth value that is equal to it, and a hall. -/
inductive SameRoom : Value → Value → Prop where
  | room : SameRoom (.integer 1) (.boolean true)
  | hall : SameRoom (.text "hall") (.text "hall")

theorem indistinguishable_sameRoom : Indistinguishable m SameRoom where
  equals := by
    rintro _ _ _ _ (_ | _) (_ | _) answer <;> exact Iff.rfl
  resembles := by
    rintro _ _ _ _ (_ | _) (_ | _) answer <;> exact Iff.rfl
  any := by
    rintro _ _ (_ | _) <;> rfl
  unset := by
    rintro _ _ (_ | _) <;> rfl
  function := by
    rintro _ _ (_ | _) <;> rfl

/-- The ways between a room and the hall, one of them guarded. -/
def doors (room : Value) : List Value :=
  [.declaration (.sourceBlock room .unset .null
      [.declaration (.toEntry (.text "hall") (.text "leave"))]),
    .declaration (.simple .any room (.text "return")),
    .declaration (.eventBlock (.text "leave") [.declaration (.simple (.text "hall") .unset .null)]
      orderGuard)]

/-- The doors are the same whatever the room goes by. -/
theorem states_are_opaque_doors :
    ∃ table table', (build .exhausted (doors (.integer 1))).result = .ok table ∧
      (build .exhausted (doors (.boolean true))).result = .ok table' ∧
      table.Corresponds SameRoom table' ∧ table.rules.length = 4 ∧
      (table'.searchIndex .exhausted (.boolean true) (.text "return")).result = .ok (some 1) := by
  have hbuild : (build .exhausted (doors (.integer 1))).result = .ok _ := rfl
  have hbuild' : (build .exhausted (doors (.boolean true))).result = .ok _ := rfl
  have hmatches : List.Forall₂ (Value.Matches SameRoom) (doors (.integer 1))
      (doors (.boolean true)) := by
    refine .cons (.sourceBlock (.inl .room) (.inr ⟨rfl, rfl⟩) (.cons (.toEntry .hall) .nil)) ?_
    refine .cons (.simple (.inr ⟨rfl, rfl⟩) (.inl .room)) ?_
    exact .cons (.eventBlock (.cons (.simple (.inl .hall) (.inr ⟨rfl, rfl⟩)) .nil)) .nil
  obtain ⟨_, hall⟩ := states_are_opaque_iff_rendered
    (indistinguishable_sameRoom (m := .exhausted))
  obtain ⟨hcorresponds, hfound⟩ := (hall _ _ hmatches).2 _ _ hbuild hbuild'
  exact ⟨_, _, hbuild, hbuild', hcorresponds, rfl, (hfound _ _ _ .room _).mp rfl⟩

/-- Two things that an order may start with, both of which can be called, and what it ends with. -/
inductive SameOrder : Value → Value → Prop where
  | start : SameOrder orderGuard stage
  | finish : SameOrder (.text "done") (.text "done")

theorem indistinguishable_sameOrder : Indistinguishable .exhausted SameOrder where
  equals := by
    rintro _ _ _ _ (_ | _) (_ | _) answer <;> exact Iff.rfl
  resembles := by
    rintro _ _ _ _ (_ | _) (_ | _) answer <;> exact Iff.rfl
  any := by
    rintro _ _ (_ | _) <;> rfl
  unset := by
    rintro _ _ (_ | _) <;> rfl
  function := by
    rintro _ _ (_ | _) <;> rfl

/-- Whether declarations are accepted may tell states apart that nothing else does. A guard and a
stage that goes by a number are alike as states, but only one of them can be rendered where a simple
declaration starts. -/
theorem states_are_not_opaque_of_unnamed :
    ¬∀ (m : Interpretation) (R : Value → Value → Prop), Indistinguishable m R →
      ∀ declarations declarations' : List Value,
        List.Forall₂ (Value.Matches R) declarations declarations' →
          ((∃ table, (build m declarations).result = .ok table) ↔
            ∃ table', (build m declarations').result = .ok table') := by
  intro hall
  let leap (start : Value) : Value := .declaration (.simple start (.text "done") (.text "go"))
  have hmatches : List.Forall₂ (Value.Matches SameOrder) [leap orderGuard] [leap stage] :=
    .cons (.simple (.inl .start) (.inl .finish)) .nil
  have hbuild : ∃ table, (build .exhausted [leap orderGuard]).result = .ok table := ⟨_, rfl⟩
  obtain ⟨haccepted, _⟩ := exists_build_iff.mp
    ((hall _ _ indistinguishable_sameOrder _ _ hmatches).mp hbuild)
  obtain ⟨hnamed, _⟩ := accepted_simple_iff.mp (haccepted _ List.mem_cons_self)
  exact not_isNamed_stage hnamed

end StateRules
