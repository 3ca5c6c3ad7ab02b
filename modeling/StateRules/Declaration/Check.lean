import StateRules.Declaration.Advice
import StateRules.Declaration.Rendering
import StateRules.Rule

/-!
Checking a declaration, which breaks it down into steps or refuses it: all that `_add_simple`,
`_add_from_block` and `_add_event_block` do before a table grows.

The check looks at the declaration alone, never at a table, so whether a
declaration is accepted does not depend on what was declared before. A refusal
names the first objection there is and quotes the declaration; a shape that is no
longer supported is quoted together with the one to write instead. Rendering comes first,
so a declaration that cannot be rendered fails before any objection is looked for.
-/

namespace StateRules

/-- What can be objected to in a declaration. -/
inductive Objection where
  | notDeclaration (typeName : String)
  | noDestination
  | badEvent (shown : String)
  | anyDestination
  | ownDestination
  | notToEntry (typeName : String)
  | guardNotCallable (typeName : String)
  | notFromEntry (typeName : String)
  | entryEvent
  | entryNoDestination
  | guardedFunction
  | functionDestination
  | nestedBlock

/-- The objection in words. -/
def Objection.reason : Objection → String
  | .notDeclaration typeName =>
      "Expected a from_() or event() declaration, got " ++ typeName
  | .noDestination => "from_() requires a `to` destination"
  | .badEvent shown => "event must be a non-empty string, got " ++ shown
  | .anyDestination => "ANY can only be used as a source state"
  | .ownDestination =>
      "A from_() block takes its destinations and events from its to() entries"
  | .notToEntry typeName =>
      "A from_() block may only contain to() entries, got " ++ typeName
  | .guardNotCallable typeName => "guard must be callable, got " ++ typeName
  | .notFromEntry typeName =>
      "An event() block may only contain from_() entries, got " ++ typeName
  | .entryEvent => "from_() inside an event() block must not set its own event"
  | .entryNoDestination =>
      "from_() inside an unguarded event() block requires a `to` destination"
  | .guardedFunction =>
      "The guard already computes the destination; `to` must be a state or omitted"
  | .functionDestination =>
      "`from_` no longer accepts a function as its `to` value; " ++
        "pass it as the guard of an `event` block instead"
  | .nestedBlock => "`event` blocks no longer support `from_` blocks inside them"

/-- Refuses the declaration with the given text (`InvalidDeclarationError`). -/
def Objection.refuse {α : Type} (objection : Objection) (rendered : String) : Act α :=
  Act.fail (.declaration (.invalid objection.reason (some rendered)))

/-- Refuses the declaration with the given text and says what to write instead
(`UnsupportedSyntaxError`). -/
def Objection.advise {α : Type} (m : Interpretation) (objection : Objection) (rendered : String)
    (replacement : Declaration) : Act α := do
  let suggestion ← replacement.render m
  Act.fail (.declaration (.unsupported objection.reason rendered suggestion))

/-- Whether a value can be an event: a text with at least one character. -/
def Value.isEvent (m : Interpretation) (v : Value) : Act Bool := do
  if ← v.isA m (.basic .text) then v.holds m else pure false

/-- `_is_function`: whether a value is a function in the narrow sense. An object that can be called
is asked twice what it gives itself out to be. -/
def Value.isFunctionFor (m : Interpretation) (v : Value) : Act Bool := do
  if v.isFunction then
    let _ ← v.countsAs m false
    let _ ← v.countsAs m false
    pure true
  else pure false

/-- `_check_event`: an event has to be a text that is not empty. -/
def checkEvent (m : Interpretation) (rendered : String) (event : Value) : Act Unit := do
  if ← event.isEvent m then pure ()
  else
    let shown ← event.write m
    (Objection.badEvent shown).refuse rendered

/-- `_check_literal`: a destination has to be a state, which `any` is not. -/
def checkState (rendered : String) (destination : Value) : Act Unit :=
  if destination.isAny then Objection.anyDestination.refuse rendered else pure ()

/-- A destination has to be known in advance, which what a function gives is not. -/
def checkKnown (m : Interpretation) (rendered : String) (source event destination : Value) :
    Act Unit := do
  if ← destination.isFunctionFor m then
    Objection.functionDestination.advise m rendered
      (Declaration.withGuard source event destination)
  else pure ()

/-- `_add_simple`: the step of a simple declaration. -/
def checkSimple (m : Interpretation) (rendered : String) (source destination event : Value) :
    Act Step := do
  if destination.isUnset then Objection.noDestination.refuse rendered
  checkEvent m rendered event
  checkKnown m rendered source event destination
  checkState rendered destination
  pure ⟨source, event, .literal destination⟩

/-- `_add_from_block`: the step of an entry of a source block. -/
def checkToEntry (m : Interpretation) (rendered : String) (source entry : Value) : Act Step := do
  match entry with
  | .declaration (.toEntry destination event) => do
      checkEvent m rendered event
      checkKnown m rendered source event destination
      checkState rendered destination
      pure ⟨source, event, .literal destination⟩
  | other => do
      let _ ← other.countsAs m false
      (Objection.notToEntry other.typeName).refuse rendered

/-- The step of a simple entry of an event block. Without a guard it needs a
destination that is known in advance; with a guard, a destination may stand beside
it but must not compute one as well. -/
def checkSimpleEntry (m : Interpretation) (rendered : String)
    (event guard source destination ownEvent : Value) : Act Step := do
  if !ownEvent.isNull then Objection.entryEvent.refuse rendered
  if guard.isNull then
    if destination.isUnset then Objection.entryNoDestination.refuse rendered
    checkKnown m rendered source event destination
  else if ← destination.isFunctionFor m then Objection.guardedFunction.refuse rendered
  checkState rendered destination
  pure ⟨source, event, if guard.isNull then .literal destination else .guarded guard destination⟩

/-- `_add_event_block`: the step of an entry of an event block. -/
def checkFromEntry (m : Interpretation) (rendered : String) (event guard entry : Value) :
    Act Step := do
  match entry with
  | .declaration (.simple source destination ownEvent) =>
      checkSimpleEntry m rendered event guard source destination ownEvent
  | .declaration (.sourceBlock source _ _ entries) => do
      let destinations ← entries.mapM (Value.namedDestination m)
      Objection.nestedBlock.advise m rendered
        (Declaration.flattened event guard source destinations)
  | other => do
      let _ ← other.countsAs m false
      (Objection.notFromEntry other.typeName).refuse rendered

/-- A guard has to be something that can be called. -/
def checkGuard (rendered : String) (guard : Value) : Act Unit :=
  if !guard.isNull && !guard.isCallable then
    (Objection.guardNotCallable guard.typeName).refuse rendered
  else pure ()

/-- The steps of a declaration that stands on its own. -/
def Declaration.check (m : Interpretation) (d : Declaration) : Act (List Step) :=
  match d with
  | .simple source destination event => do
      let rendered ← d.render m
      let step ← checkSimple m rendered source destination event
      pure [step]
  | .sourceBlock source destination event entries => do
      let rendered ← d.render m
      if !destination.isUnset || !event.isNull then Objection.ownDestination.refuse rendered
      entries.mapM (checkToEntry m rendered source)
  | .eventBlock event entries guard => do
      let rendered ← d.render m
      checkEvent m rendered event
      checkGuard rendered guard
      entries.mapM (checkFromEntry m rendered event guard)
  | .toEntry _ _ => do
      let shown ← (Value.declaration d).write m
      (Objection.notDeclaration d.typeName).refuse shown

/-- The steps of a value that stands where a declaration should. -/
def Value.check (m : Interpretation) (v : Value) : Act (List Step) :=
  match v with
  | .declaration d => d.check m
  | other => do
      let _ ← other.countsAs m false
      let _ ← other.countsAs m false
      let shown ← other.write m
      (Objection.notDeclaration other.typeName).refuse shown

end StateRules
