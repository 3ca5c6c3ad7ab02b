import StateRules.Journal

/-!
What calling a value means.

The classes of objects may bring operations of their own, by which an object is written,
compared, read or copied. What such an operation does is up to whatever function stands
behind it, so everything that may come upon one is given the meaning of a call from
outside, as an `Interpretation`. Whatever a call gives is a new value, which may have to
be written or compared in turn; the interpretation says how as well, so that the
operations on values themselves go no deeper than the value they are given.
-/

namespace StateRules

/-- What something is called with: items in order, and items under names. -/
structure Arguments where
  positional : List Value
  named : List (Value × Value)

namespace Arguments

/-- Nothing. -/
def empty : Arguments := ⟨[], []⟩

/-- Some items in order. -/
def ofList (items : List Value) : Arguments := ⟨items, []⟩

/-- How many items there are. -/
def count (arguments : Arguments) : Nat := arguments.positional.length + arguments.named.length

/-- The item under a name. -/
def named? (arguments : Arguments) (name : String) : Option Value :=
  (arguments.named.find? fun item => item.1.text? = some name).map Prod.snd

end Arguments

/-- The meaning of a call, and what is done with the values that come of one: how they are written
(`repr`), how they are compared with others (`is` or `==`) and how they serve as keys (`hash`).
`finish` is what becomes of an object that its class goes on to fill by itself (an `__init__` that
it brings, `__post_init__`, `default_factory`), which may set any of its fields. -/
structure Interpretation where
  call : Value → Arguments → Act Value
  write : Value → Act String
  resembles : Value → Value → Act Bool
  checkKey : Value → Act Unit
  finish : Value → Act Value

end StateRules
