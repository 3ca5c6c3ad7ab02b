import StateRules.Number.Based
import StateRules.Text.Numeral
import StateRules.Value.Copying

/-!
Basic types as functions: what a type makes of what it is called with.

Most types take one value at most and nothing by name. A whole number may be spelled in a
base, a text may be an encoded one, and a mapping takes entries by name. An object may say
itself which number it stands for.
-/

namespace StateRules

/-- What a type gives when it is called with nothing. -/
def BasicType.blank : BasicType → Value
  | .boolean => .boolean false
  | .integer => .integer 0
  | .float => .float (.finite false 0 Number.Binary.leastExponent)
  | .text => .text ""
  | .list => .list []
  | .tuple => .tuple []
  | .mapping => .mapping .plain []
  | .object => .unset

/-- The text in which a value may spell a number, if it is a text or bytes. Only a
text may have digits and blanks beyond ASCII. -/
def Value.numeral? (v : Value) : Option (List Char) :=
  match v with
  | .bytes data => some (Text.trimPlain (data.map Text.ofByte))
  | v => v.text?.map fun s => Text.trimPlain (s.toList.map Text.plainChar)

/-- The whole number that the text of a value spells. -/
def readInteger (v : Value) (text : List Char) : Except Fault Value :=
  let digits := (Number.leadingDigits text).length
  if Number.digitLimit < digits then .error (.tooManyDigits digits)
  else
    match Number.signedDigits? (Number.dropSeparators text) with
    | some n => .ok (.integer n)
    | none => .error (.notWhole 10 (Fault.excerpt v))

/-- The whole number that a value without operations of its own stands for. -/
def integerOf (v : Value) : Except Fault Value :=
  match v with
  | .float x =>
      match x.truncate? with
      | some n => .ok (.integer n)
      | none => .error (if x.isUndefined then .undefinedWhole else .infiniteWhole)
  | v =>
      match v.integer?, v.numeral? with
      | some n, _ => .ok (.integer n)
      | none, some text => readInteger v text
      | none, none => .error (.notNumeric .integer v.formalName)

/-- The whole number that a value stands for. -/
def toInteger (m : Interpretation) (v : Value) : Act Value := do
  let ownWhole (operation : String) : Act (Option Value) := do
    match ← v.consult m operation [] with
    | none => pure none
    | some answer =>
        let n ← Act.ofOption (.unfit (.whole operation) answer.formalName) answer.integer?
        pure (some (.integer n))
  match ← ownWhole "__int__" with
  | some n => pure n
  | none =>
      match ← ownWhole "__index__" with
      | some n => pure n
      | none =>
          match ← v.consult m "__trunc__" [] with
          | none => Act.ofExcept (integerOf v)
          | some answer => do
              let n ← answer.index? m
              .integer <$> Act.ofOption (.unfit .integral answer.formalName) n

/-- The whole number that the text of a value spells in a base. -/
def toIntegerIn (m : Interpretation) (v base : Value) : Act Value := do
  let base ← base.toIndex m
  if base < 0 || base = 1 || 36 < base then Act.fail .badBase
  else
    let text ← Act.ofOption .unspelled v.numeral?
    .integer <$> Act.ofOption (.notWhole base (Fault.excerpt v))
      (Number.readInBase base.toNat text)

/-- The binary number nearest to a whole one, unless that is beyond them all. -/
def nearestFloat (n : Int) : Except Fault Value :=
  match Number.Binary.ofInt n with
  | .infinite _ => .error .beyondBinary
  | x => .ok (.float x)

/-- The binary number that a value without operations of its own stands for. -/
def floatOf (v : Value) : Except Fault Value :=
  match v with
  | .float x => .ok (.float x)
  | v =>
      match v.integer?, v.numeral? with
      | some n, _ => nearestFloat n
      | none, some text =>
          match Number.Binary.ofText? 0 text with
          | some x => .ok (.float x)
          | none => .error (.notBinary v.written)
      | none, none => .error (.notNumeric .float v.formalName)

/-- The binary number that a value stands for. -/
def toFloat (m : Interpretation) (v : Value) : Act Value := do
  match ← v.consult m "__float__" [] with
  | some (.float x) => pure (.float x)
  | some answer =>
      let operation := Text.clipped Fault.attributeRoom v.typeName ++ ".__float__"
      Act.fail (.unfit (.binary operation) answer.formalName)
  | none =>
      match ← v.consult m "__index__" [] with
      | some answer => do
          let n ←
            Act.ofOption (.unfit (.whole "__index__") answer.formalName) answer.integer?
          Act.ofExcept (nearestFloat n)
      | none => Act.ofExcept (floatOf v)

/-- The text that a value encodes, under a name for the way it does. No value is read in
that way. -/
def toDecoded (v : Value) : Act Value :=
  match v with
  | .bytes data => pure (.text (String.ofList (data.map Text.ofByte)))
  | v => Act.fail (if v.text?.isSome then .decodedText else .notBytes v.formalName)

namespace BasicType

/-- What a type takes in each of its places, from what it is called with. The names of the
places are given; what is given in a place must not be given by its name as well. -/
def places (t : BasicType) (names : List String) (arguments : Arguments) :
    Except Fault (List (Option Value)) :=
  let given := arguments.positional
  let isUnknown (item : Value × Value) : Bool := !names.contains (item.1.text?.getD "")
  let twice :=
    (names.take given.length).findIdx? fun name => (arguments.named? name).isSome
  if names.length < arguments.count then
    .error (.fewAtMost t names.length given.isEmpty arguments.count)
  else
    match twice, arguments.named.find? isUnknown with
    | some i, _ => .error (.givenBoth t (names[i]?.getD "") (i + 1))
    | none, some (key, _) => .error (.wrongName t key.display)
    | none, none =>
        .ok (given.map some ++ (names.drop given.length).map arguments.named?)

/-- What a type takes if it takes one value at most and nothing by name. -/
def onlyPlace (t : BasicType) (arguments : Arguments) : Except Fault (Option Value) :=
  if !arguments.named.isEmpty then .error (.noNames t)
  else
    match arguments.positional with
    | [] => .ok none
    | [v] => .ok (some v)
    | given => .error (.oneAtMost t given.length)

def checkText (t : BasicType) (name : String) (given : Option Value) : Except Fault Unit :=
  match given with
  | some .null => .error (.notTextFor t name "None")
  | some v => if v.text?.isSome then .ok () else .error (.notTextFor t name v.formalName)
  | none => .ok ()

/-- What a basic type makes of a value. -/
def convert (m : Interpretation) (t : BasicType) (v : Value) : Act Value :=
  match t with
  | .boolean => .boolean <$> v.holds m
  | .integer => toInteger m v
  | .float => toFloat m v
  | .text => v.spell m
  | .list => .list <$> v.items m
  | .tuple => .tuple <$> v.items m
  | .mapping => .mapping .plain <$> v.addEntries m []
  | .object => Act.fail (.noArguments t.name)

def call (m : Interpretation) (t : BasicType) (arguments : Arguments) : Act Value :=
  match t with
  | .object =>
      if arguments.count = 0 then pure t.blank else Act.fail (.noArguments t.name)
  | .integer => do
      match ← t.places ["", "base"] arguments with
      | [none, none] => pure t.blank
      | [some v, none] => t.convert m v
      | [some v, some base] => toIntegerIn m v base
      | _ => Act.fail .noNumeral
  | .text => do
      match ← t.places ["object", "encoding", "errors"] arguments with
      | [v, encoding, errors] => do
          t.checkText "encoding" encoding
          t.checkText "errors" errors
          match v with
          | none => pure t.blank
          | some v =>
              if encoding.isNone && errors.isNone then t.convert m v else toDecoded v
      | _ => pure t.blank
  | .mapping =>
      match arguments.positional with
      | [] => .mapping .plain <$> collectEntries m [] arguments.named
      | [v] => do
          let entries ← v.addEntries m []
          .mapping .plain <$> collectEntries m entries arguments.named
      | given => Act.fail (.oneAtMost t given.length)
  | t => do
      match ← t.onlyPlace arguments with
      | none => pure t.blank
      | some v => t.convert m v

end BasicType

end StateRules
