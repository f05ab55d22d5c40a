import RowStamp.Failure
import RowStamp.Json
import RowStamp.Text.Escaped

/-!
Decoding of JSON values.  A record is read from an object by name, or from an array by position;
members of other names are skipped.
-/

set_option autoImplicit false
set_option relaxedAutoImplicit false

namespace RowStamp.Json

inductive Expected where
  | text
  | sequence
  | record (name : String)
  | unit
  | variant
  deriving DecidableEq, Repr

def Expected.phrase : Expected → String
  | text => "a string"
  | sequence => "a sequence"
  | record name => "struct " ++ name
  | unit => "unit"
  | variant => "string or map"

/-- Why a value cannot be decoded. -/
inductive DecodeFault where
  | wrongType (found : Json) (expected : Expected)
  | tooShort (length : Nat) (record : String) (arity : Nat)
  | tooLong (length : Nat)
  | missingMember (name : String)
  | unknownVariant (name : String) (variants : List String)
  | notOneMember
  | settings (failure : Failure)

def kindPhrase : Json → String
  | .null => "null"
  | .bool b => "boolean " ++ Failure.quoted (if b then "true" else "false")
  | .integer i => "integer " ++ Failure.quoted (toString i)
  | .decimal d => "floating point " ++ Failure.quoted d.text
  | .string s => "string " ++ Text.Escaped.wrap s
  | .array _ => "sequence"
  | .object _ => "map"

def DecodeFault.message : DecodeFault → String
  | wrongType found expected =>
    "invalid type: " ++ found.kindPhrase ++ ", expected " ++ expected.phrase
  | tooShort length record arity =>
    "invalid length " ++ toString length ++ ", expected " ++ (Expected.record record).phrase ++
      " with " ++ toString arity ++ " elements"
  | tooLong length =>
    "invalid length " ++ toString length ++ ", expected fewer elements in array"
  | missingMember name => "missing field " ++ Failure.quoted name
  | unknownVariant name variants =>
    "unknown variant " ++ Failure.quoted name ++ ", expected one of " ++
      ", ".intercalate (variants.map Failure.quoted)
  | notOneMember => "invalid value: map, expected map with a single key"
  | settings failure => failure.message

abbrev Decoder (α : Type) := Json → Except DecodeFault α

namespace Decoder

def text : Decoder String
  | .string s => .ok s
  | found => .error (.wrongType found .text)

def optional {α : Type} (decode : Decoder α) : Decoder (Option α)
  | .null => .ok none
  | found => (decode found).map some

def list {α : Type} (decode : Decoder α) : Decoder (List α)
  | .array items => items.mapM decode
  | found => .error (.wrongType found .sequence)

/-- The name of an alternative without contents: a string, or an object whose only member has that
name and null as its value. -/
def variant {α : Type} (variants : List String) (ofName? : String → Option α) : Decoder α
  | .string name => choose name
  | .object [(name, value)] => do
    let chosen ← choose name
    match value with
    | .null => return chosen
    | found => throw (.wrongType found .unit)
  | .object _ => .error .notOneMember
  | found => .error (.wrongType found .variant)
where
  /-- The alternative of a name. -/
  choose (name : String) : Except DecodeFault α :=
    match ofName? name with
    | some chosen => .ok chosen
    | none => .error (.unknownVariant name variants)

def member? {α : Type} (decode : Decoder α) (members : List (String × Json)) (name : String) :
    Except DecodeFault (Option α) :=
  match members.lookup name with
  | some value => (decode value).map some
  | none => .ok none

def required {α : Type} (name : String) : Option α → Except DecodeFault α
  | some value => .ok value
  | none => .error (.missingMember name)

end Decoder

/-- The items of an array that are not yet read as parts of a record. -/
structure Positions where
  record : String
  arity : Nat
  index : Nat
  left : List Json

namespace Positions

def next {α : Type} (positions : Positions) (decode : Decoder α) :
    Except DecodeFault (α × Positions) :=
  match positions.left with
  | [] => .error (.tooShort positions.index positions.record positions.arity)
  | item :: rest => do
    let value ← decode item
    return (value, { positions with index := positions.index + 1, left := rest })

/-- The next item, or nothing where there is none. -/
def next? {α : Type} (positions : Positions) (decode : Decoder (Option α)) :
    Except DecodeFault (Option α × Positions) :=
  match positions.left with
  | [] => .ok (none, positions)
  | _ => positions.next decode

def finish (positions : Positions) : Except DecodeFault Unit :=
  if positions.left.isEmpty then .ok ()
  else .error (.tooLong (positions.index + positions.left.length))

end Positions

/-- A record of a name and a number of parts: from the items of an array by position, or from the
members of an object, which are decoded in the order of their names. -/
def Decoder.record {α : Type} (name : String) (arity : Nat)
    (ofItems : Positions → Except DecodeFault (α × Positions))
    (ofMembers : List (String × Json) → Except DecodeFault α) : Decoder α
  | .array items => do
    let (value, positions) ← ofItems ⟨name, arity, 0, items⟩
    positions.finish
    return value
  | .object members => ofMembers members
  | found => .error (.wrongType found (.record name))

end RowStamp.Json
