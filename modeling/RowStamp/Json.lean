import RowStamp.Decimal

/-!
JSON values.  The members of an object stand in the order of their names, one for each name.
-/

set_option autoImplicit false
set_option relaxedAutoImplicit false

namespace RowStamp

inductive Json where
  | null
  | bool (b : Bool)
  | integer (i : Int)
  | decimal (d : Decimal)
  | string (s : String)
  | array (items : List Json)
  | object (members : List (String × Json))

namespace Json

/-- The members with one more; a member of the same name is replaced. -/
def insertMember (name : String) (value : Json) : List (String × Json) → List (String × Json)
  | [] => [(name, value)]
  | member :: rest =>
    if name = member.1 then (name, value) :: rest
    else if name < member.1 then (name, value) :: member :: rest
    else member :: insertMember name value rest

def ofMembers (members : List (String × Json)) : Json :=
  .object (members.foldl (fun sorted member => insertMember member.1 member.2 sorted) [])

def member? (json : Json) (name : String) : Option Json :=
  match json with
  | .object members => members.lookup name
  | _ => none

def ofNat (n : Nat) : Json := .integer n

def ofOption {α : Type} (ofValue : α → Json) : Option α → Json
  | some value => ofValue value
  | none => .null

def ofList {α : Type} (ofValue : α → Json) (values : List α) : Json :=
  .array (values.map ofValue)

end Json

end RowStamp
