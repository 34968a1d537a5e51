import Playscript.Json.Value

/-!
Reading values of known shape. A record may be written as an object with named members, where
unknown names are passed over and a known name may not come twice, or as the list of its fields in
order.
-/

namespace Playscript.Json

def bool? : Json → Option Bool
  | .bool value => some value
  | _ => none

def string? : Json → Option String
  | .string text => text
  | _ => none

def char? (json : Json) : Option Char :=
  match json.string?.map String.toList with
  | some [c] => some c
  | _ => none

def count? : Json → Option Nat
  | .number numeral => numeral.count?
  | _ => none

def int32? : Json → Option Int32
  | .number numeral => numeral.int32?
  | _ => none

def single? : Json → Option Float32
  | .number numeral => numeral.single?
  | _ => none

def listOf? (read : Json → Option α) : Json → Option (List α)
  | .list items => items.mapM read
  | _ => none

abbrev Fields := List (String × Json)

def namedMember? (member : Option String × Json) : Option (String × Json) :=
  member.1.map fun name => (name, member.2)

/-- The fields of a record with these names. `least` is the number of fields that a list may not
leave out. -/
def fields? (names : List String) (least : Nat) : Json → Option Fields
  | .object members =>
    (members.mapM namedMember?).bind fun named =>
      let known := named.filter fun member => names.contains member.1
      if (known.map Prod.fst).Nodup then some known else none
  | .list items =>
    if least ≤ items.length ∧ items.length ≤ names.length then some (names.zip items) else none
  | _ => none

namespace Fields

def required (fields : Fields) (name : String) (read : Json → Option α) : Option α :=
  (fields.lookup name).bind read

/-- A field that may be left out, with what it then is. -/
def optional (fields : Fields) (name : String) (absent : α) (read : Json → Option α) : Option α :=
  match fields.lookup name with
  | none => some absent
  | some value => read value

end Fields
end Playscript.Json
