import EspFrp.Types

/-!
# JSON documents

The accessors of `json_internal.c`.  The library and the check that precedes
it are a parameter that turns a text into a document.
-/

namespace EspFrp.Json

/-- `EFRP_JSON_MAX_BYTES`. -/
abbrev maxBytes : Nat := 4096

/-- A parsed value; a number is kept when it is a port number. -/
inductive Value where
  | text (bytes : List UInt8)
  | number (port : Option UInt16)
  | object (members : List (List UInt8 × Value))
  | other

/-- `efrp_json_parse` for a limit of the punctuation. -/
abbrev Parser := List UInt8 → Option Value

/-- `efrp_json_field`; a missing object has no fields. -/
def field (value : Option Value) (name : List UInt8) : Option Value :=
  match value with
  | some (.object members) => (members.find? fun member => member.1 = name).map Prod.snd
  | _ => none

/-- `efrp_json_shape`: an object of the allowed fields, each at most once. -/
def shape (value : Option Value) (allowed : List (List UInt8)) : Bool :=
  match value with
  | some (.object members) =>
    (members.all fun member => allowed.contains member.1) &&
      decide (members.map Prod.fst).Nodup
  | _ => false

/-- `efrp_json_string`: a missing field is the empty text. -/
def text (value : Option Value) (name : List UInt8) : Option (List UInt8) :=
  match field value name with
  | none => some []
  | some (.text bytes) => some bytes
  | some _ => none

/-- `efrp_json_equals`. -/
def equals (value : Option Value) (name expected : List UInt8) : Bool :=
  text value name == some expected

/-- `port_value`. -/
def portValue (value : Option Value) (name : List UInt8) : Bool :=
  match field value name with
  | none => true
  | some (.number port) => port.isSome
  | some _ => false

/-- The bytes of an ASCII literal. -/
def ascii (literal : String) : List UInt8 :=
  literal.toList.map fun letter => UInt8.ofNat letter.toNat

end EspFrp.Json
