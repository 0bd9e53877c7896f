import Mathlib.Data.List.Basic

/-!
# JSON values

A value that `JSON.parse` gives, and the readers that narrow it. An object is its fields in
order, each key once; a field that is missing reads as `none`, as `undefined` does. Numbers
are the whole ones.
-/

namespace Kanna

/-- A value, with the fields of an object in their order. -/
inductive Json where
  | null
  | bool (value : Bool)
  | num (value : Int)
  | str (value : String)
  | arr (items : List Json)
  | obj (fields : List (String × Json))

namespace Json

/-- The fields of an object; an array is none. -/
def record? : Json → Option (List (String × Json))
  | .obj fields => some fields
  | _ => none

/-- The items of an array. -/
def array? : Json → Option (List Json)
  | .arr items => some items
  | _ => none

/-- The value of a string. -/
def string? : Json → Option String
  | .str value => some value
  | _ => none

/-- A string that is not empty. -/
def text? : Json → Option String
  | .str value => if value = "" then none else some value
  | _ => none

/-- The value of a boolean. -/
def bool? : Json → Option Bool
  | .bool value => some value
  | _ => none

/-- The value of a number. -/
def num? : Json → Option Int
  | .num value => some value
  | _ => none

end Json

/-- The value of a field. -/
def field (record : List (String × Json)) (key : String) : Option Json := record.lookup key

/-- A field of the value, if it is an object. -/
def Json.field (value : Json) (key : String) : Option Json :=
  value.record?.bind fun record => Kanna.field record key

end Kanna
