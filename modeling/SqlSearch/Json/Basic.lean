/-!
# JSON values

The documents of this library are written as JSON without fractions, truth values or nulls, so
a value is a string, a natural number, a list or an object. An object is the list of its
fields, in the order in which they are written.

## Main definitions

* `Json`: the values
* `Json.sortKeys`: the same value with the fields of every object in key order

## Design

Objects are lists and not maps because the order of the fields is part of what is written.
Where a consumer wants objects as maps, `sortKeys` gives the one list that stands for the map:
the keys are strictly increasing and the last field of a repeated key is the one that stays.
-/

namespace SqlSearch

/-- A JSON value without fractions, truth values and nulls. -/
inductive Json where
  /-- A string. -/
  | str (value : String)
  /-- A natural number. -/
  | num (value : Nat)
  /-- A list of values. -/
  | arr (items : List Json)
  /-- An object, as its fields in writing order. -/
  | obj (fields : List (String × Json))

namespace Json

/-- An object with a single field. -/
def single (key : String) (value : Json) : Json := .obj [(key, value)]

/-- Puts a field into a list of fields in key order; a field of the same key is replaced. -/
def insertField (key : String) (value : Json) : List (String × Json) → List (String × Json)
  | [] => [(key, value)]
  | (k, v) :: rest =>
    if key = k then (key, value) :: rest
    else if key < k then (key, value) :: (k, v) :: rest
    else (k, v) :: insertField key value rest

mutual

/-- The value with the fields of every object in increasing key order. Of the fields with one
key the last stays. -/
def sortKeys : Json → Json
  | .str s => .str s
  | .num n => .num n
  | .arr items => .arr (sortItems items)
  | .obj fields => .obj (sortFields [] fields)

/-- `sortKeys` of every item. -/
def sortItems : List Json → List Json
  | [] => []
  | item :: rest => item.sortKeys :: sortItems rest

/-- The fields put one after the other into `sorted`, their values with sorted keys. -/
def sortFields (sorted : List (String × Json)) : List (String × Json) → List (String × Json)
  | [] => sorted
  | (key, value) :: rest => sortFields (insertField key value.sortKeys sorted) rest

end

end Json

end SqlSearch
