import Mathlib.Data.List.Basic

/-!
# JSON values

Values as `JSON.parse` yields them: the fields of an object have distinct keys
in the order in which they are listed.
-/

namespace GravitPanel

inductive Json where
  | null
  | bool (value : Bool)
  | number (value : Rat)
  | string (value : String)
  | array (items : List Json)
  | object (fields : List (String × Json))
  deriving Repr

abbrev JsonFields := List (String × Json)

namespace Json

def fields? : Json → Option JsonFields
  | .object fields => some fields
  | _ => none

def items? : Json → Option (List Json)
  | .array items => some items
  | _ => none

def string? : Json → Option String
  | .string value => some value
  | _ => none

def getField (key : String) : JsonFields → Option Json
  | [] => none
  | field :: rest => if field.1 = key then some field.2 else getField key rest

/-- `{ ...fields, [key]: value }`: a field that exists keeps its place. -/
def setField (key : String) (value : Json) : JsonFields → JsonFields
  | [] => [(key, value)]
  | field :: rest =>
      if field.1 = key then (key, value) :: rest
      else field :: setField key value rest

@[simp]
theorem getField_setField_self
    (key : String) (value : Json) (fields : JsonFields) :
    getField key (setField key value fields) = some value := by
  induction fields with
  | nil => rw [setField, getField, if_pos rfl]
  | cons field rest ih =>
      by_cases same : field.1 = key
      · rw [setField, if_pos same, getField, if_pos rfl]
      · rw [setField, if_neg same, getField, if_neg same,
          ih]

@[simp]
theorem getField_setField_of_ne
    {key other : String} (different : other ≠ key) (value : Json)
    (fields : JsonFields) :
    getField other (setField key value fields) = getField other fields := by
  induction fields with
  | nil => simp [setField, getField, Ne.symm different]
  | cons field rest ih =>
      by_cases same : field.1 = key
      · have unlike : field.1 ≠ other := fun equal =>
          different (equal.symm.trans same)
        rw [setField, if_pos same, getField, if_neg (Ne.symm different),
          getField, if_neg unlike]
      · rw [setField, if_neg same, getField, ih, getField]

end Json

end GravitPanel
