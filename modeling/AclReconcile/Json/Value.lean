/-!
# JSON values

A JSON document as this library reads and writes it. Numbers keep the text they were written
with, so that reading them into an integer, a float or back into text is decided by the reader
and nothing is lost on the way. Object members keep their order and their duplicates, and each
member remembers the source text of its value: a field whose type reads raw JSON (an object type
given as a number, say) sees exactly what was written.
-/

namespace AclReconcile

/-- A JSON value. -/
inductive Json where
  | null
  | bool (b : Bool)
  | number (literal : String)
  | string (s : String)
  | array (items : List Json)
  /-- Members in document order: name, value, and the value's source text. -/
  | object (members : List (String × Json × String))
  deriving Inhabited

namespace Json

/-- The word a type error uses for the kind of a value. -/
def kindName : Json → String
  | .null => "null"
  | .bool _ => "bool"
  | .number _ => "number"
  | .string _ => "string"
  | .array _ => "array"
  | .object _ => "object"

/-- An object built from name and value pairs, for writing. -/
def obj (members : List (String × Json)) : Json :=
  .object (members.map fun (k, v) => (k, v, ""))

/-- The last member of that exact name. -/
def field? (j : Json) (name : String) : Option Json :=
  match j with
  | .object ms => (ms.reverse.find? (·.1 == name)).map (·.2.1)
  | _ => none

/-- The decimal text of an integer, as a number value. -/
def ofInt (n : Int) : Json := .number (toString n)

/-- A number value for a natural number. -/
def ofNat (n : Nat) : Json := .number (toString n)

/-- A text value, or null when there is none. -/
def ofOption (s : Option String) : Json := match s with
  | some t => .string t
  | none => .null

/-- An array of texts. -/
def ofStrings (ss : List String) : Json := .array (ss.map .string)

end Json

end AclReconcile
