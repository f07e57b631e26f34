import AclReconcile.Json.Read
import AclReconcile.Error
import AclReconcile.Text.Case
import AclReconcile.Text.Integer

/-!
# Reading JSON into records

A record is read member by member. A member is matched to a field by its exact name, or else
by its name up to case; a member that matches no field is skipped, or reported when the record
is strict about unknown members. A value of the wrong kind for its field leaves the field as
it was and is reported, but reading goes on, so that the first such report is the one given at
the end; `null` leaves any field as it was. A field that reads its own value may instead stop
the whole reading at once.

A report names where the value was, as the path of member names and element indexes from the
root joined with dots, and the type of the field.
-/

namespace AclReconcile.Json

/-- One step from the root of a document to a value. -/
inductive Step where
  | member (name : String)
  | element (index : Nat)
  deriving DecidableEq, Inhabited

/-- The text of one step. -/
def Step.text : Step → String
  | .member n => n
  | .element i => toString i

/-- Reading that can stop at once, and that keeps its first recoverable failure aside. -/
abbrev Reader := ExceptT Error (StateM (Option Error))

namespace Reader

/-- Keeps a recoverable failure unless one is kept already. -/
def note (e : Error) : Reader Unit :=
  modify fun kept => match kept with
    | some k => some k
    | none => some e

/-- The outcome of a reading: a stop, else the first kept failure, else the value. -/
def run {α : Type} (r : Reader α) : Except Error α :=
  match (ExceptT.run r).run none with
  | (.error e, _) => .error e
  | (.ok _, some e) => .error e
  | (.ok a, none) => .ok a

end Reader

/-- Where a value sits, for reports: the name of the root type when the root is a named
record, and the steps from the root. -/
structure Place where
  root : String := ""
  steps : List Step := []
  deriving Inhabited

/-- The place one step further. -/
def Place.push (p : Place) (s : Step) : Place := { p with steps := p.steps ++ [s] }

/-- The report for a value of kind `found` where a value of type `target` belongs. -/
def mismatch (p : Place) (found target : String) : Error :=
  .mistypedJson <|
    if p.steps.isEmpty then
      "json: cannot unmarshal " ++ found ++ " into Go value of type " ++ target
    else
      let lead := match p.steps.getLast? with
        | some (.member _) => "Go struct field "
        | _ => ""
      "json: cannot unmarshal " ++ found ++ " into " ++ lead ++ p.root ++ "." ++
        ".".intercalate (p.steps.map Step.text) ++ " of type " ++ target

/-- A text field: `some` for a string, `none` (field unchanged) for anything else. -/
def readText (p : Place) : Json → Reader (Option String)
  | .string s => pure (some s)
  | .null => pure none
  | j => do Reader.note (mismatch p j.kindName "string"); pure none

/-- A true-or-false field. -/
def readFlag (p : Place) : Json → Reader (Option Bool)
  | .bool b => pure (some b)
  | .null => pure none
  | j => do Reader.note (mismatch p j.kindName "bool"); pure none

/-- A signed 64-bit integer field; a number with a fraction or out of range is reported with
its text. -/
def readInt64 (p : Place) : Json → Reader (Option Int)
  | .number lit =>
    match Text.parseInt64? lit with
    | some n => pure (some n)
    | none => do Reader.note (mismatch p ("number " ++ lit) "int64"); pure none
  | .null => pure none
  | j => do Reader.note (mismatch p j.kindName "int64"); pure none

/-- How one field of a record of type `α` takes its member's value and source text. -/
abbrev FieldReader (α : Type) := Place → α → Json → String → Reader α

/-- The field a member name selects: the exact name first, then the name up to case. -/
def selectField {α : Type} (fields : List (String × FieldReader α)) (name : String) :
    Option (String × FieldReader α) :=
  match fields.find? (·.1 == name) with
  | some f => some f
  | none => fields.find? fun f => Text.equalFold f.1 name

/-- Reads the members of an object into a record, starting from `init`. A strict reading
reports members that match no field. -/
def readRecord {α : Type} (strict : Bool) (fields : List (String × FieldReader α)) (p : Place)
    (init : α) (members : List (String × Json × String)) : Reader α :=
  members.foldlM (fun acc (name, v, raw) =>
    match selectField fields name with
    | some (fname, f) => f (p.push (.member fname)) acc v raw
    | none => do
      if strict then Reader.note (.plain ("json: unknown field " ++ Text.quote name))
      pure acc) init

/-- Reads the elements of an array, each by `item` at its index. -/
def readElements {α : Type} (item : Place → Json → Reader α) (p : Place)
    (items : List Json) : Reader (List α) :=
  items.zipIdx.mapM fun (j, i) => item (p.push (.element i)) j

end AclReconcile.Json
