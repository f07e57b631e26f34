import AclReconcile.Acl.List
import AclReconcile.Acl.Access
import AclReconcile.Text.Quote

/-!
# Stored records

The form in which database and key-value storages keep an item: its id, whether it is a
folder, owner, group and summary as text, both lists in their stored JSON form, and the time of
the last change, which a storage stamps from its clock when it writes the record. Writing a
record refuses an entry with an invalid kind, naming the list and the record; reading one back
names them as well.
-/

namespace AclReconcile

/-- The stored form of one item. -/
structure Record where
  id : String := ""
  folder : Bool := false
  owner : String := ""
  group : String := ""
  permissions : String := ""
  acl : String := ""
  defaultAcl : String := ""
  modifyTime : Int := 0
  deriving DecidableEq, Repr, Inhabited

namespace Record

/-- The id of the `n`-th record a storage creates: a time-ordered identifier of the usual
8-4-4-4-12 hexadecimal form, version 7. -/
def freshId (n : Nat) : String :=
  "01900000-0000-7000-8000-" ++ Text.hexPadded 12 n

/-- The record of a state. -/
def ofState (id : String) (folder : Bool) (ac : AccessControl) : Except Error Record := do
  let acl ← (AclList.encode ac.acl).mapError
    (.context ("failed to encode acl of '" ++ id ++ "'"))
  let defaultAcl ← (AclList.encode ac.defaultAcl).mapError
    (.context ("failed to encode default acl of '" ++ id ++ "'"))
  pure { id, folder, acl, defaultAcl
         owner := ac.owner
         group := ac.group
         permissions := ac.permissions }

/-- The state a record holds. -/
def state (r : Record) : Except Error AccessControl := do
  let acl ← (AclList.decode r.acl).mapError
    (.context ("failed to decode acl of '" ++ r.id ++ "'"))
  let defaultAcl ← (AclList.decode r.defaultAcl).mapError
    (.context ("failed to decode default acl of '" ++ r.id ++ "'"))
  pure { owner := r.owner, group := r.group, permissions := r.permissions, acl, defaultAcl }

/-- The JSON object of a record, fields in their fixed order. -/
def toJson (r : Record) : Json :=
  Json.obj [("id", .string r.id), ("folder", .bool r.folder), ("owner", .string r.owner),
    ("group", .string r.group), ("permissions", .string r.permissions), ("acl", .string r.acl),
    ("default_acl", .string r.defaultAcl), ("modify_time", Json.ofInt r.modifyTime)]

/-- The fields of a record's JSON object. -/
def fields : List (String × Json.FieldReader Record) :=
  let text (set : Record → String → Record) : Json.FieldReader Record := fun p r j _ => do
    pure ((← Json.readText p j).elim r (set r))
  [("id", text fun r s => { r with id := s }),
   ("folder", fun p r j _ => do pure ((← Json.readFlag p j).elim r fun b => { r with folder := b })),
   ("owner", text fun r s => { r with owner := s }),
   ("group", text fun r s => { r with group := s }),
   ("permissions", text fun r s => { r with permissions := s }),
   ("acl", text fun r s => { r with acl := s }),
   ("default_acl", text fun r s => { r with defaultAcl := s }),
   ("modify_time", fun p r j _ => do
      pure ((← Json.readInt64 p j).elim r fun n => { r with modifyTime := n }))]

/-- Reads a record from its JSON text. -/
def readJson (s : String) : Except Error Record :=
  match Json.parse s with
  | .error e => .error (.malformedJson e.message)
  | .ok doc => Json.Reader.run <| match doc with
    | .object ms => Json.readRecord false fields { root := "Record" } {} ms
    | .null => pure {}
    | j => do Json.Reader.note (Json.mismatch {} j.kindName "backend.Record"); pure {}

end Record

/-- What a storage takes from its surroundings when it writes records: the time its clock reads,
in seconds since the epoch, which every record written is stamped with, and the id of the
`n`-th record it creates. Ids are time-ordered and random where the storages run, and the clock
moves; by default the clock reads 0 and the ids are `Record.freshId`. -/
structure Surroundings where
  now : Int := 0
  newId : Nat → String := Record.freshId
  deriving Inhabited

/-- A record as it is written at time `now`. -/
def Record.stampedAt (r : Record) (now : Int) : Record := { r with modifyTime := now }

end AclReconcile
