import AclReconcile.Error
import AclReconcile.Json.Value
import AclReconcile.Text.Blank
import AclReconcile.Text.Case
import AclReconcile.Text.Integer

/-!
# Object types

An entry of an access control list is for one kind of principal: the owning user, the owning
group, the mask that caps every group and named entry, or everyone else. The kind is stored as
a number, 0 to 3 in that order. Other numbers can be carried through (a stored state may hold
one) but are invalid: they print as `unknown`, and every place that writes or checks a list
refuses them.

Reading accepts a name in any case with blanks around it, or, failing that, a decimal number
of a valid kind. A refused name is quoted as written; a refused number is shown as a number.
-/

namespace AclReconcile

/-- The kind of principal an entry is for, by its numeric code. -/
structure ObjectType where
  code : Int
  deriving DecidableEq, Repr, Inhabited

namespace ObjectType

/-- The owning user. -/
def user : ObjectType := ⟨0⟩
/-- The owning group. -/
def group : ObjectType := ⟨1⟩
/-- The mask. -/
def mask : ObjectType := ⟨2⟩
/-- Everyone else. -/
def other : ObjectType := ⟨3⟩

/-- The name of the kind, `unknown` for an invalid code. -/
def name (t : ObjectType) : String :=
  match t.code with
  | 0 => "user" | 1 => "group" | 2 => "mask" | 3 => "other" | _ => "unknown"

/-- Whether the code is one of the four kinds. -/
def isValid (t : ObjectType) : Bool := 0 ≤ t.code && t.code ≤ 3

/-- The failure for a refused code. -/
def invalidCode (n : Int) : Error := .detail .invalidObjectType (toString n)

/-- The failure for a refused text. -/
def invalidText (s : String) : Error := .detail .invalidObjectType ("'" ++ s ++ "'")

/-- Reads a kind by name, in any case and with blanks around it. -/
def parse (s : String) : Except Error ObjectType :=
  match Text.lower (Text.trim s) with
  | "user" => .ok user
  | "group" => .ok group
  | "mask" => .ok mask
  | "other" => .ok other
  | _ => .error (invalidText s)

/-- The name written for a kind; invalid codes are refused. -/
def toText (t : ObjectType) : Except Error String :=
  if t.isValid then .ok t.name else .error (invalidCode t.code)

/-- Reads a kind by name or, failing that, by a decimal code of a valid kind. -/
def ofText (s : String) : Except Error ObjectType :=
  match parse s with
  | .ok t => .ok t
  | .error err =>
    match Text.parseInt64? (Text.trim s) with
    | none => .error err
    | some n => if (ObjectType.mk n).isValid then .ok ⟨n⟩ else .error (invalidCode n)

/-- Reads a kind from a JSON value whose source text is `raw`: a string (or null, read as
the empty text) is read as text, anything else by its source text. -/
def ofJson (j : Json) (raw : String) : Except Error ObjectType :=
  match j with
  | .string s => ofText s
  | .null => ofText ""
  | _ => ofText raw

theorem parse_name {t : ObjectType} (h : t.isValid = true) : parse t.name = .ok t := by
  obtain ⟨c⟩ := t
  simp only [isValid, Bool.and_eq_true, decide_eq_true_eq] at h
  obtain ⟨h0, h3⟩ := h
  have : c = 0 ∨ c = 1 ∨ c = 2 ∨ c = 3 := by omega
  rcases this with rfl | rfl | rfl | rfl <;> rfl

end ObjectType

end AclReconcile
