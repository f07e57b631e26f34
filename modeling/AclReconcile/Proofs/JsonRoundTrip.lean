import AclReconcile.Json.Read
import AclReconcile.Json.Write

/-!
# Reading back what is written

Reading the compact text of a value gives the value back (`Json.parse_render`), for every value
without numbers: a number keeps the text it was made with, and that text reads back only when
it is a number literal. Members come back with their source text filled in, which is the compact
text of their value (`Json.sourced`); nothing else changes.

The argument follows the writer. A string is read back one character at a time, each escape by
the reader's own case for it (`Json.readStringBody_escape`); the `\u` escapes carry four
hexadecimal digits of a code point below the surrogates. An array is read one element at a time
and an object one member at a time (`Json.readArray_element`, `Json.readObject_member`), and a
value, the elements of an array and the members of an object are read back together by
structural recursion. The reader's fuel only has to exceed the length of the text still to be
read, since every step consumes at least one character of it.
-/

namespace AclReconcile.Json

/-! ## Strings -/

/-- A hexadecimal digit reads back as its value. -/
theorem hexValue?_hexDigit : ∀ d, d < 16 → hexValue? (Text.hexDigit d) = some d := by decide

/-- Four hexadecimal digits of a number below `0x10000` read back as the number, whatever follows.
-/
theorem hex4_hexPadded {n : Nat} (hn : n < 0x10000) (r : List Char) :
    hex4 ((Text.hexPadded 4 n).toList ++ r) = some (n, r) := by
  have h16 : ∀ k, n / k % 16 < 16 := fun k => Nat.mod_lt _ (by decide)
  have h1 : n % 16 < 16 := Nat.mod_lt _ (by decide)
  simp only [Text.hexPadded, String.toList_ofList, List.range_succ, List.range_zero]
  simp [hex4, hexValue?_hexDigit _ (h16 _), hexValue?_hexDigit _ h1]
  omega

/-- A `\u` escape of a code point below the surrogates reads back as its character. -/
theorem readStringBody_unicode {c : Char} (hc : c.toNat < 0xD800) (fuel : Nat) (acc r : List Char) :
    readStringBody (fuel + 1) acc (("\\u" ++ Text.hexPadded 4 c.toNat).toList ++ r) =
      readStringBody fuel (c :: acc) r := by
  have hhex := hex4_hexPadded (show c.toNat < 0x10000 by omega) r
  have hsur : isHighSurrogate c.toNat = false := by simp [isHighSurrogate]; omega
  have hcode : charOfCode c.toNat = c := by
    simp only [charOfCode]
    rw [if_neg (by simp; omega), Char.ofNat_toNat]
  simp only [String.toList_append, List.append_assoc]
  rw [show ("\\u" : String).toList = ['\\', 'u'] from rfl, List.cons_append, List.cons_append,
    List.nil_append, readStringBody]
  simp [hhex, hsur, hcode]

/-- A character's escape reads back as the character, by the reader's own case for it. -/
theorem readStringBody_escape (c : Char) (fuel : Nat) (acc r : List Char) :
    readStringBody (fuel + 1) acc ((escape c).toList ++ r) = readStringBody fuel (c :: acc) r := by
  unfold escape
  split
  any_goals (simp [readStringBody]; done)
  · exact readStringBody_unicode (c := '<') (by decide) fuel acc r
  · exact readStringBody_unicode (c := '>') (by decide) fuel acc r
  · exact readStringBody_unicode (c := '&') (by decide) fuel acc r
  · rename_i hq hb _ _ _ _ _ _ _ _
    split
    · next hu =>
      have hlt : c.toNat < 0xD800 := by simp at hu; omega
      exact readStringBody_unicode hlt fuel acc r
    · next hu =>
      have hq' : (c == '"') = false := by simpa using hq
      have hb' : (c == '\\') = false := by simpa using hb
      have hctl : ¬ c.toNat < 0x20 := by simp at hu; omega
      simp [readStringBody, hq', hb', hctl]

/-- The escapes of a text, closed by a quote, read back as the text, by induction on the text; the
fuel need only exceed the text's length. -/
theorem readStringBody_escaped (s : List Char) : ∀ (fuel : Nat) (acc r : List Char),
    s.length < fuel →
    readStringBody fuel acc ((s.flatMap fun c => (escape c).toList) ++ '"' :: r) =
      .ok (String.ofList (acc.reverse ++ s), r) := by
  induction s with
  | nil =>
    intro fuel acc r hf
    obtain ⟨f, rfl⟩ : ∃ f, fuel = f + 1 := ⟨fuel - 1, by simp at hf; omega⟩
    simp [readStringBody]
  | cons c s ih =>
    intro fuel acc r hf
    obtain ⟨f, rfl⟩ : ∃ f, fuel = f + 1 := ⟨fuel - 1, by simp at hf; omega⟩
    rw [List.flatMap_cons, List.append_assoc, readStringBody_escape,
      ih f (c :: acc) r (by simp at hf; omega)]
    simp

/-- A string literal is a quote, the escapes of its characters, and a quote. -/
theorem quoteString_toList (s : String) :
    (quoteString s).toList = '"' :: (s.toList.flatMap fun c => (escape c).toList) ++ ['"'] := by
  simp [quoteString, String.toList_join, List.flatMap_map]

/-- A string literal reads back as its text, whatever follows it. -/
theorem readStringBody_quoteString (s : String) (fuel : Nat) (r : List Char)
    (hf : s.length < fuel) :
    readStringBody fuel [] ((s.toList.flatMap fun c => (escape c).toList) ++ '"' :: r) =
      .ok (s, r) := by
  rw [readStringBody_escaped _ fuel [] r (by rw [String.length_toList]; exact hf)]
  simp

/-- A value without numbers: a number keeps the text it was given, which reads back only when
it is a number literal. -/
inductive Plain : Json → Prop
  | null : Plain .null
  | bool (b : Bool) : Plain (.bool b)
  | string (s : String) : Plain (.string s)
  | array {items : List Json} : (∀ j ∈ items, Plain j) → Plain (.array items)
  | object {members : List (String × Json × String)} :
      (∀ m ∈ members, Plain m.2.1) → Plain (.object members)

mutual
/-- The value as reading its compact text gives it back: every member carries the compact text
of its value as its source text. -/
def sourced : Json → Json
  | .array items => .array (sourcedItems items)
  | .object members => .object (sourcedMembers members)
  | j => j

/-- `sourced` on every element. -/
def sourcedItems : List Json → List Json
  | [] => []
  | j :: rest => sourced j :: sourcedItems rest

/-- `sourced` on every member, with the member's source text. -/
def sourcedMembers : List (String × Json × String) → List (String × Json × String)
  | [] => []
  | (k, v, _) :: rest => (k, sourced v, render v) :: sourcedMembers rest
end

/-- The compact text of a value without numbers starts with a character that is no blank and
closes nothing. -/
theorem render_head {j : Json} (hj : Plain j) :
    ∃ c t, (render j).toList = c :: t ∧ isSpace c = false ∧ c ≠ ']' ∧ c ≠ '}' := by
  cases hj with
  | null => exact ⟨'n', _, rfl, rfl, by decide, by decide⟩
  | bool b => cases b <;> exact ⟨_, _, rfl, rfl, by decide, by decide⟩
  | string s =>
    exact ⟨'"', (s.toList.flatMap fun c => (escape c).toList) ++ ['"'],
      by simp [render, quoteString_toList], rfl, by decide, by decide⟩
  | @array items _ =>
    exact ⟨'[', (renderItems items).toList ++ [']'], by simp [render], rfl, by decide, by decide⟩
  | @object members _ =>
    exact ⟨'{', (renderMembers members).toList ++ ['}'], by simp [render], rfl, by decide,
      by decide⟩

/-- Skipping blanks stops at a character that is no blank. -/
theorem skipSpace_cons {c : Char} (hc : isSpace c = false) (l : List Char) :
    skipSpace (c :: l) = c :: l :=
  List.dropWhile_cons_of_neg (by simp [hc])

/-- Nothing is skipped before the compact text of a value without numbers. -/
theorem skipSpace_render {j : Json} (hj : Plain j) (r : List Char) :
    skipSpace ((render j).toList ++ r) = (render j).toList ++ r := by
  obtain ⟨c, t, ht, hc, -, -⟩ := render_head hj
  rw [ht, List.cons_append, skipSpace, List.dropWhile_cons_of_neg (by simp [hc])]


/-- Every character's escape is at least one character long. -/
theorem escape_length_pos (c : Char) : 0 < (escape c).length := by
  unfold escape
  split
  any_goals decide
  · have h2 : ("\\u" : String).length = 2 := by decide
    split
    · simp only [String.length_append, h2]; omega
    · simp

/-- A text is no longer than its escapes. -/
theorem length_le_escaped (s : List Char) :
    s.length ≤ (s.flatMap fun c => (escape c).toList).length := by
  induction s with
  | nil => simp
  | cons c s ih =>
    have := escape_length_pos c
    simp only [List.flatMap_cons, List.length_append, String.length_toList, List.length_cons]
    omega

/-- The compact text of an array is its elements' texts in brackets. -/
theorem render_array_toList (items : List Json) :
    (render (.array items)).toList = '[' :: ((renderItems items).toList ++ [']']) := by
  simp [render]

/-- The compact text of an object is its members' texts in braces. -/
theorem render_object_toList (ms : List (String × Json × String)) :
    (render (.object ms)).toList = '{' :: ((renderMembers ms).toList ++ ['}']) := by
  simp [render]

/-- One element of an array, read back as `v` and followed by `d`. -/
theorem readArray_element {x v : Json} (hx : Plain x) {f : Nat} (acc : List Json) (first : Bool)
    {d : Char} (hd : isSpace d = false) {rest : List Char}
    (hread : readValue f ((render x).toList ++ d :: rest) = .ok (v, d :: rest)) :
    readArray (f + 1) acc first ((render x).toList ++ d :: rest) =
      if d == ',' then readArray f (v :: acc) false rest
      else if d == ']' then .ok (.array (v :: acc).reverse, rest)
      else .error (.unexpected d "after array element") := by
  obtain ⟨c, t, ht, -, hc, -⟩ := render_head hx
  rw [readArray, skipSpace_render hx, ht, List.cons_append]
  dsimp only
  rw [if_neg (by simp [hc]), ← List.cons_append, ← ht, hread]
  simp only [bind, Except.bind, skipSpace_cons hd]

/-- The text of one member. -/
theorem member_toList (k : String) (v : Json) (tail : List Char) :
    (quoteString k ++ ":" ++ render v).toList ++ tail =
      '"' :: ((k.toList.flatMap fun c => (escape c).toList) ++ '"' :: ':' ::
        ((render v).toList ++ tail)) := by
  simp [quoteString_toList]

/-- One member of an object, its value read back as `w` and followed by `e`; the source text kept
for the member is the value's own text. -/
theorem readObject_member {v w : Json} (hv : Plain v) {f : Nat} (acc : List (String × Json × String))
    (first : Bool) (k : String) {e : Char} (he : isSpace e = false) {rest : List Char}
    (hread : readValue f ((render v).toList ++ e :: rest) = .ok (w, e :: rest)) :
    readObject (f + 1) acc first ((quoteString k ++ ":" ++ render v).toList ++ e :: rest) =
      if e == ',' then readObject f ((k, w, render v) :: acc) false rest
      else if e == '}' then .ok (.object ((k, w, render v) :: acc).reverse, rest)
      else .error (.unexpected e "after object key:value pair") := by
  have hlen := length_le_escaped k.toList
  rw [member_toList, readObject, skipSpace_cons (by decide)]
  dsimp only
  rw [if_neg (by simp), if_neg (by decide), readStringBody_quoteString k _ _ (by
    simp only [List.length_append, List.length_cons, ← String.length_toList]; omega)]
  simp only [bind, Except.bind, skipSpace_cons (show isSpace ':' = false by decide)]
  rw [if_neg (by decide), skipSpace_render hv, hread]
  have hraw : String.ofList (List.take (((render v).toList ++ e :: rest).length -
      (e :: rest).length) ((render v).toList ++ e :: rest)) = render v := by
    simp
  simp only [skipSpace_cons he, hraw]

mutual
/-- A value without numbers reads back from its compact text, whatever follows, with the members'
source texts filled in; the fuel need only exceed the text's length. The recursion is on the value,
together with the elements of its arrays and the members of its objects. -/
theorem readValue_render : ∀ (j : Json), Plain j → ∀ (fuel : Nat) (r : List Char),
    (render j).length < fuel → readValue fuel ((render j).toList ++ r) = .ok (sourced j, r)
  | _, _, 0, _, hf => absurd hf (Nat.not_lt_zero _)
  | .null, _, _ + 1, _, _ => rfl
  | .bool true, _, _ + 1, _, _ => rfl
  | .bool false, _, _ + 1, _, _ => rfl
  | .number _, h, _ + 1, _, _ => nomatch h
  | .string s, _, f + 1, r, _ => by
    have hlen := length_le_escaped s.toList
    simp only [render, quoteString_toList, List.cons_append, List.append_assoc]
    simp only [readValue, skipSpace, List.nil_append]
    rw [List.dropWhile_cons_of_neg (by decide)]
    have hfuel : s.length < (List.flatMap (fun c => (escape c).toList) s.toList ++ '"' :: r).length + 1 := by
      simp only [List.length_append, List.length_cons, ← String.length_toList]; omega
    dsimp only
    rw [if_neg (by decide), if_neg (by decide), if_pos (by decide : ('"' == '"') = true),
      readStringBody_quoteString s _ r hfuel]
    rfl
  | .array items, .array hitems, f + 1, r, hf => by
    have hlen : (renderItems items).length + 1 < f := by
      rw [← String.length_toList, render_array_toList] at hf
      simp only [List.length_cons, List.length_append, String.length_toList] at hf
      omega
    simp only [render_array_toList, List.cons_append, List.append_assoc, List.nil_append]
    rw [readValue, skipSpace, List.dropWhile_cons_of_neg (by decide)]
    dsimp only
    rw [if_neg (by decide), if_pos (by decide : ('[' == '[') = true)]
    cases items with
    | nil =>
      obtain ⟨f', rfl⟩ : ∃ f', f = f' + 1 := ⟨f - 1, by omega⟩
      rfl
    | cons x xs =>
      rw [readArray_renderItems (x :: xs) hitems (List.cons_ne_nil _ _) f [] true r hlen]
      rfl
  | .object ms, .object hms, f + 1, r, hf => by
    have hlen : (renderMembers ms).length + 1 < f := by
      rw [← String.length_toList, render_object_toList] at hf
      simp only [List.length_cons, List.length_append, String.length_toList] at hf
      omega
    simp only [render_object_toList, List.cons_append, List.append_assoc, List.nil_append]
    rw [readValue, skipSpace, List.dropWhile_cons_of_neg (by decide)]
    dsimp only
    rw [if_pos (by decide : ('{' == '{') = true)]
    cases ms with
    | nil =>
      obtain ⟨f', rfl⟩ : ∃ f', f = f' + 1 := ⟨f - 1, by omega⟩
      rfl
    | cons m ms =>
      rw [readObject_renderMembers (m :: ms) hms (List.cons_ne_nil _ _) f [] true r hlen]
      rfl

/-- The elements of a nonempty array read back one at a time: the last is closed by the bracket, and
each other one is followed by a comma and the rest of the array. -/
theorem readArray_renderItems (items : List Json) (hitems : ∀ j ∈ items, Plain j)
    (hne : items ≠ []) (fuel : Nat) (acc : List Json) (first : Bool) (r : List Char)
    (hf : (renderItems items).length + 1 < fuel) :
    readArray fuel acc first ((renderItems items).toList ++ ']' :: r) =
      .ok (.array (acc.reverse ++ sourcedItems items), r) := by
  cases items with
  | nil => exact absurd rfl hne
  | cons x rest =>
    cases fuel with
    | zero => omega
    | succ f =>
      have hx : Plain x := hitems x List.mem_cons_self
      cases rest with
      | nil =>
        have hlen : (render x).length < f := by
          simp only [renderItems] at hf; omega
        simp only [renderItems]
        rw [readArray_element hx acc first (by decide) (readValue_render x hx f _ hlen),
          if_neg (by decide), if_pos (by decide : (']' == ']') = true)]
        simp [sourcedItems]
      | cons y rest =>
        have hlen : (render x).length < f ∧ (renderItems (y :: rest)).length + 1 < f := by
          simp only [renderItems, String.length_append] at hf
          have : (",":String).length = 1 := rfl
          omega
        simp only [renderItems, String.toList_append, List.append_assoc,
          show (",":String).toList = [','] from rfl, List.cons_append, List.nil_append]
        rw [readArray_element hx acc first (by decide) (readValue_render x hx f _ hlen.1),
          if_pos (by decide : (',' == ',') = true),
          readArray_renderItems (y :: rest) (fun j hj => hitems j (List.mem_cons_of_mem x hj))
            (List.cons_ne_nil _ _) f _ false r hlen.2]
        simp [sourcedItems]

/-- The members of a nonempty object read back one at a time: the last is closed by the brace, and
each other one is followed by a comma and the rest of the object. -/
theorem readObject_renderMembers (ms : List (String × Json × String))
    (hms : ∀ m ∈ ms, Plain m.2.1) (hne : ms ≠ []) (fuel : Nat) (acc : List (String × Json × String))
    (first : Bool) (r : List Char) (hf : (renderMembers ms).length + 1 < fuel) :
    readObject fuel acc first ((renderMembers ms).toList ++ '}' :: r) =
      .ok (.object (acc.reverse ++ sourcedMembers ms), r) := by
  cases ms with
  | nil => exact absurd rfl hne
  | cons m rest =>
    cases fuel with
    | zero => omega
    | succ f =>
      obtain ⟨k, v, s⟩ := m
      have hv : Plain v := hms (k, v, s) List.mem_cons_self
      have hk : 2 ≤ (quoteString k).length := by
        rw [← String.length_toList, quoteString_toList]; simp
      cases rest with
      | nil =>
        have hlen : (render v).length < f := by
          simp only [renderMembers, String.length_append] at hf; omega
        simp only [renderMembers]
        rw [readObject_member hv acc first k (by decide) (readValue_render v hv f _ hlen),
          if_neg (by decide), if_pos (by decide : ('}' == '}') = true)]
        simp [sourcedMembers]
      | cons m' rest =>
        have hlen : (render v).length < f ∧ (renderMembers (m' :: rest)).length + 1 < f := by
          simp only [renderMembers, String.length_append] at hf
          have : (",":String).length = 1 := rfl
          omega
        have htext : (renderMembers ((k, v, s) :: m' :: rest)).toList =
            (quoteString k ++ ":" ++ render v).toList ++ ',' :: (renderMembers (m' :: rest)).toList := by
          simp [renderMembers]
        rw [htext, List.append_assoc, List.cons_append,
          readObject_member hv acc first k (by decide) (readValue_render v hv f _ hlen.1),
          if_pos (by decide : (',' == ',') = true),
          readObject_renderMembers (m' :: rest) (fun m hm => hms m (List.mem_cons_of_mem _ hm))
            (List.cons_ne_nil _ _) f _ false r hlen.2]
        simp [sourcedMembers]
end

/-- Reading a whole document that is the compact text of a value without numbers gives the value
back, its members with their source text. -/
theorem parse_render {j : Json} (hj : Plain j) : parse (render j) = .ok (sourced j) := by
  have hread := readValue_render j hj ((render j).toList.length + 1) []
    (by rw [String.length_toList]; exact Nat.lt_succ_self _)
  rw [List.append_nil] at hread
  unfold parse
  dsimp only
  rw [hread]
  rfl

end AclReconcile.Json
