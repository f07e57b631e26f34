/-!
# Reading bytes as UTF-8 text

Bytes are read as UTF-8 one character at a time. A byte that does not start a well-formed
sequence (a stray continuation byte, an overlong form, a surrogate, a value beyond U+10FFFF, or
a sequence cut short) stands for one replacement character U+FFFD, and reading goes on with the
next byte.
-/

namespace AclReconcile.Text

/-- Whether a byte continues a multi-byte sequence. -/
def isContinuation (b : UInt8) : Bool := b.toNat / 64 == 2

/-- The replacement character. -/
def replacement : Char := '�'

/-- The first character of a byte list and the bytes after it; `none` for the empty list. -/
def decodeFirst : List UInt8 → Option (Char × List UInt8)
  | [] => none
  | b0 :: rest =>
    let n0 := b0.toNat
    if n0 < 0x80 then some (Char.ofNat n0, rest)
    else if n0 < 0xC2 then some (replacement, rest)
    else if n0 < 0xE0 then
      match rest with
      | b1 :: rest' =>
        if isContinuation b1 then some (Char.ofNat ((n0 % 32) * 64 + b1.toNat % 64), rest')
        else some (replacement, rest)
      | [] => some (replacement, rest)
    else if n0 < 0xF0 then
      let lo := if n0 == 0xE0 then 0xA0 else 0x80
      let hi := if n0 == 0xED then 0x9F else 0xBF
      match rest with
      | b1 :: b2 :: rest' =>
        if lo ≤ b1.toNat && b1.toNat ≤ hi && isContinuation b2 then
          some (Char.ofNat ((n0 % 16) * 4096 + (b1.toNat % 64) * 64 + b2.toNat % 64), rest')
        else some (replacement, rest)
      | _ => some (replacement, rest)
    else if n0 < 0xF5 then
      let lo := if n0 == 0xF0 then 0x90 else 0x80
      let hi := if n0 == 0xF4 then 0x8F else 0xBF
      match rest with
      | b1 :: b2 :: b3 :: rest' =>
        if lo ≤ b1.toNat && b1.toNat ≤ hi && isContinuation b2 && isContinuation b3 then
          some (Char.ofNat ((n0 % 8) * 262144 + (b1.toNat % 64) * 4096 + (b2.toNat % 64) * 64 +
            b3.toNat % 64), rest')
        else some (replacement, rest)
      | _ => some (replacement, rest)
    else some (replacement, rest)

/-- Every step of `decodeFirst` consumes at least one byte. -/
theorem decodeFirst_shorter {bs rest : List UInt8} {c : Char}
    (h : decodeFirst bs = some (c, rest)) : rest.length < bs.length := by
  match bs with
  | [] => simp [decodeFirst] at h
  | b0 :: r =>
    unfold decodeFirst at h
    simp only at h
    repeat' split at h
    all_goals
      first
      | (obtain ⟨-, rfl⟩ := Option.some.inj h; simp; done)
      | (simp only [Option.some.injEq, Prod.mk.injEq] at h; obtain ⟨-, rfl⟩ := h; simp; omega)

/-- The text that a byte list stands for. -/
def decodeLossy (bs : List UInt8) : String :=
  match h : decodeFirst bs with
  | none => ""
  | some (c, rest) =>
    have : rest.length < bs.length := decodeFirst_shorter h
    String.singleton c ++ decodeLossy rest
termination_by bs.length

end AclReconcile.Text
