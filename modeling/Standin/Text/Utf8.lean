/-
Reading bytes as text in UTF-8.

A character of more than one byte begins with a byte that says how many follow.
Each character has exactly one spelling, the shortest, and surrogates have none.
-/

set_option autoImplicit false

namespace Standin.Text

/-- The six bits that a continuing byte carries. -/
def continuation? (b : UInt8) : Option Nat :=
  if 0x80 ≤ b.toNat ∧ b.toNat < 0xc0 then some (b.toNat - 0x80) else none

/-- The character of a code point that was spelled with more than one byte, if it could not be
spelled with fewer. -/
def charFrom? (least n : Nat) : Option Char :=
  if least ≤ n ∧ n.isValidChar then some (Char.ofNat n) else none

/-- The characters that bytes spell. -/
def decodeUtf8 : List UInt8 → Option (List Char)
  | [] => some []
  | a :: rest =>
    if a.toNat < 0x80 then (decodeUtf8 rest).map (Char.ofNat a.toNat :: ·)
    else if 0xc0 ≤ a.toNat ∧ a.toNat < 0xe0 then
      match rest with
      | b :: rest => do
        let y ← continuation? b
        let c ← charFrom? 0x80 ((a.toNat - 0xc0) * 64 + y)
        return c :: (← decodeUtf8 rest)
      | _ => none
    else if 0xe0 ≤ a.toNat ∧ a.toNat < 0xf0 then
      match rest with
      | b :: c :: rest => do
        let y ← continuation? b
        let z ← continuation? c
        let c ← charFrom? 0x800 (((a.toNat - 0xe0) * 64 + y) * 64 + z)
        return c :: (← decodeUtf8 rest)
      | _ => none
    else if 0xf0 ≤ a.toNat ∧ a.toNat < 0xf8 then
      match rest with
      | b :: c :: d :: rest => do
        let x ← continuation? b
        let y ← continuation? c
        let z ← continuation? d
        let c ← charFrom? 0x10000 ((((a.toNat - 0xf0) * 64 + x) * 64 + y) * 64 + z)
        return c :: (← decodeUtf8 rest)
      | _ => none
    else none

end Standin.Text
