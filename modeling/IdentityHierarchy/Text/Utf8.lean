import IdentityHierarchy.Bytes.Basic

set_option autoImplicit false

namespace IdentityHierarchy.Text

/-- An unfinished sequence: `missing + 1` more bytes, the next of them from `low` to `high`. -/
structure Unfinished where
  value : Nat
  missing : Nat
  low : Nat
  high : Nat

def replacement : Char := Char.ofNat 0xfffd

abbrev Settled := List Char × Option Unfinished

def leadByte (byte : UInt8) : Settled :=
  let n := byte.toNat
  let unfinished (value missing low high : Nat) : Settled := ([], some ⟨value, missing, low, high⟩)
  if n < 0x80 then ([Char.ofNat n], none)
  else if n < 0xc2 then ([replacement], none)
  else if n < 0xe0 then unfinished (n - 0xc0) 0 0x80 0xbf
  else if n = 0xe0 then unfinished 0 1 0xa0 0xbf
  else if n = 0xed then unfinished 0xd 1 0x80 0x9f
  else if n < 0xf0 then unfinished (n - 0xe0) 1 0x80 0xbf
  else if n = 0xf0 then unfinished 0 2 0x90 0xbf
  else if n < 0xf4 then unfinished (n - 0xf0) 2 0x80 0xbf
  else if n = 0xf4 then unfinished 4 2 0x80 0x8f
  else ([replacement], none)

def settle : Option Unfinished → UInt8 → Settled
  | none, byte => leadByte byte
  | some p, byte =>
    if p.low ≤ byte.toNat ∧ byte.toNat ≤ p.high then
      let value := 64 * p.value + (byte.toNat - 0x80)
      match p.missing with
      | 0 => ([Char.ofNat value], none)
      | missing + 1 => ([], some ⟨value, missing, 0x80, 0xbf⟩)
    else
      let (chars, next) := leadByte byte
      (replacement :: chars, next)

def decodeFrom : Option Unfinished → Bytes → List Char
  | none, [] => []
  | some _, [] => [replacement]
  | state, byte :: rest =>
    let (chars, next) := settle state byte
    chars ++ decodeFrom next rest

def decodeLossy (bytes : Bytes) : String :=
  String.ofList (decodeFrom none bytes)

end IdentityHierarchy.Text
