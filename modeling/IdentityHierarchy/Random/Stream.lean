import IdentityHierarchy.Sha256

set_option autoImplicit false

namespace IdentityHierarchy

/-- An endless sequence of bytes, of which those before `position` have been taken. -/
structure ByteStream where
  byteAt : Nat → UInt8
  position : Nat

namespace ByteStream

def block (stream : ByteStream) (width : Nat) : Bytes :=
  (List.range width).map fun i => stream.byteAt (stream.position + i)

def skip (stream : ByteStream) (width : Nat) : ByteStream :=
  { stream with position := stream.position + width }

@[simp]
theorem length_block (stream : ByteStream) (width : Nat) : (stream.block width).length = width := by
  simp [block]

@[simp]
theorem skip_zero (stream : ByteStream) : stream.skip 0 = stream := rfl

@[simp]
theorem skip_skip (stream : ByteStream) (width more : Nat) :
    (stream.skip width).skip more = stream.skip (width + more) := by
  simp [skip, Nat.add_assoc]

def search {A : Type} (width : Nat) (accept : Bytes → Option A) :
    Nat → ByteStream → Option (A × ByteStream)
  | 0, _ => none
  | attempts + 1, stream =>
    match accept (stream.block width) with
    | some found => some (found, stream.skip width)
    | none => search width accept attempts (stream.skip width)

/-- The given bytes, and after them the digests of a seed followed by a counter of eight bytes. -/
def seeded (start seed : Bytes) : ByteStream :=
  let front := start.toArray
  { byteAt := fun i =>
      if h : i < front.size then front[i]
      else
        let offset := i - front.size
        (Sha256.digest (seed ++ Bytes.ofNatBE 8 (offset / 32))).getD (offset % 32) 0
    position := 0 }

end ByteStream

end IdentityHierarchy
