import IdentityHierarchy.Scalar
import IdentityHierarchy.Text.Outline
import IdentityHierarchy.Text.Utf8

set_option autoImplicit false

namespace IdentityHierarchy

structure IdentityChain where
  elements : List Bytes
  deriving DecidableEq

namespace IdentityChain

def root : IdentityChain :=
  ⟨[]⟩

def child (chain : IdentityChain) (element : Bytes) : IdentityChain :=
  ⟨chain.elements ++ [element]⟩

def parent? (chain : IdentityChain) : Option IdentityChain :=
  if chain.elements = [] then none else some ⟨chain.elements.dropLast⟩

def length (chain : IdentityChain) : Nat :=
  chain.elements.length

def isRoot (chain : IdentityChain) : Bool :=
  chain.elements.isEmpty

def isPrefixOf (a b : IdentityChain) : Bool :=
  a.elements.isPrefixOf b.elements

def hashes (chain : IdentityChain) : List Scalar :=
  chain.elements.map Scalar.hash

def outline (chain : IdentityChain) : String :=
  Text.outlineList (chain.elements.map fun element => Text.quote (Text.decodeLossy element))

@[simp]
theorem length_child (chain : IdentityChain) (element : Bytes) :
    (chain.child element).length = chain.length + 1 := by
  simp [child, length]

@[simp]
theorem hashes_child (chain : IdentityChain) (element : Bytes) :
    (chain.child element).hashes = chain.hashes ++ [Scalar.hash element] := by
  simp [child, hashes]

@[simp]
theorem length_hashes (chain : IdentityChain) : chain.hashes.length = chain.length := by
  simp [hashes, length]

end IdentityChain

end IdentityHierarchy
