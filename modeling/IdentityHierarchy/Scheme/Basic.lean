import IdentityHierarchy.Config.Basic

set_option autoImplicit false

namespace IdentityHierarchy

/-- A hierarchical identity-based scheme whose ciphertexts have one size at every depth. -/
structure Scheme where
  config : SchemeConfig
  deriving DecidableEq

namespace Scheme

def ofHeight (height : Nat) : Scheme :=
  ⟨.ofHeight height⟩

def maxDepth (scheme : Scheme) : Nat :=
  scheme.config.maxHeight

def curve (scheme : Scheme) : Curve :=
  scheme.config.curve

def outline (scheme : Scheme) : String :=
  Text.outlineRecord "BonehBoyenGoh" [("config", scheme.config.outline)]

end Scheme

end IdentityHierarchy
