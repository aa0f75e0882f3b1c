import IdentityHierarchy.Config.Curve
import IdentityHierarchy.Text.Outline

set_option autoImplicit false

namespace IdentityHierarchy

structure SchemeConfig where
  maxHeight : Nat
  curve : Curve
  deriving DecidableEq

namespace SchemeConfig

def ofHeight (height : Nat) : SchemeConfig :=
  ⟨height, .bls12381⟩

def standard : SchemeConfig :=
  ofHeight 3

def outline (config : SchemeConfig) : String :=
  Text.outlineRecord "SchemeConfig"
    [("max_height", toString config.maxHeight), ("curve", config.curve.name)]

end SchemeConfig

end IdentityHierarchy
