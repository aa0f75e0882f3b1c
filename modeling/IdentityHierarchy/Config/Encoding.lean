import IdentityHierarchy.Config.Basic

set_option autoImplicit false

namespace IdentityHierarchy

inductive ConfigFault where
  | unexpectedEnd
  | unknownCurve (index : Nat)
  deriving DecidableEq

def ConfigFault.message : ConfigFault → String
  | unexpectedEnd => "io error: unexpected end of file"
  | unknownCurve index =>
    s!"invalid value: integer `{index}`, expected variant index 0 <= i < {Curve.all.length}"

namespace SchemeConfig

def encode (config : SchemeConfig) : Bytes :=
  Bytes.ofNatLE 8 config.maxHeight ++ Bytes.ofNatLE 4 (Curve.all.idxOf config.curve)

def decode (bytes : Bytes) : Except ConfigFault SchemeConfig :=
  -- Ignores what follows the two fields.
  if bytes.length < 12 then .error .unexpectedEnd
  else
    let index := Bytes.toNatLE ((bytes.drop 8).take 4)
    match Curve.all[index]? with
    | none => .error (.unknownCurve index)
    | some curve => .ok ⟨Bytes.toNatLE (bytes.take 8), curve⟩

end SchemeConfig

end IdentityHierarchy
