set_option autoImplicit false

namespace IdentityHierarchy

/-- A JSON value. Of a number that is written with a fraction or an exponent, or as a negative zero,
only the kind is kept. -/
inductive Document where
  | null
  | boolean (value : Bool)
  | integer (value : Int)
  | fraction
  | text (value : String)
  | list (items : List Document)
  | record (fields : List (String × Document))

def Document.field? (fields : List (String × Document)) (name : String) : Option Document :=
  (fields.reverse.find? fun field => field.1 == name).map Prod.snd

end IdentityHierarchy
