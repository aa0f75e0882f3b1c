import IdentityHierarchy.Text.Quoted

set_option autoImplicit false

namespace IdentityHierarchy.Text

def commaSeparated (entries : List String) : String :=
  String.intercalate ", " entries

def outlineList (entries : List String) : String :=
  "[" ++ commaSeparated entries ++ "]"

def outlineEntry (name entry : String) : String :=
  name ++ "(" ++ entry ++ ")"

def outlineRecord (name : String) (fields : List (String × String)) : String :=
  name ++ " \x7b " ++ commaSeparated (fields.map fun field => field.1 ++ ": " ++ field.2) ++ " \x7d"

end IdentityHierarchy.Text
