/-!
# TOML values

The values a TOML document holds. Dates and times are kept as their normal text.
-/

namespace ForwardPass.Toml

inductive Value where
  | text (s : String)
  | integer (n : Int)
  | real (x : Float)
  | boolean (b : Bool)
  | moment (s : String)
  | array (items : List Value)
  | table (entries : List (String × Value))
deriving Inhabited

/-- The value under a key of a table. -/
def lookup (entries : List (String × Value)) (key : String) : Option Value := entries.lookup key

end ForwardPass.Toml
