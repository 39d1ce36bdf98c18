/-!
The values of a TOML document. Fractions and moments are kept as they are written, since a site
description has no use for their value.
-/
namespace Wikitext.Toml

inductive Value where
  | string (content : String)
  | integer (number : Int)
  | fraction (written : String)
  | boolean (truth : Bool)
  | moment (written : String)
  | array (elements : List Value)
  | table (entries : List (String × Value))

def fits (bits : Nat) (number : Int) : Bool :=
  let bound : Int := Int.ofNat (Nat.pow 2 (bits - 1))
  decide (-bound ≤ number) && decide (number < bound)

end Wikitext.Toml
