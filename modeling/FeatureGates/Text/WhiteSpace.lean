namespace FeatureGates

/-!
# White space

Blanks and breaks of any script.
-/

namespace WhiteSpace

/-- The first and last code point of every run. -/
def runs : List (Nat × Nat) := [
  (0x9, 0xD), (0x20, 0x20), (0x85, 0x85), (0xA0, 0xA0), (0x1680, 0x1680), (0x2000, 0x200A),
  (0x2028, 0x2029), (0x202F, 0x202F), (0x205F, 0x205F), (0x3000, 0x3000)]

end WhiteSpace

def WhiteSpace (c : Char) : Bool :=
  WhiteSpace.runs.any fun (first, last) => first ≤ c.toNat && c.toNat ≤ last

end FeatureGates
