/-!
# Hexadecimal digits

The digits of either case as numbers below sixteen, and the digit written for
such a number, which is in lower case.
-/

namespace VolumePricing.Text

def hexValue? (c : Char) : Option (Fin 16) :=
  if h : 48 ≤ c.toNat ∧ c.toNat ≤ 57 then some ⟨c.toNat - 48, by omega⟩
  else if h : 97 ≤ c.toNat ∧ c.toNat ≤ 102 then some ⟨c.toNat - 87, by omega⟩
  else if h : 65 ≤ c.toNat ∧ c.toNat ≤ 70 then some ⟨c.toNat - 55, by omega⟩
  else none

def hexChar (n : Fin 16) : Char := Nat.digitChar n

@[simp] theorem hexValue?_hexChar : ∀ n : Fin 16, hexValue? (hexChar n) = some n := by
  decide

end VolumePricing.Text
