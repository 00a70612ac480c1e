/-!
# Words

Upper bounds of the numbers that fit machine words, each excluded from its range.
-/

namespace AuditTrail.Word

/-- `2 ^ 16`. -/
def limit16 : Nat := 65536

/-- `2 ^ 31`. -/
def limit31 : Nat := 2147483648

/-- `2 ^ 32`. -/
def limit32 : Nat := 4294967296

/-- `2 ^ 63`. -/
def limit63 : Nat := 9223372036854775808

/-- `2 ^ 64`. -/
def limit64 : Nat := 18446744073709551616

end AuditTrail.Word
