/-
  FixedCapacity.Region.Integer — integers as bytes, the least significant byte first,
  negative ones in two's complement.
-/

namespace FixedCapacity

/-- An integer type: how many bytes it takes, and whether it has negative values. -/
structure IntType where
  width : Nat
  signed : Bool
  deriving DecidableEq, Repr

namespace IntType

def u8 : IntType := ⟨1, false⟩
def i8 : IntType := ⟨1, true⟩
def u16 : IntType := ⟨2, false⟩
def i16 : IntType := ⟨2, true⟩
def u32 : IntType := ⟨4, false⟩
def i32 : IntType := ⟨4, true⟩
def u64 : IntType := ⟨8, false⟩
def i64 : IntType := ⟨8, true⟩
def u128 : IntType := ⟨16, false⟩
def i128 : IntType := ⟨16, true⟩

/-- How many values the type has. -/
def modulus (t : IntType) : Nat := Nat.pow 256 t.width

/-- Whether an integer is a value of the type. -/
def Holds (t : IntType) (n : Int) : Prop :=
  if t.signed then -(t.modulus : Int) ≤ 2 * n ∧ 2 * n < t.modulus else 0 ≤ n ∧ n < t.modulus

/-- The last `width` bytes of a number, least significant first. -/
def littleEndian : Nat → Nat → List UInt8
  | 0, _ => []
  | width + 1, n => UInt8.ofNat (n % 256) :: littleEndian width (n / 256)

/-- The number of a byte sequence, least significant byte first. -/
def ofLittleEndian : List UInt8 → Nat
  | [] => 0
  | b :: rest => b.toNat + 256 * ofLittleEndian rest

/-- The bytes of a value. -/
def encode (t : IntType) (n : Int) : List UInt8 := littleEndian t.width (n % t.modulus).toNat

/-- The value of bytes. -/
def decode (t : IntType) (bytes : List UInt8) : Int :=
  let n := ofLittleEndian bytes
  if t.signed ∧ t.modulus ≤ 2 * n then (n : Int) - t.modulus else n

end IntType

end FixedCapacity
