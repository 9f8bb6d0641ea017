import VirtualTables.Binary.Basic

/-!
# Powers

A power of one 8-byte floating point number to another is left to the arithmetic of the machine,
which gets all but the last bit right and decides that one.
-/

namespace VirtualTables
namespace Binary

/-- The number as the machine has it. -/
def toFloat (x : Binary .float8) : Float :=
  .ofBits x.bits.toNat.toUInt64

/-- The number that the machine has. -/
def ofFloat (x : Float) : Binary .float8 :=
  ⟨BitVec.ofNat _ x.toBits.toNat⟩

/-- The number raised to a power. -/
def pow (x y : Binary .float8) : Binary .float8 :=
  ofFloat (x.toFloat ^ y.toFloat)

end Binary
end VirtualTables
