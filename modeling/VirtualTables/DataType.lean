import VirtualTables.Binary.Basic

/-!
# Data types

The types that a value, a column or a function argument can have. Integers come in eight kinds, by
width and signedness, and share all their rules; floating point numbers come in two.

* `IntKind` — a kind of integer, with its range.
* `Ranged k` — an integer in the range of the kind `k`.
* `DataType` — all types, with the two names each of them has: the `name` that written records use
  and the `label` that messages use.
-/

namespace VirtualTables

/-- The kinds of integers: signed and unsigned, of 1, 2, 4 and 8 bytes. -/
inductive IntKind where
  | int1
  | int2
  | int4
  | int8
  | uint1
  | uint2
  | uint4
  | uint8
  deriving DecidableEq, Repr

namespace IntKind

/-- Every kind, in declaration order. -/
def all : List IntKind :=
  [int1, int2, int4, int8, uint1, uint2, uint4, uint8]

/-- Whether numbers below zero belong to the kind. -/
def signed : IntKind → Bool
  | int1 | int2 | int4 | int8 => true
  | uint1 | uint2 | uint4 | uint8 => false

/-- Width in bits. -/
def bits : IntKind → Nat
  | int1 | uint1 => 8
  | int2 | uint2 => 16
  | int4 | uint4 => 32
  | int8 | uint8 => 64

/-- The least integer of the kind. -/
def least (k : IntKind) : Int :=
  if k.signed then -2 ^ (k.bits - 1) else 0

/-- The greatest integer of the kind. -/
def greatest (k : IntKind) : Int :=
  if k.signed then 2 ^ (k.bits - 1) - 1 else 2 ^ k.bits - 1

/-- Whether an integer belongs to the kind. -/
def Holds (k : IntKind) (n : Int) : Prop :=
  k.least ≤ n ∧ n ≤ k.greatest

instance (k : IntKind) (n : Int) : Decidable (k.Holds n) :=
  inferInstanceAs (Decidable (_ ∧ _))

end IntKind

/-- An integer in the range of the kind `k`. -/
structure Ranged (k : IntKind) where
  val : Int
  holds : k.Holds val
  deriving DecidableEq

namespace Ranged

/-- The integer, when it is in range. -/
def ofInt? (k : IntKind) (n : Int) : Option (Ranged k) :=
  if h : k.Holds n then some ⟨n, h⟩ else none

/-- The integer of the kind `k` with the same low bits. -/
def wrap (k : IntKind) (n : Int) : Ranged k where
  val := if k.signed then n.bmod (2 ^ k.bits) else n % 2 ^ k.bits
  holds := by
    cases k <;> simp only [IntKind.Holds, IntKind.least, IntKind.greatest, IntKind.signed,
      IntKind.bits, if_true, Bool.false_eq_true, if_false, Int.bmod] <;> omega

/-- The integer of the kind `k` nearest to `n`. -/
def clamp (k : IntKind) (n : Int) : Ranged k where
  val := max k.least (min k.greatest n)
  holds := by
    have h : k.least ≤ k.greatest := by cases k <;> decide
    simp only [IntKind.Holds]
    omega

end Ranged

/-- The types of values, columns and function arguments. -/
inductive DataType where
  /-- Accepts a value of every type. -/
  | any
  /-- The type of the missing value. -/
  | undefined
  | boolean
  | float (k : FloatKind)
  | integer (k : IntKind)
  | utf8
  | blob
  deriving DecidableEq, Repr

namespace DataType

/-- Every type, in declaration order. -/
def all : List DataType :=
  [any, undefined, boolean, float .float4, float .float8] ++ IntKind.all.map integer ++ [utf8, blob]

/-- The name of the type in written records. -/
def name : DataType → String
  | any => "Any"
  | undefined => "Undefined"
  | boolean => "Boolean"
  | float .float4 => "Float4"
  | float .float8 => "Float8"
  | integer .int1 => "Int1"
  | integer .int2 => "Int2"
  | integer .int4 => "Int4"
  | integer .int8 => "Int8"
  | integer .uint1 => "Uint1"
  | integer .uint2 => "Uint2"
  | integer .uint4 => "Uint4"
  | integer .uint8 => "Uint8"
  | utf8 => "Utf8"
  | blob => "Blob"

/-- The name of the type in messages. -/
def label : DataType → String
  | any => "any"
  | undefined => "undefined"
  | boolean => "bool"
  | float .float4 => "float4"
  | float .float8 => "float8"
  | integer .int1 => "int1"
  | integer .int2 => "int2"
  | integer .int4 => "int4"
  | integer .int8 => "int8"
  | integer .uint1 => "uint1"
  | integer .uint2 => "uint2"
  | integer .uint4 => "uint4"
  | integer .uint8 => "uint8"
  | utf8 => "utf8"
  | blob => "blob"

/-- The type with the given name in written records. -/
def ofName? (name : String) : Option DataType :=
  all.find? (·.name = name)

def isBoolean (t : DataType) : Bool :=
  t = boolean

def isFloat : DataType → Bool
  | float _ => true
  | _ => false

def isInteger : DataType → Bool
  | integer _ => true
  | _ => false

def isSignedInteger : DataType → Bool
  | integer k => k.signed
  | _ => false

def isUnsignedInteger : DataType → Bool
  | integer k => !k.signed
  | _ => false

def isNumber (t : DataType) : Bool :=
  t.isInteger || t.isFloat

def isText (t : DataType) : Bool :=
  t = utf8

def isBlob (t : DataType) : Bool :=
  t = blob

end DataType

end VirtualTables
