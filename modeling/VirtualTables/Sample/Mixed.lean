import VirtualTables.Decimal.Reader
import VirtualTables.Sample.Listing

/-!
# A table with columns of every native type

Four rows, selected by `u32val`. The table accepts an equality on `name`, too, but does not act on
it, so that the engine has to check it; and it produces `longo` only when it is requested.
-/

namespace VirtualTables
namespace Sample
namespace Mixed

/-- The schema of the table. -/
def schema : Schema :=
  ⟨.shared, "t1"⟩

def u32val : Field :=
  .inSchema schema (.integer .uint4) "u32val"

def name : Field :=
  .inSchema schema .utf8 "name"

def dval : Field :=
  .inSchema schema (.float .float8) "dval"

def longo : Field :=
  .inSchema schema (.integer .int8) "longo"

def isActive : Field :=
  .inSchema schema .boolean "is_active"

def dword : Field :=
  .inSchema schema .undefined "dword"

/-- The definition of the table. -/
def definition : TableDef where
  schema := schema
  columns :=
    [((Column.plain u32val).withOptions .indexed).withOps [.eq],
      ((Column.plain name).withOptions .indexed).withOps [.eq],
      .plain dval,
      .plain longo,
      .plain isActive,
      .aliasOf dword u32val]
  attributes := []

/-- The name, the key, the thousandths of `dval`, `longo` and `is_active` of each row. -/
def records : List (String × Int × Nat × Int × Bool) :=
  [("alpha", 0xaaaa, 123, 555444333222111, true),
    ("beta", 0xbbbb, 1100, 111222333444555, true),
    ("charlie", 0xcccc, 2200, -555444333222111, false),
    ("delta", 0xdddd, 3330, -111222333444555, true)]

/-- The rows of the table. -/
def listing : Listing where
  definition := definition
  rows := records.map fun (text, key, thousandths, long, active) =>
    [(u32val, .integer .uint4 (.wrap .uint4 key)),
      (name, .utf8 text),
      (dval, .float .float8 (.ofDecimal .float8 false thousandths (-3))),
      (longo, .integer .int8 (.wrap .int8 long)),
      (isActive, .boolean active)]
  optional := [longo]
  selects constraints number :=
    (records[number]?).any fun (_, key, _) => keyMatches u32val key constraints

end Mixed
end Sample
end VirtualTables
