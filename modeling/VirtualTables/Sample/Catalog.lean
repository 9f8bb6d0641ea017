import VirtualTables.Sample.Broken
import VirtualTables.Sample.Functions
import VirtualTables.Sample.Mixed
import VirtualTables.Sample.Paths
import VirtualTables.Sample.Processes
import VirtualTables.Sample.Signatures
import VirtualTables.Sample.Users

/-!
# The sample tables and functions by name
-/

namespace VirtualTables
namespace Sample

/-- The sample tables. -/
def tables : List (FiniteTable Usage Place) :=
  [Mixed.listing.table, Paths.table, Processes.listing.table, Signatures.listing.table,
    Users.listing.table, Broken.table]

/-- The sample table of a name. -/
def table? (name : String) : Option (FiniteTable Usage Place) :=
  tables.find? (·.definition.name = name)

/-- The sample functions. -/
def functions : List ScalarFunction :=
  [power, sqrt, pi, fail]

/-- The sample function of a name. -/
def function? (name : String) : Option ScalarFunction :=
  functions.find? (·.name = name)

end Sample
end VirtualTables
