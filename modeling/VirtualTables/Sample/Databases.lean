import VirtualTables.Database.Basic
import VirtualTables.Sample.Place

/-!
# Sample databases

Databases in memory in which only tables are registered.
-/

namespace VirtualTables
namespace Sample

/-- A table that counts, as it is registered. -/
def registration (table : FiniteTable Usage Place) : Registration Usage Place :=
  { table, memory := .counting, backlog := .new Config.inMemory.planBacklog }

/-- A database in memory with the given tables. -/
def database (tables : List (FiniteTable Usage Place)) : Database Usage Place where
  config := .inMemory
  tables := tables.map registration
  functions := []
  callable := []
  replaced := []
  log := .empty
  running := []
  removed := []

end Sample
end VirtualTables
