import VirtualTables.Sample.Listing

/-!
# A table of processes

The processes are selected by `pid`; nothing is selected by `path`, which is no index.
-/

namespace VirtualTables
namespace Sample
namespace Processes

/-- The schema of the table. -/
def schema : Schema :=
  ⟨.shared, "tprocess"⟩

def pid : Field :=
  .inSchema schema (.integer .int4) "pid"

def path : Field :=
  .inSchema schema .utf8 "path"

/-- The definition of the table. -/
def definition : TableDef where
  schema := schema
  columns := [(Column.plain pid).withOptions .indexed, .plain path]
  attributes := []

/-- The key and the path of each process. -/
def records : List (Int × String) :=
  [(1, "/sbin/launchd"),
    (42, "/usr/sbin/syslogd"),
    (40000, "/bin/bash"),
    (41111, "/usr/bin/base64"),
    (44444, "/usr/local/bin/exiftool")]

/-- The rows of the table. -/
def listing : Listing where
  definition := definition
  rows := records.map fun (key, text) =>
    [(pid, .integer .int4 (.wrap .int4 key)), (path, .utf8 text)]
  optional := []
  selects constraints number :=
    (records[number]?).any fun (key, _) => keyMatches pid key constraints

end Processes
end Sample
end VirtualTables
