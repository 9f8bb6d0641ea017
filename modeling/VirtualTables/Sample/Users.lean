import VirtualTables.Sample.Listing

/-!
# A table of users

The users are selected by `userid`, and `home` is produced only when it is requested.
-/

namespace VirtualTables
namespace Sample
namespace Users

/-- The schema of the table. -/
def schema : Schema :=
  ⟨.shared, "users"⟩

def userid : Field :=
  .inSchema schema (.integer .uint4) "userid"

def username : Field :=
  .inSchema schema .utf8 "username"

def home : Field :=
  .inSchema schema .utf8 "home"

def uid : Field :=
  .inSchema schema .undefined "uid"

/-- The definition of the table. -/
def definition : TableDef where
  schema := schema
  columns :=
    [(((Column.plain userid).withOptions .indexed).withOps [.eq, .like]).withDescription
        "ID of the user",
      .plain username,
      (Column.plain home).withDescription "Home directory",
      .aliasOf uid userid]
  attributes := ["fake"]

/-- The key, the name and the home directory of each user. -/
def records : List (Int × String × String) :=
  [(0, "root", "/root"),
    (501, "bob", "/home/bob"),
    (502, "elaine", "/home/elaine"),
    (503, "staff", "/home/staff")]

/-- The rows of the table. -/
def listing : Listing where
  definition := definition
  rows := records.map fun (key, user, directory) =>
    [(userid, .integer .uint4 (.wrap .uint4 key)), (username, .utf8 user), (home, .utf8 directory)]
  optional := [home]
  selects constraints number :=
    (records[number]?).any fun (key, _) => keyMatches userid key constraints

end Users
end Sample
end VirtualTables
