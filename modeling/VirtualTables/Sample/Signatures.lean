import VirtualTables.Sample.Listing

/-!
# A table of code signatures

A signature belongs to a path, and a query has to say which paths it wants. Every constraint on the
path has to hold; of a pattern only the part before its first wildcard counts.
-/

namespace VirtualTables
namespace Sample
namespace Signatures

/-- The schema of the table. -/
def schema : Schema :=
  ⟨.shared, "tsig"⟩

def path : Field :=
  .inSchema schema .utf8 "path"

def signed : Field :=
  .inSchema schema (.integer .int4) "signed"

def cdhash : Field :=
  .inSchema schema .utf8 "cdhash"

def identifier : Field :=
  .inSchema schema .utf8 "identifier"

/-- The definition of the table. -/
def definition : TableDef where
  schema := schema
  columns :=
    [((Column.plain path).withOptions .required).withOps [.eq, .like],
      .plain signed,
      .plain cdhash,
      .plain identifier]
  attributes := []

/-- The path, whether it is signed, the hash and the identifier of each signature. -/
def records : List (String × Bool × String × String) :=
  [("/usr/bin/base64", true, "e264d46afea7e77cbd81eca5ad245a3bcae99fe0", "com.apple.base64"),
    ("/usr/bin/bashbug", false, "", ""),
    ("/usr/bin/binhex", true, "c5c058f85e064bc4a9a6ef443a3a368ad6dc54ed", "com.apple.binhex"),
    ("/usr/local/bin/hyperkit", true, "51f09d57d4b0be63f7699cf420023adfa30baa3c", "com.docker"),
    ("/usr/local/bin/exiftool", false, "", ""),
    ("/usr/local/bin/kubectl", true, "60b123cff9c66b6c5fd65ef48ea5a2431d4bae0d", "kubectl"),
    ("/sbin/launchd", true, "3278354cbd9820dab665b077dab69b10cd38e64c", "com.apple.xpc.launchd")]

/-- Whether a path meets a constraint on the path. -/
def meets (text : String) (c : Constraint) : Bool :=
  match c.op, c.value.asText? with
  | .eq, some value => text = value
  | .like, some pattern => startsLike pattern text
  | _, _ => false

/-- Whether a path meets every constraint on the path. -/
def pathMatches (text : String) (constraints : List Constraint) : Bool :=
  (constraints.filter fun c => c.field = path).all (meets text)

/-- The rows of the table. -/
def listing : Listing where
  definition := definition
  rows := records.map fun (text, isSigned, hash, id) =>
    [(path, .utf8 text),
      (signed, .integer .int4 (.wrap .int4 isSigned.toNat)),
      (cdhash, .utf8 hash),
      (identifier, .utf8 id)]
  optional := []
  selects constraints number :=
    (records[number]?).any fun (text, _) => pathMatches text constraints

end Signatures
end Sample
end VirtualTables
