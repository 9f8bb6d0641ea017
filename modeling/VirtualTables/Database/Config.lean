import VirtualTables.Plan.Backlog

/-!
# Configuring and opening a database

A database keeps its own, empty, store in memory or in a file. Opening it may fail, because the
flags contradict each other or because the file cannot be opened.

A path that holds a colon may be a resource name: after `file:` comes a path and, after a question
mark, parameters, of which `mode` tells how the file is opened.
-/

namespace VirtualTables

/-- Where a database keeps its own store. -/
inductive StorePath where
  | memory
  | file (path : String)
  deriving DecidableEq, Repr

/-- How a database is opened. -/
structure OpenFlags where
  readWrite : Bool
  create : Bool
  fullMutex : Bool
  noMutex : Bool
  sharedCache : Bool
  privateCache : Bool
  uri : Bool
  deriving DecidableEq, Repr

/-- The flags where nothing else is asked for. -/
def OpenFlags.standard : OpenFlags where
  readWrite := true
  create := true
  fullMutex := false
  noMutex := true
  sharedCache := false
  privateCache := false
  uri := true

/-- The configuration of a database. -/
structure Config where
  path : StorePath
  flags : OpenFlags
  /-- The number of plans that are kept for each table. -/
  planBacklog : Nat
  deriving DecidableEq, Repr

namespace Config

/-- The configuration of a database in memory. -/
def inMemory : Config :=
  { path := .memory, flags := .standard, planBacklog := PlanBacklog.defaultWindow }

/-- The configuration of a database in a file. -/
def ofPath (path : String) : Config :=
  { inMemory with path := .file path }

end Config

namespace StorePath

/-- The path as it is shown. -/
def text : StorePath → String
  | memory => ":memory:"
  | file path => path

/-- The directories in which a file can be created. -/
def knownDirectories : List String :=
  ["", ".", "..", "/tmp", "/var/tmp", "/dev/shm"]

/-- The directory of a file. -/
def directory (path : List Char) : String :=
  String.ofList ((path.reverse.dropWhile (· ≠ '/')).drop 1).reverse

/-- The path in a resource name and the values of its `mode`. -/
def splitResource (name : List Char) : List Char × List String :=
  let path := name.takeWhile (· ≠ '?')
  let parameters := (String.ofList ((name.dropWhile (· ≠ '?')).drop 1)).splitOn "&"
  let modes := parameters.filterMap fun p =>
    match p.splitOn "=" with
    | ["mode", value] => some value
    | _ => none
  (path, modes)

/-- Whether a file can be opened; none is there before. -/
def opensFile (path : List Char) (modes : List String) (create : Bool) : Bool :=
  path = [] || path = [':', 'm', 'e', 'm', 'o', 'r', 'y', ':'] || modes.contains "memory" ||
    (create && !modes.contains "ro" && !modes.contains "rw" &&
      knownDirectories.contains (directory path))

/-- Whether the store can be opened. -/
def opens (create : Bool) : StorePath → Bool
  | memory => true
  | file path =>
    match path.toList with
    | 'f' :: 'i' :: 'l' :: 'e' :: ':' :: name =>
      let (path, modes) := splitResource name
      opensFile path modes create
    | path => opensFile path [] create

end StorePath

namespace Config

/-- What the engine says against opening the database, if it does. -/
def refusal? (c : Config) : Option String :=
  if !c.flags.readWrite then some "bad parameter or other API misuse"
  else if c.path.opens c.flags.create then none
  else some ("unable to open database file: " ++ c.path.text)

end Config

end VirtualTables
