import VirtualTables.Row

/-!
# Listeners

A query hands its rows to a listener, one after another, and tells it the messages of failures. The
listener decides after each row whether the query goes on, and it may act on whatever it has at
hand, the database of the query included.
-/

namespace VirtualTables

/-- What a listener answers to a row. -/
inductive Flow where
  /-- The query goes on. -/
  | proceed
  /-- The query ends without a failure. -/
  | abort
  deriving DecidableEq, Repr

/-- Who receives the outcome of a query; `ω` is what a listener sees and changes. -/
structure Listener (ω : Type) where
  onRow : Row → ω → Flow × ω
  onError : String → ω → ω

namespace Listener

variable {ω : Type}

/-- Tells the listener several messages. -/
def onErrors (l : Listener ω) (messages : List String) (w : ω) : ω :=
  messages.foldl (fun w message => l.onError message w) w

end Listener

/-- The rows and messages that a listener received. -/
structure Received where
  rows : List Row
  errors : List String
  deriving DecidableEq

namespace Received

/-- Nothing received. -/
def empty : Received :=
  ⟨[], []⟩

/-- With one more row. -/
def addRow (r : Received) (row : Row) : Received :=
  { r with rows := r.rows ++ [row] }

/-- With one more message. -/
def addError (r : Received) (message : String) : Received :=
  { r with errors := r.errors ++ [message] }

/-- The field of the first result column with a name, as the first row has it. -/
def columnForName? (r : Received) (name : String) : Option Field :=
  r.rows.head?.bind fun row => row.fields.find? (·.name = name)

/-- The listener that keeps everything and never aborts. -/
def collector : Listener Received where
  onRow row r := (.proceed, r.addRow row)
  onError message r := r.addError message

end Received

end VirtualTables
