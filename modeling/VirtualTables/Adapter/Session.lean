import VirtualTables.Adapter.Basic
import VirtualTables.Plan.Log

/-!
# Sessions of an engine with a table

An engine works on one connection with any number of cursors, in whatever order its queries need. A
session is such a connection with the cursors that are open and the log of the plans that were
refused, and it answers one request after another. Cursors are named by the order of their opening.
-/

namespace VirtualTables

/-- A connection at work. -/
structure Session (τ σ : Type) where
  adapter : Adapter τ σ
  /-- The cursors in the order of their opening, `none` for those that were closed. -/
  cursors : List (Option (Cursor σ))
  log : PlanningLog

namespace Session

/-- What an engine asks for. -/
inductive Request where
  | bestIndex (candidates : List Candidate) (used : BitVec 64)
  | openCursor
  | closeCursor (cursor : Nat)
  | filter (cursor : Nat) (plan : Int) (values : List EngineValue)
  | next (cursor : Nat)
  | position (cursor : Nat)
  | column (cursor : Nat) (index : Int)
  | row (cursor : Nat)
  deriving DecidableEq

/-- What an engine is answered. -/
inductive Reply where
  | planned (offer : PlanOffer)
  | refused (message : String)
  | opened (cursor : Nat)
  | closed
  /-- Where a cursor is after it was moved, and the message of the failure if there was one. -/
  | moved (failure : Option String) (eof : Bool) (rowid : Nat)
  | located (eof : Bool) (rowid : Nat)
  | cell (value : EngineValue)
  | cells (values : List EngineValue)
  | failed (message : String)
  /-- There is no open cursor of that name. -/
  | noCursor
  deriving DecidableEq

variable {τ σ : Type}

/-- A session that begins. -/
def new (adapter : Adapter τ σ) : Session τ σ :=
  { adapter, cursors := [], log := .empty }

/-- The open cursor of a name. -/
def cursor? (s : Session τ σ) (cursor : Nat) : Option (Cursor σ) :=
  s.cursors[cursor]?.join

/-- The reply to a call that moved a cursor. -/
def Reply.ofMove (answer : Except AdapterError Unit) (c : Cursor σ) : Reply :=
  match answer with
  | .ok () => .moved none c.eof c.rowid
  | .error e => .moved (some e.summary) c.eof c.rowid

/-- The reply to a call that asks for values. -/
def Reply.ofRead {α : Type} (reply : α → Reply) : Except AdapterError α → Reply
  | .ok value => reply value
  | .error e => .failed e.summary

/-- The values of all columns at the row of a cursor. -/
def readRow (a : Adapter τ σ) (c : Cursor σ) : Except AdapterError (List EngineValue) :=
  (List.range a.definition.columns.length).mapM fun (index : Nat) => a.column c index

/-- Answers a request with the cursor it is about. -/
def withCursor (s : Session τ σ) (cursor : Nat)
    (answer : Cursor σ → Reply × Session τ σ) : Reply × Session τ σ :=
  match s.cursor? cursor with
  | none => (.noCursor, s)
  | some c => answer c

/-- The session after a call that moved a cursor, and the reply. -/
def moved (s : Session τ σ) (cursor : Nat)
    (result : Except AdapterError Unit × Cursor σ × Adapter τ σ) : Reply × Session τ σ :=
  let (answer, c, adapter) := result
  (.ofMove answer c, { s with adapter, cursors := s.cursors.set cursor (some c) })

/-- Answers a request. -/
def answer (s : Session τ σ) : Request → Reply × Session τ σ
  | .bestIndex candidates used =>
    match s.adapter.bestIndex candidates used with
    | (.ok offer, adapter) => (.planned offer, { s with adapter })
    | (.error e, adapter) =>
      let message := (AdapterError.table e).summary
      (.refused message, { s with adapter, log := s.log.record e.diagnostic })
  | .openCursor => (.opened s.cursors.length, { s with cursors := s.cursors ++ [some .new] })
  | .closeCursor cursor =>
    s.withCursor cursor fun _ => (.closed, { s with cursors := s.cursors.set cursor none })
  | .filter cursor plan values =>
    s.withCursor cursor fun c => s.moved cursor (s.adapter.filter c plan values)
  | .next cursor => s.withCursor cursor fun c => s.moved cursor (s.adapter.next c)
  | .position cursor => s.withCursor cursor fun c => (.located c.eof c.rowid, s)
  | .column cursor index =>
    s.withCursor cursor fun c => (.ofRead .cell (s.adapter.column c index), s)
  | .row cursor => s.withCursor cursor fun c => (.ofRead .cells (readRow s.adapter c), s)

/-- Answers requests one after another. -/
def run (s : Session τ σ) : List Request → List Reply × Session τ σ
  | [] => ([], s)
  | r :: rest =>
    let (reply, s) := s.answer r
    let (replies, s) := s.run rest
    (reply :: replies, s)

end Session

end VirtualTables
