import VirtualTables.Engine.Value

/-!
# The order of engine values

Numbers are compared by what they stand for, whether they are integers or not, and texts and bytes
byte by byte. Every number comes before every text, and every text before all bytes. Null has no
place in the order.
-/

namespace VirtualTables
namespace EngineValue

/-- The number that a value is. -/
def reading? : EngineValue → Option Reading
  | integer n => some (.finite (n.val < 0) n.val.natAbs 0)
  | real x => some x.reading
  | _ => none

/-- The order of the kinds of values. -/
def rank : EngineValue → Nat
  | null => 0
  | integer _ | real _ => 1
  | text _ => 2
  | blob _ => 3

/-- The order of two values; none when either is null. -/
def compare? (a b : EngineValue) : Option Ordering :=
  match a, b with
  | null, _ | _, null => none
  | text s, text t => some (compare s t)
  | blob s, blob t => some (compare s t)
  | _, _ =>
    match a.reading?, b.reading? with
    | some x, some y => x.compare? y
    | _, _ => some (compare a.rank b.rank)

/-- A list of ascending values with one more value, which takes the place of an equal one. -/
def insertAscending (v : EngineValue) : List EngineValue → List EngineValue
  | [] => [v]
  | w :: rest =>
    match v.compare? w with
    | some .lt => v :: w :: rest
    | some .gt => w :: insertAscending v rest
    | some .eq => v :: rest
    | none => w :: rest

/-- The values of a list in ascending order, null left out; of equal ones the last. -/
def ascending (values : List EngineValue) : List EngineValue :=
  (values.filter (· ≠ null)).foldl (fun sorted v => insertAscending v sorted) []

end EngineValue
end VirtualTables
