/-!
# Patterns

Engines know two kinds of patterns. In a *like* pattern `%` stands for any run of characters and `_`
for one character, and ASCII letters of either case are the same. In a *glob* pattern `*` stands for
any run, `?` for one character, and a set between brackets for one of its characters, or for any
other one when the set starts with `^`; letters of different case differ.

A pattern is a list of pieces (`likePieces`, `globPieces`), and one function decides what pieces
match (`Pattern.accepts`).
-/

namespace VirtualTables
namespace Pattern

/-- A piece of a pattern. -/
inductive Piece where
  /-- Stands for any run of characters. -/
  | anyRun
  /-- Stands for one character that passes a test. -/
  | one (test : Char → Bool)

/-- Whether the pieces of a pattern match a text, for the pieces from each place of the pattern on.
The last place is after all pieces. -/
abbrev Matches := List Bool

/-- The pieces that match the empty text. -/
def atEnd : List Piece → Matches
  | [] => [true]
  | .anyRun :: pieces =>
    let rest := atEnd pieces
    rest.headD false :: rest
  | .one _ :: pieces => false :: atEnd pieces

/-- The pieces that match a text which begins with a character, from those that match the text after
it. A run of any characters takes the character, or stops before it. -/
def before (c : Char) : List Piece → Matches → Matches
  | .anyRun :: pieces, taken :: after =>
    let rest := before c pieces after
    (taken || rest.headD false) :: rest
  | .one test :: pieces, _ :: after => (test c && after.headD false) :: before c pieces after
  | _, _ => [false]

/-- The pieces that match a text. A text is read once, from its end. -/
def matching (pieces : List Piece) (text : List Char) : Matches :=
  text.foldr (fun c => before c pieces) (atEnd pieces)

/-- Whether a text matches the pieces of a pattern. -/
def accepts (pieces : List Piece) (text : List Char) : Bool :=
  (matching pieces text).headD false

@[simp] theorem matching_empty (pieces : List Piece) : matching pieces [] = atEnd pieces :=
  rfl

theorem matching_cons (pieces : List Piece) (c : Char) (text : List Char) :
    matching pieces (c :: text) = before c pieces (matching pieces text) :=
  rfl

/-- What matches from the second place on depends on the pieces there alone. -/
theorem matching_piece (p : Piece) (pieces : List Piece) (text : List Char) :
    matching (p :: pieces) text = accepts (p :: pieces) text :: matching pieces text := by
  induction text with
  | nil => cases p <;> rfl
  | cons c text ih =>
    rw [accepts, matching_cons, ih, matching_cons]
    cases p <;> rfl

@[simp] theorem accepts_no_pieces (text : List Char) : accepts [] text = text.isEmpty := by
  cases text <;> rfl

@[simp] theorem accepts_anyRun_empty (pieces : List Piece) :
    accepts (.anyRun :: pieces) [] = accepts pieces [] :=
  rfl

@[simp] theorem accepts_one_empty (test : Char → Bool) (pieces : List Piece) :
    accepts (.one test :: pieces) [] = false :=
  rfl

/-- A run of any characters takes the first character, or none. -/
theorem accepts_anyRun_cons (pieces : List Piece) (c : Char) (text : List Char) :
    accepts (.anyRun :: pieces) (c :: text) =
      (accepts (.anyRun :: pieces) text || accepts pieces (c :: text)) := by
  rw [accepts, matching_cons, matching_piece]
  rfl

/-- A piece for one character takes the first character. -/
@[simp] theorem accepts_one_cons (test : Char → Bool) (pieces : List Piece) (c : Char)
    (text : List Char) :
    accepts (.one test :: pieces) (c :: text) = (test c && accepts pieces text) := by
  rw [accepts, matching_cons, matching_piece]
  rfl

/-- The pieces of a like pattern. -/
def likePieces (pattern : List Char) : List Piece :=
  pattern.map fun p =>
    if p = '%' then .anyRun
    else if p = '_' then .one fun _ => true
    else .one fun c => c.toLower = p.toLower

/-- Where a reader of a glob pattern stands. -/
inductive GlobState where
  | outside
  /-- After an opening bracket. -/
  | opened
  /-- At the first character of a set. -/
  | first (inverted : Bool)
  /-- In a set with the given runs of characters; a range may begin at `low`. -/
  | inside (inverted : Bool) (runs : List (Char × Char)) (low : Option Char)
  /-- In a set, after a dash that may make a range. -/
  | dash (inverted : Bool) (runs : List (Char × Char)) (low : Char)

/-- The piece of a set. -/
def setPiece (inverted : Bool) (runs : List (Char × Char)) : Piece :=
  .one fun c => (runs.any fun (low, high) => low ≤ c && c ≤ high) != inverted

/-- The state after a character in a set, unless it closes the set. -/
def insideSet (inverted : Bool) (runs : List (Char × Char)) (low : Option Char) (p : Char) :
    GlobState :=
  match p, low with
  | '-', some low => .dash inverted runs low
  | p, _ => .inside inverted ((p, p) :: runs) (some p)

/-- The state after the first character of a set. A closing bracket there is a member. -/
def firstInSet (inverted : Bool) (p : Char) : GlobState :=
  if p = ']' then .inside inverted [(']', ']')] none else insideSet inverted [] none p

/-- The pieces of a glob pattern from a state on. A set that is never closed matches nothing. -/
def globFrom : GlobState → List Char → List Piece
  | .outside, [] => []
  | _, [] => [.one fun _ => false]
  | .outside, p :: rest =>
    if p = '*' then .anyRun :: globFrom .outside rest
    else if p = '?' then .one (fun _ => true) :: globFrom .outside rest
    else if p = '[' then globFrom .opened rest
    else .one (fun c => c = p) :: globFrom .outside rest
  | .opened, p :: rest =>
    if p = '^' then globFrom (.first true) rest else globFrom (firstInSet false p) rest
  | .first inverted, p :: rest => globFrom (firstInSet inverted p) rest
  | .inside inverted runs low, p :: rest =>
    if p = ']' then setPiece inverted runs :: globFrom .outside rest
    else globFrom (insideSet inverted runs low p) rest
  | .dash inverted runs low, p :: rest =>
    if p = ']' then setPiece inverted (('-', '-') :: runs) :: globFrom .outside rest
    else globFrom (.inside inverted ((low, p) :: runs) none) rest

/-- The pieces of a glob pattern. -/
def globPieces (pattern : List Char) : List Piece :=
  globFrom .outside pattern

/-- Whether a text matches a like pattern. -/
def like (pattern text : List Char) : Bool :=
  accepts (likePieces pattern) text

/-- Whether a text matches a glob pattern. -/
def glob (pattern text : List Char) : Bool :=
  accepts (globPieces pattern) text

end Pattern
end VirtualTables
