import BareUrl.Toml.Token

/-!
# `BareUrl.Toml.Reader`: reading settings files

A line of a settings file is empty, a header, or a path of keys with a value. A header says where
the keys of the lines below it belong.

The file is read token by token. Values that have been opened and not yet closed are kept as a
stack of frames, so that no depth of nesting is too much; what may come next is one of the
possibilities of `Expected`.
-/

set_option autoImplicit false

namespace BareUrl.Toml

/-! ### Words -/

/-- The key that a token is. -/
def Token.key? : Token → Option Text
  | .word w => if w.all fun c => c != '+' then some w else none
  | .string t => some t
  | _ => none

/-- The number that digits in a base stand for. Between two digits there may be an underscore. -/
def digits? (base : Nat) (t : Text) : Option Nat :=
  if (Text.splitOn '_' t).all (· ≠ []) then Text.Digits.number? base (t.filter (· ≠ '_')) else none

/-- A decimal number without leading zeros. -/
def decimal? (t : Text) : Option Nat :=
  if t.head? = some '0' ∧ t ≠ ['0'] then none else digits? 10 t

/-- The value that a word is: `true`, `false`, or an integer. -/
def scalar? (w : Text) : Option Value :=
  if w = "true".toList then some (.bool true)
  else if w = "false".toList then some (.bool false)
  else
    match w with
    | '+' :: t => (decimal? t).map fun n => .integer n
    | '-' :: t => (decimal? t).map fun n => .integer (-n)
    | '0' :: 'x' :: t => (digits? 16 t).map fun n => .integer n
    | '0' :: 'o' :: t => (digits? 8 t).map fun n => .integer n
    | '0' :: 'b' :: t => (digits? 2 t).map fun n => .integer n
    | t => (decimal? t).map fun n => .integer n

/-! ### Lines -/

/-- Where a value belongs that is being read. -/
inductive Frame where
  /-- To the keys of the line. -/
  | line (path : List Text)
  /-- Into an array, behind the items that it holds, the last first. -/
  | array (before : List Value)
  /-- To the keys in a table that is a value. -/
  | table (members : Table) (path : List Text)

/-- What a path of keys is for. -/
inductive Purpose where
  /-- The value of a line. -/
  | line
  /-- A header, of one more table in an array if `further` is set. -/
  | header (further : Bool)
  /-- A member of a table that is a value, which holds some members. -/
  | member (members : Table)

/-- What may come next. -/
inductive Expected where
  /-- A line. -/
  | line
  /-- The end of the line. -/
  | lineEnd
  /-- The second bracket of a header, or its first key. -/
  | bracket
  /-- A key, behind the keys of a path. -/
  | key (purpose : Purpose) (path : List Text)
  /-- A dot, or what follows a path of keys. -/
  | afterKey (purpose : Purpose) (path : List Text)
  /-- The second bracket at the end of a header. -/
  | secondBracket (path : List Text)
  /-- A value. -/
  | value
  /-- An item of an array, or its end. -/
  | item
  /-- What follows an item of an array. -/
  | afterItem
  /-- A member of a table, or its end. -/
  | member (members : Table)
  /-- What follows a member of a table. -/
  | afterMember (members : Table)

/-- How far reading has come: all that has been read, the header of the lines at hand, the frames
that are open, innermost first, and what is next. -/
structure Reading where
  table : Table
  header : List Text
  frames : List Frame
  expected : Expected

namespace Reading

/-- The same reading with something else next. -/
def expect (r : Reading) (e : Expected) : Option Reading := some { r with expected := e }

/-- A value is complete. -/
def complete (r : Reading) (v : Value) : Option Reading :=
  match r.frames with
  | [] => none
  | .line path :: _ =>
    (r.table.within (Table.put v path) r.header).map fun table => ⟨table, r.header, [], .lineEnd⟩
  | .array before :: frames =>
    some { r with frames := .array (v :: before) :: frames, expected := .afterItem }
  | .table members path :: frames =>
    (members.put v path).map fun members =>
      { r with frames := frames, expected := .afterMember members }

/-- The array at hand is complete. -/
def closeArray (r : Reading) : Option Reading :=
  match r.frames with
  | .array before :: frames => { r with frames := frames }.complete (.array .value before.reverse)
  | _ => none

/-- A value starts with the token. -/
def startValue (r : Reading) : Token → Option Reading
  | .string t => r.complete (.text t)
  | .block t => r.complete (.text t)
  | .word w => (scalar? w).bind r.complete
  | .openBracket => some { r with frames := .array [] :: r.frames, expected := .item }
  | .openBrace => r.expect (.member [])
  | _ => none

/-- A path of keys has ended with the token. -/
def endPath (r : Reading) (path : List Text) : Purpose → Token → Option Reading
  | .line, .equals => some { r with frames := [.line path], expected := .value }
  | .member members, .equals =>
    some { r with frames := .table members path :: r.frames, expected := .value }
  | .header false, .closeBracket =>
    (r.table.open? false path).map fun table => ⟨table, path, [], .lineEnd⟩
  | .header true, .closeBracket => r.expect (.secondBracket path)
  | _, _ => none

/-- One token further. -/
def step (r : Reading) (token : Token) : Option Reading :=
  match r.expected, token with
  | .bracket, .blank => r.expect (.key (.header false) [])
  | .secondBracket _, .blank => none
  | _, .blank => some r
  | .line, .newline => some r
  | .line, .openBracket => r.expect .bracket
  | .line, token => token.key?.bind fun k => r.expect (.afterKey .line [k])
  | .lineEnd, .newline => r.expect .line
  | .bracket, .openBracket => r.expect (.key (.header true) [])
  | .bracket, token => token.key?.bind fun k => r.expect (.afterKey (.header false) [k])
  | .key purpose path, token => token.key?.bind fun k => r.expect (.afterKey purpose (path ++ [k]))
  | .afterKey purpose path, .dot => r.expect (.key purpose path)
  | .afterKey purpose path, token => r.endPath path purpose token
  | .secondBracket path, .closeBracket =>
    (r.table.open? true path).map fun table => ⟨table, path, [], .lineEnd⟩
  | .value, token => r.startValue token
  | .item, .newline => some r
  | .item, .closeBracket => r.closeArray
  | .item, token => r.startValue token
  | .afterItem, .newline => some r
  | .afterItem, .comma => r.expect .item
  | .afterItem, .closeBracket => r.closeArray
  | .member _, .newline => some r
  | .member members, .closeBrace => r.complete (.table .value members)
  | .member members, token => token.key?.bind fun k => r.expect (.afterKey (.member members) [k])
  | .afterMember _, .newline => some r
  | .afterMember members, .comma => r.expect (.member members)
  | .afterMember members, .closeBrace => r.complete (.table .value members)
  | _, _ => none

/-- The table, once the last line has ended. -/
def table? (r : Reading) : Option Table :=
  match r.expected with
  | .line | .lineEnd => some r.table
  | _ => none

end Reading

/-- The table that a text is. -/
def read? (t : Text) : Option Table :=
  ((tokens? t).bind fun ts => ts.foldlM Reading.step ⟨[], [], [], .line⟩).bind Reading.table?

end BareUrl.Toml
