import BareUrl.Text.Basic

/-!
# `BareUrl.Toml.Basic`: tables of settings

A settings file is a table: keys with values, which may be tables and arrays again. No setting is a
date or a number with a fraction, so these are no values here.

A table grows while its file is read, line by line, and no key is ever given a value twice. Who may
add to a table depends on how it came into being (`Origin`):

- `Table.put` puts in a value at a path of keys, as the lines of a file do;
- `Table.open?` makes a table for the lines below a header, or a further table of an array of them;
- `Table.within` changes the table that a header has made.
-/

set_option autoImplicit false

namespace BareUrl.Toml

/-- How a table or an array came into being. -/
inductive Origin where
  /-- It was written as a value, so it is complete. -/
  | value
  /-- It has a header of its own. -/
  | header
  /-- A header of a table in it was there first. -/
  | implied
  /-- A path of keys leads through it. -/
  | path
deriving DecidableEq, Repr

/-- A value. -/
inductive Value where
  | text (t : Text)
  | integer (n : Int)
  | bool (b : Bool)
  | array (origin : Origin) (items : List Value)
  | table (origin : Origin) (members : List (Text × Value))

/-- Keys with values, in order of appearance. -/
abbrev Table := List (Text × Value)

namespace Table

/-- The table with another value at a key that has one. -/
def replace (t : Table) (key : Text) (v : Value) : Table :=
  t.map fun m => if m.1 = key then (key, v) else m

/-- Puts in a value at a path of keys. -/
def put (v : Value) : List Text → Table → Option Table
  | [], _ => none
  | [key], t => if (t.lookup key).isSome then none else some (t ++ [(key, v)])
  | key :: path, t =>
    match t.lookup key with
    | none => (put v path []).map fun inner => t ++ [(key, .table .path inner)]
    | some (.table .path inner) =>
      (put v path inner).map fun inner => t.replace key (.table .path inner)
    | some _ => none

/-- Changes the table at a path of keys. Of an array of tables it is the last one. -/
def within (change : Table → Option Table) : List Text → Table → Option Table
  | [], t => change t
  | key :: path, t =>
    match t.lookup key with
    | some (.table .value _) => none
    | some (.table origin inner) =>
      (within change path inner).map fun inner => t.replace key (.table origin inner)
    | some (.array .header items) =>
      match items.getLast? with
      | some (.table origin inner) =>
        (within change path inner).map fun inner =>
          t.replace key (.array .header (items.dropLast ++ [.table origin inner]))
      | _ => none
    | none => (within change path []).map fun inner => t ++ [(key, .table .implied inner)]
    | some _ => none

/-- Makes the table of a header at a key, or one more table of an array if `further` is set. -/
def openAt (further : Bool) (key : Text) (t : Table) : Option Table :=
  let fresh : Value := .table .header []
  match t.lookup key, further with
  | none, false => some (t ++ [(key, fresh)])
  | none, true => some (t ++ [(key, .array .header [fresh])])
  | some (.table .implied inner), false => some (t.replace key (.table .header inner))
  | some (.array .header items), true => some (t.replace key (.array .header (items ++ [fresh])))
  | some _, _ => none

/-- Makes the table of a header at a path of keys. -/
def open? (further : Bool) (path : List Text) (t : Table) : Option Table :=
  match path.getLast? with
  | some key => within (openAt further key) path.dropLast t
  | none => none

end Table

end BareUrl.Toml
