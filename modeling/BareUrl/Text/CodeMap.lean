import BareUrl.Text.Basic

/-!
# `BareUrl.Text.CodeMap`: tables on code points

What a standard says of single characters is kept in search trees, in increasing order of code
points: one entry for a code point (`CodeMap`), for a range of code points that have the same
value (`RangeMap`), or for a run of code points whose values go along with them (`RunMap`).
-/

set_option autoImplicit false

namespace BareUrl.Text

/-- A table with an entry for each of some code points. -/
inductive CodeMap (α : Type) where
  | empty
  | node (left : CodeMap α) (code : Nat) (value : α) (right : CodeMap α)

/-- The value at a code point. -/
def CodeMap.find? {α : Type} : CodeMap α → Nat → Option α
  | .empty, _ => none
  | .node left code value right, c =>
    if c < code then left.find? c else if code < c then right.find? c else some value

/-- A table with an entry for each of some closed ranges of code points. -/
inductive RangeMap (α : Type) where
  | empty
  | node (left : RangeMap α) (lo hi : Nat) (value : α) (right : RangeMap α)

/-- The value at a code point. -/
def RangeMap.find? {α : Type} : RangeMap α → Nat → Option α
  | .empty, _ => none
  | .node left lo hi value right, c =>
    if c < lo then left.find? c else if hi < c then right.find? c else some value

/-- A table of runs: from `lo` to `hi` in steps of one or two, and the value of `lo`; the values
rise as the code points do. -/
inductive RunMap where
  | empty
  | node (left : RunMap) (lo hi step value : Nat) (right : RunMap)

/-- The value at a code point. -/
def RunMap.find? : RunMap → Nat → Option Nat
  | .empty, _ => none
  | .node left lo hi step value right, c =>
    if c < lo then left.find? c
    else if hi < c then right.find? c
    else if (c - lo) % step = 0 then some (value + (c - lo)) else none

end BareUrl.Text
