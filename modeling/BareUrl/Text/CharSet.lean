import BareUrl.Text.Basic

/-!
# `BareUrl.Text.CharSet`: sets of code points

A Unicode property holds on a few hundred ranges of code points. `CharSet` keeps them as a search
tree, so that a membership test takes about ten comparisons, both when it runs and when a proof
evaluates it.
-/

set_option autoImplicit false

namespace BareUrl.Text

/-- A set of code points: a search tree of closed ranges in increasing order. -/
inductive CharSet where
  | empty
  | node (left : CharSet) (lo hi : Nat) (right : CharSet)

/-- `true` if the code point lies in one of the ranges. -/
def CharSet.mem : CharSet → Nat → Bool
  | .empty, _ => false
  | .node left lo hi right, c =>
    if c < lo then left.mem c else if hi < c then right.mem c else true

end BareUrl.Text
