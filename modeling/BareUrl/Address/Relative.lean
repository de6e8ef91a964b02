import BareUrl.Address.Basic

/-!
# `BareUrl.Address.Relative`: addresses that leave something out

An answer may send its client on to an address that leaves out what it has in common with the
address of the request: the scheme, the host, the path, or the path and the query. `resolve` fills
it in. The address of a request is one of the web, so its path has segments.
-/

set_option autoImplicit false

namespace BareUrl.Address

/-- The segments of a path. -/
def segmentsOf (a : Address) : List Text :=
  match a.path with
  | .segments list => list
  | .plain _ => []

/-- The address with another path, and without query and fragment. -/
def withSegments (a : Address) (list : List Text) : Address :=
  { a with path := .segments list, query := none, fragment := none }

/-- Fills in what a text without scheme leaves out. -/
def resolveRest (base : Address) (t : Text) : Except Fault Address :=
  let (main, query, fragment) := cutTail t
  let isSlash := fun c => c == '/' || c == '\\'
  let filled : Except Fault Address := match main with
    | [] => .ok (if query = none then base else { base with query := none })
    | c :: rest =>
      if isSlash c then
        if rest.head?.any isSlash then readAuthority base.scheme (rest.dropWhile isSlash)
        else .ok (base.withSegments (Path.read [] true rest))
      else .ok (base.withSegments (Path.read base.segmentsOf.dropLast true main))
  match filled with
  | .error e => .error e
  | .ok a =>
    let tail := a.withTail query fragment
    .ok { tail with query := tail.query.or a.query }

/-- The address that a text stands for where `base` is the address at hand. -/
def resolve (base : Address) (t : Text) : Except Fault Address :=
  match cutScheme (clean t) with
  | some (scheme, rest) =>
    if scheme = base.scheme ∧ Text.stripLead "//".toList rest = none then resolveRest base rest
    else read t
  | none => resolveRest base (clean t)

end BareUrl.Address
