import BareUrl.Address.Ipv4

/-!
# `BareUrl.Address.Ipv6`: hosts in brackets

An IPv6 address has eight pieces of 16 bits, in hexadecimal and with colons between them. Two
colons stand for one or more pieces that are zero; the last two pieces may be written as the four
decimal bytes of an IPv4 address. `write` leaves out the longest run of at least two zeros, the
first of several.
-/

set_option autoImplicit false

namespace BareUrl.Address.Ipv6

/-- The value of one to four hexadecimal digits. -/
def piece? (t : Text) : Option Nat :=
  if t ≠ [] ∧ t.length ≤ 4 then Text.Digits.number? 16 t else none

/-- The value of a decimal byte without leading zeros. -/
def byte? (t : Text) : Option Nat :=
  if t = [] ∨ (t.head? = some '0' ∧ t ≠ ['0']) then none
  else (Text.Digits.number? 10 t).filter (· < 256)

/-- The two pieces that four decimal bytes are. -/
def bytes? (t : Text) : Option (List Nat) :=
  match (Text.splitOn '.' t).mapM byte? with
  | some [a, b, c, d] => some [a * 256 + b, c * 256 + d]
  | _ => none

/-- The pieces of a part of an address without a gap; `isEnd` says that decimal bytes may end it. -/
def pieces? (isEnd : Bool) (t : Text) : Option (List Nat) :=
  if t = [] then some []
  else
    let parts := Text.splitOn ':' t
    let last := parts.getLast?.getD []
    if isEnd ∧ last.elem '.' then
      match parts.dropLast.mapM piece?, bytes? last with
      | some ps, some qs => some (ps ++ qs)
      | _, _ => none
    else parts.mapM piece?

/-- The pieces of the address that a text between brackets is. -/
def read (t : Text) : Option (List Nat) :=
  match Text.cut "::".toList t with
  | none => (pieces? true t).filter (·.length = 8)
  | some (before, after) =>
    match pieces? false before, pieces? true after with
    | some ps, some qs =>
      if ps.length + qs.length ≤ 7 then
        some (ps ++ List.replicate (8 - ps.length - qs.length) 0 ++ qs)
      else none
    | _, _ => none

/-- The number of zeros at the start of the pieces. -/
def zeros (ps : List Nat) : Nat := (ps.takeWhile (· = 0)).length

/-- Where the longest run of zeros starts, counted from `start`, and how long it is. -/
def longestRun (start : Nat) : List Nat → Nat × Nat
  | [] => (start, 0)
  | p :: ps =>
    let (at', length) := longestRun (start + 1) ps
    if length ≤ zeros (p :: ps) then (start, zeros (p :: ps)) else (at', length)

/-- Pieces in hexadecimal with colons between them. -/
def writePieces (ps : List Nat) : Text := Text.joinWith [':'] (ps.map (Nat.toDigits 16))

/-- An address without its brackets. -/
def write (ps : List Nat) : Text :=
  let (start, length) := longestRun 0 ps
  if 2 ≤ length then
    writePieces (ps.take start) ++ "::".toList ++ writePieces (ps.drop (start + length))
  else writePieces ps

end BareUrl.Address.Ipv6
