import BareUrl.Text.Basic

/-!
# `BareUrl.Text.Cut`: texts cut at their tokens

Comments, tags, URLs and character references are all found the same way: look for the leftmost
token, skip to its end, and go on behind it. The result is a `Cut`: a gap, a token, a gap, a
token, and so on, and the text that is left when no token follows.

- A `Scan` finds the next token of a text. What it leaves is shorter than the text, so
  `Scan.run` ends.
- `leftmost` makes a scan of a `Recogniser`, which only looks at the start of a text.
- `Cut.render` puts a text together again, each token written by a function of the caller.
-/

set_option autoImplicit false

namespace BareUrl

/-- A text cut at its tokens: each token with the gap before it, and the text after the last. -/
structure Cut (α : Type) where
  parts : List (Text × α)
  last : Text

namespace Cut

/-- The tokens in order of appearance. -/
def tokens {α : Type} (c : Cut α) : List α := c.parts.map Prod.snd

/-- The text with every token written by `f`. -/
def render {α : Type} (f : α → Text) (c : Cut α) : Text :=
  c.parts.flatMap (fun (gap, token) => gap ++ f token) ++ c.last

/-- The same gaps around other tokens. -/
def map {α β : Type} (f : α → β) (c : Cut α) : Cut β :=
  ⟨c.parts.map fun (gap, token) => (gap, f token), c.last⟩

/-- A cut with one more gap and token in front. -/
def cons {α : Type} (gap : Text) (token : α) (c : Cut α) : Cut α :=
  ⟨(gap, token) :: c.parts, c.last⟩

/-- No token is left. -/
def leaf {α : Type} (last : Text) : Cut α := ⟨[], last⟩

/-- The cut of a text with `t` in front, which belongs to the first gap. -/
def prepend {α : Type} (t : Text) (c : Cut α) : Cut α :=
  match c.parts with
  | [] => ⟨[], t ++ c.last⟩
  | (gap, token) :: parts => ⟨(t ++ gap, token) :: parts, c.last⟩

/-- The cut of two texts, one behind the other, where no token reaches across. -/
def append {α : Type} (c d : Cut α) : Cut α :=
  let d := d.prepend c.last
  ⟨c.parts ++ d.parts, d.last⟩

end Cut

/-- The next token of the text `t`: the gap before it, and what follows, shorter than `t`. -/
structure Step (α : Type) (t : Text) where
  gap : Text
  token : α
  rest : Text
  shorter : rest.length < t.length

/-- A search for the next token of a text. -/
abbrev Scan (α : Type) := (t : Text) → Option (Step α t)

/-- The text cut at every token that the scan finds, from left to right. -/
def Scan.run {α : Type} (scan : Scan α) (t : Text) : Cut α :=
  match scan t with
  | none => .leaf t
  | some step => (Scan.run scan step.rest).cons step.gap step.token
termination_by t.length
decreasing_by exact step.shorter

/-- A token at the start of the text `t`, and what follows it. -/
structure Start (α : Type) (t : Text) where
  token : α
  rest : Text
  shorter : rest.length < t.length

/-- A test for a token at the start of a text. -/
abbrev Recogniser (α : Type) := (t : Text) → Option (Start α t)

/-- The scan for the leftmost place where the recogniser finds a token. -/
def Recogniser.leftmost {α : Type} (here : Recogniser α) : Scan α
  | [] => none
  | c :: t =>
    match here (c :: t) with
    | some s => some ⟨[], s.token, s.rest, s.shorter⟩
    | none =>
      (leftmost here t).map fun step =>
        ⟨c :: step.gap, step.token, step.rest, Nat.lt_succ_of_lt step.shorter⟩

end BareUrl
