import BareUrl.Text.Cut

/-!
# `BareUrl.Markup.Chunk`: tags and the text between them

Anything from a `<` to the next `>` counts as a tag, with at least one character between the two,
whatever it is: so `<>` alone is no tag, and attributes may span lines. A tag starts at the
leftmost `<` that is not part of an earlier tag. Once a `<` is not closed, no later one is, and
the rest is text.
-/

set_option autoImplicit false

namespace BareUrl.Markup

/-- A piece of markup. -/
inductive Chunk where
  /-- Text between two tags, possibly empty. -/
  | text (t : Text)
  /-- A complete tag with its angle brackets. -/
  | tag (t : Text)
deriving DecidableEq, Repr

/-- The characters of the chunk. -/
def Chunk.chars : Chunk → Text
  | .text t => t
  | .tag t => t

/-- The next complete tag. -/
def nextTag : Scan Text := fun t =>
  match h : Text.cut ['<'] t with
  | none => none
  | some (_, []) => none
  | some (gap, c :: after) =>
    match h' : Text.cut ['>'] after with
    | none => none
    | some (inner, rest) =>
      some ⟨gap, '<' :: c :: inner ++ ['>'], rest,
        Nat.lt_trans (Text.length_lt_of_cut h' (by decide))
          (Nat.lt_trans (Nat.lt_succ_self _) (Text.length_lt_of_cut h (by decide)))⟩

/-- The text cut at its tags. -/
def tags (t : Text) : Cut Text := Scan.run nextTag t

/-- The chunks of a cut: text and tags in turn, with text at both ends. -/
def chunksOf (c : Cut Text) : List Chunk :=
  c.parts.flatMap (fun (gap, tag) => [.text gap, .tag tag]) ++ [.text c.last]

/-- The chunks of a text. They alternate between text and tags and start and end with text. -/
def chunks (t : Text) : List Chunk := chunksOf (tags t)

end BareUrl.Markup
