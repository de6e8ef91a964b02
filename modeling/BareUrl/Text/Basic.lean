/-!
# `BareUrl.Text.Basic`: texts and literal search

A text is a list of characters, so that every function of the library is a recursion on it and
every position is a way to write it as `before ++ after`. The searches here look for a literal:

- `stripLead p t` takes the literal `p` off the front of `t`;
- `cut p t` splits `t` around the first place where `p` occurs.

Their laws say exactly that: `stripLead_eq_some_iff` and `cut_eq_some`.
-/

set_option autoImplicit false

namespace BareUrl

/-- A text, as the list of its characters. -/
abbrev Text := List Char

namespace Text

/-- What follows the literal `p` at the start of a text, if the text starts with it. -/
def stripLead : Text → Text → Option Text
  | [], t => some t
  | _ :: _, [] => none
  | c :: p, d :: t => if c = d then stripLead p t else none

/-- The text before and the text after the first occurrence of the literal `p`. -/
def cut (p : Text) : Text → Option (Text × Text)
  | [] => (stripLead p []).map fun rest => ([], rest)
  | c :: t =>
    match stripLead p (c :: t) with
    | some rest => some ([], rest)
    | none => (cut p t).map fun (before, rest) => (c :: before, rest)

/-- `true` if the literal `p` occurs somewhere in the text. -/
def contains (p t : Text) : Bool := (cut p t).isSome

/-- The text with ASCII letters in lower case and every other character as it is. -/
def asciiLower (t : Text) : Text := t.map Char.toLower

/-- The number of bytes of the text in UTF-8. -/
def utf8Size (t : Text) : Nat := t.foldl (fun n c => n + c.utf8Size) 0

/-- The texts one after another, with `sep` between neighbours. -/
def joinWith (sep : Text) : List Text → Text
  | [] => []
  | [t] => t
  | t :: rest => t ++ sep ++ joinWith sep rest

/-- The pieces between the occurrences of one separating character; at least one piece. -/
def splitOn (sep : Char) : Text → List Text
  | [] => [[]]
  | c :: t =>
    if c = sep then [] :: splitOn sep t
    else
      match splitOn sep t with
      | [] => [[c]]
      | piece :: rest => (c :: piece) :: rest

theorem stripLead_eq_some_iff {p t rest : Text} :
    stripLead p t = some rest ↔ t = p ++ rest := by
  induction p generalizing t with
  | nil => simp [stripLead]
  | cons c p ih =>
    cases t with
    | nil => simp [stripLead]
    | cons d t =>
      by_cases h : c = d
      · subst h; simp [stripLead, ih]
      · have h' : d ≠ c := fun e => h e.symm
        simp [stripLead, h, h']

/-- The pieces of a cut put the text together again. -/
theorem cut_eq_some {p t before rest : Text} (h : cut p t = some (before, rest)) :
    t = before ++ p ++ rest := by
  induction t generalizing before with
  | nil =>
    cases p with
    | nil =>
      simp only [cut, stripLead, Option.map_some, Option.some.injEq, Prod.mk.injEq] at h
      obtain ⟨rfl, rfl⟩ := h
      rfl
    | cons c p => simp [cut, stripLead] at h
  | cons c t ih =>
    unfold cut at h
    split at h
    · rename_i rest' hs
      simp only [Option.some.injEq, Prod.mk.injEq] at h
      obtain ⟨rfl, rfl⟩ := h
      simpa using stripLead_eq_some_iff.1 hs
    · obtain ⟨⟨b, r⟩, hb, he⟩ := Option.map_eq_some_iff.1 h
      simp only [Prod.mk.injEq] at he
      obtain ⟨rfl, rfl⟩ := he
      simp [ih hb]

/-- What follows a non-empty literal is shorter than the text. -/
theorem length_lt_of_cut {p t before rest : Text} (h : cut p t = some (before, rest))
    (hp : p ≠ []) : rest.length < t.length := by
  have := List.length_pos_iff.2 hp
  rw [cut_eq_some h, List.length_append, List.length_append]
  omega

end Text

end BareUrl
