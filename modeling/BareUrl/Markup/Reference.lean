import BareUrl.Markup.Tokenizer

/-!
# `BareUrl.Markup.Reference`: character references

Markup writes some characters as references: `&amp;`, `&#38;` and `&#x26;` all stand for `&`. A
reference is complete only with its semicolon, so that the parameters of a URL, as in
`?a=1&region=us`, are never taken for one.

- `references t` is the text cut at its complete references; `Reference.written` puts it together
  again.
- `decode t` writes instead of each reference what a tokenizer makes of it. A tokenizer also
  resolves a known beginning of a name that is none, so what it makes of a name counts only if it
  has at most two characters; a name that stands for nothing is kept as it is written.
-/

set_option autoImplicit false

namespace BareUrl.Markup

/-- A character reference, by what stands between `&` and `;`. -/
inductive Reference where
  /-- The number of a character in decimal. -/
  | decimal (digits : Text)
  /-- The number of a character in hexadecimal, behind an `x` or `X`. -/
  | hexadecimal (mark : Char) (digits : Text)
  /-- The name of one or two characters. -/
  | named (name : Text)
deriving DecidableEq, Repr

namespace Reference

/-- What stands between `&` and `;`. -/
def body : Reference → Text
  | .decimal digits => '#' :: digits
  | .hexadecimal mark digits => '#' :: mark :: digits
  | .named name => name

/-- The reference as it is written. -/
def written (r : Reference) : Text := '&' :: r.body ++ [';']

/-- `true` for a reference by a number. -/
def isNumber : Reference → Bool
  | .decimal _ => true
  | .hexadecimal _ _ => true
  | .named _ => false

/-- What is written instead of a reference. A name stands for at most two characters; anything
longer means that only a beginning of it is known, and then the reference is kept, as it is if the
tokenizer gives no characters. -/
def resolve (tokenizer : Tokenizer) (r : Reference) : Text :=
  match Text.Utf8.decode? (tokenizer r.written) with
  | some characters =>
    if r.isNumber || characters.length ≤ 2 then characters else r.written
  | none => r.written

/-- A reference that is built of the digits at the start of a text, if there are any. -/
def ofDigits (isDigit : Char → Bool) (make : Text → Reference) (t : Text) :
    Option (Reference × Text) :=
  if t.takeWhile isDigit = [] then none
  else some (make (t.takeWhile isDigit), t.dropWhile isDigit)

/-- The body of a reference at the start of a text, and what follows it. -/
def read : Text → Option (Reference × Text)
  | [] => none
  | '#' :: t =>
    match t with
    | 'x' :: ds => ofDigits Text.Digits.isHexadecimal (.hexadecimal 'x') ds
    | 'X' :: ds => ofDigits Text.Digits.isHexadecimal (.hexadecimal 'X') ds
    | ds => ofDigits Char.isDigit .decimal ds
  | c :: t =>
    if c.isAlpha then some (.named (c :: t.takeWhile Char.isAlphanum), t.dropWhile Char.isAlphanum)
    else none

theorem ofDigits_eq_some {isDigit : Char → Bool} {make : Text → Reference} {t rest : Text}
    {r : Reference} (h : ofDigits isDigit make t = some (r, rest)) :
    ∃ digits, r = make digits ∧ t = digits ++ rest := by
  unfold ofDigits at h
  split at h
  · simp at h
  · simp only [Option.some.injEq, Prod.mk.injEq] at h
    obtain ⟨rfl, rfl⟩ := h
    exact ⟨_, rfl, List.takeWhile_append_dropWhile.symm⟩

/-- Reading loses nothing: the body of the reference and the rest are the text. -/
theorem read_eq_some {t rest : Text} {r : Reference} (h : read t = some (r, rest)) :
    t = r.body ++ rest := by
  unfold read at h
  split at h
  · simp at h
  · split at h
    all_goals
      obtain ⟨digits, rfl, rfl⟩ := ofDigits_eq_some h
      rfl
  · rename_i c t _
    split at h
    · simp only [Option.some.injEq, Prod.mk.injEq] at h
      obtain ⟨rfl, rfl⟩ := h
      simp [body, List.takeWhile_append_dropWhile]
    · simp at h

/-- A complete reference at the start of a text. -/
def here : Recogniser Reference
  | [] => none
  | c :: t =>
    if c = '&' then
      match h : read t with
      | some (r, ';' :: rest) =>
        some ⟨r, rest, by
          have ht := read_eq_some h
          rw [ht]
          simp only [List.length_cons, List.length_append]
          omega⟩
      | _ => none
    else none

end Reference

/-- The text cut at its complete references. -/
def references (t : Text) : Cut Reference := Scan.run Reference.here.leftmost t

/-- The text with every complete reference replaced by what a tokenizer makes of it. -/
def decodeBy (tokenizer : Tokenizer) (t : Text) : Text :=
  (references t).render (Reference.resolve tokenizer)

/-- The text with every complete reference replaced by what it stands for. -/
def decode (t : Text) : Text := decodeBy .standard t

end BareUrl.Markup
