import BareUrl.Text.Basic

/-!
# `BareUrl.Address.Punycode`: labels of host names in ASCII

A label of a host name that is not ASCII is written as its ASCII characters and, behind a hyphen,
where the others go: for each, in order of code points, how far it lies from the one before, as a
number of variable length in base 36. The thresholds that end a number adapt to the sizes of the
numbers so far.

`encode` writes a label and `decode?` reads one. Both leave out the mark that tells such labels
from others.
-/

set_option autoImplicit false

namespace BareUrl.Address.Punycode

/-- The digit of a value below 36: letters, then decimal digits. -/
def digit (d : Nat) : Char :=
  if d < 26 then Char.ofNat ('a'.toNat + d) else Char.ofNat ('0'.toNat + (d - 26))

/-- The value of a digit, in either case. -/
def digitValue? (c : Char) : Option Nat :=
  if c.isAlpha then some (c.toLower.toNat - 'a'.toNat)
  else if c.isDigit then some (c.toNat - '0'.toNat + 26)
  else none

/-- The threshold of the digit at position `k`: a digit below it ends the number. -/
def threshold (k bias : Nat) : Nat :=
  if k ≤ bias then 1 else if bias + 26 ≤ k then 26 else k - bias

theorem threshold_pos (k bias : Nat) : 1 ≤ threshold k bias := by
  unfold threshold
  split
  · exact Nat.le_refl 1
  · split <;> omega

theorem threshold_le (k bias : Nat) : threshold k bias ≤ 26 := by
  unfold threshold
  split
  · omega
  · split <;> omega

/-- Divides by 35 until at most 455 is left, adding 36 to `k` each time. -/
def settle (delta k : Nat) : Nat × Nat :=
  if 455 < delta then settle (delta / 35) (k + 36) else (delta, k)
termination_by delta
decreasing_by exact Nat.div_lt_self (by omega) (by omega)

/-- The bias after a number `delta` that was written as one of `count` characters. -/
def adapt (delta count : Nat) (isFirst : Bool) : Nat :=
  let scaled := if isFirst then delta / 700 else delta / 2
  let (rest, k) := settle (scaled + scaled / count) 0
  k + 36 * rest / (rest + 38)

/-! ### Writing -/

/-- The digits of a number, from position `k` on. -/
def writeNumber (bias k q : Nat) : Text :=
  let t := threshold k bias
  if q < t then [digit q]
  else digit (t + (q - t) % (36 - t)) :: writeNumber bias (k + 36) ((q - t) / (36 - t))
termination_by q
decreasing_by
  have _pos := threshold_pos k bias
  have _le := threshold_le k bias
  calc (q - threshold k bias) / (36 - threshold k bias)
      ≤ q - threshold k bias := Nat.div_le_self _ _
    _ < q := by omega

/-- How far writing has come: the number that is due, the bias, how many characters are written,
and the digits so far. -/
structure Writer where
  delta : Nat
  bias : Nat
  count : Nat
  digits : Text

/-- Passes one character of the label while the characters with the given code are written. -/
def Writer.pass (basics code : Nat) (w : Writer) (c : Char) : Writer :=
  if c.toNat < code then { w with delta := w.delta + 1 }
  else if c.toNat = code then
    ⟨0, adapt w.delta (w.count + 1) (w.count == basics), w.count + 1,
      w.digits ++ writeNumber w.bias 36 w.delta⟩
  else w

/-- Writes the characters with the given codes, which rise; `low` is the least code that is still
to come. -/
def Writer.writeCodes (label : Text) (basics : Nat) : List Nat → Nat → Writer → Writer
  | [], _, w => w
  | code :: codes, low, w =>
    let start := { w with delta := w.delta + (code - low) * (w.count + 1) }
    let done := label.foldl (Writer.pass basics code) start
    Writer.writeCodes label basics codes (code + 1) { done with delta := done.delta + 1 }

/-- Puts a number into a rising list, unless it is there already. -/
def insertDistinct (n : Nat) : List Nat → List Nat
  | [] => [n]
  | m :: ms => if n < m then n :: m :: ms else if n = m then m :: ms else m :: insertDistinct n ms

/-- `true` for an ASCII character. -/
def isAscii (c : Char) : Bool := c.toNat < 0x80

/-- The label in ASCII. -/
def encode (label : Text) : Text :=
  let basics := label.filter isAscii
  let codes := ((label.filter fun c => !isAscii c).map Char.toNat).foldr insertDistinct []
  let w := Writer.writeCodes label basics.length codes 0x80 ⟨0, 72, basics.length, []⟩
  basics ++ (if basics = [] then [] else ['-']) ++ w.digits

/-! ### Reading -/

/-- Reads the digits of a number from position `k` on, and what follows them. -/
def readNumber (bias k weight value : Nat) : Text → Option (Nat × Text)
  | [] => none
  | c :: t =>
    match digitValue? c with
    | none => none
    | some d =>
      let threshold := threshold k bias
      if d < threshold then some (value + d * weight, t)
      else readNumber bias (k + 36) (weight * (36 - threshold)) (value + d * weight) t

theorem length_lt_of_readNumber {t rest : Text} {bias k weight value n : Nat}
    (h : readNumber bias k weight value t = some (n, rest)) : rest.length < t.length := by
  induction t generalizing k weight value with
  | nil => simp [readNumber] at h
  | cons c t ih =>
    unfold readNumber at h
    split at h
    · simp at h
    · dsimp only at h
      split at h
      · simp only [Option.some.injEq, Prod.mk.injEq] at h
        rw [← h.2]
        exact Nat.lt_succ_self _
      · exact Nat.lt_succ_of_lt (ih h)

/-- Reads where further characters go and puts them into the label: `code` is the code of the
last one and `index` the place behind it, 0 before the first. -/
def insertFrom (t : Text) (code index bias : Nat) (label : Text) : Option Text :=
  if t = [] then some label
  else
    match h : readNumber bias 36 1 index t with
    | none => none
    | some (n, rest) =>
      have _shorter := length_lt_of_readNumber h
      let count := label.length + 1
      let next := code + n / count
      if next.isValidChar then
        insertFrom rest next (n % count + 1) (adapt (n - index) count (index == 0))
          (label.take (n % count) ++ Char.ofNat next :: label.drop (n % count))
      else none
termination_by t.length
decreasing_by assumption

/-- The text before the last hyphen, empty if there is none, and the text behind it. -/
def cutLastHyphen (t : Text) : Text × Text :=
  let back := t.reverse
  match back.dropWhile (· ≠ '-') with
  | [] => ([], t)
  | _ :: before => (before.reverse, (back.takeWhile (· ≠ '-')).reverse)

/-- The label that is written in ASCII, if it is one. -/
def decode? (t : Text) : Option Text :=
  let (basics, digits) := cutLastHyphen t
  if basics = [] ∧ t.head? = some '-' then none
  else if basics.all isAscii then insertFrom digits 0x80 0 72 basics
  else none

end BareUrl.Address.Punycode
