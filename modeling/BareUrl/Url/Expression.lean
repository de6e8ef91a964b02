import BareUrl.Text.Word

/-!
# `BareUrl.Url.Expression`: regular expressions

A regular expression says how a piece of a text may look. It is what the grammar of URLs is
defined by, and it can be shown in the usual notation, for a reader who wants to see what is
matched.

- `Expression.Reads e a r` says that the piece `a` looks like `e` where `r` follows it. What follows
  matters only to `Expression.wordEnd`.
- `Expression.text` is the notation.
-/

set_option autoImplicit false

namespace BareUrl.Url

/-- A regular expression. -/
inductive Expression where
  /-- A character of a class, which is written as `shown`. -/
  | one (shown : String) (p : Char → Bool)
  /-- A text that stands for itself. -/
  | word (t : Text)
  /-- One expression right behind another. -/
  | seq (e f : Expression)
  /-- One of two expressions. -/
  | alt (e f : Expression)
  /-- An expression in parentheses, which are opened with a mark. -/
  | group (mark : String) (e : Expression)
  /-- An expression several times: at least `least`, and at most `most` times if that is given. -/
  | times (least : Nat) (most : Option Nat) (e : Expression)
  /-- The end of a word. -/
  | wordEnd

namespace Expression

/-! ### Meaning -/

/-- The piece `a` looks like `e` where `r` follows. -/
inductive Reads : Expression → Text → Text → Prop where
  | one {shown : String} {p : Char → Bool} {c : Char} {r : Text} (h : p c = true) :
      Reads (.one shown p) [c] r
  | word {t r : Text} : Reads (.word t) t r
  | seq {e f : Expression} {a b r : Text} (he : Reads e a (b ++ r)) (hf : Reads f b r) :
      Reads (.seq e f) (a ++ b) r
  | left {e f : Expression} {a r : Text} (h : Reads e a r) : Reads (.alt e f) a r
  | right {e f : Expression} {a r : Text} (h : Reads f a r) : Reads (.alt e f) a r
  | group {mark : String} {e : Expression} {a r : Text} (h : Reads e a r) :
      Reads (.group mark e) a r
  | done {most : Option Nat} {e : Expression} {r : Text} : Reads (.times 0 most e) [] r
  | again {least : Nat} {most : Option Nat} {e : Expression} {a b r : Text}
      (room : most ≠ some 0) (he : Reads e a (b ++ r))
      (hs : Reads (.times (least - 1) (most.map (· - 1)) e) b r) :
      Reads (.times least most e) (a ++ b) r
  | wordEnd {r : Text} (h : Text.endsWord r = true) : Reads .wordEnd [] r

/-! ### Notation -/

/-- The characters that mean something in the notation. -/
def special : List Char := "\\.+*?()|[]\x7b\x7d^$#&-~".toList

/-- A text that stands for itself, with a backslash in front of what would mean something. -/
def escape (t : Text) : Text := t.flatMap fun c => if special.elem c then ['\\', c] else [c]

/-- How often an expression may occur. -/
def timesText : Nat → Option Nat → Text
  | 0, none => ['*']
  | 1, none => ['+']
  | 0, some 1 => ['?']
  | least, none => '\x7b' :: Nat.toDigits 10 least ++ [',', '\x7d']
  | least, some most =>
    if least = most then '\x7b' :: Nat.toDigits 10 least ++ ['\x7d']
    else '\x7b' :: Nat.toDigits 10 least ++ ',' :: Nat.toDigits 10 most ++ ['\x7d']

/-- The expression in the usual notation. -/
def text : Expression → Text
  | .one shown _ => shown.toList
  | .word t => escape t
  | .seq e f => e.text ++ f.text
  | .alt e f => e.text ++ '|' :: f.text
  | .group mark e => '(' :: mark.toList ++ e.text ++ [')']
  | .times least most e => e.text ++ timesText least most
  | .wordEnd => "\\b".toList

/-! ### Combinations -/

/-- Expressions one behind another. -/
def all : List Expression → Expression
  | [] => .word []
  | [e] => e
  | e :: es => .seq e (all es)

/-- The first expression or one of the others. -/
def oneOf : Expression → List Expression → Expression
  | e, [] => e
  | e, f :: es => .alt e (oneOf f es)

/-- A group that is not kept apart. -/
def plain (e : Expression) : Expression := .group "?:" e

/-- An expression any number of times. -/
def star (e : Expression) : Expression := .times 0 none e

/-- An expression at least once. -/
def plus (e : Expression) : Expression := .times 1 none e

/-- An expression or nothing. -/
def optional (e : Expression) : Expression := .times 0 (some 1) e

end Expression

end BareUrl.Url
