import BareUrl.Text.Digits
import BareUrl.Toml.Basic

/-!
# `BareUrl.Toml.Token`: the tokens of settings files

A settings file is cut into tokens: words, strings, marks, line ends and the blanks between them.
Comments are left out. `tokens?` reads all of them, or none if something else is in between.

Strings stand in double quotes, with escapes, or in single quotes, without. Three quotes instead of
one enclose a block, which may hold line ends. A string is read character by character, and
`Escape` tells how far an escape has come.
-/

set_option autoImplicit false

namespace BareUrl.Toml

/-- A token. -/
inductive Token where
  /-- A run of letters, digits, hyphens, underscores and plus signs. -/
  | word (t : Text)
  /-- A string on a single line. -/
  | string (t : Text)
  /-- A string between three quotes. -/
  | block (t : Text)
  | dot
  | equals
  | comma
  | openBracket
  | closeBracket
  | openBrace
  | closeBrace
  | newline
  | blank
deriving DecidableEq, Repr

namespace Token

/-- `true` for a character of a word. -/
def isWordChar (c : Char) : Bool := c.isAlphanum || "-_+".toList.elem c

/-- `true` for a blank within a line. -/
def isBlank (c : Char) : Bool := c == ' ' || c == '\t'

/-- `true` for a character that may stand in strings and comments: tabs, and all that is no ASCII
control. -/
def isPlain (c : Char) : Bool := c == '\t' || (0x20 ≤ c.toNat && c.toNat != 0x7F)

/-- `true` if a character in front of the text `rest` is a line end or part of one. -/
def isLineEnd (c : Char) (rest : Text) : Bool := c == '\n' || (c == '\r' && rest.head? == some '\n')

/-- The text without the line end at its start, if there is one. -/
def skipLineEnd : Text → Text
  | '\n' :: t => t
  | '\r' :: '\n' :: t => t
  | t => t

/-! ### Strings -/

/-- What closes a string at the start of a text: the quotes that still belong to the string, and
what follows. A block may end in up to two quotes of its own. -/
def closing (block : Bool) (quote : Char) (t : Text) : Option (Text × Text) :=
  if block then
    let quotes := (t.takeWhile (· = quote)).length
    let own := min (quotes - 3) 2
    if 3 ≤ quotes then some (List.replicate own quote, t.drop (own + 3)) else none
  else
    match t with
    | c :: rest => if c = quote then some ([], rest) else none
    | [] => none

/-- How far an escape has come. -/
inductive Escape where
  /-- There is none. -/
  | none
  /-- A backslash has been read. -/
  | started
  /-- So many digits of a code point are missing, behind the given value. -/
  | code (missing value : Nat)
  /-- Blanks and line ends are left out; `broken` says whether there was a line end. -/
  | gap (broken : Bool)

/-- What a character behind a backslash stands for. -/
def escaped (c : Char) : Option Char :=
  match c with
  | 'b' => some '\x08'
  | 't' => some '\t'
  | 'n' => some '\n'
  | 'f' => some '\x0c'
  | 'r' => some '\r'
  | 'e' => some '\x1b'
  | '"' => some '"'
  | '\\' => some '\\'
  | _ => none

/-- How many digits of a code point follow a character behind a backslash. -/
def codeLength (c : Char) : Option Nat :=
  match c with
  | 'x' => some 2
  | 'u' => some 4
  | 'U' => some 8
  | _ => none

/-- A text with one more character in front of what was read. -/
def add (c : Char) (x : Option (Text × Text)) : Option (Text × Text) :=
  x.map fun (content, rest) => (c :: content, rest)

/-- Reads a string with escapes behind its opening quotes: its content, and what follows. -/
def escapedString (block : Bool) : Escape → Text → Option (Text × Text)
  | _, [] => none
  | .started, c :: t =>
    match codeLength c, escaped c with
    | some n, _ => escapedString block (.code n 0) t
    | none, some d => add d (escapedString block .none t)
    | none, none =>
      if block && (isBlank c || isLineEnd c t) then escapedString block (.gap (c == '\n')) t
      else none
  | .code missing value, c :: t =>
    match Text.Digits.value? c with
    | none => none
    | some digit =>
      let n := value * 16 + digit
      if 1 < missing then escapedString block (.code (missing - 1) n) t
      else if n.isValidChar then add (Char.ofNat n) (escapedString block .none t)
      else none
  | .gap broken, c :: t =>
    if isBlank c || isLineEnd c t then escapedString block (.gap (broken || c == '\n')) t
    else if broken then
      match closing block '"' (c :: t) with
      | some done => some done
      | none =>
        if c = '\\' then escapedString block .started t
        else if isPlain c then add c (escapedString block .none t)
        else none
    else none
  | .none, c :: t =>
    match closing block '"' (c :: t) with
    | some done => some done
    | none =>
      if c = '\\' then escapedString block .started t
      else if isPlain c || (block && isLineEnd c t) then add c (escapedString block .none t)
      else none

/-- Reads a string without escapes behind its opening quotes. -/
def plainString (block : Bool) : Text → Option (Text × Text)
  | [] => none
  | c :: t =>
    match closing block '\'' (c :: t) with
    | some done => some done
    | none =>
      if isPlain c || (block && isLineEnd c t) then add c (plainString block t) else none

/-! ### Tokens -/

/-- The token at the start of a text, and what follows it. -/
def next (t : Text) : Option (Token × Text) :=
  match t with
  | [] => none
  | '"' :: '"' :: '"' :: rest =>
    (escapedString true .none (skipLineEnd rest)).map fun (s, rest) => (.block s, rest)
  | '\'' :: '\'' :: '\'' :: rest =>
    (plainString true (skipLineEnd rest)).map fun (s, rest) => (.block s, rest)
  | '"' :: rest => (escapedString false .none rest).map fun (s, rest) => (.string s, rest)
  | '\'' :: rest => (plainString false rest).map fun (s, rest) => (.string s, rest)
  | '.' :: rest => some (.dot, rest)
  | '=' :: rest => some (.equals, rest)
  | ',' :: rest => some (.comma, rest)
  | '[' :: rest => some (.openBracket, rest)
  | ']' :: rest => some (.closeBracket, rest)
  | '\x7b' :: rest => some (.openBrace, rest)
  | '\x7d' :: rest => some (.closeBrace, rest)
  | '\n' :: rest => some (.newline, rest)
  | '\r' :: '\n' :: rest => some (.newline, rest)
  | '#' :: rest => some (.blank, rest.dropWhile isPlain)
  | c :: rest =>
    if isBlank c then some (.blank, rest.dropWhile isBlank)
    else if isWordChar c then
      some (.word (c :: rest.takeWhile isWordChar), rest.dropWhile isWordChar)
    else none

/-- Reads tokens, at most as many as `fuel` says. -/
def readAll : Nat → Text → Option (List Token)
  | _, [] => some []
  | 0, _ :: _ => none
  | fuel + 1, c :: t =>
    match next (c :: t) with
    | some (token, rest) => (readAll fuel rest).map (token :: ·)
    | none => none

end Token

/-- The tokens of a text. Every token has at least one character, so there are at most as many. A
mark of the order of bytes may stand in front. -/
def tokens? (t : Text) : Option (List Token) :=
  let t := match t with
    | '\ufeff' :: rest => rest
    | _ => t
  Token.readAll t.length t

end BareUrl.Toml
