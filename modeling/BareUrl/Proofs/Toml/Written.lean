import BareUrl.Proofs.Text.Case
import BareUrl.Proofs.Text.Decimal
import BareUrl.Proofs.Text.Reader
import BareUrl.Proofs.Text.Search
import BareUrl.Toml.Reader
import Mathlib.Tactic.Common

/-!
# `BareUrl.Proofs.Toml.Written`: settings that are written can be read

A settings file can be written from keys and values: a line for each key, texts in quotes, with an
escape for each character that could not stand there, and numbers in decimal (`writtenLine`).
`read_written` says that such a file is read as these keys and values, whatever the texts are.

Reading has two halves, and so has the proof. `Lexes` says which tokens a text is read as in front
of a given text, which matters where a token has no end of its own. `foldlM_lines` follows the
tokens line by line.
-/

set_option autoImplicit false

namespace BareUrl.Toml

namespace Token

open Reader (Stops)
open Text.Digits (digit value? value_digit)

/-! ### Strings -/

/-- A number in so many hexadecimal digits. -/
def codeDigits : Nat → Nat → Text
  | 0, _ => []
  | k + 1, n => codeDigits k (n / 16) ++ [digit (n % 16)]

/-- How many numbers can be written in so many hexadecimal digits. -/
def codeLimit : Nat → Nat
  | 0 => 1
  | k + 1 => codeLimit k * 16

/-- A character within a string: as it is, or as an escape with its code point. -/
def quoteChar (c : Char) : Text :=
  if c = '"' ∨ c = '\\' ∨ isPlain c = false then '\\' :: 'U' :: codeDigits 8 c.toNat else [c]

/-- A text as a string. -/
def quoted (t : Text) : Text := '"' :: (t.flatMap quoteChar ++ ['"'])

variable (rest : Text)

theorem code_digit {missing d : Nat} (value : Nat) (hd : d < 16) (h : 0 < missing) :
    escapedString false (.code (missing + 1) value) (digit d :: rest)
      = escapedString false (.code missing (value * 16 + d)) rest := by
  have hmissing : 1 < missing + 1 := Nat.lt_add_of_pos_left h
  rw [escapedString, value_digit hd]
  simp only [if_pos hmissing, Nat.add_sub_cancel]

/-- All digits of a code point but the last ones are read. -/
theorem code_codeDigits {k n missing : Nat} (h : n < codeLimit k) (hmissing : 0 < missing) :
    escapedString false (.code (k + missing) 0) (codeDigits k n ++ rest)
      = escapedString false (.code missing n) rest := by
  -- The last digit is taken off, so it is one more that is missing behind the others.
  induction k generalizing n missing rest with
  | zero =>
      obtain rfl : n = 0 := Nat.lt_one_iff.1 h
      rw [Nat.zero_add]
      rfl
  | succ k ih =>
      have hn : n / 16 < codeLimit k := Nat.div_lt_of_lt_mul (Nat.mul_comm _ 16 ▸ h)
      rw [codeDigits, List.append_assoc, Nat.add_right_comm, Nat.add_assoc,
        ih _ hn (Nat.succ_pos missing), List.singleton_append,
        code_digit rest _ (Nat.mod_lt n (by decide)) hmissing, Nat.div_add_mod']

theorem escapedString_quoteChar (c : Char) :
    escapedString false .none (quoteChar c ++ rest) = add c (escapedString false .none rest) := by
  rw [quoteChar]
  split
  · have hvalid : c.toNat.isValidChar := c.valid
    have hlt : c.toNat / 16 < codeLimit 7 := by
      show c.toNat / 16 < 268435456
      rcases hvalid with h | ⟨-, h⟩ <;> omega
    have hstart : escapedString false .none ('\\' :: 'U' :: codeDigits 8 c.toNat ++ rest)
        = escapedString false (.code (7 + 1) 0) (codeDigits 8 c.toNat ++ rest) := rfl
    rw [hstart, codeDigits, List.append_assoc, code_codeDigits _ hlt (by decide),
      List.singleton_append, escapedString, value_digit (Nat.mod_lt _ (by decide))]
    simp only [Nat.lt_irrefl, if_false, Nat.div_add_mod', if_pos hvalid, Char.ofNat_toNat]
  · rename_i hplain
    simp only [not_or, Bool.not_eq_false] at hplain
    obtain ⟨hquote, hescape, hplain⟩ := hplain
    rw [List.singleton_append, escapedString, closing]
    simp [hquote, hescape, hplain]

/-- A string is read up to its closing quote. -/
theorem escapedString_flatMap (t : Text) :
    escapedString false .none (t.flatMap quoteChar ++ '"' :: rest) = some (t, rest) := by
  induction t with
  | nil => rfl
  | cons c t ih =>
      rw [List.flatMap_cons, List.append_assoc, escapedString_quoteChar, ih]
      rfl

/-! ### Tokens -/

/-- The text does not go on with a quotation mark. -/
def Unquoted (rest : Text) : Prop := rest.head? ≠ some '"'

variable {rest}

/-- The first character of a string, written in quotes, is no quotation mark. -/
theorem unquoted_quoteChar (c : Char) : Unquoted (quoteChar c ++ rest) := by
  rw [Unquoted, quoteChar]
  split
  · intro hc
    exact absurd (Option.some.inj hc) (by decide)
  · rename_i h
    intro hc
    exact h (.inl (Option.some.inj hc))

theorem next_string {body : Text} (h : Unquoted body ∨ Unquoted body.tail) :
    next ('"' :: body) = (escapedString false .none body).map fun x => (.string x.1, x.2) := by
  rw [next]
  rintro block rfl
  exact h.elim (fun h => h rfl) (fun h => h rfl)

/-- A string is a token, unless a third quotation mark follows an empty one. -/
theorem next_quoted (t : Text) (h : Unquoted rest) :
    next (quoted t ++ rest) = some (.string t, rest) := by
  have hbody : Unquoted (t.flatMap quoteChar ++ '"' :: rest)
      ∨ Unquoted (t.flatMap quoteChar ++ '"' :: rest).tail := by
    cases t with
    | nil => exact .inr h
    | cons c t =>
        rw [List.flatMap_cons, List.append_assoc]
        exact .inl (unquoted_quoteChar c)
  rw [quoted, List.cons_append, List.append_assoc, List.singleton_append, next_string hbody,
    escapedString_flatMap]
  rfl

/-- A word is a token up to its end. -/
theorem next_word {c : Char} {w : Text} (hw : ∀ d ∈ c :: w, isWordChar d = true)
    (h : Stops isWordChar rest) : next (c :: w ++ rest) = some (.word (c :: w), rest) := by
  have hc : isWordChar c = true := hw c List.mem_cons_self
  have hrest : ∀ d ∈ w, isWordChar d = true := fun d hd => hw d (List.mem_cons_of_mem c hd)
  have hne : ∀ d : Char, isWordChar d = false → c = d → False := by
    rintro d hd rfl
    rw [hc] at hd
    exact Bool.noConfusion hd
  have hblank : isBlank c = false := by
    rw [isBlank, Bool.or_eq_false_iff, beq_eq_false_iff_ne, beq_eq_false_iff_ne]
    exact ⟨hne ' ' (by decide), hne '\t' (by decide)⟩
  rw [List.cons_append, next]
  · rw [hblank, hc, Reader.takeWhile_eq hrest h, Reader.dropWhile_eq hrest h]
    rfl
  -- A character of a word starts no other token.
  all_goals
    intros
    refine hne _ ?_ ‹c = _›
    decide

/-! ### Sequences of tokens -/

/-- The text is read as the tokens if `rest` follows it. -/
def Lexes (t : Text) (ts : List Token) (rest : Text) : Prop :=
  ts.length ≤ t.length ∧
    ∀ fuel, readAll (fuel + ts.length) (t ++ rest) = (readAll fuel rest).map (ts ++ ·)

variable {t u : Text} {ts us : List Token}

theorem lexes_nil : Lexes [] [] rest := by
  refine ⟨Nat.le_refl 0, fun fuel => ?_⟩
  show readAll fuel rest = (readAll fuel rest).map id
  rw [Option.map_id, id]

theorem lexes_single {token : Token} (hne : t ≠ []) (h : next (t ++ rest) = some (token, rest)) :
    Lexes t [token] rest := by
  obtain ⟨c, t, rfl⟩ := List.exists_cons_of_ne_nil hne
  refine ⟨Nat.succ_le_succ (Nat.zero_le _), fun fuel => ?_⟩
  rw [List.cons_append] at h ⊢
  show readAll (fuel + 1) (c :: (t ++ rest)) = _
  rw [readAll, h]
  rfl

/-- Texts one behind the other are read one after another. -/
theorem Lexes.append (ht : Lexes t ts (u ++ rest)) (hu : Lexes u us rest) :
    Lexes (t ++ u) (ts ++ us) rest := by
  constructor
  · rw [List.length_append, List.length_append]
    exact Nat.add_le_add ht.1 hu.1
  · intro fuel
    have hfuel : fuel + (ts ++ us).length = fuel + us.length + ts.length := by
      rw [List.length_append, Nat.add_comm ts.length, Nat.add_assoc]
    rw [hfuel, List.append_assoc, ht.2, hu.2, Option.map_map]
    refine congrArg (fun f => (readAll fuel rest).map f) (funext fun x => ?_)
    exact (List.append_assoc ts us x).symm

/-- A text that is read as tokens to its end. -/
theorem tokens_of_lexes (h : Lexes t ts []) (hmark : t.head? ≠ some '\ufeff') :
    tokens? t = some ts := by
  have hall : readAll t.length t = some ts := by
    have hread := h.2 (t.length - ts.length)
    rw [Nat.sub_add_cancel h.1, List.append_nil] at hread
    rw [hread, readAll]
    exact congrArg some (List.append_nil ts)
  unfold tokens?
  split
  · exact absurd rfl hmark
  · exact hall

end Token

/-! ### Values -/

open Reader (Stops)
open Token (Lexes Unquoted quoted)

/-- Items with a separator between neighbours, each written by a function of the caller. -/
def separated {α β : Type} (sep : β) (write : α → List β) : List α → List β
  | [] => []
  | a :: as => write a ++ as.flatMap fun b => sep :: write b

/-- A value that a setting can have. -/
inductive Literal where
  | text (t : Text)
  | number (n : Nat)
  | truth (b : Bool)
  | texts (ts : List Text)
  /-- Texts by different keys. -/
  | pairs (ps : List (Text × Text))

namespace Literal

/-- The value. -/
def value : Literal → Value
  | .text t => .text t
  | .number n => .integer n
  | .truth b => .bool b
  | .texts ts => .array .value (ts.map .text)
  | .pairs ps => .table .value (ps.map fun p => (p.1, .text p.2))

/-- A key with a text. -/
def writtenPair (p : Text × Text) : Text := quoted p.1 ++ '=' :: quoted p.2

/-- The value as it is written in a settings file. -/
def written : Literal → Text
  | .text t => quoted t
  | .number n => Text.Decimal.ofNat n
  | .truth b => if b then "true".toList else "false".toList
  | .texts ts => '[' :: separated ',' quoted ts ++ [']']
  | .pairs ps => '\x7b' :: separated ',' writtenPair ps ++ ['\x7d']

/-- A key with a text, as tokens. -/
def tokensPair (p : Text × Text) : List Token := [.string p.1, .equals, .string p.2]

/-- The tokens of the value. -/
def tokens : Literal → List Token
  | .text t => [.string t]
  | .number n => [.word (Text.Decimal.ofNat n)]
  | .truth b => [.word (if b then "true".toList else "false".toList)]
  | .texts ts => .openBracket :: separated .comma (fun t => [.string t]) ts ++ [.closeBracket]
  | .pairs ps => .openBrace :: separated .comma tokensPair ps ++ [.closeBrace]

/-- Items are read one after another if each of them is, whatever but a quotation mark follows. -/
theorem lexes_separated {α : Type} {write : α → Text} {tokens : α → List Token}
    (h : ∀ a rest, Unquoted rest → Lexes (write a) (tokens a) rest) (as : List α) {rest : Text}
    (hrest : Unquoted rest) :
    Lexes (separated ',' write as) (separated .comma tokens as) rest := by
  -- Behind an item stands a comma, or what follows them all.
  have hbehind : ∀ as : List α, Unquoted ((as.flatMap fun b => ',' :: write b) ++ rest) := by
    intro as
    cases as with
    | nil => exact hrest
    | cons a as => exact fun hc => absurd (Option.some.inj hc) (by decide)
  have htail : ∀ as : List α, Lexes (as.flatMap fun b => ',' :: write b)
      (as.flatMap fun b => .comma :: tokens b) rest := by
    intro as
    induction as with
    | nil => exact Token.lexes_nil
    | cons a as ih =>
        have hcomma : Lexes [','] [.comma]
            (write a ++ ((as.flatMap fun b => ',' :: write b) ++ rest)) :=
          Token.lexes_single (List.cons_ne_nil _ _) rfl
        exact (hcomma.append (h a _ (hbehind as))).append ih
  cases as with
  | nil => exact Token.lexes_nil
  | cons a as => exact (h a _ (hbehind as)).append (htail as)

theorem lexes_quoted (t : Text) {rest : Text} (h : Unquoted rest) :
    Lexes (quoted t) [.string t] rest :=
  Token.lexes_single (List.cons_ne_nil _ _) (Token.next_quoted t h)

theorem lexes_writtenPair (p : Text × Text) {rest : Text} (h : Unquoted rest) :
    Lexes (writtenPair p) (tokensPair p) rest := by
  have hkey : Lexes (quoted p.1) [.string p.1] ('=' :: quoted p.2 ++ rest) :=
    lexes_quoted p.1 fun hc => absurd (Option.some.inj hc) (by decide)
  have hequals : Lexes ['='] [.equals] (quoted p.2 ++ rest) :=
    Token.lexes_single (List.cons_ne_nil _ _) rfl
  exact hkey.append (hequals.append (lexes_quoted p.2 h))

theorem lexes_word {w rest : Text} (hne : w ≠ []) (hw : ∀ c ∈ w, Token.isWordChar c = true)
    (h : Stops Token.isWordChar rest) : Lexes w [.word w] rest := by
  obtain ⟨c, w, rfl⟩ := List.exists_cons_of_ne_nil hne
  exact Token.lexes_single hne (Token.next_word hw h)

/-- A value is read as its tokens, unless what follows it could belong to it. -/
theorem lexes_written (l : Literal) {rest : Text} (hquote : Unquoted rest)
    (hword : Stops Token.isWordChar rest) : Lexes l.written l.tokens rest := by
  have hmark : ∀ d : Char, d ≠ '"' → ∀ rest : Text, Unquoted (d :: rest) := fun d hd rest hc =>
    hd (Option.some.inj hc)
  cases l with
  | text t => exact lexes_quoted t hquote
  | number n =>
      refine lexes_word (Text.Decimal.ofNat_ne_nil n) (fun c hc => ?_) hword
      have hdigit := Text.Decimal.isDigit_of_mem_ofNat hc
      simp [Token.isWordChar, Char.isAlphanum, hdigit]
  | truth b =>
      have hall : ((if b then "true".toList else "false".toList).all Token.isWordChar) = true := by
        cases b <;> decide
      exact lexes_word (by cases b <;> decide) (List.all_eq_true.1 hall) hword
  | texts ts =>
      have hopen : Lexes ['['] [.openBracket] (separated ',' quoted ts ++ ([']'] ++ rest)) :=
        Token.lexes_single (List.cons_ne_nil _ _) rfl
      have hclose : Lexes [']'] [.closeBracket] rest :=
        Token.lexes_single (List.cons_ne_nil _ _) rfl
      have hitems : Lexes (separated ',' quoted ts) (separated .comma (fun t => [.string t]) ts)
          ([']'] ++ rest) :=
        lexes_separated (fun t _ h => lexes_quoted t h) ts (hmark ']' (by decide) rest)
      exact (hopen.append hitems).append hclose
  | pairs ps =>
      have hopen : Lexes ['\x7b'] [.openBrace]
          (separated ',' writtenPair ps ++ (['\x7d'] ++ rest)) :=
        Token.lexes_single (List.cons_ne_nil _ _) rfl
      have hclose : Lexes ['\x7d'] [.closeBrace] rest :=
        Token.lexes_single (List.cons_ne_nil _ _) rfl
      have hitems : Lexes (separated ',' writtenPair ps) (separated .comma tokensPair ps)
          (['\x7d'] ++ rest) :=
        lexes_separated (fun p _ h => lexes_writtenPair p h) ps (hmark '\x7d' (by decide) rest)
      exact (hopen.append hitems).append hclose

/-! ### Reading values -/

/-- No key is given twice. -/
def Fits : Literal → Prop
  | .pairs ps => (ps.map Prod.fst).Nodup
  | _ => True

end Literal

/-- A key that is not there has no value. -/
theorem lookup_of_not_mem {α : Type} {es : List (Text × α)} {key : Text}
    (h : key ∉ es.map Prod.fst) : es.lookup key = none := by
  rw [List.lookup_eq_none_iff]
  intro e he
  rw [bne_iff_ne]
  rintro rfl
  exact h (List.mem_map_of_mem he)

/-- A key that is new to a table is put behind its members. -/
theorem Table.put_new {t : Table} {key : Text} (h : key ∉ t.map Prod.fst) (v : Value) :
    t.put v [key] = some (t ++ [(key, v)]) := by
  rw [put, lookup_of_not_mem h]
  rfl

/-- No number is written with a zero in front. -/
theorem head?_ofNat {n : Nat} (h : 0 < n) : (Text.Decimal.ofNat n).head? ≠ some '0' := by
  rw [Text.Decimal.ofNat]
  by_cases hn : n < 10
  · have hall : ∀ m < 10, 0 < m → m.digitChar ≠ '0' := by decide
    rw [Nat.toDigits_of_lt_base hn]
    exact fun hc => hall n hn h (Option.some.inj hc)
  · have hdigits : Nat.toDigits 10 n = Nat.toDigits 10 (n / 10) ++ [(n % 10).digitChar] :=
      Nat.toDigits_of_base_le (by decide) (Nat.le_of_not_lt hn)
    have hfirst : 0 < n / 10 := Nat.div_pos (Nat.le_of_not_lt hn) (by decide)
    obtain ⟨c, ds, hds⟩ := List.exists_cons_of_ne_nil (Text.Decimal.ofNat_ne_nil (n / 10))
    -- The first digit is that of a smaller number.
    have hc := head?_ofNat hfirst
    rw [Text.Decimal.ofNat] at hds
    rw [Text.Decimal.ofNat, hds] at hc
    rw [hdigits, hds]
    exact hc

theorem decimal?_ofNat (n : Nat) : decimal? (Text.Decimal.ofNat n) = some n := by
  have hdigit : ∀ c ∈ Text.Decimal.ofNat n, c.isDigit = true := fun _ =>
    Text.Decimal.isDigit_of_mem_ofNat
  have hplain : '_' ∉ Text.Decimal.ofNat n := fun hc => absurd (hdigit _ hc) (by decide)
  -- None of the rules about zeros in front and about separators is broken.
  have hlead : ¬((Text.Decimal.ofNat n).head? = some '0' ∧ Text.Decimal.ofNat n ≠ ['0']) := by
    rintro ⟨hzero, hne⟩
    rcases Nat.eq_zero_or_pos n with rfl | hpos
    · exact hne rfl
    · exact head?_ofNat hpos hzero
  have hfilter : (Text.Decimal.ofNat n).filter (· ≠ '_') = Text.Decimal.ofNat n := by
    refine List.filter_eq_self.2 fun c hc => decide_eq_true ?_
    rintro rfl
    exact hplain hc
  have hall : (Text.Decimal.ofNat n).all (Text.Digits.isIn 10) = true := by
    refine List.all_eq_true.2 fun c hc => ?_
    have hc' := hdigit c hc
    have hle : c.toNat ≤ 57 := (Text.isDigit_iff.1 hc').2
    rw [Text.Digits.isIn, Text.Digits.value?, if_pos hc', Option.any_some, decide_eq_true_iff]
    show c.toNat - 48 < 10
    omega
  have hpieces : [Text.Decimal.ofNat n].all (· ≠ []) = true := by
    simp [Text.Decimal.ofNat_ne_nil n]
  rw [decimal?, if_neg hlead, digits?, Text.splitOn_of_not_mem hplain, if_pos hpieces, hfilter,
    Text.Digits.number?, if_pos hall, Text.Decimal.ofNat, Text.Digits.number_toDigits]

/-- A word of digits is a number in decimal. -/
theorem scalar?_of_digits {w : Text} {n : Nat} (h : ∀ c ∈ w, c.isDigit = true)
    (hn : decimal? w = some n) : scalar? w = some (.integer n) := by
  have hplain : ∀ d : Char, d.isDigit = false → d ∉ w := by
    intro d hd hmem
    rw [h d hmem] at hd
    exact Bool.noConfusion hd
  have htrue : w ≠ "true".toList := by
    rintro rfl
    exact hplain 't' (by decide) (by decide)
  have hfalse : w ≠ "false".toList := by
    rintro rfl
    exact hplain 'f' (by decide) (by decide)
  unfold scalar?
  rw [if_neg htrue, if_neg hfalse]
  split
  -- The other forms start with a sign, or hold a letter.
  · exact absurd List.mem_cons_self (hplain '+' (by decide))
  · exact absurd List.mem_cons_self (hplain '-' (by decide))
  · exact absurd (by simp) (hplain 'x' (by decide))
  · exact absurd (by simp) (hplain 'o' (by decide))
  · exact absurd (by simp) (hplain 'b' (by decide))
  · rw [hn]
    rfl

/-- A number that is written in decimal is read as it was. -/
theorem scalar?_ofNat (n : Nat) : scalar? (Text.Decimal.ofNat n) = some (.integer n) :=
  scalar?_of_digits (fun _ => Text.Decimal.isDigit_of_mem_ofNat) (decimal?_ofNat n)

namespace Literal

section
variable (table : Table) (header path : List Text)

/-- A line whose value is complete. -/
def lineWith (v : Value) : Option Reading :=
  (table.within (Table.put v path) header).map fun table => ⟨table, header, [], .lineEnd⟩

/-- The items behind the first ones, up to the end of an array. -/
theorem foldlM_items (before : List Value) (ts : List Text) :
    ((ts.flatMap fun t => [Token.comma, .string t]) ++ [Token.closeBracket]).foldlM Reading.step
        ⟨table, header, [.array before, .line path], .afterItem⟩
      = lineWith table header path (.array .value (before.reverse ++ ts.map .text)) := by
  -- `before` is in reverse: each text that is read comes in front of it.
  induction ts generalizing before with
  | nil =>
      rw [List.map_nil, List.append_nil]
      exact bind_pure (lineWith table header path _)
  | cons t ts ih =>
      have hlist : before.reverse ++ (t :: ts).map Value.text
          = (Value.text t :: before).reverse ++ ts.map .text := by simp
      rw [hlist, ← ih]
      rfl

/-- The members behind the first ones, up to the end of a table. -/
theorem foldlM_members (members : Table) (ps : List (Text × Text))
    (h : (members.map Prod.fst ++ ps.map Prod.fst).Nodup) :
    ((ps.flatMap fun p => Token.comma :: tokensPair p) ++ [Token.closeBrace]).foldlM Reading.step
        ⟨table, header, [.line path], .afterMember members⟩
      = lineWith table header path
        (.table .value (members ++ ps.map fun p => (p.1, .text p.2))) := by
  induction ps generalizing members with
  | nil =>
      rw [List.map_nil, List.append_nil]
      exact bind_pure (lineWith table header path _)
  | cons p ps ih =>
      have hlist : members ++ (p :: ps).map (fun p => (p.1, Value.text p.2))
          = (members ++ [(p.1, .text p.2)]) ++ ps.map fun p => (p.1, .text p.2) := by simp
      have hkeys :
          ((members ++ [(p.1, Value.text p.2)]).map Prod.fst ++ ps.map Prod.fst).Nodup := by
        simpa using h
      have hnew : p.1 ∉ members.map Prod.fst := fun hmem =>
        (List.nodup_append.1 h).2.2 p.1 hmem p.1 List.mem_cons_self rfl
      rw [hlist, ← ih _ hkeys]
      show ((members.put (.text p.2) [p.1]).map fun members =>
        Reading.mk table header [.line path] (.afterMember members)).bind _ = _
      rw [Table.put_new hnew]
      rfl

/-- The tokens of a value complete it. -/
theorem foldlM_tokens {l : Literal} (h : l.Fits) :
    l.tokens.foldlM Reading.step ⟨table, header, [.line path], .value⟩
      = lineWith table header path l.value := by
  cases l with
  | text t => exact bind_pure (lineWith table header path (.text t))
  | number n =>
      show (((scalar? (Text.Decimal.ofNat n)).bind _).bind _) = _
      rw [scalar?_ofNat]
      exact bind_pure (lineWith table header path (.integer n))
  | truth b =>
      cases b with
      | true => exact bind_pure (lineWith table header path (.bool true))
      | false => exact bind_pure (lineWith table header path (.bool false))
  | texts ts =>
      cases ts with
      | nil => exact bind_pure (lineWith table header path (.array .value []))
      | cons t ts => exact foldlM_items table header path [.text t] ts
  | pairs ps =>
      cases ps with
      | nil => exact bind_pure (lineWith table header path (.table .value []))
      | cons p ps => exact foldlM_members table header path [(p.1, .text p.2)] ps h

end

end Literal

/-! ### Settings files -/

/-- A key with its value, on a line of its own. -/
def writtenLine (e : Text × Literal) : Text := e.1 ++ '=' :: e.2.written ++ ['\n']

/-- A key that can be written without quotes. -/
def IsBare (key : Text) : Prop :=
  key ≠ [] ∧ key.all (fun c => Token.isWordChar c && c != '+') = true

instance (key : Text) : Decidable (IsBare key) :=
  inferInstanceAs (Decidable (key ≠ [] ∧ key.all (fun c => Token.isWordChar c && c != '+') = true))

/-- The tokens of a line. -/
def tokensLine (e : Text × Literal) : List Token := [.word e.1, .equals] ++ e.2.tokens ++ [.newline]

theorem lexes_line {e : Text × Literal} (hkey : IsBare e.1) (rest : Text) :
    Lexes (writtenLine e) (tokensLine e) rest := by
  obtain ⟨hne, hall⟩ := hkey
  have hword : ∀ c ∈ e.1, Token.isWordChar c = true := fun c hc =>
    (Bool.and_eq_true_iff.1 (List.all_eq_true.1 hall c hc)).1
  have hkey : Lexes e.1 [.word e.1] ('=' :: e.2.written ++ (['\n'] ++ rest)) :=
    Literal.lexes_word hne hword (Reader.stops_cons.2 (by decide))
  have hequals : Lexes ['='] [.equals] (e.2.written ++ (['\n'] ++ rest)) :=
    Token.lexes_single (List.cons_ne_nil _ _) rfl
  have hvalue : Lexes e.2.written e.2.tokens (['\n'] ++ rest) :=
    Literal.lexes_written e.2 (fun hc => absurd (Option.some.inj hc) (by decide))
      (Reader.stops_cons.2 (by decide))
  have hend : Lexes ['\n'] [.newline] rest := Token.lexes_single (List.cons_ne_nil _ _) rfl
  exact (hkey.append (hequals.append hvalue)).append hend

theorem lexes_lines {es : List (Text × Literal)} (h : ∀ e ∈ es, IsBare e.1) :
    Lexes (es.flatMap writtenLine) (es.flatMap tokensLine) [] := by
  induction es with
  | nil => exact Token.lexes_nil
  | cons e es ih =>
      exact (lexes_line (h e List.mem_cons_self) _).append
        (ih fun e he => h e (List.mem_cons_of_mem _ he))

theorem foldlM_line {e : Text × Literal} (hkey : IsBare e.1) (hvalue : e.2.Fits) {t : Table}
    (hnew : e.1 ∉ t.map Prod.fst) :
    (tokensLine e).foldlM Reading.step ⟨t, [], [], .line⟩
      = some ⟨t ++ [(e.1, e.2.value)], [], [], .line⟩ := by
  have hplain : (e.1.all fun c => c != '+') = true :=
    List.all_eq_true.2 fun c hc => (Bool.and_eq_true_iff.1 (List.all_eq_true.1 hkey.2 c hc)).2
  have hkey : (Token.word e.1).key? = some e.1 := if_pos hplain
  have hfront : [Token.word e.1, .equals].foldlM Reading.step ⟨t, [], [], .line⟩
      = some ⟨t, [], [.line [e.1]], .value⟩ := by
    show ((Token.word e.1).key?.bind fun k => _).bind _ = _
    rw [hkey]
    rfl
  rw [tokensLine, List.foldlM_append, List.foldlM_append, hfront]
  show ((e.2.tokens.foldlM Reading.step ⟨t, [], [.line [e.1]], .value⟩).bind fun r => _) = _
  rw [Literal.foldlM_tokens t [] [e.1] hvalue, Literal.lineWith, Table.within, Table.put_new hnew]
  rfl

/-- Lines with different keys are read as what they say. -/
theorem foldlM_lines {es : List (Text × Literal)} {t : Table} (hkeys : ∀ e ∈ es, IsBare e.1)
    (hvalues : ∀ e ∈ es, e.2.Fits) (hnew : (t.map Prod.fst ++ es.map Prod.fst).Nodup) :
    (es.flatMap tokensLine).foldlM Reading.step ⟨t, [], [], .line⟩
      = some ⟨t ++ es.map fun e => (e.1, e.2.value), [], [], .line⟩ := by
  induction es generalizing t with
  | nil => exact congrArg (fun t => some (Reading.mk t [] [] .line)) (List.append_nil t).symm
  | cons e es ih =>
      have hfresh : e.1 ∉ t.map Prod.fst := fun hmem =>
        (List.nodup_append.1 hnew).2.2 e.1 hmem e.1 List.mem_cons_self rfl
      have hrest : ((t ++ [(e.1, e.2.value)]).map Prod.fst ++ es.map Prod.fst).Nodup := by
        simpa using hnew
      rw [List.flatMap_cons, List.foldlM_append,
        foldlM_line (hkeys e List.mem_cons_self) (hvalues e List.mem_cons_self) hfresh]
      refine (ih (fun e he => hkeys e (List.mem_cons_of_mem _ he))
        (fun e he => hvalues e (List.mem_cons_of_mem _ he)) hrest).trans ?_
      rw [List.append_assoc]
      rfl

/-- A settings file whose lines are written from keys and values is read as these. -/
theorem read_written {es : List (Text × Literal)} (hkeys : ∀ e ∈ es, IsBare e.1)
    (hvalues : ∀ e ∈ es, e.2.Fits) (hnew : (es.map Prod.fst).Nodup) :
    read? (es.flatMap writtenLine) = some (es.map fun e => (e.1, e.2.value)) := by
  have hmark : (es.flatMap writtenLine).head? ≠ some '\ufeff' := by
    cases es with
    | nil => simp
    | cons e es =>
        obtain ⟨hne, hall⟩ := hkeys e List.mem_cons_self
        obtain ⟨c, key, hkey⟩ := List.exists_cons_of_ne_nil hne
        rw [hkey] at hall
        have hc : Token.isWordChar c = true :=
          (Bool.and_eq_true_iff.1 (List.all_eq_true.1 hall c List.mem_cons_self)).1
        rw [List.flatMap_cons, writtenLine, hkey]
        rintro hfirst
        obtain rfl : c = '\ufeff' := Option.some.inj hfirst
        exact absurd hc (by decide)
  have hlines := foldlM_lines (t := []) hkeys hvalues hnew
  rw [read?, Token.tokens_of_lexes (lexes_lines hkeys) hmark, Option.bind_some, hlines]
  rfl

end BareUrl.Toml
