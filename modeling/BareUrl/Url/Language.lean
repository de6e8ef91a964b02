import BareUrl.Url.Expression
import BareUrl.Url.Grammar

/-!
# `BareUrl.Url.Language`: the grammar as a regular expression

`Grammar.expression` is the regular expression of all that a grammar finds: the leader, and in a
group of its own a URL. It says what URLs are; the readers of `Grammar` say how to find the one
that a regular expression engine would, without trying one reading after another.
-/

set_option autoImplicit false

namespace BareUrl.Url

namespace Expression

/-- A path character. -/
def pathChar : Expression :=
  .one "[\\p\x7bL\x7d\\p\x7bM\x7d\\p\x7bN\x7d!*';:=+,.$/%#\\[\\]\\-_~@&]" isPathChar

/-- A character that a path may end in. -/
def pathEndChar : Expression := .one "[\\p\x7bL\x7d\\p\x7bM\x7d\\p\x7bN\x7d:_+~#=/]" isPathEnd

/-- A query character. -/
def queryChar : Expression := .one "[a-zA-Z0-9!?*'@();:&=+$/%#\\[\\]\\-_.,~|]" isQueryChar

/-- A character that a query may end in. -/
def queryEndChar : Expression := .one "[a-zA-Z0-9_&=#/]" isQueryEnd

/-- A character of a host name before its top-level name. -/
def labelChar : Expression := .one "[\\p\x7bL\x7d\\p\x7bM\x7d\\p\x7bN\x7d._+-]" isLabelChar

/-- A letter or mark of any script. -/
def letter : Expression := .one "[\\p\x7bL\x7d\\p\x7bM\x7d]" Text.isLetter

/-- A character of user information. -/
def userChar : Expression :=
  .one "[\\p\x7bL\x7d\\p\x7bM\x7d\\p\x7bN\x7d:%_+*~#?&=.,/;-]" isUserChar

/-- A decimal digit. -/
def digit : Expression := .one "[0-9]" Char.isDigit

/-- The character at the end of user information, which means nothing in the notation. -/
def atSign : Expression := .word ['@']

/-- A domain. -/
def domain : Expression :=
  all [(plain (.seq labelChar.plus (.word ['.']))).optional, .times 2 (some 64) letter, .wordEnd]

/-- One to three digits. -/
def octet : Expression := .times 1 (some 3) digit

/-- An address of four numbers. -/
def ip : Expression :=
  .seq (.times 3 (some 3) (plain (.seq octet (.word ['.'])))) octet

/-- User information. -/
def userInfo : Expression := .seq userChar.plus atSign

/-- Path characters in parentheses. -/
def parenthesised : Expression := all [.word ['('], pathChar.plus, .word [')']]

/-- A path that ends properly. The alternative at its end reaches as far back as its start, so a
group in parentheses is a path on its own. -/
def properPath : Expression :=
  .alt (all [pathChar.star, (plain (.seq parenthesised pathChar.star)).star, pathEndChar])
    (plain parenthesised)

/-- The path of a user's page. -/
def userPath : Expression := all [atSign, pathChar.plus, .word ['/']]

/-- A path. -/
def path : Expression := plain (.alt (plain properPath) (plain userPath))

/-- A query. -/
def query : Expression := all [.word ['?'], queryChar.star, queryEndChar]

/-- Paths and a query. -/
def trail : Expression :=
  .seq (Expression.group "" path.star).optional (Expression.group "" query).optional

/-- What follows the protocol of a URL. -/
def site : Expression :=
  all [(plain userInfo).optional, plain (.alt domain ip), (Expression.word ['/']).optional,
    (plain trail).optional]

/-- A protocol with its colon and slashes. -/
def protocol (p : Protocol) : Expression :=
  all [.word p.name, .word [':'], (plain (.word ['/', '/'])).optional]

end Expression

namespace Grammar

/-- The expression of a URL. -/
def urlExpression (g : Grammar) : Expression :=
  match g.protocols.map Expression.protocol with
  | [] => .word []
  | e :: es => .seq (.plain (.oneOf e es)) (.plain Expression.site)

/-- The expression of all that is found. -/
def expression (g : Grammar) : Expression :=
  .seq (.word g.leader) (.group "?P<url>" g.urlExpression)

end Grammar

end BareUrl.Url
