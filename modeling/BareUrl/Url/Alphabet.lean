import BareUrl.Text.Letter
import BareUrl.Text.Number

/-!
# `BareUrl.Url.Alphabet`: the characters of a URL, part by part

Each part of a URL has its own characters. Host names, user information and paths allow letters,
marks and numbers of every script; queries are ASCII. No part allows white space, quotation
marks or angle brackets.

A path and a query end in fewer characters than they hold, so that the punctuation that closes a
sentence is not taken for the end of a URL: `isPathEnd` and `isQueryEnd` are parts of `isPathChar`
and `isQueryChar`.
-/

set_option autoImplicit false

namespace BareUrl.Url

open BareUrl.Text (isLetter isNumber)

/-- The punctuation of paths. -/
def pathMarks : List Char := "!*';:=+,.$/%#[]-_~@&".toList

/-- The punctuation a path may end in. -/
def pathEndMarks : List Char := ":_+~#=/".toList

/-- The punctuation of queries. -/
def queryMarks : List Char := "!?*'@();:&=+$/%#[]-_.,~|".toList

/-- The punctuation a query may end in. -/
def queryEndMarks : List Char := "_&=#/".toList

/-- The punctuation of host names before the top-level name. -/
def labelMarks : List Char := "._+-".toList

/-- The punctuation of user information. -/
def userMarks : List Char := ":%_+*~#?&=.,/;-".toList

/-- Letters, marks and numbers of every script. -/
def isAlphanumeric (c : Char) : Bool := isLetter c || isNumber c

/-- ASCII letters and digits. -/
def isAsciiAlphanumeric (c : Char) : Bool := c.isAlpha || c.isDigit

/-- Characters of a path, outside parentheses and inside. -/
def isPathChar (c : Char) : Bool := isAlphanumeric c || pathMarks.contains c

/-- Characters a path may end in. -/
def isPathEnd (c : Char) : Bool := isAlphanumeric c || pathEndMarks.contains c

/-- Characters of a query. -/
def isQueryChar (c : Char) : Bool := isAsciiAlphanumeric c || queryMarks.contains c

/-- Characters a query may end in. -/
def isQueryEnd (c : Char) : Bool := isAsciiAlphanumeric c || queryEndMarks.contains c

/-- Characters of a host name before its top-level name. -/
def isLabelChar (c : Char) : Bool := isAlphanumeric c || labelMarks.contains c

/-- Characters of user information. -/
def isUserChar (c : Char) : Bool := isAlphanumeric c || userMarks.contains c

end BareUrl.Url
