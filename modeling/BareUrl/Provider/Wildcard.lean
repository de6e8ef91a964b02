import BareUrl.Text.Basic

/-!
# `BareUrl.Provider.Wildcard`: patterns of URLs

A provider says which URLs it serves by patterns such as `https://*.example.com/watch*`. An
asterisk stands for any run of characters on one line, also an empty one; every other character
stands for itself. A pattern has to fit the whole URL.

`fits` goes through the pattern from its end and keeps, for each place in the text, whether what is
left of the pattern fits what is left of the text; so its time is the product of the two lengths,
however many asterisks there are.
-/

set_option autoImplicit false

namespace BareUrl.Provider.Wildcard

/-- Whether a character and then a pattern fit from each place of the text, where `fit` says so of
the pattern alone. -/
def literal (c : Char) : Text → List Bool → List Bool
  | d :: t, _ :: fit => (c == d && fit.headD false) :: literal c t fit
  | _, _ => [false]

/-- Whether an asterisk and then a pattern fit from each place of the text, where `fit` says so of
the pattern alone. -/
def anyRun : Text → List Bool → List Bool
  | d :: t, b :: fit =>
    let rest := anyRun t fit
    (b || (d != '\n' && rest.headD false)) :: rest
  | _, fit => fit

/-- Whether an empty pattern fits from each place of the text: only at its end. -/
def atEnd (t : Text) : List Bool := t.map (fun _ => false) ++ [true]

/-- Whether a pattern fits from each place of the text, the end included. -/
def fitsFrom (t : Text) : Text → List Bool
  | [] => atEnd t
  | c :: pattern =>
    if c = '*' then anyRun t (fitsFrom t pattern) else literal c t (fitsFrom t pattern)

/-- `true` if the pattern fits the whole text. -/
def fits (pattern t : Text) : Bool := (fitsFrom t pattern).headD false

end BareUrl.Provider.Wildcard
