import BareUrl.CommandLine.Reader

/-!
# `BareUrl.CommandLine.Message`: what the command line tells its user

The texts for a user who asks for help or for the version, and for one who made a mistake.
-/

set_option autoImplicit false

namespace BareUrl.CommandLine

/-- A flag as it is written. -/
def Flag.written (f : Flag) : Text := "--".toList ++ f.name.toList

/-- The line of help about a flag. -/
def Flag.helpLine (f : Flag) : Text :=
  "  ".toList ++ (f.letter.map fun c => ['-', c, ',', ' ']).getD "    ".toList ++ f.written ++
    (if f.takesValue then " <VALUE>".toList else []) ++ "  ".toList ++ f.purpose.toList ++ ['\n']

/-- What is printed for a user who asks for help. -/
def helpText : Text :=
  "Usage: urlembed [OPTIONS] <INPUTS>...\n\nOptions:\n".toList ++ Flag.all.flatMap Flag.helpLine

/-- What is printed for a user who asks for the version. -/
def versionText : Text := "urlembed 0.3.0\n".toList

/-- The wording of why there is nothing to run. -/
def Refusal.message : Refusal → Text
  | .help => helpText
  | .version => versionText
  | .unknownFlag written => "unexpected argument '".toList ++ written ++ "' found".toList
  | .missingValue f => "a value is required for '".toList ++ f.written ++ "'".toList
  | .notNumber f => "the value of '".toList ++ f.written ++ "' is not a number".toList
  | .notHeader fault => fault.message
  | .surplusValue f => "'".toList ++ f.written ++ "' takes no value".toList
  | .repeated f => "'".toList ++ f.written ++ "' cannot be used multiple times".toList
  | .louderAndQuieter => "'--verbose' cannot be used with '--quiet'".toList
  | .noInput => "at least one input is required".toList

end BareUrl.CommandLine
