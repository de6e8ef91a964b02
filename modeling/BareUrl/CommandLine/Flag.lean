import BareUrl.Text.Basic

/-!
# `BareUrl.CommandLine.Flag`: the flags of the command line

Every flag has a name, written behind two hyphens, and many have a letter, written behind one. Most
of them take a value.
-/

set_option autoImplicit false

namespace BareUrl.CommandLine

/-- A flag. -/
inductive Flag where
  | config
  | verbose
  | quiet
  | output
  | urlPrefix
  | protocols
  | excludeTag
  | offline
  | timeout
  | userAgent
  | header
  | dump
  | help
  | version
deriving DecidableEq, Repr

namespace Flag

/-- All flags, in the order in which help lists them. -/
def all : List Flag :=
  [.config, .verbose, .quiet, .output, .urlPrefix, .protocols, .excludeTag, .offline, .timeout,
    .userAgent, .header, .dump, .help, .version]

/-- The name of a flag. -/
def name : Flag → String
  | .config => "config"
  | .verbose => "verbose"
  | .quiet => "quiet"
  | .output => "output"
  | .urlPrefix => "url-prefix"
  | .protocols => "protocols"
  | .excludeTag => "exclude-tag"
  | .offline => "offline"
  | .timeout => "timeout"
  | .userAgent => "user-agent"
  | .header => "header"
  | .dump => "dump"
  | .help => "help"
  | .version => "version"

/-- The letter of a flag that has one. -/
def letter : Flag → Option Char
  | .config => some 'c'
  | .verbose => some 'v'
  | .quiet => some 'q'
  | .output => some 'o'
  | .timeout => some 't'
  | .userAgent => some 'u'
  | .header => some 'H'
  | .help => some 'h'
  | .version => some 'V'
  | .urlPrefix | .protocols | .excludeTag | .offline | .dump => none

/-- `true` if the flag takes a value. -/
def takesValue : Flag → Bool
  | .verbose | .quiet | .offline | .dump | .help | .version => false
  | .config | .output | .urlPrefix | .protocols | .excludeTag | .timeout | .userAgent
  | .header => true

/-- What the flag is for. -/
def purpose : Flag → String
  | .config => "Configuration file to use; urlembed.toml if there is one"
  | .verbose => "Log more; may be repeated"
  | .quiet => "Log less; may be repeated"
  | .output => "Write to a file instead of standard output"
  | .urlPrefix => "Only convert URLs directly preceded by this text"
  | .protocols => "Comma-separated list of protocols to look for"
  | .excludeTag => "Leave the content of these elements alone; may be repeated"
  | .offline => "Do not ask providers; their URL patterns decide"
  | .timeout => "Timeout of a request in seconds"
  | .userAgent => "User agent sent to providers"
  | .header => "Header sent to providers; may be repeated"
  | .dump => "List the URLs that would be looked up"
  | .help => "Print help"
  | .version => "Print version"

/-- The flag with a name. -/
def ofName? (t : Text) : Option Flag := all.find? fun f => f.name.toList == t

/-- The flag with a letter. -/
def ofLetter? (c : Char) : Option Flag := all.find? fun f => f.letter == some c

end Flag

end BareUrl.CommandLine
