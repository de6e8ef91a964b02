import BareUrl.Address.Host
import BareUrl.Address.Path

/-!
# `BareUrl.Address.Basic`: addresses of resources

The endpoint of a provider is an address: a scheme, a user with a password, a host with a port, a
path, a query and a fragment. `Address.read` reads one from a text, and `Address.text` writes it in
its one normal form.

- White space around the text does not matter, nor do tabs and line ends in it.
- Six schemes are well known. With these an address has a host of the Internet, backslashes count
  as slashes, the path is never empty, and the usual port is left out.
- Of these, `file` has rules of its own: no user and no port, and a drive letter takes the place of
  the host.
-/

set_option autoImplicit false

namespace BareUrl

/-- The address of a resource. -/
structure Address where
  scheme : Text
  user : Text
  password : Text
  host : Option Address.Host
  port : Option Nat
  path : Address.Path
  query : Option Text
  fragment : Option Text
deriving DecidableEq, Repr

namespace Address

/-! ### Schemes -/

/-- The scheme of files. -/
def fileScheme : Text := "file".toList

/-- The usual port of a well-known scheme that has one. -/
def usualPort (scheme : Text) : Option Nat :=
  if scheme = "http".toList ∨ scheme = "ws".toList then some 80
  else if scheme = "https".toList ∨ scheme = "wss".toList then some 443
  else if scheme = "ftp".toList then some 21
  else none

/-- `true` for the well-known schemes. -/
def isSpecial (scheme : Text) : Bool := (usualPort scheme).isSome || scheme = fileScheme

/-- `true` for a character of a scheme behind its first letter. -/
def isSchemeChar (c : Char) : Bool := c.isAlphanum || "+-.".toList.elem c

/-- The scheme of a text, in lower case, and what follows its colon. -/
def cutScheme : Text → Option (Text × Text)
  | [] => none
  | c :: t =>
    if c.isAlpha then
      match t.dropWhile isSchemeChar with
      | ':' :: rest => some (Text.asciiLower (c :: t.takeWhile isSchemeChar), rest)
      | _ => none
    else none

/-! ### The text of an address -/

/-- `true` for controls and blanks, which do not matter around an address. -/
def isEdge (c : Char) : Bool := c.toNat ≤ 0x20

/-- The text without controls and blanks at its ends and without tabs and line ends. -/
def clean (t : Text) : Text :=
  (((t.dropWhile isEdge).reverse.dropWhile isEdge).reverse).filter fun c =>
    !"\t\n\r".toList.elem c

/-- The text before the first `mark`, and the text behind it if there is one. -/
def cutAt (mark : Char) (t : Text) : Text × Option Text :=
  (t.takeWhile (· ≠ mark), (t.dropWhile (· ≠ mark)).tail?)

/-- What stands before the query and the fragment, the query, and the fragment. -/
def cutTail (t : Text) : Text × Option Text × Option Text :=
  let (front, fragment) := cutAt '#' t
  let (main, query) := cutAt '?' front
  (main, query, fragment)

/-- The address with the given query and fragment, escaped. -/
def withTail (a : Address) (query fragment : Option Text) : Address :=
  let set := if isSpecial a.scheme then Percent.specialQuerySet else Percent.querySet
  { a with
    query := query.map (Percent.escape set)
    fragment := fragment.map (Percent.escape Percent.fragmentSet) }

/-! ### Authorities -/

/-- The text before the last `@` and the text behind it, if there is one. -/
def cutUser (authority : Text) : Option Text × Text :=
  let back := authority.reverse
  match back.dropWhile (· ≠ '@') with
  | [] => (none, authority)
  | _ :: before => (some before.reverse, (back.takeWhile (· ≠ '@')).reverse)

/-- The text up to the first colon outside of brackets. -/
def hostPart (inBrackets : Bool) : Text → Text
  | [] => []
  | c :: t =>
    if c = ':' ∧ !inBrackets then []
    else c :: hostPart (if c = '[' then true else if c = ']' then false else inBrackets) t

/-- Reads a port in front of a path: its number, if it has digits and is not the usual one, and
the path. Only a slash or backslash may follow the digits. -/
def readPort (scheme t : Text) : Except Fault (Option Nat × Text) :=
  let digits := t.takeWhile Char.isDigit
  let rest := t.dropWhile Char.isDigit
  let n := Text.Digits.number 10 digits
  if n < 0x10000 ∧ (rest = [] ∨ rest.head? = some '/' ∨ rest.head? = some '\\') then
    .ok (if digits = [] ∨ usualPort scheme = some n then none else some n, rest)
  else .error .badPort

/-- The segments of the path behind an authority. -/
def readPath (special : Bool) (t : Text) : List Text :=
  match t with
  | [] => if special then [[]] else []
  | '/' :: rest => Path.read [] special rest
  | '\\' :: rest => if special then Path.read [] special rest else Path.read [] special t
  | _ => Path.read [] special t

/-- Reads an authority and the path behind it. -/
def readAuthority (scheme t : Text) : Except Fault Address :=
  let special := isSpecial scheme
  let ends := fun c => c == '/' || (special && c == '\\')
  let authority := t.takeWhile fun c => !ends c
  let path := t.dropWhile fun c => !ends c
  let (login, site) := cutUser authority
  if login = some [] ∧ site = [] ∧ path ≠ [] then .error .emptyHost
  else
    let (user, password) := cutAt ':' (login.getD [])
    let hostText := hostPart false site
    if special ∧ hostText = [] then .error .emptyHost
    else
      match if special then Host.read hostText else Host.readPlain hostText with
      | .error e => .error e
      | .ok host =>
        let behind := site.drop hostText.length
        if hostText = [] ∧ behind ≠ [] then .error .emptyHost
        else
          match readPort scheme (behind.drop 1 ++ path) with
          | .error e => .error e
          | .ok (port, path) =>
            let a : Address := ⟨scheme, Percent.escape Percent.userSet user,
              Percent.escape Percent.userSet (password.getD []), some host, port,
              .segments (readPath special path), none, none⟩
            if hostText = [] ∧ (a.user ≠ [] ∨ a.password ≠ []) then .error .emptyHost else .ok a

/-! ### Files -/

/-- The segments of the path of a file: those at the start that are empty do not count, and a
drive letter in front has a colon. -/
def fileSegments (list : List Text) : List Text :=
  match list.dropWhile (· = []) with
  | [] => [[]]
  | s :: rest => if Path.isDriveLetter s then [s.headD 'C', ':'] :: rest else s :: rest

/-- Reads what follows the scheme of a file. -/
def readLocal (t : Text) : Except Fault Address :=
  let isSlash := fun c => c == '/' || c == '\\'
  let file := fun (host : Option Host) (path : Text) =>
    let segments := fileSegments ((Path.read [] true path))
    let host := if segments.head?.any Path.isDriveLetter then none else host
    (⟨fileScheme, [], [], some (host.getD (.name [])), none, .segments segments, none, none⟩ :
      Address)
  match t with
  | c :: d :: rest =>
    if isSlash c && isSlash d then
      let name := rest.takeWhile fun c => !isSlash c
      if name = [] ∨ Path.isDriveLetter name then .ok (file none rest)
      else
        match Host.read name with
        | .error e => .error e
        | .ok host =>
          let host := if host = .name "localhost".toList then none else some host
          .ok (file host (rest.drop name.length))
    else .ok (file none t)
  | _ => .ok (file none t)

/-! ### Reading and writing -/

/-- Reads what follows a scheme, up to the query. -/
def readBehind (scheme t : Text) : Except Fault Address :=
  if scheme = fileScheme then readLocal t
  else if isSpecial scheme then
    readAuthority scheme (t.dropWhile fun c => c == '/' || c == '\\')
  else
    match Text.stripLead "//".toList t with
    | some rest => readAuthority scheme rest
    | none =>
      let path := match t with
        | '/' :: rest => .segments (Path.read [] false rest)
        | _ => .plain (Percent.escape [] t)
      .ok ⟨scheme, [], [], none, none, path, none, none⟩

/-- The address that a text is. -/
def read (t : Text) : Except Fault Address :=
  match cutScheme (clean t) with
  | none => .error .relative
  | some (scheme, rest) =>
    let (main, query, fragment) := cutTail rest
    match readBehind scheme main with
    | .error e => .error e
    | .ok a => .ok (a.withTail query fragment)

/-- User and password as they stand in front of a host. -/
def loginText (a : Address) : Text :=
  if a.user = [] ∧ a.password = [] then []
  else a.user ++ (if a.password = [] then [] else ':' :: a.password) ++ ['@']

/-- What stands between scheme and path. A path that could be taken for a host is kept apart. -/
def authorityText (a : Address) : Text :=
  match a.host with
  | some host =>
    "//".toList ++ a.loginText ++ host.text ++
      (a.port.map fun n => ':' :: Text.Decimal.ofNat n).getD []
  | none =>
    match a.path with
    | .segments ([] :: _ :: _) => "/.".toList
    | _ => []

/-- The address in its normal form. -/
def text (a : Address) : Text :=
  a.scheme ++ [':'] ++ a.authorityText ++ a.path.text ++
    (a.query.map ('?' :: ·)).getD [] ++ (a.fragment.map ('#' :: ·)).getD []

end Address

end BareUrl
