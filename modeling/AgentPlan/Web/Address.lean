import AgentPlan.Web.Host
import AgentPlan.Web.Path

/-!
# Web addresses

An address has a scheme, a user, a host, a port, a path, a query and a fragment, most of which it may
lack. It has one spelling that counts when it is used or shown: scheme and host in small letters, no
port that the scheme implies, no `.` and `..` in the path, and a percent sign with two digits for
every byte that cannot stand where it does. White space around an address and line breaks in it are
dropped. Some schemes have rules of their own: their addresses have a host, a path, and backslashes
that count as slashes. Addresses of files have a path, and a host only if it is another one. Other
addresses may have no host, and the rest of such an address is a path only if it starts with a slash.
-/

namespace AgentPlan.Web

/-- The name and the password of a user, in the spelling that is used in an address. A password may
be there without a name. -/
structure User where
  name : String
  password : Option String
deriving DecidableEq, Repr

/-- What stands between two slashes and the path: perhaps a user, a host and a port. A port that the
scheme implies is left out. -/
structure Authority where
  user : Option User
  host : Option Host
  port : Option Nat
deriving DecidableEq, Repr

/-- An address, in its parts. All texts are in the spelling that is used, so that the address is
shown by putting them together. -/
structure Address where
  scheme : String
  authority : Option Authority
  path : String
  query : Option String
  fragment : Option String
deriving DecidableEq, Repr

/-! ## Schemes -/

namespace Scheme

/-- The port that a scheme implies. These are the schemes of servers, which have rules of their
own. -/
def impliedPort? : String → Option Nat
  | "http" | "ws" => some 80
  | "https" | "wss" => some 443
  | "ftp" => some 21
  | _ => none

/-- The scheme is one of servers: it implies a port. -/
def isServer (scheme : String) : Bool :=
  (impliedPort? scheme).isSome

/-- The scheme of files, the only one besides those of servers that has rules of its own. -/
def file : String := "file"

/-- A character of a scheme after the first one, which has to be a letter. -/
def isChar (c : Char) : Bool :=
  c.isAlphanum || c == '+' || c == '-' || c == '.'

/-- The scheme before the first colon, in small letters, and what follows. Without a scheme a text
is no address. -/
def split? (cs : List Char) : Option (String × List Char) :=
  let (name, rest) := cs.span isChar
  match name, rest with
  | first :: _, ':' :: rest =>
    if first.isAlpha then some (String.ofList (name.map Char.toLower), rest) else none
  | _, _ => none

end Scheme

/-! ## Users, hosts and ports -/

namespace Authority

/-- A character that ends what stands before the path: a slash, or a backslash where it counts as
one. -/
def isEnd (isServer : Bool) (c : Char) : Bool :=
  c == '/' || (isServer && c == '\\')

/-- The characters before the last at sign, if there is one, and those after it. Earlier at signs
belong to the user. -/
def atUser? (cs : List Char) : Option (List Char × List Char) :=
  match cs.reverse.span (· ≠ '@') with
  | (after, _ :: before) => some (before.reverse, after.reverse)
  | (_, []) => none

/-- The user that some characters spell. One without a name and a password is none. -/
def user? (cs : List Char) : Option User :=
  let (name, rest) := cs.span (· ≠ ':')
  let password := if rest.length ≤ 1 then none else some (Percent.escape Percent.inUser rest.tail)
  if name.isEmpty ∧ password.isNone then none
  else some ⟨Percent.escape Percent.inUser name, password⟩

/-- The characters of a host, up to a colon that does not stand in brackets, and what follows. -/
def splitHost (inBrackets : Bool) : List Char → List Char × List Char
  | [] => ([], [])
  | c :: rest =>
    if c = ':' ∧ !inBrackets then ([], c :: rest)
    else
      let (host, rest) := splitHost (c = '[' || (inBrackets && c ≠ ']')) rest
      (c :: host, rest)

/-- The port that digits spell; no digits spell none, and neither do those of the port that the
scheme implies. A port of more than 16 bits is not allowed. -/
def port? (implied : Option Nat) (digits : List Char) : Option (Option Nat) :=
  if ¬digits.all Char.isDigit then none
  else
    let n := digits.foldl (fun n c => n * 10 + (c.toNat - '0'.toNat)) 0
    if digits.isEmpty ∨ implied = some n then some none
    else if n < 65536 then some (some n)
    else none

/-- The host that some characters spell; only where the scheme has no rules of its own there may be
none. -/
def host? (isServer : Bool) (cs : List Char) : Option (Option Host) :=
  if isServer then if cs.isEmpty then none else (Host.ofText? cs).map some
  else if cs.isEmpty then some none
  else (Host.opaqueOfText? cs).map some

/-- User, host and port, and what follows the port after a backslash. A user or a port needs a
host. -/
def ofText? (scheme : String) (cs : List Char) : Option (Authority × List Char) := do
  let isServer := Scheme.isServer scheme
  let (user, rest) := match atUser? cs with
    | some (user, rest) => (user? user, rest)
    | none => (none, cs)
  let (host, rest) := splitHost false rest
  let host ← host? isServer host
  guard (host.isSome || (user.isNone && rest.isEmpty))
  let (digits, rest) := rest.tail.span (· ≠ '\\')
  return (⟨user, host, ← port? (Scheme.impliedPort? scheme) digits⟩, rest)

/-- The text of user, host and port, with the signs between those that are there. -/
def text (a : Authority) : String :=
  let user := match a.user with
    | some u => u.name ++ (u.password.map (":" ++ ·)).getD "" ++ "@"
    | none => ""
  user ++ (a.host.map Host.text).getD "" ++ (a.port.map fun n => ":" ++ toString n).getD ""

end Authority

namespace Address

/-! ## Parts -/

/-- The address without control characters and spaces around it and line breaks in it. Tabs in it
are dropped, too. -/
def clean (s : String) : List Char :=
  let isOuter (c : Char) : Bool := c.toNat ≤ 0x20
  let inner := ((s.toList.dropWhile isOuter).reverse.dropWhile isOuter).reverse
  inner.filter fun c => c != '\t' && c != '\n' && c != '\r'

/-- What follows the first of a character, if there is one, and what comes before it. Fragment and
query are cut off so. -/
def cut (mark : Char) (cs : List Char) : List Char × Option (List Char) :=
  match cs.span (· ≠ mark) with
  | (before, _ :: after) => (before, some after)
  | (before, []) => (before, none)

/-- A slash, or a backslash where it counts as one. -/
def isSlash (c : Char) : Bool :=
  c == '/' || c == '\\'

/-- The path after a host: at least a slash where the scheme has rules of its own. -/
def pathAfterHost (isServer : Bool) (cs : List Char) : String :=
  match cs with
  | [] => if isServer then "/" else ""
  | c :: rest =>
    if c = '/' ∨ (isServer ∧ c = '\\') then Path.text (Path.steps isServer rest)
    else Path.text (Path.steps isServer (c :: rest))

/-- Host and path of an address with two slashes after the scheme. An at sign alone may stand for no
host only at the end of the address. -/
def afterSlashes? (scheme : String) (isLast : Bool) (cs : List Char) :
    Option (Authority × String) := do
  let isServer := Scheme.isServer scheme
  let (authority, path) := cs.span fun c => !Authority.isEnd isServer c
  guard (authority ≠ ['@'] || (path.isEmpty && isLast))
  let (authority, more) ← Authority.ofText? scheme authority
  return (authority, pathAfterHost isServer (more ++ path))

/-- The host and the path of a file, after two slashes. This computer is no host, and neither is the
name of a drive. A host is dropped if the path has a drive. -/
def fileHost? (cs : List Char) : Option (Option Host × String) := do
  let (name, path) := cs.span fun c => !isSlash c
  if Path.isDrive (String.ofList name) then return (none, Path.fileText (Path.fileSteps cs))
  else
    let steps := Path.fileSteps path
    let host ← if name.isEmpty then some none else (Host.ofText? name).map some
    let isHere := host = some (.domain "localhost") || Path.hasDrive steps
    return (if isHere then none else host, Path.fileText steps)

/-- The host and the path of a file, which has a host only after two slashes or backslashes. -/
def file? (cs : List Char) : Option (Authority × String) := do
  let alone := Path.fileText (Path.fileSteps cs)
  let (host, path) ← match cs with
    | a :: b :: rest => if isSlash a && isSlash b then fileHost? rest else some (none, alone)
    | _ => some (none, alone)
  return (⟨none, host, none⟩, path)

/-- The path of an address without a host. A path that starts with two slashes gets a step that
stays where it is in front, so that they are not read as the start of a host. -/
def pathAlone (cs : List Char) : String :=
  match cs with
  | '/' :: rest =>
    let path := Path.text (Path.steps false rest)
    if "//".isPrefixOf path then "/." ++ path else path
  | cs => Percent.escape [] cs

/-- Host and path after a scheme, where the address ends with them or goes on. Each of the three
kinds of schemes has its own rules. -/
def hostAndPath? (scheme : String) (isLast : Bool) (cs : List Char) :
    Option (Option Authority × String) :=
  if scheme = Scheme.file then (file? cs).map fun (a, path) => (some a, path)
  else if Scheme.isServer scheme then
    (afterSlashes? scheme isLast (cs.dropWhile isSlash)).map fun (a, path) => (some a, path)
  else match cs with
    | '/' :: '/' :: rest => (afterSlashes? scheme isLast rest).map fun (a, path) => (some a, path)
    | cs => some (none, pathAlone cs)

/-- The address that a text spells, if it is sound. Reference: the base address of
`OpenAIProvider.send_message`, as it becomes the address of a web request. -/
def ofText? (s : String) : Option Address := do
  let (scheme, rest) ← Scheme.split? (clean s)
  let (rest, fragment) := cut '#' rest
  let (rest, query) := cut '?' rest
  let (authority, path) ← hostAndPath? scheme (query.isNone && fragment.isNone) rest
  let inQuery :=
    if Scheme.isServer scheme || scheme = Scheme.file then Percent.inServerQuery
    else Percent.inQuery
  return {
    scheme, authority, path
    query := query.map (Percent.escape inQuery)
    fragment := fragment.map (Percent.escape Percent.inFragment) }

/-! ## Spellings -/

/-- The path with the query, which is what a server is asked for. The fragment is not sent. -/
def target (a : Address) : String :=
  a.path ++ (a.query.map ("?" ++ ·)).getD ""

/-- The text of an address, in the one spelling that is used. -/
def text (a : Address) : String :=
  a.scheme ++ ":" ++ (a.authority.map fun h => "//" ++ h.text).getD "" ++ a.target ++
    (a.fragment.map ("#" ++ ·)).getD ""

/-- The host of an address, if it has one. -/
def host? (a : Address) : Option Host :=
  a.authority.bind Authority.host

/-- The address without its user, if the name of the user or the password has a text. The user is
sent in the head of the request instead. -/
def withoutUser (a : Address) : Address :=
  match a.authority with
  | some ⟨some user, host, port⟩ =>
    let name := Percent.decode? user.name.toList
    let password := user.password.bind fun p => Percent.decode? p.toList
    match name with
    | some name =>
      if name.isEmpty ∧ password.isNone then a
      else { a with authority := some ⟨none, host, port⟩ }
    | none => a
  | _ => a

end Address

end AgentPlan.Web
