/-!
# Addresses of requests

An address has up to five parts: a scheme, an authority, a path, a query and a fragment. An address
with a scheme and a host stands for itself. Any other is a place under the server's base address: its
path, without leading slashes, is put behind the base's path, with one slash between.

Two spellings of one address are made one: the scheme and the host are written small, the usual port
is left out, the steps `.` and `..` of a path are taken, and characters that cannot stand in an
address are written as their bytes in hexadecimal. `resolve?` does all this.
-/

namespace StickerPages.Remote

/-- An address cut into its parts. -/
structure Address where
  scheme : List Char := []
  user : List Char := []
  host : List Char := []
  port : Option Nat := none
  path : List Char := []
  query : Option (List Char) := none
  fragment : Option (List Char) := none
deriving DecidableEq, Repr

/-! ## Spelling -/

/-- A digit of a byte in hexadecimal. -/
def hexDigit (n : Nat) : Char :=
  if n < 10 then Char.ofNat (48 + n) else Char.ofNat (55 + n)

/-- A character that may not stand in an address, byte by byte. -/
def spellBytes (c : Char) : List Char :=
  (String.singleton c).toUTF8.toList.flatMap fun b =>
    ['%', hexDigit (b.toNat / 16), hexDigit (b.toNat % 16)]

/-- The characters of an address that stand for themselves: what can be seen in ASCII, except those
that some part of an address leaves out. -/
def spell (leftOut : List Char) (cs : List Char) : List Char :=
  cs.flatMap fun c =>
    if 0x20 < c.toNat && c.toNat < 0x7f && !leftOut.contains c then [c] else spellBytes c

/-- A path as it is spelt. -/
def spellPath : List Char → List Char := spell ['"', '#', '<', '>', '?', '`', '\x7b', '\x7d']

/-- A query as it is spelt. -/
def spellQuery : List Char → List Char := spell ['"', '#', '<', '>']

/-- A fragment as it is spelt. -/
def spellFragment : List Char → List Char := spell ['"', '<', '>', '`']

/-! ## Paths -/

/-- One step of a path, taken after the steps before it (the last one first). -/
def takeStep (taken : List (List Char)) (step : List Char) : List (List Char) :=
  if step == ['.'] then taken
  else if step == ['.', '.'] then (if taken == [[]] then taken else taken.drop 1)
  else step :: taken

/-- The steps between the slashes. -/
def steps (path : List Char) : List (List Char) := path.splitOn '/'

/-- A path without the steps `.` and `..`. -/
def straighten (path : List Char) : List Char :=
  ['/'].intercalate ((steps path).foldl takeStep []).reverse

/-! ## Reading -/

/-- A character that stands in a scheme. -/
def isSchemeChar (c : Char) : Bool := c.isAlphanum || c == '+' || c == '.' || c == '-'

/-- A leading scheme, and what follows its colon. -/
def cutScheme (cs : List Char) : List Char × List Char :=
  let scheme := cs.takeWhile isSchemeChar
  match cs.dropWhile isSchemeChar with
  | ':' :: r => if (scheme.head?.map Char.isAlpha).getD true then (scheme, r) else ([], cs)
  | _ => ([], cs)

/-- A leading authority behind two slashes, and what follows it. -/
def cutAuthority (cs : List Char) : List Char × List Char :=
  match cs with
  | '/' :: '/' :: r =>
    let inside (c : Char) : Bool := !(c == '/' || c == '?' || c == '#')
    (r.takeWhile inside, r.dropWhile inside)
  | cs => ([], cs)

/-- What stands before a mark, and what stands behind it if the mark occurs. -/
def cutAtMark (mark : Char) (cs : List Char) : List Char × Option (List Char) :=
  let before := cs.takeWhile (· != mark)
  match cs.dropWhile (· != mark) with
  | [] => (before, none)
  | _ :: r => (before, some r)

/-- The user in front of an authority's last at sign, and the rest. -/
def cutUser (cs : List Char) : List Char × List Char :=
  if cs.contains '@' then
    let host := (cs.reverse.takeWhile (· != '@')).reverse
    (cs.take (cs.length - host.length - 1), host)
  else ([], cs)

/-- A host and the text of its port. A host in square brackets may hold colons. -/
def cutPort (cs : List Char) : List Char × List Char :=
  let behindHost :=
    if cs.head? == some '[' && cs.contains ']' then (cs.reverse.takeWhile (· != ']')).reverse
    else cs.dropWhile (· != ':')
  let host := cs.take (cs.length - behindHost.length)
  (host, if behindHost.head? == some ':' then behindHost.drop 1 else behindHost)

/-- The port by which a scheme is usually reached. -/
def usualPort? (scheme : List Char) : Option Nat :=
  [("ftp", 21), ("http", 80), ("https", 443), ("ws", 80), ("wss", 443)].lookup (String.ofList scheme)

/-- A port as a number, nothing for the usual one; the outer level says whether it is a port. -/
def port? (scheme port : List Char) : Option (Option Nat) :=
  if port.isEmpty then some none
  else
    match (String.ofList port).toNat? with
    | none => none
    | some n => some (if usualPort? scheme == some n then none else some n)

/-- An address read from its parts, in one spelling. A path behind a host begins with a slash; a path
that stands alone begins neither with a colon nor with two slashes. -/
def Address.ofParts? (scheme authority path : List Char) (query fragment : Option (List Char)) :
    Option Address :=
  let scheme := scheme.map Char.toLower
  let (user, place) := cutUser authority
  let (host, port) := cutPort place
  match port? scheme port with
  | none => none
  | some port =>
    let placed := !user.isEmpty || !host.isEmpty || port.isSome
    if placed && !path.isEmpty && path.head? != some '/' then none
    else if scheme.isEmpty && !placed && (path.head? == some ':' || path.take 2 == ['/', '/']) then
      none
    else
      let path := if placed || !scheme.isEmpty then straighten path else path
      some { scheme, user, host := host.map Char.toLower, port, path := spellPath path
             query := query.map spellQuery, fragment := fragment.map spellFragment }

/-- Reads an address; a text with control characters is none. -/
def Address.read? (cs : List Char) : Option Address :=
  if cs.any fun c => c.toNat < 0x20 || c.toNat == 0x7f then none
  else
    let (scheme, cs) := cutScheme cs
    let (authority, cs) := cutAuthority cs
    let (front, fragment) := cutAtMark '#' cs
    let (path, query) := cutAtMark '?' front
    Address.ofParts? scheme authority path query fragment

/-! ## Writing -/

/-- The authority as written. -/
def Address.authority (a : Address) : List Char :=
  (if a.user.isEmpty then [] else a.user ++ ['@']) ++ a.host ++
    (match a.port with
    | none => []
    | some n => ':' :: (toString n).toList)

/-- The address as written. -/
def Address.written (a : Address) : List Char :=
  (if a.scheme.isEmpty then [] else a.scheme ++ [':']) ++
    (if a.authority.isEmpty then [] else '/' :: '/' :: a.authority) ++ a.path ++
    (match a.query with
    | none => []
    | some q => '?' :: q) ++
    (match a.fragment with
    | none => []
    | some f => '#' :: f)

/-- What is asked of the server: the path, at least a slash, and the query. -/
def Address.target (a : Address) : List Char :=
  (if a.path.isEmpty then ['/'] else a.path) ++
    (match a.query with
    | none => []
    | some q => '?' :: q)

/-- The same server asked for something else. -/
def Address.retarget? (a : Address) (target : List Char) : Option Address :=
  let (path, query) := cutAtMark '?' target
  Address.ofParts? a.scheme a.authority path query a.fragment

/-- The address names a server. -/
def Address.standsAlone (a : Address) : Bool := !a.scheme.isEmpty && !a.host.isEmpty

/-- The server's base address, as a place that others lie under. -/
def base? (cs : List Char) : Option Address :=
  (Address.read? cs).bind fun a =>
    if a.target.getLast? == some '/' then some a else a.retarget? (a.target ++ ['/'])

/-- The full address behind a text. -/
def resolve? (base reference : String) : Option String := do
  let server ← base? base.toList
  let a ← Address.read? reference.toList
  let full ← if a.standsAlone then some a else
    server.retarget? (server.target ++ a.target.dropWhile (· == '/'))
  return String.ofList full.written

end StickerPages.Remote
