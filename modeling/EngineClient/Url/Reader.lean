import EngineClient.Url.Basic

/-!
# Reading URLs

`Url.parse` reads an absolute URL. Control characters and spaces around it are dropped, tabs and
line breaks anywhere. Of the well-known schemes, any number of slashes may precede the server, a
backslash counts as a slash, and there is always a root; `.` and `..` are resolved while the path is
read. A scheme that is not well known names a server only behind two slashes, and what follows it
without a slash is a path without a root.
-/

namespace EngineClient.Url

/-! ## Parts -/

/-- Drops control characters and spaces at both ends. -/
def trim (s : String) : List Char :=
  let isOuter (c : Char) : Bool := c.toNat ≤ 0x20
  ((s.toList.dropWhile isOuter).reverse.dropWhile isOuter).reverse

/-- Whether a character may stand in a scheme. -/
def isSchemeChar (c : Char) : Bool :=
  c.isAlphanum || c == '+' || c == '-' || c == '.'

/-- What stands before the first occurrence of a mark, and behind it if it occurs. -/
def splitAtMark (mark : Char) (cs : List Char) : List Char × Option (List Char) :=
  match cs.dropWhile (· ≠ mark) with
  | [] => (cs, none)
  | _ :: rest => (cs.takeWhile (· ≠ mark), some rest)

/-- The scheme in lower case, and what follows its colon. -/
def splitScheme? (cs : List Char) : Option (String × List Char) :=
  match splitAtMark ':' cs with
  | (_, none) => none
  | (front, some rest) =>
    let scheme := dropBreaks front
    if scheme.head?.any Char.isAlpha ∧ scheme.all isSchemeChar then
      some (String.ofList (scheme.map Char.toLower), rest)
    else none

/-- What follows a slash, if a text starts with one. -/
def afterSlash? (special : Bool) (cs : List Char) : Option (List Char) :=
  match cs.dropWhile isBreak with
  | [] => none
  | c :: rest => if isSlash special c then some rest else none

/-! ## Server -/

/-- What stands before the last `@`, if there is one, and what follows. -/
def splitCredentials (cs : List Char) : Option (List Char) × List Char :=
  match cs.reverse.dropWhile (· ≠ '@') with
  | [] => (none, cs)
  | _ :: front => (some front.reverse, (cs.reverse.takeWhile (· ≠ '@')).reverse)

/-- The host before the colon of a port; a colon between brackets belongs to the host. -/
def splitPort (bracketed : Bool) : List Char → List Char × Option (List Char)
  | [] => ([], none)
  | c :: cs =>
    if c = ':' ∧ !bracketed then ([], some cs)
    else
      let inside := c = '[' ∨ (c ≠ ']' ∧ bracketed)
      let (host, port) := splitPort inside cs
      (c :: host, port)

/-- Reads a port; that of the scheme, or none at all, is left out. -/
def readPort (scheme : String) (cs : List Char) : Except UrlError (Option Nat) :=
  if cs.isEmpty then .ok none
  else
    match Host.digitsValue? 10 cs with
    | none => .error .invalidPort
    | some port =>
      if UInt16.size ≤ port then .error .invalidPort
      else if defaultPorts.lookup scheme = some port then .ok none
      else .ok (some port)

/-- Encodes a part of the credentials. -/
def credential (cs : List Char) : String :=
  String.ofList (Percent.encode Percent.userinfoSet cs)

/-- Reads a server, and gives back what of the text belongs to the path: a backslash ends a port in
every scheme. Only the well-known schemes require a host. -/
def readAuthority (scheme : String) (cs : List Char) :
    Except UrlError (Authority × List Char) := do
  let special := isSpecial scheme
  let (credentials, rest) := splitCredentials cs
  let (hostText, portText) := splitPort false rest
  if hostText.isEmpty ∧ (special ∨ portText.isSome) then
    throw .emptyHost
  let host ← if special then Host.read hostText else Host.readElsewhere hostText
  let behind := portText.getD []
  let port ← readPort scheme (behind.takeWhile (· ≠ '\\'))
  let (name, password) := splitAtMark ':' (credentials.getD [])
  let authority : Authority :=
    ⟨credential name, (password.filter (! ·.isEmpty)).map credential, host, port⟩
  if hostText.isEmpty ∧ authority.hasCredentials then
    throw .emptyHost
  return (authority, behind.dropWhile (· ≠ '\\'))

/-! ## Path -/

/-- The pieces between slashes. -/
def slashPieces (special : Bool) : List Char → List (List Char)
  | [] => [[]]
  | c :: cs =>
    match slashPieces special cs with
    | [] => [[c]]
    | piece :: pieces =>
      if isSlash special c then [] :: piece :: pieces else (c :: piece) :: pieces

/-- Adds pieces to a path, all but the last of which end with a slash. -/
def Path.Draft.addPieces (draft : Path.Draft) (scheme : String) : List (List Char) → Path.Draft
  | [] => draft
  | [piece] => draft.add scheme Percent.pathSet piece []
  | piece :: pieces => (draft.add scheme Percent.pathSet piece ['/']).addPieces scheme pieces

/-- Reads what follows the start of a path. -/
def readPath (scheme : String) (start cs : List Char) : Path.Draft :=
  (Path.Draft.ofText start).addPieces scheme (slashPieces (isSpecial scheme) cs)

/-- A path that has been read. -/
def pathOf (scheme : String) (draft : Path.Draft) : Path :=
  .rooted (String.ofList (draft.trimRoot scheme).text)

/-! ## Hierarchies -/

/-- Reads server and path of a scheme other than that of files, behind two slashes; `followed` tells
whether a query or a fragment follows. -/
def readServed (scheme : String) (followed : Bool) (cs : List Char) :
    Except UrlError (Authority × Path) := do
  let special := isSpecial scheme
  let isServerChar (c : Char) : Bool := !isSlash special c
  let serverText := dropBreaks (cs.takeWhile isServerChar)
  let pathText := cs.dropWhile isServerChar
  if serverText = ['@'] ∧ (followed ∨ !pathText.isEmpty) then
    throw .emptyHost
  let (authority, left) ← readAuthority scheme serverText
  let pathText := left ++ pathText
  let draft :=
    if special then readPath scheme ['/'] (pathText.drop 1)
    else if pathText.isEmpty ∨ pathText.head? = some '/' then readPath scheme [] pathText
    else readPath scheme ['/'] pathText
  return (authority, pathOf scheme draft)

/-- The server of a file URL that names none. -/
def localMachine : Authority :=
  ⟨"", none, .domain "", none⟩

/-- Server and path of a file URL on the local machine. -/
def localFile (start cs : List Char) : Authority × Path :=
  (localMachine, pathOf fileScheme (readPath fileScheme start cs))

/-- Reads server and path of a file URL behind two slashes. A drive is no server, and a drive at the
root of the path takes the place of the server. -/
def readFileServer (cs : List Char) : Except UrlError (Authority × Path) := do
  let isServerChar (c : Char) : Bool := !isSlash true c
  let serverText := dropBreaks (cs.takeWhile isServerChar)
  let pathText := cs.dropWhile isServerChar
  if serverText.isEmpty ∨ Path.isDrive serverText then
    return localFile ['/'] cs
  let host ← Host.read serverText
  if host = .domain "localhost" then
    return localFile ['/'] pathText
  let draft := readPath fileScheme ['/'] (pathText.drop 1)
  let authority := if draft.hasDrive then localMachine else { localMachine with host }
  return (authority, pathOf fileScheme draft)

/-- Reads server and path of a file URL. -/
def readFile (cs : List Char) : Except UrlError (Authority × Path) :=
  match afterSlash? true cs with
  | none => .ok (localFile ['/'] cs)
  | some rest =>
    match afterSlash? true rest with
    | none => .ok (localFile [] cs)
    | some rest => readFileServer rest

/-- Reads server and path of a scheme that is not well known. -/
def readOther (scheme : String) (followed : Bool) (cs : List Char) :
    Except UrlError (Option Authority × Path) :=
  match afterSlash? false cs with
  | none => .ok (none, .rootless (String.ofList (Percent.encode Percent.controls (dropBreaks cs))))
  | some rest =>
    match afterSlash? false rest with
    | none => .ok (none, pathOf scheme (readPath scheme ['/'] rest))
    | some rest => (readServed scheme followed rest).map fun (server, path) => (some server, path)

/-- Server and path behind a scheme. -/
def readHierarchy (scheme : String) (followed : Bool) (cs : List Char) :
    Except UrlError (Option Authority × Path) :=
  let served (found : Authority × Path) : Option Authority × Path := (some found.1, found.2)
  if scheme = fileScheme then (readFile cs).map served
  else if isSpecial scheme then
    (readServed scheme followed (cs.dropWhile fun c => isSlash true c || isBreak c)).map served
  else readOther scheme followed cs

/-! ## Whole URLs -/

/-- Encodes a query or a fragment. -/
def encodePart (set : Percent.EncodeSet) (cs : List Char) : String :=
  String.ofList (Percent.encode set (dropBreaks cs))

/-- Reads an absolute URL. -/
def parse (s : String) : Except UrlError Url := do
  match splitScheme? (trim s) with
  | none => throw .relative
  | some (scheme, rest) =>
    let (front, fragment) := splitAtMark '#' rest
    let (hierarchy, query) := splitAtMark '?' front
    let (authority, path) ←
      readHierarchy scheme (query.isSome || fragment.isSome) hierarchy
    let querySet := if isSpecial scheme then Percent.specialQuerySet else Percent.querySet
    return {
      scheme, authority, path
      guarded := authority.isNone && ['/', '/'].isPrefixOf path.chars
      query := query.map (encodePart querySet)
      fragment := fragment.map (encodePart Percent.fragmentSet) }

end EngineClient.Url
