import EngineClient.Url.Host
import EngineClient.Url.Path

/-!
# URLs

A URL is kept in the parts that matter here, as they are written. A URL without a server whose path
looks like one is written with a guard, `/.`, before the path.
-/

namespace EngineClient

/-- The part of a URL that names a server. -/
structure Url.Authority where
  /-- The encoded user name, empty if there is none. -/
  username : String
  /-- The encoded password, if there is one. -/
  password : Option String
  host : Host
  /-- The port, unless it is the one of the scheme. -/
  port : Option Nat
  deriving DecidableEq

/-- A URL. -/
structure Url where
  /-- The scheme in lower case. -/
  scheme : String
  /-- The server, if one is named. -/
  authority : Option Url.Authority
  /-- Whether a guard stands before the path. -/
  guarded : Bool
  path : Url.Path
  /-- The encoded query, if there is one. -/
  query : Option String
  /-- The encoded fragment, if there is one. -/
  fragment : Option String
  deriving DecidableEq

namespace Url

/-! ## Writing -/

/-- Whether there is a user name or a password. -/
def Authority.hasCredentials (authority : Authority) : Bool :=
  !authority.username.isEmpty || authority.password.isSome

/-- User name and password, if any, before the host. -/
def Authority.credentialChars (authority : Authority) : List Char :=
  let password :=
    match authority.password with
    | some password => ':' :: password.toList
    | none => []
  if authority.hasCredentials then authority.username.toList ++ password ++ ['@'] else []

/-- The server as it stands in a URL. -/
def Authority.chars (authority : Authority) : List Char :=
  let port :=
    match authority.port with
    | some port => ':' :: Nat.toDigits 10 port
    | none => []
  ['/', '/'] ++ authority.credentialChars ++ authority.host.chars ++ port

/-- A part behind a mark, if it is there. -/
def partChars (mark : Char) : Option String → List Char
  | some part => mark :: part.toList
  | none => []

/-- The URL as text. -/
def chars (url : Url) : List Char :=
  let server := url.authority.elim [] Authority.chars
  let guard := if url.guarded then ['/', '.'] else []
  url.scheme.toList ++ ':' :: server ++ guard ++ url.path.chars ++ partChars '?' url.query
    ++ partChars '#' url.fragment

/-- The URL as text. -/
def text (url : Url) : String :=
  String.ofList url.chars

end Url

end EngineClient
