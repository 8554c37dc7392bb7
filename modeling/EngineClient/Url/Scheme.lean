/-!
# Schemes of URLs

The well-known schemes name a server or a local file; their paths have a root, and a backslash
separates as a slash does. `isBreak` has the characters that are dropped wherever they stand in a
URL.
-/

namespace EngineClient.Url

/-! ## Schemes -/

/-- The well-known schemes that name a server, with their ports. -/
def defaultPorts : List (String × Nat) :=
  [("http", 80), ("https", 443), ("ws", 80), ("wss", 443), ("ftp", 21)]

/-- The scheme of local files. -/
def fileScheme : String := "file"

/-- Whether a scheme is well known. -/
def isSpecial (scheme : String) : Bool :=
  scheme == fileScheme || (defaultPorts.lookup scheme).isSome

/-- Whether a character separates path segments. -/
def isSlash (special : Bool) (c : Char) : Bool :=
  c == '/' || (special && c == '\\')

/-! ## Breaks -/

/-- A tab or a line break. -/
def isBreak (c : Char) : Bool :=
  c == '\t' || c == '\n' || c == '\r'

/-- A text without tabs and line breaks. -/
def dropBreaks (cs : List Char) : List Char :=
  cs.filter (! isBreak ·)

end EngineClient.Url
