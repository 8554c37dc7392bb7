import EngineClient.Url.Basic
import EngineClient.Url.Form

/-!
# Extending URLs

Adding segments to the path of a URL and pairs to its query. A slash at the end of the path gives
way to the first segment added. Segments are encoded, so that a slash in one does not
separate; tabs and line breaks in a segment are dropped, and the segments `.` and `..` are passed
over.
-/

namespace EngineClient.Url

/-! ## Path -/

/-- The text of a path without the slash it ends with; the root alone stays. -/
def popEmpty (text : List Char) : List Char :=
  if 2 ≤ text.length ∧ text.getLast? = some '/' then text.dropLast else text

/-- The characters that are encoded in segments. -/
def segmentSet (scheme : String) : Percent.EncodeSet :=
  if isSpecial scheme then Percent.specialSegmentSet else Percent.segmentSet

/-- Adds a segment behind a slash, for which the root alone stands. A segment that turns into `.` or
`..` once tabs are dropped is resolved against the path. -/
def push (scheme : String) (draft : Path.Draft) (segment : String) : Path.Draft :=
  if segment = "." ∨ segment = ".." then draft
  else
    let base :=
      match draft.held with
      | [_] => draft
      | _ => draft.write ['/']
    (base.add scheme (segmentSet scheme) segment.toList []).trimRoot scheme

/-- Adds segments in order. -/
def extend (scheme : String) (text : List Char) (added : List String) : List Char :=
  (added.foldl (push scheme) (.ofText (popEmpty text))).text

/-- The URL with segments added to its path; none if the path has no root. -/
def withSegments? (url : Url) (added : List String) : Option Url :=
  match url.path with
  | .rootless _ => none
  | .rooted text =>
    some { url with path := .rooted (String.ofList (extend url.scheme text.toList added)) }

/-! ## Query -/

/-- The URL with pairs added to its query, which is left alone if there are none. -/
def withPairs (url : Url) (pairs : List (String × String)) : Url :=
  if pairs.isEmpty then url
  else
    let query := pairs.foldl Form.append (url.query.getD "").toList
    { url with query := some (String.ofList query) }

end EngineClient.Url
