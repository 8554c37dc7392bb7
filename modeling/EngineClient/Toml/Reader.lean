import EngineClient.Toml.Scalar

/-!
# Reading TOML

`Toml.parse` reads a document into the fields of its root table. Arrays and inline tables may have
line breaks, comments and a comma after the last item, and nest at most 80 deep.
-/

namespace EngineClient.Toml

/-! ## Values -/

/-- Items between commas up to a closing mark, which may follow a comma. The fuel is at least the
length of the input. -/
def itemsUntil {α : Type} (close : Char) (item : Reads α) : Nat → Reads (List α)
  | 0, _ => none
  | fuel + 1, cs => do
    match ← skipFiller false cs with
    | [] => none
    | c :: cs =>
      if c = close then return ([], cs)
      let (first, cs) ← item (c :: cs)
      match ← skipFiller false cs with
      | [] => none
      | c :: cs =>
        if c = close then return ([first], cs)
        else if c = ',' then
          let (others, cs) ← itemsUntil close item fuel cs
          return (first :: others, cs)
        else none

/-- A key, an equals sign and a value. -/
def keyValue (value : Reads Value) : Reads (List String × Value) := fun cs => do
  let (path, rest) ← key cs
  match rest with
  | '=' :: rest =>
    let (assigned, rest) ← value (skipSpace rest)
    return ((path, assigned), rest)
  | _ => none

/-- The table of key-value pairs. -/
def inlineTable? (pairs : List (List String × Value)) : Option Value := do
  let fields ← pairs.foldlM (fun fields pair => Fields.assign pair.2 none pair.1 fields) []
  return .table .inline fields

/-- A value, in which arrays and inline tables nest at most `depth` deep. -/
def value (depth : Nat) : Reads Value := fun cs =>
  match cs with
  | [] => none
  | c :: rest =>
    if c = '"' ∨ c = '\x27' then do
      let (s, rest) ← text cs
      return (.string s, rest)
    else if c = '[' then
      match depth with
      | 0 => none
      | depth + 1 => do
        let (items, rest) ← itemsUntil ']' (value depth) cs.length rest
        return (.array items, rest)
    else if c = '{' then
      match depth with
      | 0 => none
      | depth + 1 => do
        let (pairs, rest) ← itemsUntil '}' (keyValue (value depth)) cs.length rest
        return (← inlineTable? pairs, rest)
    else do
      let (chars, rest) := word cs
      return (← wordValue? chars, rest)
termination_by structural depth

/-! ## Documents -/

/-- How deep arrays and inline tables may nest. -/
def maxDepth : Nat := 80

/-- The part of a document that has been read. -/
structure Progress where
  /-- The root table so far. -/
  root : Fields
  /-- The path of the latest header. -/
  path : List String

/-- A key that names a table: its last part, in the table that the others lead to. -/
def Progress.open (progress : Progress) (path : List String)
    (openAt : String → Fields → Option Fields) : Option Progress := do
  let last ← path.getLast?
  let root ← Fields.within (openAt last) path.dropLast progress.root
  return ⟨root, path⟩

/-- One header or key-value pair, up to the end of its line. -/
def statement (progress : Progress) (cs : List Char) : Option (Progress × List Char) :=
  match cs with
  | '[' :: '[' :: rest => do
    let (path, rest) ← key rest
    match rest with
    | ']' :: ']' :: rest => return (← progress.open path Fields.openElement, ← endLine false rest)
    | _ => none
  | '[' :: rest => do
    let (path, rest) ← key rest
    match rest with
    | ']' :: rest => return (← progress.open path Fields.openTable, ← endLine false rest)
    | _ => none
  | _ => do
    let ((path, assigned), rest) ← keyValue (value maxDepth) cs
    let root ← Fields.within (Fields.assign assigned none path) progress.path progress.root
    return ({ progress with root }, ← endLine false rest)

/-- Statements up to the end. The fuel is more than the length of the input. -/
def statements : Nat → Progress → List Char → Option Fields
  | 0, _, _ => none
  | fuel + 1, progress, cs => do
    match ← skipFiller false cs with
    | [] => return progress.root
    | cs =>
      let (progress, rest) ← statement progress cs
      statements fuel progress rest

/-- Drops a byte order mark. -/
def dropMark : List Char → List Char
  | '\ufeff' :: cs => cs
  | cs => cs

/-- Reads a document. -/
def parse (document : String) : Option Fields :=
  let cs := dropMark document.toList
  statements (cs.length + 1) ⟨[], []⟩ cs

end EngineClient.Toml
