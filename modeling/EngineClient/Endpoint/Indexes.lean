import EngineClient.Endpoint.Basic
import EngineClient.Text.Blank

/-!
# Endpoints for indexes

Administration of indexes. An index that is not there is an answer, not a failure, where the
question is whether it is there, and where it is to be deleted by name.
-/

namespace EngineClient

/-- What the engine says about indexes. -/
structure IndexAnswer where
  isPresent : Bool
  /-- The names that were asked for. -/
  names : List String
  deriving DecidableEq

namespace IndexAnswer

/-- Whether an index is there, without names. -/
def presence (isPresent : Bool) : IndexAnswer :=
  ⟨isPresent, []⟩

/-- Names of indexes; there is one if there is a name. -/
def listing (names : List String) : IndexAnswer :=
  ⟨!names.isEmpty, names⟩

end IndexAnswer

namespace Endpoint

/-! ## Asking -/

/-- Whether an index is there. -/
def indexExists (index : String) : Endpoint IndexAnswer where
  operation := "INDEX EXIST"
  action := "Index exists"
  index := index
  request := .bare .head [index]
  tolerated := [(.notFound, .presence false)]
  read := ignoreBody (.presence true)

/-- Reads a list of names, one on each line. -/
def readNames (response : Response) : Except CallError IndexAnswer :=
  match response.text with
  | .ok text => .ok (.listing (Text.words '\n' text))
  | .error fault => .error (.unexpected s!"Cannot convert the indexes list: {fault.message}")

/-- The indexes whose names match a pattern. -/
def findIndexes (pattern : String) : Endpoint IndexAnswer where
  operation := "FIND INDEXES"
  action := "Find indexes"
  index := pattern
  request := (Request.bare .get ["_cat", "indices", pattern]).withParameter "h" "index"
  tolerated := [(.notFound, .listing [])]
  read := readNames

/-- Whether an index has a mapping. -/
def mappingExists (index : String) : Endpoint Bool where
  operation := "MAPPING EXIST"
  action := "Mapping exists"
  index := index
  request := .bare .get [index, "_mapping"]
  tolerated := [(.notFound, false)]
  read := ignoreBody true

/-! ## Changing -/

/-- Creates an index with the given settings. -/
def createIndex (index : String) (settings : Json) : Endpoint Unit where
  operation := "CREATE INDEX"
  action := "Create index"
  index := index
  request := (Request.bare .put [index]).withJson settings.text
  read := ignoreBody ()

/-- Puts a mapping on an index. -/
def putMapping (index : String) (mapping : Json) : Endpoint Unit where
  operation := "PUT MAPPING"
  action := "Create mapping"
  index := index
  request := (Request.bare .put [index, "_mapping"]).withJson mapping.text
  read := ignoreBody ()

/-- The name that stands for every index. -/
def everyIndex : String := "_all"

/-- Makes recent writes to an index visible. -/
def refresh (index : String) : Endpoint Unit where
  operation := "REFRESH INDEX"
  action := "Refresh indexes"
  index := index
  request := .bare .post [index, "_refresh"]
  read := ignoreBody ()

/-- Makes recent writes to all indexes visible. -/
def refreshAll : Endpoint Unit where
  operation := "REFRESH INDEX"
  action := "Refresh all indexes"
  index := everyIndex
  request := .bare .post ["_refresh"]
  read := ignoreBody ()

/-- Deletes an index by name. -/
def deleteIndex (index : String) : Endpoint Unit where
  operation := "DELETE INDEX"
  action := "Delete indexes"
  index := index
  request := .bare .delete [index]
  tolerated := [(.notFound, ())]
  read := ignoreBody ()

/-- Deletes all indexes. -/
def deleteAllIndexes : Endpoint Unit where
  operation := "DELETE INDEX"
  action := "Delete all indexes"
  index := everyIndex
  request := .bare .delete [everyIndex]
  read := ignoreBody ()

end Endpoint

end EngineClient
