import EngineClient.Client.Basic

/-!
# Commands

All that a client can be told to do, as data: a `Command` with an answer of type `α` is one call of
the client with its arguments, and `Client.perform` is that call. What holds of every call is said
of every command.
-/

namespace EngineClient

/-- A call of a client on records of type `S` and queries of type `Q`, answered by an `α`. -/
inductive Command (S Q : Type) : Type → Type where
  | insert (index : String) (id : Option String) (record : S) : Command S Q Stored
  | upsert (item : Upsert S) : Command S Q UpsertOutcome
  | upsertBatch (batch : List (Upsert S)) : Command S Q BatchOutcome
  | query (index : String) (query : Q) : Command S Q (QueryResult S)
  | find (index : String) (query : Q) : Command S Q (Option S)
  | count (index : String) (query : Q) : Command S Q Nat
  | delete (index id : String) : Command S Q Unit
  | deleteByQuery (index : String) (query : Q) : Command S Q Unit
  | indexExists (index : String) : Command S Q IndexAnswer
  | findIndexes (pattern : String) : Command S Q IndexAnswer
  | mappingExists (index : String) : Command S Q Bool
  | createIndex (index : String) (settings : Json) : Command S Q Unit
  | putMapping (index : String) (mapping : Json) : Command S Q Unit
  | refresh (index : String) : Command S Q Unit
  | refreshAll : Command S Q Unit
  | deleteIndexes (indexes : List String) : Command S Q Unit
  | deleteAllIndexes : Command S Q Unit

variable {S Q α : Type}

/-- How many different things a command asks the engine at most. -/
def Command.questions : Command S Q α → Nat
  | .deleteIndexes indexes => indexes.length
  | _ => 1

/-- Does what a command says. -/
def Client.perform (client : Client S Q) : Command S Q α → Operation α
  | .insert index id record => client.insert index id record
  | .upsert item => client.upsert item
  | .upsertBatch batch => client.upsertBatch batch
  | .query index query => client.query index query
  | .find index query => client.find index query
  | .count index query => client.count index query
  | .delete index id => client.delete index id
  | .deleteByQuery index query => client.deleteByQuery index query
  | .indexExists index => client.ask (.indexExists index)
  | .findIndexes pattern => client.ask (.findIndexes pattern)
  | .mappingExists index => client.ask (.mappingExists index)
  | .createIndex index settings => client.ask (.createIndex index settings)
  | .putMapping index mapping => client.ask (.putMapping index mapping)
  | .refresh index => client.ask (.refresh index)
  | .refreshAll => client.ask .refreshAll
  | .deleteIndexes indexes => client.deleteIndexes indexes
  | .deleteAllIndexes => client.ask .deleteAllIndexes

end EngineClient
