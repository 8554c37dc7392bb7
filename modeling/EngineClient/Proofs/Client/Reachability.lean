import EngineClient.Client.Setup
import EngineClient.Proofs.Url.Bases

/-!
# Nodes of a client that was set up

A client that is set up without a transport of its own reads the nodes of its configuration as URLs
and refuses what is none. Among what is left, a node serves every request or none
(`Cluster.Serves`), and which of the two shows in its text.

**`ClientParts.setUp_serves`**: so a node such as `localhost:9200`, which is read as a URL of the
scheme `localhost`, is let through, and each round trip that has its turn fails.
-/

namespace EngineClient

open Fallible

/-! ## Clusters -/

namespace Cluster

/-- A node that was given as a text and read as a URL resolves every request, if the text names a
root, and otherwise none. -/
structure Serves (s : String) (node : Url) : Prop where
  parsed : Url.parse s = .ok node
  resolves_iff : ∀ request : Request,
    (∃ url, request.resolve node = .ok url) ↔ Url.namesRoot s = true
  refuses : Url.namesRoot s = false →
    ∀ request : Request, request.resolve node = .error (.invalidUrl node.text)

theorem serves_of_parse {s : String} {node : Url} (parsed : Url.parse s = .ok node) :
    Serves s node := by
  have root := Url.hasRoot_of_parse parsed
  refine ⟨parsed, fun request => ?_, fun none request => ?_⟩
  · constructor
    · rintro ⟨url, resolved⟩
      by_contra none
      rw [← root, Bool.not_eq_true] at none
      rw [Request.resolve_of_not_hasRoot none] at resolved
      cases resolved
    · intro named
      exact Request.resolve_of_hasRoot (root.trans named) request
  · exact Request.resolve_of_not_hasRoot (root.trans none) request

theorem ofOptions_eq_ok_iff {options : ClusterOptions} {cluster : Cluster} :
    ofOptions options = .ok cluster ↔ cluster.options = options ∧
      isHeaderValue options.userAgent = true ∧
        List.Forall₂ (fun s node => Url.parse s = .ok node) options.nodes cluster.nodes := by
  have read_iff : ∀ nodes, options.nodes.mapM readNode = .ok nodes ↔
      List.Forall₂ (fun s node => Url.parse s = .ok node) options.nodes nodes :=
    mapM_eq_ok_iff fun _ _ _ => mapError_eq_ok_iff
  obtain ⟨known, nodes, some⟩ := cluster
  rw [← read_iff, ofOptions]
  cases options.nodes.mapM readNode with
  | error error => simp
  | ok found =>
    cases found with
    | nil => simp [some.symm]
    | cons node others =>
      cases isHeaderValue options.userAgent with
      | true => simp [eq_comm]
      | false => simp

/-! ## Round trips -/

theorem wireRequest_eq_invalidUrl_iff {options : ClusterOptions} {node : Url} {request : Request}
    {text : String} :
    wireRequest options node request = .error (.invalidUrl text) ↔
      request.resolve node = .error (.invalidUrl text) := by
  rw [wireRequest, bind_eq_error_iff]
  refine or_iff_left ?_
  -- a URL that was resolved and cannot be sent to is another failure
  rintro ⟨url, -, failed⟩
  dsimp only at failed
  split at failed <;> cases failed

theorem exchange_eq_invalidUrl_iff {σ : Type} {cluster : Cluster}
    {network : WireRequest → σ → WireAnswer × σ} {request : Request} {turn : UInt64} {state : σ}
    {text : String} :
    (cluster.exchange network request (turn, state)).1 = .error (.invalidUrl text) ↔
      request.resolve (cluster.node turn) = .error (.invalidUrl text) := by
  rw [← wireRequest_eq_invalidUrl_iff, exchange]
  cases wireRequest cluster.options (cluster.node turn) request with
  | error error => simp
  | ok wire =>
    refine iff_of_false ?_ nofun
    intro failed
    cases answer : (network wire state).1 <;> simp [answer, WireAnswer.outcome] at failed

/-- The node that has a turn is one of those that were given. -/
theorem exists_serves_node {cluster : Cluster} {texts : List String}
    (serves : List.Forall₂ Serves texts cluster.nodes) (turn : UInt64) :
    ∃ s, texts[turn.toNat % texts.length]? = some s ∧ Serves s (cluster.node turn) := by
  have lengths : texts.length = cluster.nodes.length := serves.length_eq
  have inside : turn.toNat % texts.length < texts.length :=
    Nat.mod_lt _ (lengths ▸ cluster.nodes_length_pos)
  have paired := serves.get inside (lengths ▸ inside)
  refine ⟨_, List.getElem?_eq_getElem inside, ?_⟩
  simpa [node, nodeIndex, lengths] using paired

/-- A round trip for want of a URL fails exactly if the node that has the turn names no root. -/
theorem exists_exchange_eq_invalidUrl_iff {σ : Type} {cluster : Cluster} {texts : List String}
    (serves : List.Forall₂ Serves texts cluster.nodes)
    (network : WireRequest → σ → WireAnswer × σ) (request : Request) (turn : UInt64) (state : σ) :
    (∃ text, (cluster.exchange network request (turn, state)).1 = .error (.invalidUrl text)) ↔
      ∃ s, texts[turn.toNat % texts.length]? = some s ∧ Url.namesRoot s = false := by
  obtain ⟨s, given, turned⟩ := exists_serves_node serves turn
  simp only [exchange_eq_invalidUrl_iff, given, Option.some.injEq, exists_eq_left']
  constructor
  · rintro ⟨text, failed⟩
    by_contra named
    rw [Bool.not_eq_false] at named
    obtain ⟨url, resolved⟩ := (turned.resolves_iff request).mpr named
    rw [resolved] at failed
    cases failed
  · intro none
    exact ⟨_, turned.refuses none request⟩

end Cluster

/-! ## Setting up -/

namespace ClientParts

variable {S Q T : Type} {parts : ClientParts S Q T} {setup : ClientSetup S Q T}

theorem required_eq_ok_iff {α : Type} {name : String} {part : Option α} {found : α} :
    required name part = .ok found ↔ part = some found := by
  cases part <;> simp [required]

theorem setUp_eq_ok_iff (own : parts.transport = none) :
    parts.setUp = .ok setup ↔ ∃ configuration records queries cluster,
      parts.configuration = some configuration ∧ parts.records = some records ∧
      parts.queries = some queries ∧ configuration.validate = .ok () ∧
      Cluster.ofOptions configuration.clusterOptions = .ok cluster ∧
      setup = ⟨⟨configuration, records, queries⟩, .cluster cluster, parts.counts.getD .zero⟩ := by
  have destination_iff {configuration : Configuration} {destination : Destination T} :
      parts.destination configuration = .ok destination ↔ ∃ cluster,
        Cluster.ofOptions configuration.clusterOptions = .ok cluster ∧
          destination = .cluster cluster := by
    rw [ClientParts.destination, own]
    cases Cluster.ofOptions configuration.clusterOptions <;> simp [eq_comm]
  simp only [setUp, bind_eq_ok_iff, required_eq_ok_iff, destination_iff]
  constructor
  · rintro ⟨configuration, given, records, hasRecords, queries, hasQueries, _, valid, _,
      ⟨cluster, made, rfl⟩, same⟩
    cases same
    exact ⟨configuration, records, queries, cluster, given, hasRecords, hasQueries, valid, made,
      rfl⟩
  · rintro ⟨configuration, records, queries, cluster, given, hasRecords, hasQueries, valid, made,
      rfl⟩
    exact ⟨configuration, given, records, hasRecords, queries, hasQueries, (), valid, _,
      ⟨cluster, made, rfl⟩, rfl⟩

theorem nodes_clusterOptions (configuration : Configuration) :
    configuration.clusterOptions.nodes = configuration.nodes := by
  unfold Configuration.clusterOptions
  split <;> rfl

theorem userAgent_clusterOptions (configuration : Configuration) :
    configuration.clusterOptions.userAgent = ClusterOptions.standardUserAgent := by
  unfold Configuration.clusterOptions
  split <;> rfl

theorem nodes_ne_nil_of_validate {configuration : Configuration}
    (valid : configuration.validate = .ok ()) : configuration.nodes ≠ [] := by
  intro none
  rw [Configuration.validate, none] at valid
  cases valid

/-- Beside the parts, setting up takes a valid configuration whose nodes can be read as URLs. Of
what kind the URLs are does not matter. -/
theorem exists_setUp_iff (own : parts.transport = none) :
    (∃ setup, parts.setUp = .ok setup) ↔ parts.records.isSome ∧ parts.queries.isSome ∧
      ∃ configuration nodes, parts.configuration = some configuration ∧
        configuration.validate = .ok () ∧
          List.Forall₂ (fun s node => Url.parse s = .ok node) configuration.nodes nodes := by
  simp only [setUp_eq_ok_iff own, Cluster.ofOptions_eq_ok_iff, nodes_clusterOptions]
  constructor
  · rintro ⟨setup, configuration, records, queries, cluster, given, hasRecords, hasQueries, valid,
      ⟨-, -, read⟩, -⟩
    rw [hasRecords, hasQueries]
    exact ⟨rfl, rfl, configuration, cluster.nodes, given, valid, read⟩
  · rintro ⟨hasRecords, hasQueries, configuration, nodes, given, valid, read⟩
    -- no configuration names the client, so this refusal is never met
    have known : Cluster.isHeaderValue configuration.clusterOptions.userAgent = true := by
      rw [userAgent_clusterOptions]
      decide
    obtain ⟨records, hasRecords⟩ := Option.isSome_iff_exists.mp hasRecords
    obtain ⟨queries, hasQueries⟩ := Option.isSome_iff_exists.mp hasQueries
    have some : nodes ≠ [] := by
      rintro rfl
      exact nodes_ne_nil_of_validate valid (List.forall₂_nil_right_iff.mp read)
    exact ⟨_, configuration, records, queries, ⟨configuration.clusterOptions, nodes, some⟩, given,
      hasRecords, hasQueries, valid, ⟨rfl, known, read⟩, rfl⟩

/-- **What a client that was set up can reach.** Each node of its configuration was read as a URL
that resolves every request, if the text of the node names a root. Otherwise it resolves none, and
then a round trip fails for this reason exactly if it is the turn of such a node. -/
theorem setUp_serves (built : parts.setUp = .ok setup) (own : parts.transport = none) :
    ∃ cluster, setup.destination = .cluster cluster ∧
      parts.configuration = some setup.client.configuration ∧
      List.Forall₂ Cluster.Serves setup.client.configuration.nodes cluster.nodes ∧
      ∀ {σ : Type} (network : WireRequest → σ → WireAnswer × σ) (request : Request)
        (turn : UInt64) (state : σ),
        let nodes := setup.client.configuration.nodes
        (∃ text, (cluster.exchange network request (turn, state)).1 = .error (.invalidUrl text)) ↔
          ∃ s, nodes[turn.toNat % nodes.length]? = some s ∧ Url.namesRoot s = false := by
  obtain ⟨configuration, records, queries, cluster, given, -, -, -, made, rfl⟩ :=
    (setUp_eq_ok_iff own).mp built
  obtain ⟨-, -, read⟩ := Cluster.ofOptions_eq_ok_iff.mp made
  rw [nodes_clusterOptions] at read
  have serves : List.Forall₂ Cluster.Serves configuration.nodes cluster.nodes :=
    read.imp fun _ _ => Cluster.serves_of_parse
  exact ⟨cluster, rfl, given, serves, Cluster.exists_exchange_eq_invalidUrl_iff serves⟩

/-- Two nodes, of which the second lacks its scheme: every other round trip fails. -/
theorem setUp_serves_two :
    let configuration : Configuration :=
      { Configuration.standard with nodes := ["http://localhost:9200", "localhost:9200"] }
    let parts : ClientParts Json Json Unit := ⟨configuration, RecordCodec.plain, QueryCodec.plain,
      none, none⟩
    ∃ setup cluster, parts.setUp = .ok setup ∧ setup.destination = .cluster cluster ∧
      ∀ {σ : Type} (network : WireRequest → σ → WireAnswer × σ) (request : Request)
        (turn : UInt64) (state : σ),
        (∃ text, (cluster.exchange network request (turn, state)).1 = .error (.invalidUrl text)) ↔
          turn.toNat % 2 = 1 := by
  intro configuration parts
  have urls : List.Forall₂ (fun s node => Url.parse s = .ok node) configuration.nodes
      [⟨"http", some ⟨"", none, .domain "localhost", some 9200⟩, false, .rooted "/", none, none⟩,
        ⟨"localhost", none, false, .rootless "9200", none, none⟩] :=
    .cons (by decide +kernel) (.cons (by decide +kernel) .nil)
  have own : parts.transport = none := rfl
  obtain ⟨setup, built⟩ :=
    (exists_setUp_iff own).mpr ⟨rfl, rfl, configuration, _, rfl, rfl, urls⟩
  obtain ⟨cluster, destination, given, -, fails_iff⟩ := setUp_serves built own
  refine ⟨setup, cluster, built, destination, ?_⟩
  intro σ network request turn state
  refine (fails_iff network request turn state).trans ?_
  rw [← Option.some.inj given]
  show (∃ s, configuration.nodes[turn.toNat % 2]? = some s ∧ Url.namesRoot s = false) ↔ _
  rcases Nat.mod_two_eq_zero_or_one turn.toNat with even | odd
  · rw [even]
    decide
  · rw [odd]
    decide

/-- A client is set up for a node without a scheme, and no request can be sent to it. -/
theorem setUp_of_schemeless :
    let configuration : Configuration :=
      { Configuration.standard with nodes := ["localhost:9200"] }
    let parts : ClientParts Json Json Unit := ⟨configuration, RecordCodec.plain, QueryCodec.plain,
      none, none⟩
    ∃ setup cluster, parts.setUp = .ok setup ∧ setup.destination = .cluster cluster ∧
      ∀ (request : Request) (turn : UInt64), request.resolve (cluster.node turn) =
        .error (.invalidUrl "localhost:9200") := by
  intro configuration parts
  let node : Url := ⟨"localhost", none, false, .rootless "9200", none, none⟩
  have parsed : Url.parse "localhost:9200" = .ok node := by decide +kernel
  have text : node.text = "localhost:9200" := by decide +kernel
  have own : parts.transport = none := rfl
  obtain ⟨setup, built⟩ := (exists_setUp_iff own).mpr
    ⟨rfl, rfl, configuration, [node], rfl, rfl, .cons parsed .nil⟩
  obtain ⟨_, _, _, cluster, given, -, -, -, made, rfl⟩ := (setUp_eq_ok_iff own).mp built
  cases given
  obtain ⟨-, -, read⟩ := Cluster.ofOptions_eq_ok_iff.mp made
  refine ⟨_, cluster, built, rfl, ?_⟩
  intro request turn
  obtain ⟨s, there, serves⟩ :=
    Cluster.exists_serves_node (read.imp fun _ _ => Cluster.serves_of_parse) turn
  obtain rfl := List.eq_of_mem_singleton (List.mem_of_getElem? there)
  rw [← text, Except.ok.inj (parsed.symm.trans serves.parsed)]
  exact serves.refuses (by decide) request

end ClientParts

end EngineClient
