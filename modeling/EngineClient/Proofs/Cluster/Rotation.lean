import EngineClient.Call.Attempts
import EngineClient.Cluster.Basic
import Mathlib.Data.Int.CardIntervalMod
import Mathlib.Data.List.FinRange
import Mathlib.Logic.Relation

/-!
# Nodes in turn

Clones of a client share the cluster, and with it the number of the next turn. A round trip takes
its turn before it sends anything, so while one waits for its outcome others take theirs. `Traffic`
is a cluster at work: the number of the next turn, the calls of all callers, and the turns taken so
far in the order in which they were taken, each with what the network was handed. In `Traffic.Next`
a caller joins, reports, takes its turn or learns its outcome, so the runs of `Traffic.Next` are the
interleavings of any number of callers. What a turn does and what comes of it is taken from
`Cluster.exchange`, the two halves of which may lie apart (`Cluster.exists_exchange_eq`).

**`Traffic.fair_of_reachable`**: until the number of the next turn wraps around, the requests go to
the nodes in rotation (`Cluster.GoesTo`). Each window of as many turns as there are nodes has every
node once, whoever takes them.
-/

namespace EngineClient

open Call Relation

variable {α σ : Type}

/-! ## Numbers in rotation -/

section Rotation

variable {n first : ℕ} {indexes : List (Fin n)}

/-- The indexes go round and round, where the one at the beginning stands at place `first`. -/
def InRotation (first : ℕ) (indexes : List (Fin n)) : Prop :=
  indexes.map Fin.val = (List.range' first indexes.length).map (· % n)

theorem InRotation.of_append {before block after : List (Fin n)}
    (h : InRotation first (before ++ block ++ after)) :
    InRotation (first + before.length) block := by
  unfold InRotation at h
  rw [List.length_append, List.length_append, ← List.range'_append_1, ← List.range'_append_1] at h
  simp only [List.map_append] at h
  have cut := (List.append_inj h (by simp)).1
  exact (List.append_inj cut (by simp)).2

/-- A window as long as the list of nodes has each node once, wherever it begins. -/
theorem InRotation.perm_finRange (h : InRotation first indexes) (full : indexes.length = n) :
    indexes.Perm (List.finRange n) := by
  rw [← List.map_perm_map_iff Fin.val_injective, List.map_coe_finRange_eq_range, h, full,
    ← Multiset.coe_eq_coe]
  have window := Nat.multiset_Ico_map_mod first n
  rwa [Multiset.Ico, Nat.Ico_eq_range', Nat.add_sub_cancel_left] at window

theorem InRotation.mem (h : InRotation first indexes) (long : n ≤ indexes.length) (i : Fin n) :
    i ∈ indexes := by
  have window : InRotation first (indexes.take n) := by
    have parts : InRotation first ([] ++ indexes.take n ++ indexes.drop n) := by simpa using h
    exact parts.of_append
  have perm := window.perm_finRange (List.length_take_of_le long)
  exact List.mem_of_mem_take (perm.mem_iff.mpr (List.mem_finRange i))

theorem count_map_mod_range (m : ℕ) {i : ℕ} (lt : i < n) :
    ((List.range m).map (· % n)).count i = m / n + if i < m % n then 1 else 0 := by
  have residues := Nat.count_modEq_card m (Nat.zero_lt_of_lt lt) i
  rw [Nat.mod_eq_of_lt lt] at residues
  rw [← residues]
  clear residues
  induction m with
  | zero => rfl
  | succ m ih =>
    rw [List.range_succ, List.map_append, List.count_append, ih, Nat.count_succ, List.map_singleton,
      List.count_singleton]
    simp only [Nat.ModEq, Nat.mod_eq_of_lt lt, beq_iff_eq]

theorem InRotation.count_le (h : InRotation 0 indexes) (i j : Fin n) :
    indexes.count i ≤ indexes.count j + 1 := by
  have counted : ∀ k : Fin n, indexes.count k =
      indexes.length / n + if (k : ℕ) < indexes.length % n then 1 else 0 := by
    intro k
    rw [← List.count_map_of_injective indexes Fin.val Fin.val_injective, h, ← List.range_eq_range',
      count_map_mod_range _ k.isLt]
  rw [counted i, counted j]
  split <;> omega

theorem InRotation.isChain (h : InRotation first indexes) (two : 2 ≤ n) :
    indexes.IsChain (· ≠ ·) := by
  have steps : ((List.range' first indexes.length).map (· % n)).IsChain (· ≠ ·) := by
    rw [List.isChain_map]
    refine (List.isChain_range' first indexes.length 1).imp ?_
    rintro place _ rfl same
    have dvd := Nat.sub_mod_eq_zero_of_mod_eq same.symm
    rw [Nat.add_sub_cancel_left, Nat.mod_eq_of_lt two] at dvd
    cases dvd
  rw [← h, List.isChain_map] at steps
  exact steps.imp fun _ _ apart same => apart (congrArg Fin.val same)

end Rotation

/-! ## A cluster at work -/

/-- A turn that was taken. -/
structure Taking where
  /-- Who took it, by the order in which callers joined. -/
  caller : ℕ
  /-- What it was taken for. -/
  request : Request
  turn : UInt64
  /-- What the network was handed. -/
  handed : List WireRequest

/-- A caller and what is left of its call. -/
inductive Caller where
  | acting {Answer : Type} (call : Call Answer)
  /-- The caller has taken a turn and waits for what comes of it. -/
  | waiting {Answer : Type} (taking : Taking) (next : Outcome → Call Answer)

/-- A network that lists what it is handed. -/
def recording (network : WireRequest → σ → WireAnswer × σ) (wire : WireRequest) :
    σ × List WireRequest → WireAnswer × σ × List WireRequest
  | (state, handed) =>
    let (answer, state) := network wire state
    (answer, state, handed ++ [wire])

namespace Cluster

/-- Where the nodes stand that have some turns. -/
def indexes (cluster : Cluster) (taken : List Taking) : List (Fin cluster.nodes.length) :=
  taken.map fun taking => cluster.nodeIndex taking.turn

/-- A round trip at some turn if the network has this answer: its outcome, the number of the next
turn, and what the network is handed. -/
def roundTrip (cluster : Cluster) (answer : WireAnswer) (request : Request) (turn : UInt64) :
    Outcome × UInt64 × List WireRequest :=
  cluster.exchange (fun wire handed => (answer, handed ++ [wire])) request (turn, [])

/-- The turn that a caller takes for a request, and the number of the next one. No answer is there
yet, and which one stands in for it makes no difference (`roundTrip_snd`). -/
def take (cluster : Cluster) (caller : ℕ) (request : Request) (turn : UInt64) : Taking × UInt64 :=
  let (following, handed) := (cluster.roundTrip (.refused "") request turn).2
  (⟨caller, request, turn, handed⟩, following)

/-- What comes of a turn if the network has this answer to what it was handed. -/
def outcome (cluster : Cluster) (taking : Taking) (answer : WireAnswer) : Outcome :=
  (cluster.roundTrip answer taking.request taking.turn).1

/-- The network is handed the request for the node at this place. -/
structure GoesTo (cluster : Cluster) (taking : Taking) (i : Fin cluster.nodes.length) : Prop where
  /-- It is handed nothing if the node has no wire request, and nothing but that one otherwise. -/
  handed : taking.handed =
    (wireRequest cluster.options cluster.nodes[i] taking.request).toOption.toList
  /-- The URL is that of the request on the node. -/
  url : ∀ wire ∈ taking.handed, ∃ url, taking.request.resolve cluster.nodes[i] = .ok url ∧
    wire.url = withoutCredentials url

variable {cluster : Cluster}

section Exchange

variable {request : Request} {turn : UInt64}

theorem exchange_of_error {error : RoundTripError}
    (refused : wireRequest cluster.options (cluster.node turn) request = .error error)
    (network : WireRequest → σ → WireAnswer × σ) (state : σ) :
    cluster.exchange network request (turn, state) = (.error error, turn + 1, state) := by
  rw [exchange, refused]

theorem exchange_of_ok {wire : WireRequest}
    (wired : wireRequest cluster.options (cluster.node turn) request = .ok wire)
    (network : WireRequest → σ → WireAnswer × σ) (state : σ) :
    cluster.exchange network request (turn, state) =
      ((network wire state).1.outcome, turn + 1, (network wire state).2) := by
  rw [exchange, wired]

theorem roundTrip_of_error {error : RoundTripError}
    (refused : wireRequest cluster.options (cluster.node turn) request = .error error)
    (answer : WireAnswer) : cluster.roundTrip answer request turn = (.error error, turn + 1, []) :=
  exchange_of_error refused _ []

theorem roundTrip_of_ok {wire : WireRequest}
    (wired : wireRequest cluster.options (cluster.node turn) request = .ok wire)
    (answer : WireAnswer) :
    cluster.roundTrip answer request turn = (answer.outcome, turn + 1, [wire]) :=
  exchange_of_ok wired _ []

end Exchange

/-- What is handed over does not depend on the answer to it. -/
theorem roundTrip_snd (answer : WireAnswer) (request : Request) (turn : UInt64) :
    (cluster.roundTrip answer request turn).2 = (turn + 1,
      (wireRequest cluster.options (cluster.node turn) request).toOption.toList) := by
  cases wired : wireRequest cluster.options (cluster.node turn) request with
  | error error =>
    rw [roundTrip_of_error wired]
    rfl
  | ok wire =>
    rw [roundTrip_of_ok wired]
    rfl

theorem resolve_of_wireRequest {options : ClusterOptions} {node : Url} {request : Request}
    {wire : WireRequest} (wired : wireRequest options node request = .ok wire) :
    ∃ url, request.resolve node = .ok url ∧ wire.url = withoutCredentials url := by
  unfold wireRequest at wired
  cases resolved : request.resolve node with
  | error error =>
    rw [resolved] at wired
    cases wired
  | ok url =>
    rw [resolved] at wired
    refine ⟨url, rfl, ?_⟩
    change (if isSendable (withoutCredentials url) then _ else _) = _ at wired
    split at wired
    · cases wired
      rfl
    · cases wired

theorem take_eq (cluster : Cluster) (caller : ℕ) (request : Request) (turn : UInt64) :
    cluster.take caller request turn = (⟨caller, request, turn,
      (wireRequest cluster.options (cluster.node turn) request).toOption.toList⟩, turn + 1) := by
  rw [take, roundTrip_snd]

/-- A turn is for the node that has its number. -/
theorem goesTo_take (cluster : Cluster) (caller : ℕ) (request : Request) (turn : UInt64) :
    cluster.GoesTo (cluster.take caller request turn).1 (cluster.nodeIndex turn) := by
  rw [take_eq]
  refine ⟨rfl, ?_⟩
  intro wire mem
  apply resolve_of_wireRequest
  show wireRequest cluster.options (cluster.node turn) request = .ok wire
  cases wired : wireRequest cluster.options (cluster.node turn) request with
  | error error =>
    rw [wired] at mem
    cases mem
  | ok other =>
    rw [wired] at mem
    rw [List.mem_singleton.mp mem]

/-- A round trip takes its turn, and then brings what comes of it. -/
theorem exists_exchange_eq (cluster : Cluster) (network : WireRequest → σ → WireAnswer × σ)
    (caller : ℕ) (request : Request) (turn : UInt64) (state : σ) (sent : List WireRequest) :
    ∃ answer state', cluster.exchange (recording network) request (turn, state, sent) =
      (cluster.outcome (cluster.take caller request turn).1 answer,
        (cluster.take caller request turn).2, state',
        sent ++ (cluster.take caller request turn).1.handed) := by
  rw [take_eq]
  cases wired : wireRequest cluster.options (cluster.node turn) request with
  | error error =>
    refine ⟨.refused "", state, ?_⟩
    rw [exchange_of_error wired, outcome, roundTrip_of_error wired]
    simp [Except.toOption]
  | ok wire =>
    refine ⟨(network wire state).1, (network wire state).2, ?_⟩
    rw [exchange_of_ok wired, outcome, roundTrip_of_ok wired]
    rfl

end Cluster

/-- A cluster with all its callers. -/
structure Traffic where
  /-- The number of the next turn. -/
  turn : UInt64
  /-- The callers in the order in which they joined. -/
  callers : List Caller
  /-- The turns taken so far, in order. -/
  taken : List Taking

namespace Traffic

/-- Nobody has called yet. -/
def idle : Traffic :=
  ⟨0, [], []⟩

/-- What may happen next. -/
inductive Next (cluster : Cluster) : Traffic → Traffic → Prop
  /-- Another call is made, through the client or through one of its clones. -/
  | join (turn : UInt64) (callers : List Caller) (taken : List Taking) {Answer : Type}
      (call : Call Answer) :
      Next cluster ⟨turn, callers, taken⟩ ⟨turn, callers ++ [.acting call], taken⟩
  | report (turn : UInt64) (before after : List Caller) (taken : List Taking) {Answer : Type}
      (event : Event) (next : Call Answer) :
      Next cluster ⟨turn, before ++ .acting (.report event next) :: after, taken⟩
        ⟨turn, before ++ .acting next :: after, taken⟩
  /-- A caller takes its turn, and its request is handed to the network. -/
  | take (turn : UInt64) (before after : List Caller) (taken : List Taking) {Answer : Type}
      (request : Request) (next : Outcome → Call Answer) {taking : Taking} {following : UInt64}
      (took : cluster.take before.length request turn = (taking, following)) :
      Next cluster ⟨turn, before ++ .acting (.exchange request next) :: after, taken⟩
        ⟨following, before ++ .waiting taking next :: after, taken ++ [taking]⟩
  /-- A caller learns what came of its turn. -/
  | learn (turn : UInt64) (before after : List Caller) (taken : List Taking) {Answer : Type}
      (taking : Taking) (next : Outcome → Call Answer) (answer : WireAnswer) :
      Next cluster ⟨turn, before ++ .waiting taking next :: after, taken⟩
        ⟨turn, before ++ .acting (next (cluster.outcome taking answer)) :: after, taken⟩

/-- What a history of turns shows if the nodes of the cluster are taken in rotation. -/
structure Fair (cluster : Cluster) (taken : List Taking) : Prop where
  /-- Each request goes to the node that has its turn. -/
  goes : List.Forall₂ cluster.GoesTo taken (cluster.indexes taken)
  /-- The node of a turn is where the place of the turn in the history says. -/
  placed : ∀ i (h : i < taken.length),
    (cluster.nodeIndex taken[i].turn : ℕ) = i % cluster.nodes.length
  /-- In a row as long as the list of nodes each node has one turn. -/
  window : ∀ row, row <:+: taken → row.length = cluster.nodes.length →
    (cluster.indexes row).Perm (List.finRange cluster.nodes.length)
  /-- At no time has a node had two turns more than another. -/
  balanced : ∀ early, early <+: taken → ∀ i j,
    (cluster.indexes early).count i ≤ (cluster.indexes early).count j + 1
  /-- No node has two turns in a row if there is another node. -/
  moves : 2 ≤ cluster.nodes.length → (cluster.indexes taken).IsChain (· ≠ ·)
  /-- In a row at least as long as the list of nodes each node has a turn. -/
  visits : ∀ row, row <:+: taken → cluster.nodes.length ≤ row.length →
    ∀ i, i ∈ cluster.indexes row

variable {cluster : Cluster} {traffic later : Traffic} {taken : List Taking}

/-! ### What every step keeps -/

/-- The turns taken so far have the numbers from zero on, the next turn has the number after them,
and each of them went to the node that its number says. -/
structure Kept (cluster : Cluster) (traffic : Traffic) : Prop where
  next : traffic.turn = .ofNat traffic.taken.length
  turns : traffic.taken.map Taking.turn = (List.range traffic.taken.length).map UInt64.ofNat
  goes : ∀ taking ∈ traffic.taken, cluster.GoesTo taking (cluster.nodeIndex taking.turn)

theorem Kept.of_next (h : traffic.Kept cluster) (next : Next cluster traffic later) :
    later.Kept cluster := by
  cases next with
  | join turn callers taken call => exact ⟨h.next, h.turns, h.goes⟩
  | report turn before after taken event next => exact ⟨h.next, h.turns, h.goes⟩
  | @take turn before after taken _ request next taking following took =>
    have turn_eq : turn = .ofNat taken.length := h.next
    have turns : taken.map Taking.turn = (List.range taken.length).map UInt64.ofNat := h.turns
    have goes := cluster.goesTo_take before.length request turn
    rw [Cluster.take_eq] at took goes
    cases took
    constructor
    · simp [turn_eq]
    · simp [turn_eq, turns, List.range_succ]
    · intro taking mem
      rcases List.mem_append.mp mem with earlier | last
      · exact h.goes taking earlier
      · rw [List.mem_singleton.mp last]
        exact goes
  | learn turn before after taken taking next answer => exact ⟨h.next, h.turns, h.goes⟩

theorem kept_of_reachable (reached : ReflTransGen (Next cluster) idle traffic) :
    traffic.Kept cluster := by
  induction reached with
  | refl => exact ⟨rfl, rfl, nofun⟩
  | tail _ next ih => exact ih.of_next next

/-- Numbers that have not wrapped around lead through the nodes in rotation. -/
theorem Kept.inRotation (h : traffic.Kept cluster) (few : traffic.taken.length ≤ 2 ^ 64) :
    InRotation 0 (cluster.indexes traffic.taken) := by
  unfold InRotation Cluster.indexes
  have split : (fun taking : Taking => cluster.nodeIndex taking.turn) =
      cluster.nodeIndex ∘ Taking.turn := rfl
  rw [split, ← List.map_map, h.turns, List.map_map, List.map_map, List.length_map, List.length_map,
    List.length_range, ← List.range_eq_range']
  refine List.map_congr_left fun place lt => ?_
  have small : place < 2 ^ 64 := (List.mem_range.mp lt).trans_le few
  show (UInt64.ofNat place).toNat % _ = _
  rw [UInt64.toNat_ofNat_of_lt' small]

theorem fair_of_inRotation
    (goes : ∀ taking ∈ taken, cluster.GoesTo taking (cluster.nodeIndex taking.turn))
    (h : InRotation 0 (cluster.indexes taken)) : Fair cluster taken := by
  have inside : ∀ row, row <:+: taken → ∃ first, InRotation first (cluster.indexes row) := by
    rintro row ⟨before, after, rfl⟩
    simp only [Cluster.indexes, List.map_append] at h
    exact ⟨_, h.of_append⟩
  constructor
  · exact List.forall₂_map_right_iff.mpr (List.forall₂_same.mpr goes)
  · intro i lt
    have place := congrArg (·[i]?) h
    simp only [Cluster.indexes, List.map_map, List.length_map, ← List.range_eq_range',
      List.getElem?_map, List.getElem?_range lt, List.getElem?_eq_getElem lt,
      Option.map_some, Option.some.injEq, Function.comp_apply] at place
    exact place
  · intro row within full
    obtain ⟨first, rotation⟩ := inside row within
    exact rotation.perm_finRange (by simpa [Cluster.indexes] using full)
  · intro early begins i j
    obtain ⟨after, rfl⟩ := begins
    have rotation : InRotation 0 ([] ++ cluster.indexes early ++ cluster.indexes after) := by
      simpa [Cluster.indexes] using h
    exact rotation.of_append.count_le i j
  · exact h.isChain
  · intro row within long
    obtain ⟨first, rotation⟩ := inside row within
    exact rotation.mem (by simpa [Cluster.indexes] using long)

theorem Kept.fair (h : traffic.Kept cluster) (few : traffic.taken.length ≤ 2 ^ 64) :
    Fair cluster traffic.taken :=
  fair_of_inRotation h.goes (h.inRotation few)

/-! ### One caller alone -/

/-- A caller may have all turns of its call one after the other, and is then served as if it had the
cluster for itself. -/
theorem reaches_alone (cluster : Cluster) (network : WireRequest → σ → WireAnswer × σ)
    (before after : List Caller) (call : Call α) (turn : UInt64) (state : σ)
    (sent : List WireRequest) (taken : List Taking) :
    let run := call.run (cluster.exchange (recording network)) (turn, state, sent)
    ∃ row, ReflTransGen (Next cluster) ⟨turn, before ++ .acting call :: after, taken⟩
        ⟨run.state.1, before ++ .acting (.done run.result) :: after, taken ++ row⟩ ∧
      (∀ taking ∈ row, taking.caller = before.length) ∧
        row.map Taking.request = requestsOf run.trace ∧
        run.state.2.2 = sent ++ row.flatMap Taking.handed := by
  induction call generalizing turn state sent taken with
  | done result =>
    refine ⟨[], ?_, nofun, rfl, (List.append_nil _).symm⟩
    rw [List.append_nil]
    exact .refl
  | report event next ih =>
    obtain ⟨row, reached, own, requests, handed⟩ := ih turn state sent taken
    exact ⟨row, .head (.report turn before after taken event next) reached, own, requests, handed⟩
  | exchange request next ih =>
    obtain ⟨answer, state', exchanged⟩ :=
      cluster.exists_exchange_eq network before.length request turn state sent
    obtain ⟨taking, following, took⟩ :
        ∃ taking following, cluster.take before.length request turn = (taking, following) :=
      ⟨_, _, rfl⟩
    rw [took] at exchanged
    obtain ⟨row, reached, own, requests, handed⟩ :=
      ih (cluster.outcome taking answer) following state' (sent ++ taking.handed)
        (taken ++ [taking])
    have first : (Call.exchange request next).run (cluster.exchange (recording network))
        (turn, state, sent) =
          ((next (cluster.outcome taking answer)).run (cluster.exchange (recording network))
            (following, state', sent ++ taking.handed)).after
              (.exchanged request (cluster.outcome taking answer)) := by
      rw [run, exchanged]
    have taken_eq : taking = (cluster.take before.length request turn).1 := by rw [took]
    rw [Cluster.take_eq] at taken_eq
    refine ⟨taking :: row, ?_, ?_, ?_, ?_⟩
    · rw [first]
      refine .head (.take turn before after taken request next took)
        (.head (.learn following before after (taken ++ [taking]) taking next answer) ?_)
      rw [List.append_cons taken taking row]
      exact reached
    · intro other member
      rcases List.mem_cons.mp member with rfl | member
      · rw [taken_eq]
      · exact own other member
    · rw [first, List.map_cons, requests, taken_eq]
      rfl
    · rw [first, List.flatMap_cons, ← List.append_assoc]
      exact handed

/-! ### Fairness -/

/-- **Nodes in rotation.** Whatever calls are made on a cluster and its clones, however their turns
interleave and whatever comes of them, turn number `i` falls to the node at place `i` modulo the
number of nodes, and the network is handed the request for that node. So each window of as many
turns as there are nodes has every node once, and no node is ever ahead of another by more than one
turn. A caller that has all its turns in a row, as it has when no other call is under way, moves on
to another node each time and comes to all of them. -/
theorem fair_of_reachable (reached : ReflTransGen (Next cluster) idle traffic)
    (few : traffic.taken.length ≤ 2 ^ 64) :
    Fair cluster traffic.taken ∧
      ∀ {α σ : Type} (network : WireRequest → σ → WireAnswer × σ) (before after : List Caller)
        (call : Call α) (state : σ), traffic.callers = before ++ .acting call :: after →
        let run := call.run (cluster.exchange (recording network)) (traffic.turn, state, [])
        ∃ row, ReflTransGen (Next cluster) traffic
            ⟨run.state.1, before ++ .acting (.done run.result) :: after, traffic.taken ++ row⟩ ∧
          (∀ taking ∈ row, taking.caller = before.length) ∧
          row.map Taking.request = requestsOf run.trace ∧
          run.state.2.2 = row.flatMap Taking.handed ∧
          (traffic.taken.length + row.length ≤ 2 ^ 64 → 2 ≤ cluster.nodes.length →
            List.Forall₂ cluster.GoesTo row (cluster.indexes row) ∧
              (cluster.indexes row).IsChain (· ≠ ·) ∧
              (cluster.nodes.length ≤ row.length → ∀ i, i ∈ cluster.indexes row)) := by
  refine ⟨(kept_of_reachable reached).fair few, ?_⟩
  intro α σ network before after call state callers
  obtain ⟨turn, _, taken⟩ := traffic
  cases callers
  obtain ⟨row, further, own, requests, handed⟩ :=
    reaches_alone cluster network before after call turn state [] taken
  refine ⟨row, further, own, requests, handed, fun few two => ?_⟩
  have kept := kept_of_reachable (reached.trans further)
  have fair : Fair cluster (taken ++ row) := kept.fair (by simpa using few)
  have goes : ∀ taking ∈ row, cluster.GoesTo taking (cluster.nodeIndex taking.turn) :=
    fun taking mem => kept.goes taking (List.mem_append_right taken mem)
  refine ⟨?_, ?_, fair.visits row (List.suffix_append taken row).isInfix⟩
  · exact List.forall₂_map_right_iff.mpr (List.forall₂_same.mpr goes)
  · have chain := fair.moves two
    rw [Cluster.indexes, List.map_append] at chain
    exact chain.right_of_append

/-! ### Two nodes -/

/-- Two nodes on one host. -/
def twoNodes : Cluster :=
  let node (port : ℕ) : Url :=
    ⟨"http", some ⟨"", none, .domain "localhost", some port⟩, false, .rooted "/", none, none⟩
  ⟨.standard, [node 9200, node 9201], by simp⟩

theorem exists_wireRequest_twoNodes (i : Fin twoNodes.nodes.length) :
    ∃ wire, Cluster.wireRequest twoNodes.options twoNodes.nodes[i] (.bare .get ["metrics-1"]) =
        .ok wire ∧ wire.url.text = twoNodes.nodes[i].text ++ "metrics-1" := by
  have texts : ∀ node ∈ twoNodes.nodes, (Cluster.wireRequest twoNodes.options node
      (.bare .get ["metrics-1"])).toOption.map (fun wire => wire.url.text) =
        some (node.text ++ "metrics-1") := by
    decide +kernel
  have text := texts twoNodes.nodes[i] (List.getElem_mem i.isLt)
  cases wired : Cluster.wireRequest twoNodes.options twoNodes.nodes[i]
      (.bare .get ["metrics-1"]) with
  | error error =>
    rw [wired] at text
    cases text
  | ok wire =>
    rw [wired] at text
    exact ⟨wire, rfl, Option.some.inj text⟩

theorem urls_of_fair (fair : Fair twoNodes taken) {i : ℕ} (lt : i < taken.length)
    (asks : taken[i].request = .bare .get ["metrics-1"]) :
    taken[i].handed.map (fun wire => wire.url.text) =
      [if i % 2 = 0 then "http://localhost:9200/metrics-1"
        else "http://localhost:9201/metrics-1"] := by
  have goes := List.forall₂_same.mp (List.forall₂_map_right_iff.mp fair.goes) _
    (List.getElem_mem lt)
  obtain ⟨wire, wired, text⟩ := exists_wireRequest_twoNodes (twoNodes.nodeIndex taken[i].turn)
  have place : (twoNodes.nodeIndex taken[i].turn : ℕ) = i % 2 := fair.placed i lt
  rw [goes.handed, asks, wired]
  show [wire.url.text] = _
  rw [text]
  split
  next even =>
    rw [even] at place
    rw [show twoNodes.nodeIndex taken[i].turn = ⟨0, by decide⟩ from Fin.ext place]
    decide +kernel
  next odd =>
    rw [Nat.mod_two_ne_zero.mp odd] at place
    rw [show twoNodes.nodeIndex taken[i].turn = ⟨1, by decide⟩ from Fin.ext place]
    decide +kernel

/-- While one caller waits for its first outcome, another one makes two attempts, which time out on
both nodes. -/
theorem fair_of_reachable_two :
    let asked := Request.bare .get ["metrics-1"]
    ∃ traffic, ReflTransGen (Next twoNodes) idle traffic ∧
      traffic.taken.map Taking.caller = [0, 1, 1] ∧ Fair twoNodes traffic.taken ∧
        traffic.taken.map Taking.request = [asked, asked, asked] ∧
        traffic.taken.flatMap (fun taking => taking.handed.map fun wire => wire.url.text) =
          ["http://localhost:9200/metrics-1", "http://localhost:9201/metrics-1",
            "http://localhost:9200/metrics-1"] ∧
        ∀ i, i ∈ twoNodes.indexes (traffic.taken.drop 1) := by
  intro asked
  let sent := (send ⟨1, .zero⟩ asked "metrics-1" "index_exists").run
  let slow : WireRequest → Unit → WireAnswer × Unit := fun _ _ => (.timedOut .zero "slow", ())
  have slowly : ∀ turn handed, ∃ more,
      twoNodes.exchange (recording slow) asked (turn, (), handed) =
        (.error (.timeout .zero "slow"), turn + 1, (), more) := by
    intro turn handed
    obtain ⟨wire, wired, -⟩ := exists_wireRequest_twoNodes (twoNodes.nodeIndex turn)
    exact ⟨_, Cluster.exchange_of_ok wired _ _⟩
  have lost : ∀ turn handed,
      requestsOf (sent.run (twoNodes.exchange (recording slow)) (turn, (), handed)).trace =
        [asked, asked] := by
    intro turn handed
    obtain ⟨first, at_first⟩ := slowly turn handed
    obtain ⟨second, at_second⟩ := slowly (turn + 1) first
    simp [sent, send, attempts, run, at_first, at_second, pause, RetryPolicy.repeatsAfter,
      RetryPolicy.waitsAfter, Run.after, requestsOf]
  -- the first caller has taken its turn and waits when the second one joins
  obtain ⟨first, took, asks, took_by⟩ : ∃ first, twoNodes.take 0 asked 0 = (first, 0 + 1) ∧
      first.request = asked ∧ first.caller = 0 :=
    ⟨_, Cluster.take_eq twoNodes 0 asked 0, rfl, rfl⟩
  have begun : ReflTransGen (Next twoNodes) idle
      ⟨0 + 1, [.waiting first .done, .acting sent], [first]⟩ :=
    .tail (.tail (.tail .refl (.join 0 [] [] (.exchange asked .done)))
      (.take 0 [] [] [] asked .done took))
      (.join _ _ _ sent)
  obtain ⟨-, alone⟩ := fair_of_reachable begun (show 1 ≤ 2 ^ 64 by decide)
  obtain ⟨row, further, own, requests, -, visits⟩ := alone slow [_] [] sent () rfl
  rw [lost] at requests
  obtain ⟨second, third, rfl⟩ : ∃ second third, row = [second, third] :=
    List.length_eq_two.mp (by simpa using congrArg List.length requests)
  obtain ⟨fair, -⟩ := fair_of_reachable (begun.trans further) (show 3 ≤ 2 ^ 64 by decide)
  obtain ⟨second_asks, third_asks⟩ : second.request = asked ∧ third.request = asked := by
    simpa using requests
  refine ⟨_, begun.trans further, ?_, fair, ?_, ?_,
    (visits (show 3 ≤ 2 ^ 64 by decide) le_rfl).2.2 le_rfl⟩
  · simp [took_by, own]
  · simp [asks, second_asks, third_asks]
  · have at_first : first.handed.map _ = _ := urls_of_fair fair (i := 0) (by simp) asks
    have at_second : second.handed.map _ = _ := urls_of_fair fair (i := 1) (by simp) second_asks
    have at_third : third.handed.map _ = _ := urls_of_fair fair (i := 2) (by simp) third_asks
    simp [at_first, at_second, at_third]

end Traffic

end EngineClient
