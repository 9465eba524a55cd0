import Biomes.Graph.Wiring
import Biomes.Proofs.Graph.Reach

/-!
# Graphs that are wired by connections

Nodes are added without references, and all references come from connections that were made.  Then
the connections tell what each list of the graph holds: the targets of those that were addressed to
it, in the order in which they were made (`Graph.WiredBy`).  Adding a node and calling
`Graph.connect` keep this up, whether the call succeeds or not.

* `Node.attachedAt?_attach`: what attaching a node does to the lists of another;
* `Graph.wiringError?_eq_some_iff`: when a connection is refused, and with which error;
* `Graph.WiredBy.add` and `Graph.WiredBy.connect`: the two steps of wiring;
* `Graph.WiredBy.index_lt`: in a graph that is wired by connections no reference dangles.
-/

namespace Biomes

/-! ### The lists of a node -/

/-- The nodes attached to an output, if there is such an output. -/
def Switch.attachedAt? (s : Switch) (output : Nat) : Option (List NodeId) :=
  s.outlets[output]?.map Outlet.attached

namespace Switch

theorem length_outlets (s : Switch) : s.outlets.length = s.outputs := by
  cases s with
  | shore dry wet => rfl
  | ranges axis parts => simp [outlets, outputs]

theorem attachedAt?_eq_none_iff {s : Switch} {output : Nat} :
    s.attachedAt? output = none ↔ ¬ output < s.outputs := by
  rw [attachedAt?, Option.map_eq_none_iff, List.getElem?_eq_none_iff, length_outlets, Nat.not_lt]

theorem mem_attached_iff {s : Switch} {n : NodeId} :
    n ∈ s.attached ↔ ∃ k l, s.attachedAt? k = some l ∧ n ∈ l := by
  rw [attached_eq, List.mem_flatMap]
  constructor
  · rintro ⟨o, ho, hn⟩
    obtain ⟨k, hk⟩ := List.mem_iff_getElem?.mp ho
    exact ⟨k, o.attached, by rw [attachedAt?, hk]; rfl, hn⟩
  · rintro ⟨k, l, hl, hn⟩
    obtain ⟨o, ho, rfl⟩ := Option.map_eq_some_iff.mp hl
    exact ⟨o, List.mem_of_getElem? ho, hn⟩

/-- Attaching a node appends it to the list of its output and leaves the other lists alone. -/
theorem attachedAt?_attach (s : Switch) (output k : Nat) (n : NodeId) :
    (s.attach output n).attachedAt? k =
      (s.attachedAt? k).map fun l => if output = k then l ++ [n] else l := by
  cases s with
  | shore dry wet =>
    -- The only outputs are 0 and 1; at any other there is neither a list nor an effect.
    match output, k with
    | 0, 0 | 0, 1 | 0, k + 2 | 1, 0 | 1, 1 | 1, k + 2 | output + 2, 0 | output + 2, 1
    | output + 2, k + 2 => simp [attach, attachedAt?, outlets]
  | ranges axis parts =>
    rw [attach, attachedAt?, outlets, List.getElem?_map, Array.getElem?_toList,
      Array.getElem?_modify, attachedAt?, outlets, List.getElem?_map, Array.getElem?_toList]
    by_cases hk : output = k
    · cases parts[k]? <;> simp [hk]
    · cases parts[k]? <;> simp [hk]

end Switch

namespace Node

/-- Whether a node passes everything on. -/
def isRelay : Node → Bool
  | .relay _ => true
  | _ => false

/-- The nodes attached to an output, if there is such an output.  A relay has one list for all
outputs. -/
def attachedAt? (v : Node) (output : Nat) : Option (List NodeId) :=
  match v with
  | .switch s => s.attachedAt? output
  | .leaf _ => none
  | .relay targets => some targets.toList

theorem mem_references_iff {v : Node} {n : NodeId} :
    n ∈ v.references ↔ ∃ k l, v.attachedAt? k = some l ∧ n ∈ l := by
  cases v with
  | switch s => exact Switch.mem_attached_iff
  | leaf b => simp [references, attachedAt?]
  | relay targets => simp [references, attachedAt?]

@[simp] theorem isRelay_attach (v : Node) (output : Nat) (n : NodeId) :
    (v.attach output n).isRelay = v.isRelay := by
  cases v <;> rfl

/-- Attaching a node appends it to the list of its output, which for a relay is its only one. -/
theorem attachedAt?_attach (v : Node) (output k : Nat) (n : NodeId) :
    (v.attach output n).attachedAt? k =
      (v.attachedAt? k).map fun l => if v.isRelay || output == k then l ++ [n] else l := by
  cases v with
  | switch s => simpa [attach, attachedAt?, isRelay] using s.attachedAt?_attach output k n
  | leaf b => rfl
  | relay targets => simp [attach, attachedAt?, isRelay]

end Node

/-! ### Refusals -/

namespace Graph

/-- The errors with which connections are refused.  A target that is unknown comes before a source
that is unknown, and both before a source without the output. -/
inductive Refuses (g : Graph) (source : NodeId) (output : Nat) (target : NodeId) :
    WiringError → Prop where
  | unknownTarget : g.node? target = none → Refuses g source output target (.unknownNode target)
  | unknownSource : g.node? target ≠ none → g.node? source = none →
      Refuses g source output target (.unknownNode source)
  | leaf (b : Option Biome) : g.node? target ≠ none → g.node? source = some (.leaf b) →
      Refuses g source output target (.leafOutput source)
  | noOutput (s : Switch) : g.node? target ≠ none → g.node? source = some (.switch s) →
      s.attachedAt? output = none → Refuses g source output target (.noSuchOutput source output)

section

variable {g : Graph} {source target : NodeId} {output : Nat}

theorem wiringError?_eq_some_iff {e : WiringError} :
    g.wiringError? source output target = some e ↔ g.Refuses source output target e := by
  constructor
  · intro h
    unfold wiringError? at h
    split at h
    case h_1 ht => cases h; exact .unknownTarget ht
    case h_2 w ht =>
      have htarget : g.node? target ≠ none := by simp [ht]
      split at h
      case h_1 hs => cases h; exact .unknownSource htarget hs
      case h_2 b hs => cases h; exact .leaf b htarget hs
      case h_3 => cases h
      case h_4 s hs =>
        split at h
        case isTrue => cases h
        case isFalse hout =>
          cases h
          exact .noOutput s htarget hs (Switch.attachedAt?_eq_none_iff.mpr hout)
  · intro h
    unfold wiringError?
    cases h with
    | unknownTarget ht => rw [ht]
    | unknownSource ht hs =>
      obtain ⟨w, hw⟩ := Option.ne_none_iff_exists'.mp ht
      rw [hw, hs]
    | leaf b ht hs =>
      obtain ⟨w, hw⟩ := Option.ne_none_iff_exists'.mp ht
      rw [hw, hs]
    | noOutput s ht hs hout =>
      obtain ⟨w, hw⟩ := Option.ne_none_iff_exists'.mp ht
      rw [hw, hs]
      exact if_neg (Switch.attachedAt?_eq_none_iff.mp hout)

/-- A connection is made if both nodes are there and the source has the output. -/
theorem wiringError?_eq_none_iff :
    g.wiringError? source output target = none ↔
      g.node? target ≠ none ∧ ∃ v l, g.node? source = some v ∧ v.attachedAt? output = some l := by
  unfold wiringError?
  cases g.node? target with
  | none => simp
  | some w =>
    cases g.node? source with
    | none => simp
    | some v =>
      cases v with
      | leaf b => simp [Node.attachedAt?]
      | relay ts => simp [Node.attachedAt?]
      | switch s =>
        have hout : (∃ l, s.attachedAt? output = some l) ↔ output < s.outputs := by
          rw [← Option.ne_none_iff_exists', ne_eq, Switch.attachedAt?_eq_none_iff, not_not]
        simp [Node.attachedAt?, hout]

/-- A refused connection changes nothing. -/
theorem connect_of_some {e : WiringError} (h : g.wiringError? source output target = some e) :
    g.connect source output target = (g, .error e) := by
  rw [connect, h]

theorem connect_of_none (h : g.wiringError? source output target = none) :
    g.connect source output target =
      (⟨g.nodes.modify source.index (·.attach output target)⟩, .ok ()) := by
  rw [connect, h]

theorem connect_eq_error_iff {e : WiringError} :
    (g.connect source output target).2 = .error e ↔ g.Refuses source output target e := by
  rw [← wiringError?_eq_some_iff]
  cases h : g.wiringError? source output target with
  | none => rw [connect_of_none h]; simp
  | some e' => rw [connect_of_some h]; simp

end

end Graph

/-! ### Connections -/

/-- A connection of one node to another. -/
structure Connection where
  source : NodeId
  output : Nat
  target : NodeId
  deriving DecidableEq, Repr

/-- Whether a connection is addressed to the list `k` of the node `v` at a position.  A relay takes
those to any output into its only list. -/
def Connection.feeds (c : Connection) (i : Nat) (v : Node) (k : Nat) : Bool :=
  c.source.index == i && (v.isRelay || c.output == k)

/-- Attaching a node leaves the addresses of connections as they are. -/
@[simp] theorem Connection.feeds_attach (c : Connection) (i : Nat) (v : Node) (output : Nat)
    (n : NodeId) (k : Nat) : c.feeds i (v.attach output n) k = c.feeds i v k := by
  rw [feeds, Node.isRelay_attach, feeds]

namespace Graph

/-- The connection itself, if it is made and not refused. -/
def made? (g : Graph) (c : Connection) : Option Connection :=
  match (g.connect c.source c.output c.target).2 with
  | .ok () => some c
  | .error _ => none

/-- All references of a graph come from some connections, which were made one after the other. -/
structure WiredBy (g : Graph) (cs : List Connection) : Prop where
  source_lt : ∀ c ∈ cs, c.source.index < g.size
  target_lt : ∀ c ∈ cs, c.target.index < g.size
  attached_eq : ∀ i v, g.nodes[i]? = some v → ∀ k l, v.attachedAt? k = some l →
    l = (cs.filter fun c => c.feeds i v k).map Connection.target

namespace WiredBy

variable {g : Graph} {cs : List Connection}

theorem empty : Graph.empty.WiredBy [] := by
  refine ⟨by simp, by simp, ?_⟩
  intro i v hv
  simp [Graph.empty] at hv

/-- A node without references can be added: no connection can have been addressed to it. -/
theorem add (h : g.WiredBy cs) {v : Node} (hv : v.references = []) : (g.add v).1.WiredBy cs := by
  have hsize : (g.add v).1.size = g.size + 1 := Array.size_push v
  refine ⟨?_, ?_, ?_⟩
  · intro c hc
    have := h.source_lt c hc
    omega
  · intro c hc
    have := h.target_lt c hc
    omega
  · intro i w hw k l hl
    rw [Graph.add, Array.getElem?_push] at hw
    split at hw
    case isTrue hi =>
      cases hw
      -- The connections so far start at earlier nodes, so that none of them feeds the new one.
      have hnone : cs.filter (fun c => c.feeds i v k) = [] := by
        rw [List.filter_eq_nil_iff]
        intro c hc
        have hlt : c.source.index < g.nodes.size := h.source_lt c hc
        have hne : c.source.index ≠ i := by omega
        simp [Connection.feeds, hne]
      rw [hnone, List.map_nil, List.eq_nil_iff_forall_not_mem]
      intro n hn
      have := Node.mem_references_iff.mpr ⟨k, l, hl, hn⟩
      rw [hv] at this
      exact List.not_mem_nil this
    case isFalse => exact h.attached_eq i w hw k l hl

/-- A call of `connect` appends its target to the lists that it is addressed to, or does nothing. -/
theorem connect (h : g.WiredBy cs) (c : Connection) :
    (g.connect c.source c.output c.target).1.WiredBy (cs ++ (g.made? c).toList) := by
  unfold made?
  cases herror : g.wiringError? c.source c.output c.target with
  | some e =>
    rw [connect_of_some herror]
    show g.WiredBy (cs ++ [])
    rwa [List.append_nil]
  | none =>
    obtain ⟨htarget, v, l, hv, hl⟩ := wiringError?_eq_none_iff.mp herror
    rw [connect_of_none herror]
    show WiredBy ⟨g.nodes.modify c.source.index (·.attach c.output c.target)⟩ (cs ++ [c])
    have hsize : size ⟨g.nodes.modify c.source.index (·.attach c.output c.target)⟩ = g.size :=
      Array.size_modify
    have hsource : c.source.index < g.size := index_lt_of_node? hv
    have htarget : c.target.index < g.size := by
      rwa [ne_eq, node?_eq_none_iff, Nat.not_le] at htarget
    refine ⟨?_, ?_, ?_⟩
    · intro c' hc'
      rw [hsize]
      rcases List.mem_append.mp hc' with hc' | hc'
      · exact h.source_lt c' hc'
      · rwa [List.mem_singleton.mp hc']
    · intro c' hc'
      rw [hsize]
      rcases List.mem_append.mp hc' with hc' | hc'
      · exact h.target_lt c' hc'
      · rwa [List.mem_singleton.mp hc']
    · intro i w hw k l hl
      rw [Array.getElem?_modify] at hw
      rw [List.filter_append, List.map_append]
      split at hw
      case isTrue hi =>
        -- The list is one of the source: it is fed by `c` exactly if `c` is appended to it.
        obtain ⟨u, hu, rfl⟩ := Option.map_eq_some_iff.mp hw
        rw [Node.attachedAt?_attach] at hl
        obtain ⟨l₀, hl₀, rfl⟩ := Option.map_eq_some_iff.mp hl
        simp only [Connection.feeds_attach]
        rw [← h.attached_eq i u hu k l₀ hl₀]
        have hone : c.feeds i u k = (u.isRelay || c.output == k) := by
          simp [Connection.feeds, hi]
        cases htake : u.isRelay || c.output == k with
        | true => simp [hone, htake]
        | false => simp [hone, htake]
      case isFalse hi =>
        have hone : c.feeds i w k = false := by simp [Connection.feeds, hi]
        rw [h.attached_eq i w hw k l hl]
        simp [hone]

/-- In a graph that is wired by connections no reference dangles. -/
theorem index_lt (h : g.WiredBy cs) {i : Nat} {v : Node} (hv : g.nodes[i]? = some v) {n : NodeId}
    (hn : n ∈ v.references) : n.index < g.size := by
  obtain ⟨k, l, hl, hn⟩ := Node.mem_references_iff.mp hn
  rw [h.attached_eq i v hv k l hl] at hn
  obtain ⟨c, hc, rfl⟩ := List.mem_map.mp hn
  exact h.target_lt c (List.mem_of_mem_filter hc)

end WiredBy

end Graph

end Biomes
