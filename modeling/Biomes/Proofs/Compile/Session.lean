import Biomes.Graph.Wiring
import Biomes.Proofs.Compile.Leaves

/-!
# Editing and building in turns

A graph is edited and built in turns, and the leaves keep their biomes in between.  After a build a
leaf is up to date if it carries nothing but what this build gave it (`Session.UpToDate`).  Since a
build clears no leaf, one that it gives nothing still carries what an earlier build, or the author,
has left in it; that it had carried nothing before is the exact condition
(`Session.leafBiome?_run_build`).  Editing alone gives no leaf a biome (`Session.isBlank_run`), so
that after the first build of a graph all leaves are up to date.
-/

namespace Biomes

/-- The biome that a node carries. -/
def Node.biome? : Node → Option Biome
  | .leaf o => o
  | _ => none

theorem Graph.leafBiome?_eq (g : Graph) (n : NodeId) :
    g.leafBiome? n = (g.node? n).bind Node.biome? := by
  unfold leafBiome?
  cases g.node? n with
  | none => rfl
  | some v => cases v <;> rfl

/-! ### Sessions -/

/-- Something that an author does. -/
inductive Edit where
  | add (v : Node)
  | connect (source : NodeId) (output : Nat) (target : NodeId)
  | replace (node : NodeId) (v : Node)
  | build (root : NodeId)

/-- A graph under work, with the classifier that it is built into. -/
structure Session where
  classifier : Classifier
  graph : Graph

namespace Session

/-- The session after an edit.  A connection that is refused changes nothing. -/
def step (s : Session) : Edit → Session
  | .add v => { s with graph := (s.graph.add v).1 }
  | .connect source output target => { s with graph := (s.graph.connect source output target).1 }
  | .replace n v => { s with graph := s.graph.replace n v }
  | .build root =>
    let r := s.classifier.build s.graph root
    ⟨r.classifier, r.graph⟩

/-- The session after some edits. -/
def run (s : Session) (es : List Edit) : Session := es.foldl step s

theorem run_concat (s : Session) (es : List Edit) (e : Edit) :
    s.run (es ++ [e]) = (s.run es).step e := by
  rw [run, List.foldl_append]
  rfl

/-- After a build that gave a leaf some biomes, the leaf carries none but the one of them with the
greatest number, which is the one in the table; if it was given none, it carries none. -/
structure UpToDate (s : Session) (given : List Biome) (n : NodeId) : Prop where
  of_some : ∀ b, s.graph.leafBiome? n = some b →
    b ∈ given ∧ s.classifier.biome? b.id = some b ∧ ∀ b' ∈ given, b'.id.index ≤ b.id.index
  of_nil : given = [] → s.graph.leafBiome? n = none

end Session

/-! ### Graphs without biomes -/

/-- No leaf carries a biome. -/
def Graph.IsBlank (g : Graph) : Prop := ∀ n, g.leafBiome? n = none

/-- Whether an edit brings no biome into a graph: it is no build, and the node that it places, if it
does, carries none. -/
def Edit.isBlank : Edit → Bool
  | .add v | .replace _ v => v.biome?.isNone
  | .connect .. => true
  | .build _ => false

namespace Graph.IsBlank

variable {g : Graph}

theorem biome?_eq_none (h : g.IsBlank) {n : NodeId} {v : Node} (hv : g.node? n = some v) :
    v.biome? = none := by
  have hn := h n
  rwa [leafBiome?_eq, hv] at hn

theorem of_node? (h : ∀ n v, g.node? n = some v → v.biome? = none) : g.IsBlank := by
  intro n
  rw [leafBiome?_eq]
  cases hv : g.node? n with
  | none => rfl
  | some v => exact h n v hv

theorem add (h : g.IsBlank) {v : Node} (hv : v.biome? = none) : (g.add v).1.IsBlank := by
  refine of_node? fun n w hw => ?_
  rw [Graph.add, node?, Array.getElem?_push] at hw
  split at hw
  · rwa [← Option.some.inj hw]
  · exact h.biome?_eq_none hw

theorem replace (h : g.IsBlank) {v : Node} (hv : v.biome? = none) (n : NodeId) :
    (g.replace n v).IsBlank := by
  refine of_node? fun m w hw => ?_
  rw [node?_replace] at hw
  split at hw
  · rwa [← Option.some.inj hw]
  · exact h.biome?_eq_none hw

theorem connect (h : g.IsBlank) (source : NodeId) (output : Nat) (target : NodeId) :
    (g.connect source output target).1.IsBlank := by
  unfold Graph.connect
  cases g.wiringError? source output target with
  | some e => exact h
  | none =>
    refine of_node? fun m w hw => ?_
    rw [node?, Array.getElem?_modify] at hw
    split at hw
    · -- Attaching turns no node into a leaf.
      obtain ⟨v, hv, rfl⟩ := Option.map_eq_some_iff.mp hw
      have hbiome := h.biome?_eq_none (n := m) hv
      cases v <;> exact hbiome
    · exact h.biome?_eq_none hw

end Graph.IsBlank

namespace Session

/-- An edit that brings no biome leaves a graph without biomes as it is. -/
theorem isBlank_step {s : Session} (h : s.graph.IsBlank) {e : Edit} (he : e.isBlank = true) :
    (s.step e).graph.IsBlank := by
  cases e with
  | add v => exact h.add (Option.isNone_iff_eq_none.mp he)
  | connect source output target => exact h.connect source output target
  | replace n v => exact h.replace (Option.isNone_iff_eq_none.mp he) n
  | build root => cases he

theorem isBlank_run {s : Session} (h : s.graph.IsBlank) {es : List Edit}
    (hes : ∀ e ∈ es, e.isBlank = true) : (s.run es).graph.IsBlank := by
  induction es generalizing s with
  | nil => exact h
  | cons e es ih =>
    exact ih (isBlank_step h (hes e List.mem_cons_self))
      fun e' he' => hes e' (List.mem_cons_of_mem _ he')

/-! ### After a build -/

/-- The biomes that a build from a root gives to a leaf of the graph. -/
def given (s : Session) (root n : NodeId) : List Biome :=
  Arrival.given (s.graph.arrivals root) n

theorem leafBiome?_step_build (s : Session) (root n : NodeId) :
    (s.step (.build root)).graph.leafBiome? n =
      (s.given root n).getLast?.or (s.graph.leafBiome? n) :=
  s.classifier.leafBiome?_build s.graph root n

/-- A leaf that a build gives a biome is up to date. -/
theorem upToDate_of_given {s : Session} {root n : NodeId} (h : s.given root n ≠ []) :
    (s.step (.build root)).UpToDate (s.given root n) n := by
  refine ⟨fun b hb => ?_, fun hnil => absurd hnil h⟩
  have hlast : (s.given root n).getLast? = some b := by
    rwa [leafBiome?_step_build, List.getLast?_eq_some_getLast h, Option.some_or,
      ← List.getLast?_eq_some_getLast h] at hb
  exact ⟨List.mem_of_getLast? hlast, Classifier.biome?_of_mem_given (List.mem_of_getLast? hlast),
    fun b' hb' => Arrival.index_le_of_mem_given hlast hb'⟩

/-- A leaf that a build gives no biome is up to date if it had none before, and only then. -/
theorem upToDate_iff_of_nil {s : Session} {root n : NodeId} (h : s.given root n = []) :
    (s.step (.build root)).UpToDate (s.given root n) n ↔ s.graph.leafBiome? n = none := by
  have hleaf := s.leafBiome?_step_build root n
  rw [h, List.getLast?_nil, Option.none_or] at hleaf
  rw [← hleaf]
  constructor
  · exact fun hup => hup.of_nil h
  · intro hnone
    refine ⟨fun b hb => ?_, fun _ => hnone⟩
    rw [hnone] at hb
    cases hb

/-- **A leaf carries what the latest build that bound it has left in it.**  After a build at the end
of any session, a leaf carries the last biome that this build gave it, or, if it was given none, what
it carried before.  So it is up to date if and only if it was given a biome or had none before; all
leaves are after the first build of a graph whose nodes were placed without biomes. -/
theorem leafBiome?_run_build (s : Session) (es : List Edit) (root n : NodeId) :
    (s.run (es ++ [.build root])).graph.leafBiome? n =
        ((s.run es).given root n).getLast?.or ((s.run es).graph.leafBiome? n) ∧
      ((s.run (es ++ [.build root])).UpToDate ((s.run es).given root n) n ↔
        (s.run es).given root n ≠ [] ∨ (s.run es).graph.leafBiome? n = none) ∧
      (s.graph.IsBlank → (∀ e ∈ es, e.isBlank = true) →
        (s.run (es ++ [.build root])).UpToDate ((s.run es).given root n) n) := by
  rw [run_concat]
  have hiff : ((s.run es).step (.build root)).UpToDate ((s.run es).given root n) n ↔
      (s.run es).given root n ≠ [] ∨ (s.run es).graph.leafBiome? n = none := by
    by_cases h : (s.run es).given root n = []
    · rw [upToDate_iff_of_nil h]
      exact ⟨.inr, fun h' => h'.resolve_left fun hne => hne h⟩
    · exact ⟨fun _ => .inl h, fun _ => upToDate_of_given h⟩
  refine ⟨leafBiome?_step_build .., hiff, fun hblank hes => hiff.mpr (.inr ?_)⟩
  exact isBlank_run hblank hes n

/-! ### A leaf that is left behind -/

/-- The session before its first edit. -/
def fresh : Session := ⟨.unbuilt Classifier.defaultTolerance, .empty⟩

/-- A switch is placed, and a leaf on its dry side. -/
def hut : List Edit := [.add (.switch (.shore #[.ofIndex 1] #[])), .add (.leaf none)]

theorem arrivals_hut : (fresh.run hut).graph.arrivals (.ofIndex 0) =
    [⟨.ofIndex 1, ⟨.flag .water false, "terrestrial", .black⟩⟩] := by
  rw [Graph.arrivals, Graph.arrivalsFrom_of_switch List.not_mem_nil
    (s := .shore #[.ofIndex 1] #[]) (by decide)]
  show Graph.arrivalsFrom _ _ [.ofIndex 0] (.ofIndex 1) ++ [] = _
  rw [Graph.arrivalsFrom_of_leaf (by decide) (o := none) (by decide)]
  rfl

/-- A build from the switch gives the leaf a biome, and a build from the leaf itself, which comes to
it on no branch with a name, leaves it there. -/
theorem not_upToDate_hut :
    ¬(fresh.run (hut ++ [.build (.ofIndex 0)] ++ [.build (.ofIndex 1)])).UpToDate
      ((fresh.run (hut ++ [.build (.ofIndex 0)])).given (.ofIndex 1) (.ofIndex 1))
      (.ofIndex 1) := by
  rw [run_concat, run_concat]
  have hfirst : (fresh.run hut).given (.ofIndex 0) (.ofIndex 1) =
      [⟨.ofIndex 0, "terrestrial", .black⟩] := by
    rw [given, arrivals_hut]
    rfl
  have hsecond : ((fresh.run hut).step (.build (.ofIndex 0))).given (.ofIndex 1) (.ofIndex 1) =
      [] := by
    have hnode : ((fresh.run hut).step (.build (.ofIndex 0))).graph.node? (.ofIndex 1) = _ :=
      (fresh.run hut).classifier.node?_build (fresh.run hut).graph (.ofIndex 0) (.ofIndex 1)
    rw [given, Graph.arrivals, Graph.arrivalsFrom_of_leaf List.not_mem_nil hnode]
    rfl
  rw [upToDate_iff_of_nil hsecond, leafBiome?_step_build, hfirst]
  simp

end Session

end Biomes
