import Biomes.Compile.Search
import Biomes.Proofs.Graph.Alike
import Biomes.Proofs.Graph.Evaluation
import Mathlib.Data.List.Basic

/-!
# The account of a compilation

What a compilation does to its draft is a fold over what it meets, one encounter after the other,
and what it meets depends on nothing but the unfolding of the graph.  `Unfolding.encounters` lists
the encounters in the order of the search, each with the branch and the depth at which it is met,
and `Draft.meet` is the effect of one of them.

* `Draft.alike_meetAll`: along the way the graph stays alike;
* `Draft.filterMap_findings_inspectAll`: what a switch adds to the findings is about its outputs;
* `Draft.Counts.meetAll`: the counter stands at the number of the named arrivals, as long as there
  are numbers left.
-/

namespace Biomes

/-! ### Encounters -/

/-- Something that a compilation meets. -/
inductive Encounter where
  | loop (node : NodeId) (depth : Nat)
  | missing (node : NodeId) (depth : Nat)
  /-- A leaf, at the end of a branch. -/
  | leaf (node : NodeId) (branch : Branch) (depth : Nat)
  | switch (node : NodeId) (s : Switch)

/-- The arrival at a leaf. -/
def Encounter.arrival? : Encounter → Option Arrival
  | .leaf n b _ => some ⟨n, b⟩
  | _ => none

namespace Unfolding

/-- What is met in an unfolding that is reached on a branch at a depth. -/
def encounters (b : Branch) (depth : Nat) : Unfolding → List Encounter
  | .loop n => [.loop n depth]
  | .missing n => [.missing n depth]
  | .leaf n => [.leaf n b depth]
  | .relay _ ts => ts.flatMap fun t => t.encounters b (depth + 1)
  | .switch n s arms => .switch n s :: arms.flatMap fun a => a.2.encounters a.1 (depth + 1)
termination_by u => sizeOf u
decreasing_by
  · decreasing_tactic
  · have := sizeOf_arm_lt ‹_ ∈ arms›
    decreasing_tactic

/-- The leaves that are reached in an unfolding, in the order of the search. -/
def arrivals (b : Branch) : Unfolding → List Arrival
  | .loop _ => []
  | .missing _ => []
  | .leaf n => [⟨n, b⟩]
  | .relay _ ts => ts.flatMap fun t => t.arrivals b
  | .switch _ _ arms => arms.flatMap fun a => a.2.arrivals a.1
termination_by u => sizeOf u
decreasing_by
  · decreasing_tactic
  · have := sizeOf_arm_lt ‹_ ∈ arms›
    decreasing_tactic

theorem filterMap_arrival?_encounters (u : Unfolding) (b : Branch) (depth : Nat) :
    (u.encounters b depth).filterMap Encounter.arrival? = u.arrivals b := by
  induction u generalizing b depth with
  | loop n => rw [encounters, arrivals]; rfl
  | missing n => rw [encounters, arrivals]; rfl
  | leaf n => rw [encounters, arrivals]; rfl
  | relay n ts ih =>
    rw [encounters, arrivals, List.filterMap_flatMap]
    exact List.flatMap_congr fun t ht => ih t ht b (depth + 1)
  | switch n s arms ih =>
    rw [encounters, arrivals, List.filterMap_cons_none (by rfl), List.filterMap_flatMap]
    exact List.flatMap_congr fun a ha => ih a ha a.1 (depth + 1)

end Unfolding

/-- The leaves of an unfolding are those of the graph. -/
theorem Graph.arrivals_unfoldFrom (g : Graph) (b : Branch) (path : List NodeId) (n : NodeId) :
    (g.unfoldFrom path n).arrivals b = g.arrivalsFrom b path n := by
  induction path, n using unfoldFrom.induct g generalizing b with
  | case1 path n hn =>
    rw [unfoldFrom_of_mem hn, arrivalsFrom_of_mem hn, Unfolding.arrivals]
  | case2 path n hn hv =>
    rw [unfoldFrom_of_none hn hv, arrivalsFrom_of_none hn hv, Unfolding.arrivals]
  | case3 path n hn o hv =>
    rw [unfoldFrom_of_leaf hn hv, arrivalsFrom_of_leaf hn hv, Unfolding.arrivals]
  | case4 path n hn ts hv ih =>
    rw [unfoldFrom_of_relay hn hv, arrivalsFrom_of_relay hn hv, Unfolding.arrivals,
      List.flatMap_map]
    exact List.flatMap_congr fun t _ => ih t b
  | case5 path n hn s hv ih =>
    rw [unfoldFrom_of_switch hn hv, arrivalsFrom_of_switch hn hv, Unfolding.arrivals,
      List.flatMap_map]
    exact List.flatMap_congr fun a _ => ih a.2 a.1

/-- Whether a finding is about an output of a switch. -/
def Finding.isAboutOutput : Finding → Bool
  | .idleShore .. | .idlePart .. | .emptySpan .. => true
  | _ => false

/-! ### The effect of an encounter -/

namespace Draft

/-- What an encounter does to the draft. -/
def meet (d : Draft) : Encounter → Draft
  | .loop n depth => d.note (.loopsBack n depth)
  | .missing n depth => d.note (.missingNode n depth)
  | .leaf n b depth => (d.bind n b depth).2
  | .switch n s => d.inspectAll n s

/-- What several encounters do to the draft, one after the other. -/
def meetAll (d : Draft) (es : List Encounter) : Draft := es.foldl meet d

theorem meetAll_append (d : Draft) (es es' : List Encounter) :
    d.meetAll (es ++ es') = (d.meetAll es).meetAll es' :=
  List.foldl_append

/-- What an encounter leads to, for the arrivals so far and that at the leaf which is met, if one
is. -/
theorem meet_cases {P : Draft → List Arrival → Prop} {d : Draft} {l : List Arrival}
    (hloop : ∀ n depth, P (d.note (.loopsBack n depth)) l)
    (hmissing : ∀ n depth, P (d.note (.missingNode n depth)) l)
    (hleaf : ∀ n b depth, P (d.bind n b depth).2 (l ++ [Arrival.mk n b]))
    (hswitch : ∀ n s, P (d.inspectAll n s) l) (e : Encounter) :
    P (d.meet e) (l ++ e.arrival?.toList) := by
  have hnil : l ++ [] = l := List.append_nil l
  cases e with
  | loop n depth => exact hnil.symm ▸ hloop n depth
  | missing n depth => exact hnil.symm ▸ hmissing n depth
  | leaf n b depth => exact hleaf n b depth
  | switch n s => exact hnil.symm ▸ hswitch n s

/-- What every encounter keeps up for the arrivals so far, all of them together do. -/
theorem meetAll_induction {P : Draft → List Arrival → Prop}
    (hmeet : ∀ d l e, P d l → P (d.meet e) (l ++ e.arrival?.toList)) {d : Draft} {l : List Arrival}
    (h : P d l) (es : List Encounter) : P (d.meetAll es) (l ++ es.filterMap Encounter.arrival?) := by
  induction es generalizing d l with
  | nil => rwa [List.filterMap_nil, List.append_nil]
  | cons e es ih =>
    have hes := ih (hmeet d l e h)
    rw [List.append_assoc] at hes
    cases he : e.arrival? with
    | none =>
      rw [List.filterMap_cons_none he]
      rwa [he] at hes
    | some a =>
      rw [List.filterMap_cons_some he]
      rwa [he] at hes

theorem alike_meet (d : Draft) (e : Encounter) : d.graph.Alike (d.meet e).graph := by
  cases e with
  | loop n depth => exact .refl _
  | missing n depth => exact .refl _
  | leaf n b depth =>
    show d.graph.Alike (d.bind n b depth).2.graph
    unfold bind
    split
    · exact .refl _
    · split
      · exact .refl _
      · rw [register, noteReuse_frame]
        exact Graph.Alike.writeLeaf d.graph n _
  | switch n s =>
    show d.graph.Alike (d.inspectAll n s).graph
    rw [inspectAll_frame]
    exact .refl _

theorem alike_meetAll (d : Draft) (es : List Encounter) : d.graph.Alike (d.meetAll es).graph := by
  induction es generalizing d with
  | nil => exact .refl _
  | cons e es ih => exact (d.alike_meet e).trans (ih _)

/-! ### The findings -/

@[simp] theorem findings_note (d : Draft) (f : Finding) :
    (d.note f).findings.toList = d.findings.toList ++ [f] :=
  Array.toList_push

/-- A further finding is read after all others. -/
theorem filterMap_findings_note {α : Type} (read : Finding → Option α) (d : Draft) (f : Finding) :
    (d.note f).findings.toList.filterMap read =
      d.findings.toList.filterMap read ++ (read f).toList := by
  rw [findings_note, List.filterMap_append]
  cases h : read f <;> simp [h]

/-- What a switch adds to the findings is about its outputs. -/
theorem findings_inspectAll (d : Draft) (n : NodeId) (s : Switch) :
    ∃ fs : List Finding, (d.inspectAll n s).findings.toList = d.findings.toList ++ fs ∧
      ∀ f ∈ fs, f.isAboutOutput = true := by
  unfold inspectAll
  induction s.outlets.zipIdx generalizing d with
  | nil => exact ⟨[], (List.append_nil _).symm, fun _ h => absurd h List.not_mem_nil⟩
  | cons o os ih =>
    obtain ⟨fs, hfs, habout⟩ := ih (d.inspect n s o.1 o.2)
    have hone : ∃ gs : List Finding,
        (d.inspect n s o.1 o.2).findings.toList = d.findings.toList ++ gs ∧
          ∀ f ∈ gs, f.isAboutOutput = true := by
      unfold inspect
      split
      · cases s with
        | shore dry wet => exact ⟨_, findings_note .., by simp [Finding.isAboutOutput]⟩
        | ranges axis parts => exact ⟨_, findings_note .., by simp [Finding.isAboutOutput]⟩
      · split
        · exact ⟨[], (List.append_nil _).symm, fun _ h => absurd h List.not_mem_nil⟩
        · exact ⟨_, findings_note .., by simp [Finding.isAboutOutput]⟩
    obtain ⟨gs, hgs, habout'⟩ := hone
    refine ⟨gs ++ fs, ?_, ?_⟩
    · rw [List.foldl_cons, hfs, hgs, List.append_assoc]
    · intro f hf
      exact (List.mem_append.mp hf).elim (habout' f) (habout f)

/-- A reading of the findings that knows nothing about outputs is not changed by a switch. -/
theorem filterMap_findings_inspectAll {α : Type} {read : Finding → Option α}
    (hread : ∀ f, f.isAboutOutput = true → read f = none) (d : Draft) (n : NodeId) (s : Switch) :
    (d.inspectAll n s).findings.toList.filterMap read = d.findings.toList.filterMap read := by
  obtain ⟨fs, hfs, habout⟩ := d.findings_inspectAll n s
  rw [hfs, List.filterMap_append, List.filterMap_eq_nil_iff.mpr fun f hf => hread f (habout f hf),
    List.append_nil]

/-- A reading of the findings that knows nothing about names used again is not changed when a biome
is registered. -/
theorem filterMap_findings_register {α : Type} {read : Finding → Option α}
    (hread : ∀ name i j, read (.nameReused name i j) = none) (d : Draft) (n : NodeId) (b : Biome) :
    (d.register n b).findings.toList.filterMap read = d.findings.toList.filterMap read := by
  unfold register
  cases d.names.get? b.name with
  | none => rfl
  | some i =>
    show List.filterMap read (note _ (.nameReused b.name i b.id)).findings.toList = _
    rw [findings_note, List.filterMap_append, List.filterMap_cons_none (hread ..)]
    exact List.append_nil _

/-! ### The counter -/

/-- The counter stands at a number of named arrivals, or at the end of the biome numbers. -/
def Counts (d : Draft) (k : Nat) : Prop := d.counter.toNat = min k BiomeId.capacity

theorem counter_inspectAll (d : Draft) (n : NodeId) (s : Switch) :
    (d.inspectAll n s).counter = d.counter := by
  rw [inspectAll_frame]

theorem counter_register (d : Draft) (n : NodeId) (b : Biome) :
    (d.register n b).counter = d.counter + 1 := by
  rw [register, noteReuse_frame]

variable {d : Draft} {k : Nat}

/-- What can become of a leaf that is reached after `k` named ones: it is noted as unnamed, it gets
the number `k`, or it is noted as one too many. -/
theorem Counts.bind_cases (h : d.Counts k) (n : NodeId) (b : Branch) (depth : Nat) :
    (b.name.isEmpty = true ∧ d.bind n b depth = (none, d.note (.unnamedLeaf n depth))) ∨
    (b.name.isEmpty = false ∧ k < BiomeId.capacity ∧
      d.bind n b depth = (some (.ofIndex k), d.register n ⟨.ofIndex k, b.name, b.colour⟩)) ∨
    (b.name.isEmpty = false ∧ BiomeId.capacity ≤ k ∧
      d.bind n b depth = (none, d.note (.idsExhausted n))) := by
  unfold Counts at h
  unfold Draft.bind BiomeId.ofCount?
  cases hb : b.name.isEmpty with
  | true => exact .inl ⟨rfl, rfl⟩
  | false =>
    right
    by_cases hk : k < BiomeId.capacity
    · rw [Nat.min_eq_left (Nat.le_of_lt hk)] at h
      rw [if_neg (by simp), h, if_pos hk]
      exact .inl ⟨rfl, hk, rfl⟩
    · rw [Nat.min_eq_right (Nat.le_of_not_lt hk)] at h
      rw [if_neg (by simp), h, if_neg (Nat.lt_irrefl _)]
      exact .inr ⟨rfl, Nat.le_of_not_lt hk, rfl⟩

theorem Counts.bind (h : d.Counts k) (n : NodeId) (b : Branch) (depth : Nat) :
    (d.bind n b depth).2.Counts (k + if Arrival.isNamed ⟨n, b⟩ then 1 else 0) := by
  unfold Arrival.isNamed
  rcases h.bind_cases n b depth with ⟨hb, hd⟩ | ⟨hb, hk, hd⟩ | ⟨hb, hk, hd⟩
  · rw [hd, hb]
    exact h
  · -- The counter is wider than a biome number, so that counting on does not wrap around.
    have hlt : k + 1 < UInt32.size := by
      have : BiomeId.capacity < UInt32.size := by decide
      omega
    unfold Counts at h ⊢
    rw [Nat.min_eq_left (Nat.le_of_lt hk)] at h
    rw [hd, hb, counter_register, UInt32.toNat_add, h]
    show (k + 1) % UInt32.size = min (k + 1) BiomeId.capacity
    rw [Nat.mod_eq_of_lt hlt, Nat.min_eq_left hk]
  · unfold Counts at h ⊢
    rw [hd, hb]
    show d.counter.toNat = min (k + 1) BiomeId.capacity
    rw [h, Nat.min_eq_right hk, Nat.min_eq_right (Nat.le_succ_of_le hk)]

theorem Counts.meetAll (h : d.Counts k) (es : List Encounter) :
    (d.meetAll es).Counts (k + (es.filterMap Encounter.arrival?).countP Arrival.isNamed) := by
  induction es generalizing d k with
  | nil => exact h
  | cons e es ih =>
    cases e with
    | loop n depth => exact ih h
    | missing n depth => exact ih h
    | leaf n b depth =>
      have := ih (h.bind n b depth)
      rw [List.filterMap_cons_some (by rfl), List.countP_cons, Nat.add_comm (List.countP ..),
        ← Nat.add_assoc]
      exact this
    | switch n s =>
      refine ih ?_
      show (d.inspectAll n s).counter.toNat = _
      rw [counter_inspectAll]
      exact h

end Draft

end Biomes
