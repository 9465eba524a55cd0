import Biomes.Proofs.Compile.Numbering
import Biomes.Proofs.DecisionTree.Line

/-!
# What a dump shows

A dump has one line for each node, a node before the nodes below it (`DecisionTree.rows`).  Lines are
told apart by the line breaks (`DecisionTree.splitOn_dump`), and each shows its row.  The rows show
how the nodes hang together as well: below a node are those that follow it, up to the next one that
is not deeper (`DecisionTree.rows_inj`).  So trees with the same dump are the same but for the
colours, which are not shown (`DecisionTree.dump_eq_iff`).
-/

namespace Biomes

/-- A branch without its colour. -/
def Branch.uncoloured (b : Branch) : Branch := ⟨b.test, b.name, .black⟩

namespace DecisionTree

/-! ### Rows -/

/-- What a line shows: a node's depth, its branch and its biome. -/
structure Row where
  depth : Nat
  branch : Branch
  biome : Option BiomeId

def Row.line (r : Row) : String := DecisionTree.line r.depth r.branch r.biome

mutual

/-- The rows of a node and of the nodes below it. -/
def rows (depth : Nat) : DecisionTree → List Row
  | .node b i ts => ⟨depth, b, i⟩ :: rowsAll (depth + 1) ts

/-- The rows of several nodes and of the nodes below them. -/
def rowsAll (depth : Nat) : List DecisionTree → List Row
  | [] => []
  | t :: ts => t.rows depth ++ rowsAll depth ts

end

mutual

/-- There is one row for each node, in the same order. -/
theorem map_rows (depth : Nat) : ∀ t : DecisionTree,
    (t.rows depth).map (fun r => (r.branch, r.biome)) = t.nodes.map fun u => (u.branch, u.biome)
  | .node b i ts => by
    rw [rows, nodes, List.map_cons, List.map_cons, map_rowsAll]
    rfl

theorem map_rowsAll (depth : Nat) : ∀ ts : List DecisionTree,
    (rowsAll depth ts).map (fun r => (r.branch, r.biome)) =
      (nodesAll ts).map fun u => (u.branch, u.biome)
  | [] => rfl
  | t :: ts => by
    rw [rowsAll, nodesAll, List.map_append, List.map_append, map_rows, map_rowsAll]

end

theorem exists_node_of_mem_rows {t : DecisionTree} {depth : Nat} {r : Row} (h : r ∈ t.rows depth) :
    ∃ u ∈ t.nodes, u.branch = r.branch ∧ u.biome = r.biome := by
  have hmem := List.mem_map_of_mem (f := fun r : Row => (r.branch, r.biome)) h
  rw [map_rows] at hmem
  obtain ⟨u, hu, heq⟩ := List.mem_map.mp hmem
  obtain ⟨hbranch, hbiome⟩ := Prod.mk.inj heq
  exact ⟨u, hu, hbranch, hbiome⟩

mutual

theorem toList_pushLines (depth : Nat) (lines : Array String) : ∀ t : DecisionTree,
    (t.pushLines depth lines).toList = lines.toList ++ (t.rows depth).map Row.line
  | .node b i ts => by
    rw [pushLines, toList_pushAllLines, Array.toList_push, List.append_assoc, rows]
    rfl

theorem toList_pushAllLines (depth : Nat) (lines : Array String) : ∀ ts : List DecisionTree,
    (pushAllLines depth lines ts).toList = lines.toList ++ (rowsAll depth ts).map Row.line
  | [] => by
    rw [pushAllLines, rowsAll]
    exact (List.append_nil _).symm
  | t :: ts => by
    rw [pushAllLines, toList_pushAllLines, toList_pushLines, rowsAll, List.map_append,
      List.append_assoc]

end

theorem toList_lines (t : DecisionTree) : t.lines.toList = (t.rows 0).map Row.line :=
  toList_pushLines 0 #[] t

theorem toList_dump (t : DecisionTree) :
    t.dump.toList = (t.rows 0).flatMap fun r => r.line.toList ++ ['\n'] := by
  have hfold (ls : List String) (s : String) :
      (ls.foldl (fun s l => s ++ l ++ "\n") s).toList =
        s.toList ++ ls.flatMap fun l => l.toList ++ ['\n'] := by
    induction ls generalizing s with
    | nil => exact (List.append_nil _).symm
    | cons l ls ih =>
      rw [List.foldl_cons, ih, String.toList_append, String.toList_append, List.flatMap_cons,
        List.append_assoc, List.append_assoc, List.append_assoc]
      rfl
  rw [dump, ← Array.foldl_toList, hfold, toList_lines, List.flatMap_map]
  rfl

/-- The names of branches take one line. -/
def HasPlainNames (t : DecisionTree) : Prop := ∀ u ∈ t.nodes, '\n' ∉ u.branch.name.toList

/-- **The lines of a dump are those of the rows.** -/
theorem splitOn_dump {t : DecisionTree} (h : t.HasPlainNames) :
    t.dump.toList.splitOn '\n' = (t.rows 0).map (fun r => r.line.toList) ++ [[]] := by
  have hrows : ∀ r ∈ t.rows 0, '\n' ∉ r.line.toList := by
    intro r hr
    obtain ⟨u, hu, hbranch, -⟩ := exists_node_of_mem_rows hr
    exact not_newline_mem_line (hbranch ▸ h u hu) _ _
  rw [toList_dump]
  generalize t.rows 0 = rs at hrows
  induction rs with
  | nil => rfl
  | cons r rs ih =>
    obtain ⟨hr, hrs⟩ := List.forall_mem_cons.mp hrows
    have hr' : ∀ c ∈ r.line.toList, (c == '\n') = false :=
      fun c hc => beq_eq_false_iff_ne.mpr fun heq => hr (heq ▸ hc)
    rw [List.flatMap_cons, List.append_assoc]
    refine (List.splitOnP_append_cons_of_forall_mem hr' '\n' (by simp) _).trans ?_
    exact congrArg (List.cons _) (ih hrs)

/-! ### From the rows to the tree -/

/-- What follows the nodes of a depth: nothing, or a row that is less deep. -/
def Ends (depth : Nat) (rs : List Row) : Prop := ∀ r ∈ rs.head?, r.depth < depth

/-- Below a node nothing follows but its siblings and what follows these. -/
theorem ends_rowsAll {depth : Nat} {rs : List Row} (h : Ends depth rs) (ts : List DecisionTree) :
    Ends (depth + 1) (rowsAll depth ts ++ rs) := by
  cases ts with
  | nil => exact fun r hr => Nat.lt_succ_of_lt (h r hr)
  | cons t ts =>
    obtain ⟨b, i, us⟩ := t
    intro r hr
    obtain rfl := Option.some.inj hr
    exact Nat.lt_succ_self depth

/-- Where siblings end, there are no more of them. -/
theorem not_ends_rowsAll {depth : Nat} {rs : List Row} (t : DecisionTree) (ts : List DecisionTree) :
    ¬Ends depth (rowsAll depth (t :: ts) ++ rs) := by
  obtain ⟨b, i, us⟩ := t
  exact fun h => Nat.lt_irrefl depth (h _ rfl)

mutual

/-- **The rows of a node end where they say**: they tell the node from what follows it. -/
theorem rows_inj {depth : Nat} {rs rs' : List Row} (hrs : Ends (depth + 1) rs)
    (hrs' : Ends (depth + 1) rs') : ∀ t u : DecisionTree,
      t.rows depth ++ rs = u.rows depth ++ rs' → t = u ∧ rs = rs'
  | .node b i ts, .node b' i' us, h => by
    rw [rows, rows] at h
    obtain ⟨hrow, hrest⟩ := List.cons.inj h
    obtain ⟨-, rfl, rfl⟩ := Row.mk.inj hrow
    obtain ⟨rfl, hfollowing⟩ := rowsAll_inj hrs hrs' ts us hrest
    exact ⟨rfl, hfollowing⟩

theorem rowsAll_inj {depth : Nat} {rs rs' : List Row} (hrs : Ends depth rs) (hrs' : Ends depth rs') :
    ∀ ts us : List DecisionTree,
      rowsAll depth ts ++ rs = rowsAll depth us ++ rs' → ts = us ∧ rs = rs'
  | [], [], h => ⟨rfl, h⟩
  | [], u :: us, h => by
    have h : rs = _ := h
    exact (not_ends_rowsAll u us (h ▸ hrs)).elim
  | t :: ts, [], h => by
    have h : _ = rs' := h
    exact (not_ends_rowsAll t ts (h.symm ▸ hrs')).elim
  | t :: ts, u :: us, h => by
    rw [rowsAll, rowsAll, List.append_assoc, List.append_assoc] at h
    obtain ⟨rfl, hrest⟩ := rows_inj (ends_rowsAll hrs ts) (ends_rowsAll hrs' us) t u h
    obtain ⟨rfl, hfollowing⟩ := rowsAll_inj hrs hrs' ts us hrest
    exact ⟨rfl, hfollowing⟩

end

/-! ### Colours -/

mutual

/-- A tree without the colours of its branches. -/
def uncoloured : DecisionTree → DecisionTree
  | .node b i ts => .node b.uncoloured i (uncolouredAll ts)

/-- Several trees without the colours of their branches. -/
def uncolouredAll : List DecisionTree → List DecisionTree
  | [] => []
  | t :: ts => t.uncoloured :: uncolouredAll ts

end

def Row.uncoloured (r : Row) : Row := ⟨r.depth, r.branch.uncoloured, r.biome⟩

mutual

theorem rows_uncoloured (depth : Nat) : ∀ t : DecisionTree,
    t.uncoloured.rows depth = (t.rows depth).map Row.uncoloured
  | .node b i ts => by
    rw [uncoloured, rows, rows, List.map_cons, rowsAll_uncolouredAll]
    rfl

theorem rowsAll_uncolouredAll (depth : Nat) : ∀ ts : List DecisionTree,
    rowsAll depth (uncolouredAll ts) = (rowsAll depth ts).map Row.uncoloured
  | [] => rfl
  | t :: ts => by
    rw [uncolouredAll, rowsAll, rowsAll, List.map_append, rows_uncoloured, rowsAll_uncolouredAll]

end

mutual

/-- A place is classified without regard to colours. -/
theorem classify_uncoloured (p : Point) : ∀ t : DecisionTree,
    t.uncoloured.classify p = t.classify p
  | .node b (some i) ts => rfl
  | .node b none ts => by
    rw [uncoloured, classify, classify, classifyFirst_uncolouredAll]

theorem classifyFirst_uncolouredAll (p : Point) : ∀ ts : List DecisionTree,
    classifyFirst p (uncolouredAll ts) = classifyFirst p ts
  | [] => rfl
  | t :: ts => by
    have haccepts : t.uncoloured.accepts p = t.accepts p := by
      obtain ⟨b, i, us⟩ := t
      rfl
    rw [uncolouredAll, classifyFirst, classifyFirst, haccepts, classify_uncoloured,
      classifyFirst_uncolouredAll]

end

theorem Row.line_uncoloured (r : Row) : r.uncoloured.line = r.line := rfl

/-- Colours are not shown. -/
theorem lines_uncoloured (t : DecisionTree) : t.uncoloured.lines = t.lines := by
  rw [← Array.toList_inj, toList_lines, toList_lines, rows_uncoloured, List.map_map]
  exact List.map_congr_left fun r _ => r.line_uncoloured

/-! ### The same dump -/

/-- Only the start is without a test, and it has no name. -/
def NamesAreTested (t : DecisionTree) : Prop :=
  ∀ u ∈ t.nodes, u.branch.test = .never → u.branch.name = ""

/-- Rows that are shown by the same lines are the same but for the colours. -/
theorem map_uncoloured_eq_of_map_line_eq {rs rs' : List Row}
    (hrs : ∀ r ∈ rs, r.branch.test = .never → r.branch.name = "")
    (hrs' : ∀ r ∈ rs', r.branch.test = .never → r.branch.name = "")
    (h : rs.map Row.line = rs'.map Row.line) :
    rs.map Row.uncoloured = rs'.map Row.uncoloured := by
  induction rs generalizing rs' with
  | nil =>
    obtain rfl := List.map_eq_nil_iff.mp h.symm
    rfl
  | cons r rs ih =>
    obtain ⟨r', rs'', rfl, hline, hlines⟩ := List.map_eq_cons_iff.mp h.symm
    obtain ⟨hr, hrs⟩ := List.forall_mem_cons.mp hrs
    obtain ⟨hr', hrs'⟩ := List.forall_mem_cons.mp hrs'
    obtain ⟨hdepth, htest, hname, hbiome⟩ := line_inj hr hr' hline.symm
    rw [List.map_cons, List.map_cons, ih hrs hrs' hlines.symm]
    congr 1
    rw [Row.uncoloured, Row.uncoloured, Branch.uncoloured, Branch.uncoloured, hdepth, htest, hname,
      hbiome]

/-- **Trees with the same dump are the same but for the colours.** -/
theorem dump_eq_iff {t u : DecisionTree} (ht : t.HasPlainNames) (hu : u.HasPlainNames)
    (ht' : t.NamesAreTested) (hu' : u.NamesAreTested) :
    t.dump = u.dump ↔ t.uncoloured = u.uncoloured := by
  constructor
  · intro h
    have hnamed {t : DecisionTree} (ht : t.NamesAreTested) :
        ∀ r ∈ t.rows 0, r.branch.test = .never → r.branch.name = "" := by
      intro r hr
      obtain ⟨v, hv, hbranch, -⟩ := exists_node_of_mem_rows hr
      rw [← hbranch]
      exact ht v hv
    -- The names have no line breaks, so the dump can be cut into its lines.
    have hlines : (t.rows 0).map Row.line = (u.rows 0).map Row.line := by
      have hsplit := congrArg (fun s => s.toList.splitOn '\n') h
      rw [splitOn_dump ht, splitOn_dump hu] at hsplit
      refine (List.map_injective_iff.mpr fun _ _ => String.toList_injective) ?_
      rw [List.map_map, List.map_map]
      exact List.append_cancel_right hsplit
    have hrows := map_uncoloured_eq_of_map_line_eq (hnamed ht') (hnamed hu') hlines
    rw [← rows_uncoloured, ← rows_uncoloured] at hrows
    -- Nothing follows the nodes below the start.
    have hends : Ends 1 [] := fun r hr => by cases hr
    exact (rows_inj hends hends _ _ (congrArg (· ++ []) hrows)).1
  · intro h
    rw [dump, dump, ← lines_uncoloured, h, lines_uncoloured]

end DecisionTree

end Biomes
