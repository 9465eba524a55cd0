import Biomes.Catalog.Basic

/-!
# Links between cells

A link is kept in two lists, one for each of its ends, and each list is brought up to date on its
own.  Throughout any sequence of pushes and links, refused ones included, the lists agree: a cell
has another one in its list exactly if a link between the two was made, in whichever direction
(`Catalog.WellFormed`).

* `Catalog.getElem?_link`: what a link does to each cell;
* `Catalog.WellFormed.push` and `Catalog.WellFormed.link`: one step of a sequence;
* `Catalog.wellFormed_editAll`: a whole sequence;
* `Catalog.editAll_links`: the catalog that it leaves, and what a further step does to it.
-/

namespace Biomes

/-! ### The two ends of a link -/

namespace Cell

/-- The cell with another position in its list, which is not entered twice. -/
def linkTo (c : Cell) (j : Nat) : Cell :=
  if c.links.contains j then c else { c with links := c.links.push j }

theorem linkTo_of_mem {c : Cell} {j : Nat} (h : j ∈ c.links) : c.linkTo j = c := by
  rw [linkTo, if_pos (Array.contains_iff_mem.mpr h)]

theorem linkTo_of_not_mem {c : Cell} {j : Nat} (h : j ∉ c.links) :
    c.linkTo j = { c with links := c.links.push j } := by
  rw [linkTo, if_neg (by simpa using h)]

/-- A link concerns the list only. -/
theorem linkTo_frame (c : Cell) (j : Nat) : c.linkTo j = { c with links := (c.linkTo j).links } := by
  by_cases h : j ∈ c.links
  · rw [linkTo_of_mem h]
  · rw [linkTo_of_not_mem h]

theorem mem_links_linkTo {c : Cell} {j m : Nat} : m ∈ (c.linkTo j).links ↔ m ∈ c.links ∨ m = j := by
  by_cases h : j ∈ c.links
  · rw [linkTo_of_mem h]
    constructor
    · exact Or.inl
    · rintro (hm | rfl)
      · exact hm
      · exact h
  · rw [linkTo_of_not_mem h]
    exact Array.mem_push

theorem nodup_linkTo {c : Cell} (hc : c.links.toList.Nodup) (j : Nat) :
    (c.linkTo j).links.toList.Nodup := by
  by_cases h : j ∈ c.links
  · rwa [linkTo_of_mem h]
  · rw [linkTo_of_not_mem h]
    show (c.links.push j).toList.Nodup
    rw [Array.toList_push, List.nodup_append]
    refine ⟨hc, by simp, ?_⟩
    intro m hm m' hm'
    rw [List.mem_singleton] at hm'
    rintro rfl
    rw [hm'] at hm
    exact h (Array.mem_toList_iff.mp hm)

/-- The cell at a position after a link between two positions, which may both be its own. -/
def join (i a b : Nat) (c : Cell) : Cell :=
  let d := if i = a then c.linkTo b else c
  if i = b then d.linkTo a else d

section

variable {i a b : Nat} {c : Cell}

theorem join_frame (i a b : Nat) (c : Cell) :
    c.join i a b = { c with links := (c.join i a b).links } := by
  have hif : ∀ (p : Prop) [Decidable p] (d : Cell) (j : Nat), (if p then d.linkTo j else d) =
      { d with links := (if p then d.linkTo j else d).links } := by
    intro p _ d j
    split
    · exact d.linkTo_frame j
    · rfl
  rw [join, hif (i = b), hif (i = a)]

theorem mem_links_join {m : Nat} :
    m ∈ (c.join i a b).links ↔ m ∈ c.links ∨ (i = a ∧ m = b) ∨ (i = b ∧ m = a) := by
  unfold join
  by_cases ha : i = a
  · by_cases hb : i = b
    · -- A link of a cell to itself: both ends enter the same position.
      rw [if_pos hb, mem_links_linkTo, if_pos ha, mem_links_linkTo]
      grind
    · rw [if_neg hb, if_pos ha, mem_links_linkTo]
      grind
  · by_cases hb : i = b
    · rw [if_pos hb, mem_links_linkTo, if_neg ha]
      grind
    · rw [if_neg hb, if_neg ha]
      grind

theorem nodup_join (hc : c.links.toList.Nodup) : (c.join i a b).links.toList.Nodup := by
  unfold join
  split <;> split <;> simp only [nodup_linkTo, hc]

/-- A cell at neither end stays as it is. -/
theorem join_of_ne (ha : i ≠ a) (hb : i ≠ b) : c.join i a b = c := by
  rw [join, if_neg hb, if_neg ha]

/-- A cell that has the link already stays as it is. -/
theorem join_of_mem (ha : i = a → b ∈ c.links) (hb : i = b → a ∈ c.links) : c.join i a b = c := by
  have hfirst : (if i = a then c.linkTo b else c) = c := by
    split
    case isTrue h => exact linkTo_of_mem (ha h)
    case isFalse => rfl
  unfold join
  rw [hfirst]
  split
  case isTrue h => exact linkTo_of_mem (hb h)
  case isFalse => rfl

end

end Cell

namespace Catalog

section

variable {k : Catalog} {a b : Nat}

theorem push_of_lt (h : k.cells.size < capacity) (c : Cell) :
    k.push c = (⟨k.cells.push { c with id := UInt16.ofNat k.cells.size }⟩, .ok k.cells.size) := by
  rw [push, if_pos h]

/-- After a push that succeeds, a cell is the new one or was there before. -/
theorem cell_push_cases (h : k.cells.size < capacity) {c d : Cell} {i : Nat}
    (hd : (k.push c).1.cells[i]? = some d) :
    (i = k.cells.size ∧ d = { c with id := UInt16.ofNat k.cells.size }) ∨
      k.cells[i]? = some d := by
  rw [push_of_lt h, Array.getElem?_push] at hd
  split at hd
  case isTrue hi => exact .inl ⟨hi, (Option.some.inj hd).symm⟩
  case isFalse => exact .inr hd

theorem size_push (h : k.cells.size < capacity) (c : Cell) :
    (k.push c).1.cells.size = k.cells.size + 1 := by
  rw [push_of_lt h]
  exact Array.size_push _

theorem push_of_le (h : capacity ≤ k.cells.size) (c : Cell) :
    k.push c = (k, .error ⟨k.cells.size⟩) := by
  rw [push, if_neg (Nat.not_lt.mpr h)]

theorem link_of_lt (ha : a < k.cells.size) (hb : b < k.cells.size) :
    k.link a b = ((k.addLink a b).addLink b a, .ok ()) := by
  rw [link, linkError?, if_neg (Nat.not_le.mpr hb), if_neg (Nat.not_le.mpr ha)]

/-- A link to or from a position without a cell is refused, and changes nothing. -/
theorem link_of_le (h : k.cells.size ≤ a ∨ k.cells.size ≤ b) : ∃ e, k.link a b = (k, .error e) := by
  unfold link linkError?
  by_cases hb : k.cells.size ≤ b
  · rw [if_pos hb]
    exact ⟨_, rfl⟩
  · rw [if_neg hb, if_pos (h.resolve_right hb)]
    exact ⟨_, rfl⟩

theorem getElem?_addLink (k : Catalog) (a b i : Nat) :
    (k.addLink a b).cells[i]? = k.cells[i]?.map fun c => if i = a then c.linkTo b else c := by
  show (k.cells.modify a fun c => c.linkTo b)[i]? = _
  rw [Array.getElem?_modify]
  by_cases hi : a = i
  · rw [if_pos hi]
    simp [hi]
  · rw [if_neg hi]
    simp [Ne.symm hi]

/-- A link that is made joins the cells at its two ends and leaves all others alone. -/
theorem getElem?_link (ha : a < k.cells.size) (hb : b < k.cells.size) (i : Nat) :
    (k.link a b).1.cells[i]? = k.cells[i]?.map (Cell.join i a b) := by
  rw [link_of_lt ha hb, getElem?_addLink, getElem?_addLink, Option.map_map]
  rfl

theorem size_link (ha : a < k.cells.size) (hb : b < k.cells.size) :
    (k.link a b).1.cells.size = k.cells.size := by
  rw [link_of_lt ha hb]
  exact Array.size_modify.trans Array.size_modify

end

/-! ### Sequences of pushes and links -/

/-- Something that is done to a catalog. -/
inductive Edit where
  | push (c : Cell)
  | link (a b : Nat)

/-- Whether an edit brings no links with it: a cell that is pushed has none yet. -/
def Edit.isFresh : Edit → Bool
  | .push c => c.links.isEmpty
  | .link .. => true

/-- The catalog after an edit, which may be refused. -/
def edit (k : Catalog) : Edit → Catalog
  | .push c => (k.push c).1
  | .link a b => (k.link a b).1

/-- The catalog after some edits. -/
def editAll (k : Catalog) (es : List Edit) : Catalog := es.foldl edit k

/-- The cell that an edit pushes, if it is not refused. -/
def pushed? (k : Catalog) : Edit → Option Cell
  | .push c => (k.push c).2.toOption.map fun _ => c
  | .link .. => none

/-- The link that an edit makes, if it is not refused. -/
def linked? (k : Catalog) : Edit → Option (Nat × Nat)
  | .push _ => none
  | .link a b => (k.link a b).2.toOption.map fun _ => (a, b)

/-- The cells that some edits push, in their order. -/
def pushed (k : Catalog) : List Edit → List Cell
  | [] => []
  | e :: es => (k.pushed? e).toList ++ (k.edit e).pushed es

/-- The links that some edits make, in their order. -/
def linked (k : Catalog) : List Edit → List (Nat × Nat)
  | [] => []
  | e :: es => (k.linked? e).toList ++ (k.edit e).linked es

/-- The catalog consists of some pushed cells, each under the number of its position, and the lists
of the cells hold what some links between them ask for. -/
structure WellFormed (k : Catalog) (cs : List Cell) (ls : List (Nat × Nat)) : Prop where
  size_le : k.cells.size ≤ capacity
  size_eq : k.cells.size = cs.length
  cell_eq : ∀ (i : Nat) (d : Cell), k.cells[i]? = some d →
    ∃ c, cs[i]? = some c ∧ d = { c with id := UInt16.ofNat i, links := d.links }
  linked_lt : ∀ x ∈ ls, x.1 < k.cells.size ∧ x.2 < k.cells.size
  nodup : ∀ (i : Nat) (d : Cell), k.cells[i]? = some d → d.links.toList.Nodup
  mem_links_iff : ∀ (i : Nat) (d : Cell), k.cells[i]? = some d →
    ∀ j, j ∈ d.links ↔ (i, j) ∈ ls ∨ (j, i) ∈ ls

namespace WellFormed

variable {k : Catalog} {cs : List Cell} {ls : List (Nat × Nat)}

theorem empty : Catalog.empty.WellFormed [] [] := by
  have hnone : ∀ (i : Nat) (d : Cell), Catalog.empty.cells[i]? ≠ some d := by
    intro i d
    simp [Catalog.empty]
  refine ⟨Nat.zero_le _, rfl, ?_, by simp, ?_, ?_⟩
  · intro i d hd
    exact absurd hd (hnone i d)
  · intro i d hd
    exact absurd hd (hnone i d)
  · intro i d hd
    exact absurd hd (hnone i d)

/-- A cell has its position as its number. -/
theorem toNat_id (h : k.WellFormed cs ls) {i : Nat} {d : Cell} (hd : k.cells[i]? = some d) :
    d.id.toNat = i := by
  obtain ⟨c, -, heq⟩ := h.cell_eq i d hd
  have hlt : i < k.cells.size := (Array.getElem?_eq_some_iff.mp hd).1
  have hcapacity : capacity = UInt16.size := rfl
  have hle := h.size_le
  rw [heq]
  exact UInt16.toNat_ofNat_of_lt' (by omega)

/-- Cells are linked to cells of the catalog only. -/
theorem lt_of_mem_links (h : k.WellFormed cs ls) {i j : Nat} {d : Cell}
    (hd : k.cells[i]? = some d) (hj : j ∈ d.links) : j < k.cells.size := by
  rcases (h.mem_links_iff i d hd j).mp hj with hmem | hmem
  · exact (h.linked_lt _ hmem).2
  · exact (h.linked_lt _ hmem).1

/-- Links go both ways. -/
theorem mem_links_comm (h : k.WellFormed cs ls) {i j : Nat} {c d : Cell}
    (hc : k.cells[i]? = some c) (hd : k.cells[j]? = some d) : j ∈ c.links ↔ i ∈ d.links := by
  rw [h.mem_links_iff i c hc, h.mem_links_iff j d hd, or_comm]

/-- A link that was made already, in whichever direction, changes nothing. -/
theorem link_of_mem (h : k.WellFormed cs ls) {a b : Nat} (hab : (a, b) ∈ ls ∨ (b, a) ∈ ls) :
    k.link a b = (k, .ok ()) := by
  obtain ⟨ha, hb⟩ : a < k.cells.size ∧ b < k.cells.size := by
    rcases hab with hab | hab
    · exact h.linked_lt _ hab
    · exact (h.linked_lt _ hab).symm
  have hsame : (k.link a b).1 = k := by
    show Catalog.mk (k.link a b).1.cells = k
    congr 1
    apply Array.ext_getElem?
    intro i
    rw [getElem?_link ha hb]
    cases hd : k.cells[i]? with
    | none => rfl
    | some d =>
      -- Each end of the link has the other in its list already.
      have hmem := h.mem_links_iff i d hd
      rw [Option.map_some, Cell.join_of_mem]
      · rintro rfl
        exact (hmem b).mpr hab
      · rintro rfl
        exact (hmem a).mpr hab.symm
  have hok : (k.link a b).2 = .ok () := by rw [link_of_lt ha hb]
  exact Prod.ext hsame hok

/-- No link can have been made to a cell that is not there yet. -/
theorem not_linked (h : k.WellFormed cs ls) (j : Nat) :
    ¬((k.cells.size, j) ∈ ls ∨ (j, k.cells.size) ∈ ls) := by
  rintro (hmem | hmem)
  · exact Nat.lt_irrefl _ (h.linked_lt _ hmem).1
  · exact Nat.lt_irrefl _ (h.linked_lt _ hmem).2

/-- A cell without links is pushed, unless the catalog is full. -/
theorem push (h : k.WellFormed cs ls) {c : Cell} (hc : c.links = #[]) :
    (k.push c).1.WellFormed (cs ++ (k.pushed? (.push c)).toList) ls := by
  by_cases hlt : k.cells.size < capacity
  · have hone : (k.pushed? (.push c)).toList = [c] := by
      rw [pushed?, push_of_lt hlt]
      rfl
    have hsize := size_push hlt c
    rw [hone]
    refine ⟨?_, ?_, ?_, ?_, ?_, ?_⟩
    · omega
    · rw [hsize, List.length_append, h.size_eq]
      rfl
    · intro i d hd
      rcases cell_push_cases hlt hd with ⟨rfl, rfl⟩ | hd
      · refine ⟨c, ?_, rfl⟩
        rw [h.size_eq, List.getElem?_concat_length]
      · obtain ⟨c₀, hc₀, heq⟩ := h.cell_eq i d hd
        refine ⟨c₀, ?_, heq⟩
        rw [List.getElem?_append_left (List.getElem?_eq_some_iff.mp hc₀).1, hc₀]
    · intro x hx
      have := h.linked_lt x hx
      omega
    · intro i d hd
      rcases cell_push_cases hlt hd with ⟨-, rfl⟩ | hd
      · simp [hc]
      · exact h.nodup i d hd
    · intro i d hd j
      rcases cell_push_cases hlt hd with ⟨rfl, rfl⟩ | hd
      · simp only [hc, Array.not_mem_empty, false_iff]
        exact h.not_linked j
      · exact h.mem_links_iff i d hd j
  · have hnone : (k.pushed? (.push c)).toList = [] := by
      rw [pushed?, push_of_le (Nat.le_of_not_lt hlt)]
      rfl
    rwa [hnone, push_of_le (Nat.le_of_not_lt hlt), List.append_nil]

/-- A link is made between two cells, unless one of them is not there. -/
theorem link (h : k.WellFormed cs ls) (a b : Nat) :
    (k.link a b).1.WellFormed cs (ls ++ (k.linked? (.link a b)).toList) := by
  by_cases hab : k.cells.size ≤ a ∨ k.cells.size ≤ b
  · obtain ⟨e, he⟩ := link_of_le hab
    have hnone : (k.linked? (.link a b)).toList = [] := by
      rw [linked?, he]
      rfl
    rwa [hnone, he, List.append_nil]
  · have ha : a < k.cells.size := by omega
    have hb : b < k.cells.size := by omega
    have hone : (k.linked? (.link a b)).toList = [(a, b)] := by
      rw [linked?, link_of_lt ha hb]
      rfl
    have hcell : ∀ (i : Nat) (d : Cell), (k.link a b).1.cells[i]? = some d →
        ∃ c, k.cells[i]? = some c ∧ c.join i a b = d := by
      intro i d hd
      rwa [getElem?_link ha hb, Option.map_eq_some_iff] at hd
    have hsize := size_link ha hb
    rw [hone]
    refine ⟨?_, ?_, ?_, ?_, ?_, ?_⟩
    · rw [hsize]
      exact h.size_le
    · rw [hsize]
      exact h.size_eq
    · intro i d hd
      obtain ⟨c, hc, rfl⟩ := hcell i d hd
      obtain ⟨c₀, hc₀, heq⟩ := h.cell_eq i c hc
      refine ⟨c₀, hc₀, ?_⟩
      rw [Cell.join_frame, heq]
    · intro x hx
      rw [hsize]
      rcases List.mem_append.mp hx with hx | hx
      · exact h.linked_lt x hx
      · rw [List.mem_singleton.mp hx]
        exact ⟨ha, hb⟩
    · intro i d hd
      obtain ⟨c, hc, rfl⟩ := hcell i d hd
      exact Cell.nodup_join (h.nodup i c hc)
    · intro i d hd j
      obtain ⟨c, hc, rfl⟩ := hcell i d hd
      rw [Cell.mem_links_join, h.mem_links_iff i c hc, List.mem_append, List.mem_append,
        List.mem_singleton, List.mem_singleton, Prod.mk.injEq, Prod.mk.injEq]
      -- The new link is either `(i, j)` or `(j, i)`.
      constructor
      · rintro ((hij | hji) | ⟨rfl, rfl⟩ | ⟨rfl, rfl⟩) <;> simp [*]
      · rintro ((hij | ⟨rfl, rfl⟩) | (hji | ⟨rfl, rfl⟩)) <;> simp [*]

/-- An edit that brings no links with it keeps a catalog well formed. -/
theorem edit (h : k.WellFormed cs ls) {e : Edit} (he : e.isFresh = true) :
    (k.edit e).WellFormed (cs ++ (k.pushed? e).toList) (ls ++ (k.linked? e).toList) := by
  cases e with
  | push c =>
    show (k.push c).1.WellFormed _ (ls ++ [])
    rw [List.append_nil]
    exact h.push (by simpa [Edit.isFresh] using he)
  | link a b =>
    show (k.link a b).1.WellFormed (cs ++ []) _
    rw [List.append_nil]
    exact h.link a b

/-- Some edits that bring no links with them keep a catalog well formed. -/
theorem editAll (h : k.WellFormed cs ls) {es : List Edit} (hes : ∀ e ∈ es, e.isFresh = true) :
    (k.editAll es).WellFormed (cs ++ k.pushed es) (ls ++ k.linked es) := by
  induction es generalizing k cs ls with
  | nil =>
    rw [pushed, linked, List.append_nil, List.append_nil]
    exact h
  | cons e es ih =>
    rw [pushed, linked, ← List.append_assoc, ← List.append_assoc]
    show ((k.edit e).editAll es).WellFormed _ _
    apply ih
    · exact h.edit (hes e List.mem_cons_self)
    · intro e' he'
      exact hes e' (List.mem_cons_of_mem _ he')

end WellFormed

/-- A link leaves everything alone but the lists at its ends. -/
theorem link_frame (k : Catalog) (a b : Nat) :
    (k.link a b).1.cells.size = k.cells.size ∧
    ∀ (i : Nat) (d : Cell), k.cells[i]? = some d →
      ∃ d', (k.link a b).1.cells[i]? = some d' ∧ d' = { d with links := d'.links } ∧
        (i ≠ a → i ≠ b → d' = d) := by
  by_cases hab : k.cells.size ≤ a ∨ k.cells.size ≤ b
  · obtain ⟨e, he⟩ := link_of_le hab
    rw [he]
    exact ⟨rfl, fun i d hd => ⟨d, hd, rfl, fun _ _ => rfl⟩⟩
  · have ha : a < k.cells.size := by omega
    have hb : b < k.cells.size := by omega
    refine ⟨size_link ha hb, ?_⟩
    intro i d hd
    refine ⟨d.join i a b, ?_, Cell.join_frame i a b d, Cell.join_of_ne⟩
    rw [getElem?_link ha hb, hd, Option.map_some]

/-- **Catalogs stay well formed.**  After any sequence of pushes of cells without links and of
links, the cells are those that were pushed, each under the number of its position; their lists are
without repetition and hold the links that were made, in both directions; and what a further push or
link does is known: a full catalog takes no cell, a link to nothing or one that was made already
changes nothing, and any other changes the lists at its ends only. -/
theorem editAll_links {es : List Edit} (hes : ∀ e ∈ es, e.isFresh = true) :
    let k := empty.editAll es
    k.cells.size ≤ capacity ∧
    (∀ (i : Nat) (d : Cell), k.cells[i]? = some d →
      d.id.toNat = i ∧
      (∃ c, (empty.pushed es)[i]? = some c ∧ d = { c with id := d.id, links := d.links }) ∧
      d.links.toList.Nodup ∧
      (∀ j ∈ d.links, j < k.cells.size) ∧
      (∀ j, j ∈ d.links ↔ (i, j) ∈ empty.linked es ∨ (j, i) ∈ empty.linked es) ∧
      ∀ (j : Nat) (d' : Cell), k.cells[j]? = some d' → (j ∈ d.links ↔ i ∈ d'.links)) ∧
    (∀ c, k.push c =
      if k.cells.size = capacity then (k, .error ⟨capacity⟩)
      else (⟨k.cells.push { c with id := UInt16.ofNat k.cells.size }⟩, .ok k.cells.size)) ∧
    (∀ a b, k.cells.size ≤ a ∨ k.cells.size ≤ b → ∃ e, k.link a b = (k, .error e)) ∧
    (∀ a b, (a, b) ∈ empty.linked es ∨ (b, a) ∈ empty.linked es → k.link a b = (k, .ok ())) ∧
    ∀ a b, (k.link a b).1.cells.size = k.cells.size ∧
      ∀ (i : Nat) (d : Cell), k.cells[i]? = some d →
        ∃ d', (k.link a b).1.cells[i]? = some d' ∧ d' = { d with links := d'.links } ∧
          (i ≠ a → i ≠ b → d' = d) := by
  intro k
  have h : k.WellFormed (empty.pushed es) (empty.linked es) := WellFormed.empty.editAll hes
  refine ⟨h.size_le, ?_, ?_, fun a b => link_of_le, fun a b => h.link_of_mem, k.link_frame⟩
  · intro i d hd
    refine ⟨h.toNat_id hd, ?_, h.nodup i d hd, fun j => h.lt_of_mem_links hd,
      h.mem_links_iff i d hd, fun j d' => h.mem_links_comm hd⟩
    obtain ⟨c, hc, heq⟩ := h.cell_eq i d hd
    refine ⟨c, hc, ?_⟩
    rw [heq]
  · intro c
    by_cases hsize : k.cells.size = capacity
    · rw [if_pos hsize, push_of_le (Nat.le_of_eq hsize.symm), hsize]
    · rw [if_neg hsize]
      have hle := h.size_le
      exact push_of_lt (by omega) c

/-- Three cells, of which the first two are linked twice and the last to itself; the last link leads
nowhere. -/
def hedge : List Edit :=
  [.push default, .push default, .link 1 0, .push default, .link 0 1, .link 2 2, .link 0 3]

theorem editAll_links_hedge :
    (∀ e ∈ hedge, e.isFresh = true) ∧
    empty.linked hedge = [(1, 0), (0, 1), (2, 2)] ∧
    (empty.editAll hedge).link 2 2 = (empty.editAll hedge, .ok ()) := by
  have hes : ∀ e ∈ hedge, e.isFresh = true := by decide
  have hlinked : empty.linked hedge = [(1, 0), (0, 1), (2, 2)] := by decide
  refine ⟨hes, hlinked, ?_⟩
  apply (editAll_links hes).2.2.2.2.1
  rw [hlinked]
  decide

end Catalog

end Biomes
