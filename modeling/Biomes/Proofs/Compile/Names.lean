import Biomes.Proofs.Compile.Leaves
import Mathlib.Data.Finset.Card

/-!
# What a name stands for

Several biomes of a build can have the same name; the name then stands for the latest of them.  The
table of names is that of the biomes entered one after the other (`NameTable.ofBiomes`), and every
entry that takes the place of another is noted with both numbers (`Biome.reuses`).  Both hold
throughout a compilation (`Draft.Registers.meet`).

* `NameTable.get?_ofBiomes`: what is entered under a name is the number of the last biome with it;
* `Biome.mem_reuses_iff`, `Biome.length_reuses`: the numbers that are noted are consecutive ones of a
  name, and there is one note for each biome but the first of its name;
* `Classifier.resolvesNames_build`: what both mean for a build.
-/

namespace Biomes

/-! ### The table of names -/

namespace NameTable

theorem get?_insert (t : NameTable) (name name' : String) (i : BiomeId) :
    (t.insert name i).get? name' = if name' = name then some i else t.get? name' := by
  unfold insert get?
  by_cases h : name' = name
  · rw [if_pos h, List.lookup_cons, h, beq_self_eq_true]
  · -- Of the old entries only those under `name` are gone.
    have hkept : ∀ l : List (String × BiomeId),
        (l.filter (·.1 != name)).lookup name' = l.lookup name' := by
      intro l
      induction l with
      | nil => rfl
      | cons e l ih =>
        by_cases he : e.1 = name
        · rw [List.filter_cons_of_neg (by simp [he]), ih, List.lookup_cons, he,
            beq_eq_false_iff_ne.mpr h]
        · rw [List.filter_cons_of_pos (by simp [he]), List.lookup_cons, List.lookup_cons, ih]
    rw [if_neg h, List.lookup_cons, beq_eq_false_iff_ne.mpr h, hkept]

/-- The table in which some biomes have been entered, one after the other. -/
def ofBiomes (bs : List Biome) : NameTable := bs.foldl (fun t b => t.insert b.name b.id) .empty

theorem ofBiomes_concat (bs : List Biome) (b : Biome) :
    ofBiomes (bs ++ [b]) = (ofBiomes bs).insert b.name b.id :=
  List.foldl_concat _ _ b bs

end NameTable

namespace Biome

/-- The biomes with a name. -/
def named (name : String) (bs : List Biome) : List Biome := bs.filter fun b => b.name = name

variable {bs : List Biome} {b : Biome} {name : String}

theorem mem_named : b ∈ named name bs ↔ b ∈ bs ∧ b.name = name := by
  simp [named]

theorem getLast?_named_concat (bs : List Biome) (b : Biome) (name : String) :
    (named name (bs ++ [b])).getLast? =
      if name = b.name then some b else (named name bs).getLast? := by
  rw [named, List.filter_append, List.filter_singleton]
  by_cases h : name = b.name
  · simp [h]
  · simp [h, Ne.symm h, named]

end Biome

/-- A name stands for the number of the last biome that has it. -/
theorem NameTable.get?_ofBiomes (bs : List Biome) (name : String) :
    (ofBiomes bs).get? name = (Biome.named name bs).getLast?.map Biome.id := by
  induction bs using List.reverseRecOn with
  | nil => rfl
  | append_singleton bs b ih =>
    rw [ofBiomes_concat, get?_insert, ih, Biome.getLast?_named_concat]
    split <;> rfl

/-! ### Names that are used again -/

namespace Biome

/-- A name that is used again, with the number that it stood for and the one that it stands for from
then on. -/
abbrev Reuse := String × BiomeId × BiomeId

/-- What is noted when a biome is entered after some others. -/
def reuse? (before : List Biome) (b : Biome) : Option Reuse :=
  (named b.name before).getLast?.map fun previous => (b.name, previous.id, b.id)

/-- What is noted when some biomes are entered after some others, one after the other. -/
def reusesAfter (before : List Biome) : List Biome → List Reuse
  | [] => []
  | b :: bs => (reuse? before b).toList ++ reusesAfter (before ++ [b]) bs

/-- What is noted when some biomes are entered, one after the other. -/
def reuses (bs : List Biome) : List Reuse := reusesAfter [] bs

theorem reusesAfter_concat (before bs : List Biome) (b : Biome) :
    reusesAfter before (bs ++ [b]) =
      reusesAfter before bs ++ (reuse? (before ++ bs) b).toList := by
  induction bs generalizing before with
  | nil => simp [reusesAfter]
  | cons b' bs ih => simp [reusesAfter, ih]

theorem reuses_concat (bs : List Biome) (b : Biome) :
    reuses (bs ++ [b]) = reuses bs ++ (reuse? bs b).toList :=
  reusesAfter_concat [] bs b

/-- There is one note for each biome but the first of its name. -/
theorem length_reuses (bs : List Biome) :
    (reuses bs).length + (bs.map Biome.name).toFinset.card = bs.length := by
  induction bs using List.reverseRecOn with
  | nil => rfl
  | append_singleton bs b ih =>
    have hnames : ((bs ++ [b]).map Biome.name).toFinset =
        insert b.name (bs.map Biome.name).toFinset := by
      ext name
      simp
    rw [reuses_concat, List.length_append, hnames, List.length_append, List.length_singleton]
    cases hlast : (named b.name bs).getLast? with
    | none =>
      have hnew : b.name ∉ (bs.map Biome.name).toFinset := by
        intro hmem
        obtain ⟨b', hb', hname⟩ := List.mem_map.mp (List.mem_toFinset.mp hmem)
        have hnamed := mem_named.mpr ⟨hb', hname⟩
        rw [List.getLast?_eq_none_iff.mp hlast] at hnamed
        exact absurd hnamed List.not_mem_nil
      rw [Finset.card_insert_of_notMem hnew, reuse?, hlast]
      simp only [Option.map_none, Option.toList_none, List.length_nil]
      omega
    | some p =>
      have hold : b.name ∈ (bs.map Biome.name).toFinset := by
        obtain ⟨hp, hname⟩ := mem_named.mp (List.mem_of_getLast? hlast)
        exact List.mem_toFinset.mpr (List.mem_map.mpr ⟨p, hp, hname⟩)
      rw [Finset.insert_eq_of_mem hold, reuse?, hlast]
      simp only [Option.map_some, Option.toList_some, List.length_singleton]
      omega

/-! ### The biome before -/

/-- Of two biomes with the same name, the one comes next after the other. -/
structure Follows (bs : List Biome) (previous b : Biome) : Prop where
  previous_mem : previous ∈ bs
  mem : b ∈ bs
  name_eq : previous.name = b.name
  lt : previous.id.index < b.id.index
  none_between : ∀ b' ∈ bs, b'.name = b.name → b'.id.index < b.id.index →
    b'.id.index ≤ previous.id.index

namespace Ordered

theorem named (h : Ordered bs) (name : String) : Ordered (named name bs) :=
  h.sublist List.filter_sublist

theorem of_concat (h : Ordered (bs ++ [b])) : Ordered bs := (List.pairwise_append.mp h).1

theorem lt_of_concat (h : Ordered (bs ++ [b])) {b' : Biome} (hb' : b' ∈ bs) :
    b'.id.index < b.id.index :=
  (List.pairwise_append.mp h).2.2 b' hb' b List.mem_cons_self

/-- What is noted of a further biome is the one that it follows. -/
theorem reuse?_eq_some_iff (h : Ordered (bs ++ [b])) {r : Reuse} :
    reuse? bs b = some r ↔ ∃ p, Follows (bs ++ [b]) p b ∧ r = (b.name, p.id, b.id) := by
  unfold reuse?
  rw [Option.map_eq_some_iff]
  refine exists_congr fun p => ?_
  rw [(h.of_concat.named b.name).getLast?_eq_some_iff, mem_named, eq_comm (b := r)]
  refine and_congr_left fun _ => ⟨fun ⟨⟨hp, hname⟩, hmax⟩ => ?_, fun hp => ?_⟩
  · refine ⟨List.mem_append_left _ hp, List.mem_concat_self, hname, h.lt_of_concat hp, ?_⟩
    intro b' hb' hname' hlt
    rcases List.mem_append.mp hb' with hb' | hb'
    · exact hmax b' (mem_named.mpr ⟨hb', hname'⟩)
    · rw [List.mem_singleton.mp hb'] at hlt
      exact absurd hlt (Nat.lt_irrefl _)
  · have hmem : p ∈ bs := by
      refine (List.mem_append.mp hp.previous_mem).resolve_right fun hp' => ?_
      rw [List.mem_singleton.mp hp'] at hp
      exact Nat.lt_irrefl _ hp.lt
    refine ⟨⟨hmem, hp.name_eq⟩, fun b' hb' => ?_⟩
    obtain ⟨hb', hname'⟩ := mem_named.mp hb'
    exact hp.none_between b' (List.mem_append_left _ hb') hname' (h.lt_of_concat hb')

/-- A further biome comes after all others, so that it changes nothing between those. -/
theorem follows_concat_iff (h : Ordered (bs ++ [b])) {p b' : Biome} (hb' : b' ∈ bs) :
    Follows (bs ++ [b]) p b' ↔ Follows bs p b' := by
  have hlt := h.lt_of_concat hb'
  constructor
  · intro hp
    refine ⟨(List.mem_append.mp hp.previous_mem).resolve_right fun hp' => ?_, hb', hp.name_eq,
      hp.lt, fun b'' hb'' => hp.none_between b'' (List.mem_append_left _ hb'')⟩
    have := hp.lt
    rw [List.mem_singleton.mp hp'] at this
    omega
  · intro hp
    refine ⟨List.mem_append_left _ hp.previous_mem, List.mem_append_left _ hb', hp.name_eq, hp.lt,
      fun b'' hb'' hname hlt' => ?_⟩
    rcases List.mem_append.mp hb'' with hb'' | hb''
    · exact hp.none_between b'' hb'' hname hlt'
    · rw [List.mem_singleton.mp hb''] at hlt'
      omega

end Ordered

/-- The numbers that are noted are those of biomes of which one follows the other. -/
theorem mem_reuses_iff (h : Ordered bs) {r : Reuse} :
    r ∈ reuses bs ↔ ∃ p b, Follows bs p b ∧ r = (b.name, p.id, b.id) := by
  induction bs using List.reverseRecOn with
  | nil =>
    refine ⟨fun hr => absurd hr List.not_mem_nil, ?_⟩
    rintro ⟨p, b, hp, -⟩
    exact absurd hp.mem List.not_mem_nil
  | append_singleton bs b ih =>
    rw [reuses_concat, List.mem_append, ih h.of_concat, Option.mem_toList,
      h.reuse?_eq_some_iff]
    constructor
    · rintro (⟨p, b', hp, hr⟩ | ⟨p, hp, hr⟩)
      · exact ⟨p, b', (h.follows_concat_iff hp.mem).mpr hp, hr⟩
      · exact ⟨p, b, hp, hr⟩
    · rintro ⟨p, b', hp, hr⟩
      rcases List.mem_append.mp hp.mem with hb' | hb'
      · exact .inl ⟨p, b', (h.follows_concat_iff hb').mp hp, hr⟩
      · rw [List.mem_singleton.mp hb'] at hp hr
        exact .inr ⟨p, hp, hr⟩

/-- Each biome is noted once at most. -/
theorem map_latest_reuses_sublist (bs : List Biome) :
    ((reuses bs).map fun r => r.2.2).Sublist (bs.map Biome.id) := by
  induction bs using List.reverseRecOn with
  | nil => exact .slnil
  | append_singleton bs b ih =>
    rw [reuses_concat, List.map_append, List.map_append]
    refine ih.append ?_
    cases hlast : reuse? bs b with
    | none => exact List.nil_sublist _
    | some r =>
      obtain ⟨p, -, rfl⟩ := Option.map_eq_some_iff.mp hlast
      exact .refl _

theorem Ordered.nodup_reuses (h : Ordered bs) : (reuses bs).Nodup := by
  have hids : (bs.map Biome.id).Nodup := by
    rw [List.nodup_iff_pairwise_ne, List.pairwise_map]
    exact h.imp fun hlt heq => absurd (congrArg BiomeId.index heq) (Nat.ne_of_lt hlt)
  exact .of_map _ (hids.sublist (map_latest_reuses_sublist bs))

end Biome

/-! ### The draft -/

/-- What a finding says about a name that is used again. -/
def Finding.reuse? : Finding → Option Biome.Reuse
  | .nameReused name previous latest => some (name, previous, latest)
  | _ => none

namespace Draft

theorem names_register (d : Draft) (n : NodeId) (b : Biome) :
    (d.register n b).names = d.names.insert b.name b.id := by
  rw [register, noteReuse_frame]

theorem reuses_register (d : Draft) (n : NodeId) (b : Biome) :
    (d.register n b).findings.toList.filterMap Finding.reuse? =
      d.findings.toList.filterMap Finding.reuse? ++
        ((d.names.get? b.name).map fun i => (b.name, i, b.id)).toList := by
  unfold register
  cases d.names.get? b.name with
  | none => exact (List.append_nil _).symm
  | some i => exact filterMap_findings_note ..

/-- The draft knows the names of the biomes of some arrivals: they are in its table, and those that
were used again are noted. -/
structure Registers (d : Draft) (l : List Arrival) : Prop where
  names : d.names = .ofBiomes (Arrival.biomes l)
  reuses : d.findings.toList.filterMap Finding.reuse? = Biome.reuses (Arrival.biomes l)

namespace Registers

variable {d : Draft} {l : List Arrival}

theorem note (h : d.Registers l) {f : Finding} (hf : f.reuse? = none) : (d.note f).Registers l := by
  refine ⟨h.names, ?_⟩
  rw [filterMap_findings_note, hf, h.reuses]
  exact List.append_nil _

theorem inspectAll (h : d.Registers l) (n : NodeId) (s : Switch) :
    (d.inspectAll n s).Registers l := by
  refine ⟨by rw [inspectAll_frame]; exact h.names, ?_⟩
  rw [filterMap_findings_inspectAll fun f hf => ?_, h.reuses]
  cases f <;> first | rfl | cases hf

theorem bind (h : d.Registers l) (hd : d.Counts (l.countP Arrival.isNamed)) (n : NodeId)
    (b : Branch) (depth : Nat) : (d.bind n b depth).2.Registers (l ++ [Arrival.mk n b]) := by
  rcases hd.bind_cases n b depth with ⟨hb, hbind⟩ | ⟨hb, hk, hbind⟩ | ⟨hb, hk, hbind⟩
  · have hsame := Arrival.biomes_concat_of_unnamed (l := l) (a := ⟨n, b⟩)
      (by simp [Arrival.isNamed, hb])
    rw [hbind]
    exact ⟨hsame ▸ (h.note rfl).names, hsame ▸ (h.note rfl).reuses⟩
  · have hnext := Arrival.biomes_concat_of_lt (l := l) (a := ⟨n, b⟩)
      (by simp [Arrival.isNamed, hb]) hk
    rw [hbind]
    refine ⟨?_, ?_⟩
    · rw [names_register, hnext, NameTable.ofBiomes_concat, h.names]
    · rw [reuses_register, hnext, Biome.reuses_concat, h.reuses, h.names, NameTable.get?_ofBiomes,
        Option.map_map]
      rfl
  · have hsame := Arrival.biomes_concat_of_le (l := l) (a := ⟨n, b⟩) hk
    rw [hbind]
    exact ⟨hsame ▸ (h.note rfl).names, hsame ▸ (h.note rfl).reuses⟩

theorem meet (h : d.Registers l) (hd : d.Accounts l) (e : Encounter) :
    (d.meet e).Registers (l ++ e.arrival?.toList) :=
  meet_cases (P := Registers) (fun _ _ => h.note rfl) (fun _ _ => h.note rfl) (h.bind hd.counts)
    h.inspectAll e

/-- At the end of a compilation the names of all biomes are known. -/
theorem draft (g : Graph) (root : NodeId) : (g.draft root).Registers (g.arrivals root) :=
  (g.draft_induction root (P := fun d l => d.Accounts l ∧ d.Registers l)
    ⟨.blank g, ⟨rfl, rfl⟩⟩ fun _ _ e h => ⟨h.1.meet e, h.2.meet h.1 e⟩).2

end Registers

end Draft

/-! ### The build -/

namespace Classifier

/-- The biomes of a build stand in the order of their numbers. -/
theorem ordered_biomes_build (c : Classifier) (g : Graph) (root : NodeId) :
    Biome.Ordered (c.build g root).classifier.biomes.toList := by
  rw [toList_biomes_build]
  exact Arrival.ordered_biomes _

/-- A name stands for the last of the biomes that have it. -/
theorem biomeNamed?_build (c : Classifier) (g : Graph) (root : NodeId) (name : String) :
    (c.build g root).classifier.biomeNamed? name =
      (Biome.named name (c.build g root).classifier.biomes.toList).getLast? := by
  have hnames : (c.build g root).classifier.names =
      .ofBiomes (c.build g root).classifier.biomes.toList := by
    rw [toList_biomes_build, build_eq]
    exact (Draft.Registers.draft g root).names
  rw [biomeNamed?, hnames, NameTable.get?_ofBiomes]
  cases hlast : (Biome.named name (c.build g root).classifier.biomes.toList).getLast? with
  | none => rfl
  | some b => exact biome?_of_mem_biomes (Biome.mem_named.mp (List.mem_of_getLast? hlast)).1

/-- The names that are used again are noted. -/
theorem reuses_build (c : Classifier) (g : Graph) (root : NodeId) :
    (c.build g root).findings.toList.filterMap Finding.reuse? =
      Biome.reuses (c.build g root).classifier.biomes.toList := by
  rw [toList_biomes_build, build_eq,
    filterMap_findings_finish (fun _ _ => rfl) (fun _ => rfl) (fun _ => rfl)]
  exact (Draft.Registers.draft g root).reuses

end Classifier

/-- How a build deals with names that several biomes have. -/
structure Build.ResolvesNames (r : Build) : Prop where
  /-- A name stands for the biome with the greatest number of those that have it. -/
  biomeNamed?_eq_some_iff : ∀ name b, r.classifier.biomeNamed? name = some b ↔
    b ∈ r.classifier.biomes ∧ b.name = name ∧
      ∀ b' ∈ r.classifier.biomes, b'.name = name → b'.id.index ≤ b.id.index
  biomeNamed?_eq_none_iff : ∀ name, r.classifier.biomeNamed? name = none ↔
    ∀ b ∈ r.classifier.biomes, b.name ≠ name
  /-- One note is made for each biome but the first of its name. -/
  length_reuses : (r.findings.toList.filterMap Finding.reuse?).length +
    (r.classifier.biomes.toList.map Biome.name).toFinset.card = r.classifier.biomes.size
  /-- What is noted are the numbers of two biomes of which one follows the other, each such pair
  once. -/
  mem_reuses_iff : ∀ x, x ∈ r.findings.toList.filterMap Finding.reuse? ↔
    ∃ previous b, Biome.Follows r.classifier.biomes.toList previous b ∧
      x = (b.name, previous.id, b.id)
  nodup_reuses : (r.findings.toList.filterMap Finding.reuse?).Nodup

/-- **A name stands for the latest biome that has it**, whatever the graph and the root, and every
biome that takes a name over from an earlier one is noted with it. -/
theorem Classifier.resolvesNames_build (c : Classifier) (g : Graph) (root : NodeId) :
    (c.build g root).ResolvesNames := by
  have hordered := c.ordered_biomes_build g root
  have hreuses := c.reuses_build g root
  refine ⟨fun name b => ?_, fun name => ?_, ?_, fun x => ?_, ?_⟩
  · rw [biomeNamed?_build, (hordered.named name).getLast?_eq_some_iff, Biome.mem_named, and_assoc]
    simp only [Biome.mem_named, Array.mem_toList_iff, and_imp]
  · rw [biomeNamed?_build, List.getLast?_eq_none_iff, Biome.named, List.filter_eq_nil_iff]
    simp only [Array.mem_toList_iff, decide_eq_true_eq, ne_eq]
  · rw [hreuses, Biome.length_reuses, Array.length_toList]
  · rw [hreuses, Biome.mem_reuses_iff hordered]
  · rw [hreuses]
    exact hordered.nodup_reuses

end Biomes
