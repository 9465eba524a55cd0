import Biomes.Proofs.Settings.Check
import Biomes.Proofs.Settings.Text
import Biomes.Settings.Store

/-!
# Settings are kept

What `save` writes is what `load` and `reload` find (`SettingsStore.load_save`).  Over any sequence
of uses (`SettingsStore.after`) each use keeps to its part (`SettingsStore.Safe`): a file that is
there is changed by `save` only, and no use hands out settings that cannot be worked with.
-/

namespace Biomes.SettingsStore

/-! ### Reading -/

theorem fromUTF8?_toUTF8 (text : String) : String.fromUTF8? text.toUTF8 = some text :=
  dif_pos text.isValidUTF8

/-- Whether there is a file with a text that holds usable settings. -/
def Holds (k : SettingsStore) (s : Settings) : Prop :=
  ∃ text, k.text? = some text ∧ Settings.parse text = some s ∧ s.check = .ok ()

variable {k : SettingsStore} {s : Settings}

/-- What is read is what the text holds, if it can be worked with. -/
theorem read_eq_ok_iff : k.read = .ok s ↔ k.Holds s := by
  unfold read Holds
  cases k.text? with
  | none => simp
  | some text =>
    dsimp only
    cases hparse : Settings.parse text with
    | none => simp [hparse]
    | some t =>
      dsimp only
      cases hcheck : t.check with
      | error e =>
        simp only [reduceCtorEq, false_iff]
        rintro ⟨_, ⟨⟩, hs, hvalid⟩
        rw [hparse, Option.some.injEq] at hs
        rw [← hs, hcheck] at hvalid
        cases hvalid
      | ok =>
        constructor
        · rintro ⟨⟩
          exact ⟨text, rfl, hparse, hcheck⟩
        · rintro ⟨_, ⟨⟩, hs, -⟩
          rw [hparse, Option.some.injEq] at hs
          rw [hs]

theorem read_of_unreadable (h : k.text? = none) : k.read = .error .unreadable := by
  unfold read
  rw [h]

theorem read_of_malformed {text : String} (h : k.text? = some text)
    (htext : Settings.parse text = none) : k.read = .error .malformed := by
  unfold read
  rw [h]
  dsimp only
  rw [htext]

/-- The place after settings are kept in it. -/
def withFile (k : SettingsStore) (s : Settings) : SettingsStore :=
  { k with file := .bytes s.print.toUTF8 }

theorem text?_withFile (k : SettingsStore) (s : Settings) : (k.withFile s).text? = some s.print :=
  fromUTF8?_toUTF8 s.print

theorem read_withFile_of_invalid {e : InvalidSetting} (hs : s.check = .error e)
    (k : SettingsStore) :
    (k.withFile s).read = .error (.invalid e) := by
  unfold read
  rw [text?_withFile]
  dsimp only
  rw [Settings.parse_print]
  dsimp only
  rw [hs]

theorem read_withFile (hs : s.check = .ok ()) (k : SettingsStore) : (k.withFile s).read = .ok s :=
  read_eq_ok_iff.mpr ⟨s.print, text?_withFile k s, Settings.parse_print s, hs⟩

theorem save_eq (hk : k.reachable = true) (hfile : k.file ≠ .directory) (s : Settings) :
    k.save s = (k.withFile s, .ok ()) := by
  unfold save
  cases h : k.file with
  | directory => exact absurd h hfile
  | absent => exact if_pos hk
  | bytes content => exact if_pos hk

theorem load_of_exists (hfile : k.file ≠ .absent) : k.load = (k, k.read) := by
  unfold load
  cases h : k.file with
  | absent => exact absurd h hfile
  | bytes content => rfl
  | directory => rfl

theorem reload_of_holds (hs : k.Holds s) (current : Settings) :
    k.reload current = .ok (if s.agree current then none else some s) := by
  rw [reload, read_eq_ok_iff.mpr hs]
  rfl

theorem exists_holds_of_reload {current : Settings} {r : Option Settings}
    (h : k.reload current = .ok r) : ∃ s, k.Holds s := by
  unfold reload at h
  cases hread : k.read with
  | error e => rw [hread] at h; cases h
  | ok s => exact ⟨s, read_eq_ok_iff.mp hread⟩

theorem reload_eq_none_iff (current : Settings) :
    k.reload current = .ok none ↔ ∃ s, k.Holds s ∧ s.agree current = true := by
  constructor
  · intro h
    obtain ⟨s, hs⟩ := exists_holds_of_reload h
    rw [reload_of_holds hs] at h
    exact ⟨s, hs, by simpa using h⟩
  · rintro ⟨s, hs, hagree⟩
    rw [reload_of_holds hs, if_pos hagree]

theorem reload_eq_some_iff (current : Settings) :
    k.reload current = .ok (some s) ↔ k.Holds s ∧ s.agree current = false := by
  constructor
  · intro h
    obtain ⟨t, ht⟩ := exists_holds_of_reload h
    rw [reload_of_holds ht] at h
    cases hagree : t.agree current with
    | true => simp [hagree] at h
    | false =>
      obtain rfl : t = s := by simpa [hagree] using h
      exact ⟨ht, hagree⟩
  · rintro ⟨hs, hagree⟩
    rw [reload_of_holds hs, hagree]
    rfl

/-- **Saved settings are found again.**  If the place can be written to, and nothing but a file is in
the way, settings that can be worked with and are free of `NaN` can be saved.  After that, `load`
finds them and leaves the file as it is, and `reload` finds nothing new. -/
theorem load_save (hk : k.reachable = true) (hfile : k.file ≠ .directory) (hs : s.check = .ok ())
    (hnumbers : s.NoNaN) :
    (k.save s).2 = .ok () ∧ (k.save s).1.load = ((k.save s).1, .ok s) ∧
      (k.save s).1.reload s = .ok none := by
  have hread := read_withFile hs k
  rw [save_eq hk hfile]
  refine ⟨rfl, ?_, ?_⟩
  · rw [load_of_exists (by simp [withFile]), hread]
  · exact (reload_eq_none_iff s).mpr
      ⟨s, read_eq_ok_iff.mp hread, s.agree_self_iff.mpr hnumbers⟩

/-! ### A storm over a torn file -/

/-- A file that is no text. -/
def torn : SettingsStore := ⟨.bytes ⟨#[0xff, 0x28]⟩, true⟩

/-- Settings at the ends of their ranges, with a log directive that has to be escaped. -/
def storm : Settings where
  compile := { coverageTolerance := 1 / 0, dumpTree := true }
  classify := { unmatchedWarningLimit := 0xffffffff, blendCount := 0xffffffff }
  demo :=
    { gridSize := 1, cellStep := 1e-45, seed := 0xffffffffffffffff, waterLevel := .number (-0)
      maxHeight := .number (-1 / 0) }
  debug := { logLevel := "\"cafe\u0301\"\\\t\r\n'\x00\x7f\u202e" }

theorem load_save_storm :
    torn.reachable = true ∧ torn.file ≠ .directory ∧ storm.check = .ok () ∧ storm.NoNaN ∧
      (torn.save storm).1.load = ((torn.save storm).1, .ok storm) ∧
      (torn.save storm).1.reload storm = .ok none := by
  have hcheck : storm.check = .ok () :=
    storm.check_eq_ok_iff.mpr (by constructor <;> decide +kernel)
  have hnumbers : storm.NoNaN := by constructor <;> decide +kernel
  have hsaved := load_save (k := torn) (s := storm) rfl SettingsFile.noConfusion hcheck hnumbers
  exact ⟨rfl, SettingsFile.noConfusion, hcheck, hnumbers, hsaved.2⟩

/-! ### Uses -/

/-- A use of the settings' place. -/
inductive Use where
  | load
  | reload (current : Settings)
  | save (s : Settings)
  | validate (s : Settings)

/-- What a use gives. -/
inductive Answer where
  | loaded (r : Except SettingsError Settings)
  | reloaded (r : Except SettingsError (Option Settings))
  | saved (r : Except SettingsError Unit)
  | validated (r : Except InvalidSetting Unit)

/-- The place after a use, and what the use gives. -/
def perform (k : SettingsStore) : Use → SettingsStore × Answer
  | .load => (k.load.1, .loaded k.load.2)
  | .reload current => (k, .reloaded (k.reload current))
  | .save s => ((k.save s).1, .saved (k.save s).2)
  | .validate s => (k, .validated s.check)

/-- The place after some uses. -/
def after (k : SettingsStore) (us : List Use) : SettingsStore :=
  us.foldl (fun k u => (k.perform u).1) k

/-- The settings that are handed out. -/
def Answer.settings? : Answer → Option Settings
  | .loaded (.ok s) => some s
  | .reloaded (.ok s?) => s?
  | _ => none

/-- The failure to get at settings. -/
def Answer.error? : Answer → Option SettingsError
  | .loaded (.error e) => some e
  | .reloaded (.error e) => some e
  | _ => none

/-- Whether a use reads a file that is there. -/
def Use.Reads (k : SettingsStore) : Use → Prop
  | .load | .reload _ => k.file ≠ .absent
  | .save _ | .validate _ => False

/-- What a use may do, and what it gives. -/
structure Safe (k : SettingsStore) (u : Use) : Prop where
  /-- Only `save` changes anything, unless `load` finds no file. -/
  unchanged : (∀ s, u ≠ .save s) → k.file ≠ .absent ∨ u ≠ .load → (k.perform u).1 = k
  /-- Where there is none, `load` writes the default settings, which it finds from then on; or it
  fails and makes nothing. -/
  created : k.file = .absent → u = .load →
    if k.reachable then
      k.perform u = (k.withFile .default, .loaded (.ok .default)) ∧
        (k.withFile .default).perform .load = (k.withFile .default, .loaded (.ok .default))
    else k.perform u = (k, .loaded (.error .unwritable))
  valid : ∀ s, (k.perform u).2.settings? = some s → s.check = .ok ()
  loaded : ∀ s, k.file ≠ .absent → u = .load → ((k.perform u).2 = .loaded (.ok s) ↔ k.Holds s)
  reloaded_none : ∀ current, u = .reload current →
    ((k.perform u).2 = .reloaded (.ok none) ↔ ∃ s, k.Holds s ∧ s.agree current = true)
  reloaded_some : ∀ current s, u = .reload current →
    ((k.perform u).2 = .reloaded (.ok (some s)) ↔ k.Holds s ∧ s.agree current = false)
  malformed : ∀ text, u.Reads k → k.text? = some text → Settings.parse text = none →
    (k.perform u).2.error? = some .malformed
  unreadable : u.Reads k → k.text? = none → (k.perform u).2.error? = some .unreadable
  validated : ∀ s, u = .validate s → ((k.perform u).2 = .validated (.ok ()) ↔ s.IsUsable)

theorem check_default : Settings.default.check = .ok () :=
  (Settings.check_eq_ok_iff _).mpr (by constructor <;> decide +kernel)

theorem perform_fst {u : Use} (hu : ∀ s, u ≠ .save s) (hk : k.file ≠ .absent ∨ u ≠ .load) :
    (k.perform u).1 = k := by
  cases u with
  | load =>
    have hfile : k.file ≠ .absent := hk.resolve_right (fun h => h rfl)
    rw [perform, load_of_exists hfile]
  | reload current => rfl
  | save s => exact absurd rfl (hu s)
  | validate s => rfl

theorem load_of_absent (hk : k.file = .absent) :
    k.load =
      if k.reachable then (k.withFile .default, .ok .default) else (k, .error .unwritable) := by
  obtain ⟨file, reachable⟩ := k
  cases hk
  cases reachable <;> rfl

theorem Holds.check (hs : k.Holds s) : s.check = .ok () := hs.choose_spec.2.2

theorem check_of_settings? {u : Use} (h : (k.perform u).2.settings? = some s) :
    s.check = .ok () := by
  cases u with
  | load =>
    have hload : k.load.2 = .ok s := by
      rw [perform] at h
      cases hload : k.load.2 with
      | error e => rw [hload] at h; cases h
      | ok t => rw [hload] at h; cases h; rfl
    by_cases hk : k.file = .absent
    · rw [load_of_absent hk] at hload
      split at hload
      · cases hload
        exact check_default
      · cases hload
    · rw [load_of_exists hk] at hload
      exact (read_eq_ok_iff.mp hload).check
  | reload current =>
    have hreload : k.reload current = .ok (some s) := by
      rw [perform] at h
      cases hreload : k.reload current with
      | error e => rw [hreload] at h; cases h
      | ok t => rw [hreload] at h; cases h; rfl
    exact ((reload_eq_some_iff current).mp hreload).1.check
  | save t => cases h
  | validate t => cases h

/-- A use that reads a file fails as the reading does. -/
theorem error?_of_read {u : Use} (hu : u.Reads k) {e : SettingsError} (he : k.read = .error e) :
    (k.perform u).2.error? = some e := by
  cases u with
  | load =>
    rw [perform, load_of_exists hu, he]
    rfl
  | reload current =>
    rw [perform, reload, he]
    rfl
  | save s => cases hu
  | validate s => cases hu

/-- **Each use is safe.** -/
theorem safe (k : SettingsStore) (u : Use) : k.Safe u where
  unchanged := perform_fst
  created := by
    rintro hk rfl
    have hfound : (k.withFile .default).load = (k.withFile .default, .ok .default) := by
      rw [load_of_exists (by simp [withFile]), read_withFile check_default]
    rw [perform, perform, load_of_absent hk, hfound]
    split
    · exact ⟨rfl, rfl⟩
    · rfl
  valid _ := check_of_settings?
  loaded := by
    rintro s hk rfl
    rw [perform, load_of_exists hk, Answer.loaded.injEq]
    exact read_eq_ok_iff
  reloaded_none := by
    rintro current rfl
    rw [perform, Answer.reloaded.injEq]
    exact reload_eq_none_iff current
  reloaded_some := by
    rintro current s rfl
    rw [perform, Answer.reloaded.injEq]
    exact reload_eq_some_iff current
  malformed _ hu htext hparse := error?_of_read hu (read_of_malformed htext hparse)
  unreadable hu htext := error?_of_read hu (read_of_unreadable htext)
  validated := by
    rintro s rfl
    rw [perform, Answer.validated.injEq]
    exact s.check_eq_ok_iff

/-- Over uses other than `save` a file that is there stays as it is. -/
theorem after_of_no_save (hk : k.file ≠ .absent) {us : List Use} (hus : ∀ s, .save s ∉ us) :
    k.after us = k := by
  induction us with
  | nil => rfl
  | cons u us ih =>
    have hu : ∀ s, u ≠ .save s := fun s hs => hus s (hs ▸ List.mem_cons_self)
    have hstep : k.after (u :: us) = (k.perform u).1.after us := rfl
    rw [hstep, perform_fst hu (.inl hk)]
    exact ih fun s hs => hus s (List.mem_cons_of_mem u hs)

theorem after_append (k : SettingsStore) (us vs : List Use) :
    k.after (us ++ vs) = (k.after us).after vs := List.foldl_append

/-- **No use loses a file, or hands out unusable settings.**  Wherever some uses lead, the next one
is safe there, whichever it is; and a file that is there stays as it is as long as nothing is
saved. -/
theorem safe_after (k : SettingsStore) (us : List Use) :
    (∀ u, (k.after us).Safe u) ∧
      ∀ vs, (k.after us).file ≠ .absent → (∀ s, .save s ∉ vs) →
        k.after (us ++ vs) = k.after us := by
  refine ⟨fun u => safe _ u, fun vs hfile hvs => ?_⟩
  rw [after_append, after_of_no_save hfile hvs]

theorem safe_after_torn :
    torn.file ≠ .absent ∧ torn.after [.load, .validate storm, .reload storm] = torn :=
  ⟨SettingsFile.noConfusion, (safe_after torn []).2 [.load, .validate storm, .reload storm]
    SettingsFile.noConfusion (by simp)⟩

end Biomes.SettingsStore
