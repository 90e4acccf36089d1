import Phrasebook.Proofs.Settings.Variables
import Phrasebook.Settings.Sources

/-!
# Finding settings files

What is relied on of the search for the file that a path means
(`Library.Searches`). A path may mean the file of this very name, or one with
the ending of a format put to the name (`candidates`). The file of this name
counts if its name tells a format; nothing is found if none of them is there;
and another file that is written changes nothing.

A library made of formats searches so, whatever they are and in whatever order
their endings are tried (`searches_ofFormats`): what is written to one of the
candidates may be found, and else what was found before (`Files.find?_put`).
-/

namespace Phrasebook

namespace Files

variable {files : Files} {path : String} {place : Place} {text : String}

theorem locate?_put (files : Files) (place : Place) (text path : String) :
    (files.put place text).locate? path = files.locate? path := rfl

theorem read?_put (files : Files) (place : Place) (text path : String) :
    (files.put place text).read? path =
      if files.locate? path = some place then some text else files.read? path := by
  rw [read?, read?, locate?_put]
  cases files.locate? path with
  | none => rfl
  | some found =>
    simp only [Option.bind_eq_bind, Option.bind_some, at?_put, Option.some.injEq]

theorem isThere_put {p : String} (h : (files.put place text).isThere p = true) :
    files.isThere p = true ∨ files.locate? p = some place := by
  rw [isThere, locate?_put] at h
  rw [isThere]
  cases hlocate : files.locate? p with
  | none =>
    rw [hlocate] at h
    cases h
  | some found =>
    rw [hlocate] at h
    dsimp only at h ⊢
    rw [at?_put] at h
    split at h
    · rename_i hfound
      exact .inr (congrArg some hfound)
    · exact .inl h

end Files

namespace Library

variable (lib : Library)

/-- The format that the name of a file tells. -/
def formatOf? (path : String) : Option Format := Format.of? lib.formats path

/-- The paths of the files that a path may mean. -/
def candidates (path : String) : List String :=
  path :: (lib.formats.flatMap Format.endings).filterMap (Files.extend? path)

/-- No file that the path may mean is there. -/
def Lacks (files : Files) (path : String) : Prop :=
  ∀ q ∈ lib.candidates path, files.read? q = none

instance (files : Files) : DecidablePred (lib.Lacks files) :=
  fun _ => inferInstanceAs (Decidable (∀ _ ∈ _, _))

/-- The library finds files by their names and endings. If several endings lead
to a file, nothing is assumed of which is found. -/
structure Searches : Prop where
  /-- A file of this very name counts, if the name tells the format. -/
  exact {files : Files} {path text : String} {format : Format} (required : Bool)
    (hformat : lib.formatOf? path = some format) (hread : files.read? path = some text) :
    lib.collect? files path required = lib.parse? format text
  absent {files : Files} {path : String} (required : Bool) (h : lib.Lacks files path) :
    lib.collect? files path required = absent? required
  /-- After a file was written a path means what it meant before, or nothing, or
  that file. -/
  written (files : Files) (place : Place) (text path : String) (required : Bool) :
    lib.collect? (files.put place text) path required = lib.collect? files path required ∨
      lib.collect? (files.put place text) path required = absent? required ∨
      ∃ q ∈ lib.candidates path, ∃ format, files.locate? q = some place ∧
        lib.formatOf? q = some format ∧
        lib.collect? (files.put place text) path required = lib.parse? format text

end Library

/-! ## Searching by formats -/

namespace Files

/-- What is found first is what was found before, or what is new. -/
theorem findSome?_or {α β : Type} {f g : α → Option β} {p : β → Prop} {xs : List α}
    (h : ∀ x ∈ xs, f x = g x ∨ ∃ b, f x = some b ∧ p b) :
    xs.findSome? f = xs.findSome? g ∨ ∃ b, xs.findSome? f = some b ∧ p b := by
  induction xs with
  | nil => exact .inl rfl
  | cons x xs ih =>
    obtain ⟨hx, hxs⟩ := List.forall_mem_cons.mp h
    rw [List.findSome?_cons, List.findSome?_cons]
    rcases hx with hx | ⟨b, hx, hb⟩
    · rw [hx]
      cases g x with
      | none => exact ih hxs
      | some found => exact .inl rfl
    · rw [hx]
      exact .inr ⟨b, rfl, hb⟩

variable {files : Files} {path : String}

theorem find?_of_read? {text : String} (formats : List Format) (h : files.read? path = some text) :
    files.find? formats path = (Format.of? formats path).map (·, text) := by
  rw [find?, h]

theorem find?_of_lacks {lib : Library} (h : lib.Lacks files path) :
    files.find? lib.formats path = none := by
  obtain ⟨hself, hlonger⟩ := List.forall_mem_cons.mp h
  rw [find?, hself]
  dsimp only
  rw [List.findSome?_eq_none_iff]
  intro ending hending
  cases hextend : extend? path ending with
  | none => rfl
  | some longer =>
    have hnone := hlonger longer (List.mem_filterMap.mpr ⟨ending, hending, hextend⟩)
    simp [hnone]

/-- A path means what it meant before, or nothing, or the file that was written. -/
theorem find?_put (lib : Library) (files : Files) (place : Place) (text path : String) :
    (files.put place text).find? lib.formats path = files.find? lib.formats path ∨
      (files.put place text).find? lib.formats path = none ∨
      ∃ q ∈ lib.candidates path, ∃ format, files.locate? q = some place ∧
        lib.formatOf? q = some format ∧
        (files.put place text).find? lib.formats path = some (format, text) := by
  -- The path as it stands is read first, then the path with each ending put to it.
  by_cases hplace : files.locate? path = some place
  · have hread : (files.put place text).read? path = some text := by
      rw [read?_put, if_pos hplace]
    rw [find?_of_read? _ hread]
    cases hformat : Format.of? lib.formats path with
    | none => exact .inr (.inl rfl)
    | some format => exact .inr (.inr ⟨path, List.mem_cons_self, format, hplace, hformat, rfl⟩)
  · have hread : (files.put place text).read? path = files.read? path := by
      rw [read?_put, if_neg hplace]
    cases hself : files.read? path with
    | some old =>
      rw [find?_of_read? _ hself, find?_of_read? _ (hread.trans hself)]
      exact .inl rfl
    | none =>
      rw [find?, find?, hread, hself]
      dsimp only
      let new (found : Format × String) : Prop :=
        ∃ q ∈ lib.candidates path, ∃ format, files.locate? q = some place ∧
          lib.formatOf? q = some format ∧ found = (format, text)
      refine (findSome?_or (p := new) fun ending hending => ?_).imp_right ?_
      · cases hextend : extend? path ending with
        | none => exact .inl rfl
        | some longer =>
          simp only [Option.bind_eq_bind, Option.bind_some, read?_put]
          cases hformat : Format.of? lib.formats longer with
          | none => exact .inl rfl
          | some format =>
            simp only [Option.bind_some]
            split
            · rename_i hlonger
              have hmem : longer ∈ lib.candidates path :=
                List.mem_cons_of_mem _ (List.mem_filterMap.mpr ⟨ending, hending, hextend⟩)
              exact .inr ⟨_, rfl, longer, hmem, format, hlonger, hformat, rfl⟩
            · exact .inl rfl
      · rintro ⟨found, hfound, q, hq, format, hlocate, hformat, rfl⟩
        exact .inr ⟨q, hq, format, hlocate, hformat, hfound⟩

end Files

namespace Library

theorem formatOf?_toml {path : String} (h : Files.hasEnding path ".toml" = true) :
    standard.formatOf? path = some .toml := by
  have hany : Format.toml.endings.any (Files.hasEnding path) = true :=
    List.any_eq_true.mpr ⟨_, List.mem_cons_self, h⟩
  rw [formatOf?, Format.of?]
  exact List.find?_cons_of_pos hany

section OfFormats

variable (formats : List Format) (parse? : Format → String → Option Layer)

theorem collect?_ofFormats (files : Files) (path : String) (required : Bool) :
    (ofFormats formats parse?).collect? files path required =
      (files.find? (ofFormats formats parse?).formats path).elim (absent? required) fun found =>
        parse? found.1 found.2 := rfl

/-- It does not matter which formats there are and which ending is tried first. -/
theorem searches_ofFormats : (ofFormats formats parse?).Searches where
  exact {files path text format} required hformat hread := by
    rw [collect?_ofFormats, Files.find?_of_read? _ hread, ← formatOf?, hformat]
    rfl
  absent required h := by
    rw [collect?_ofFormats, Files.find?_of_lacks h]
    rfl
  written files place text path required := by
    simp only [collect?_ofFormats]
    rcases Files.find?_put (ofFormats formats parse?) files place text path with
      hsame | hnone | ⟨q, hq, format, hlocate, hof, hnew⟩
    · rw [hsame]
      exact .inl rfl
    · rw [hnone]
      exact .inr (.inl rfl)
    · rw [hnew]
      exact .inr (.inr ⟨q, hq, format, hlocate, hof, rfl⟩)

end OfFormats

theorem searches_standard : standard.Searches := searches_ofFormats _ _

end Library

end Phrasebook
