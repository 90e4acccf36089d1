import Phrasebook.Proofs.Settings.Layers

/-!
# Loading what was saved

Settings that are saved and then asked for are loaded as they were, whatever
the files below say (`Library.load?_save?`). Three things come together:

* The saved document says every setting once (`Settings.sayings_tables`), so
  nothing is left to a lower file. Lower files only have to keep tables of
  settings tables (`Merges.isTabular_foldl`).
* The document is read from the place where it was written. A lower file that
  was meant by its path is still meant by it, or the saved one is, or none; so
  no lower file is malformed that was not (`WellFormed.put`). Paths that lead to
  one place tell one format (`formatOf?_congr`).
* Without variables that name settings the environment says nothing
  (`Environment.Silent.layer`).

Of the library it is assumed that it finds files by their names and endings,
merges setting by setting, and reads the tables that it has written
(`RoundTrips`); the standard one does.
-/

namespace Phrasebook

/-! ## The saved document -/

/-- What stands for the setting in a saved document. -/
def Setting.leaf (x : Setting) (s : Settings) : Toml.Leaf :=
  match x with
  | .opening => .text s.opening
  | .closing => .text s.closing
  | .trims => .flag s.trims
  | .lexiconCaseSensitive => .flag s.lexiconCaseSensitive
  | .binderCaseSensitive => .flag s.binderCaseSensitive
  | .raiseAt => .text s.raiseAt.name

/-- What stands for a setting in a saved document is taken for what it is set
to. -/
theorem Setting.settle?_leaf (x : Setting) (s : Settings) :
    x.settle? (some (x.leaf s).toTree) = some (x.of s) := by
  cases x with
  | raiseAt =>
    have hname : Text.lowercase s.raiseAt.name = s.raiseAt.name := by
      cases s.raiseAt <;> decide
    simp only [settle?, convert?, leaf, Toml.Leaf.toTree, Tree.toSeverity?, hname,
      Severity.ofName?_name, Option.map_some, of]
  | _ => rfl

namespace Settings

/-- Every setting stands under its name in its table. -/
theorem tables_eq (s : Settings) :
    s.tables =
      let members (xs : List Setting) := xs.map fun x => (x.member, x.leaf s)
      [("lexer", members [.opening, .closing, .trims]), ("lexicon", members [.lexiconCaseSensitive]),
        ("binder", members [.binderCaseSensitive]), ("errors", members [.raiseAt])] := rfl

theorem proper_tables (s : Settings) : s.tables.Proper where
  isKey := by
    simp only [tables, List.forall_mem_cons]
    decide
  nodup := by
    simp only [tables, List.map_cons, List.map_nil]
    decide
  nodupMembers := by
    simp only [tables, List.map_cons, List.map_nil, List.forall_mem_cons]
    decide

/-- The document says every setting once. -/
theorem sayings_tables (s : Settings) (x : Setting) :
    Layer.sayings s.tables.toTrees x = [(x.leaf s).toTree] := by
  have htables : ∀ name ∈ ["lexer", "lexicon", "binder", "errors"],
      Text.lowercase (Text.lowercase name) = name := by decide
  simp only [List.forall_mem_cons] at htables
  obtain ⟨hlexer, hlexicon, hbinder, herrors, -⟩ := htables
  rw [Layer.sayings_toTrees s.proper_tables, tables_eq]
  simp only [List.map_cons, List.map_nil, List.flatMap_cons, List.flatMap_nil, hlexer, hlexicon,
    hbinder, herrors, List.filterMap_cons, List.filterMap_nil, Environment.lowercase_member]
  cases x <;> rfl

theorem says?_tables (s : Settings) (x : Setting) :
    Layer.says? s.tables.toTrees x = some (x.leaf s).toTree := by
  rw [Layer.says?, sayings_tables]
  rfl

theorem single_tables (s : Settings) : Layer.Single s.tables.toTrees := by
  intro x
  rw [sayings_tables]
  exact Nat.le_refl 1

end Settings

/-! ## The file that was written -/

namespace Files

variable {files : Files} {path : String} {place : Place}

/-- A file can be written at the path: it leads to a place that is no
directory. -/
def Writable (files : Files) (path : String) : Prop :=
  ∃ place, files.locate? path = some place ∧ files.isDirectory place = false

theorem parts_ne_nil (path : String) : parts path ≠ [] := by
  rw [parts, ne_eq, List.map_eq_nil_iff]
  exact List.splitOn_ne_nil '/' path.toList

/-- A path that leads to a file ends with the name of the file. -/
theorem getLast?_of_locate? (hlocate : files.locate? path = some place)
    (hfile : files.isDirectory place = false) (hup : name path ≠ "..") :
    place.names.getLast? = some (name path) := by
  obtain ⟨init, last, hparts⟩ : ∃ init last, parts path = init ++ [last] :=
    ⟨_, _, (List.dropLast_append_getLast (parts_ne_nil path)).symm⟩
  have hname : name path = last := by rw [name, hparts, List.getLastD_concat]
  rw [hname] at hup ⊢
  rw [locate?] at hlocate
  split at hlocate
  · cases hlocate
  · rw [hparts, List.foldlM_append, Option.bind_eq_bind, Option.bind_eq_some_iff] at hlocate
    obtain ⟨directory, -, hlast⟩ := hlocate
    simp only [List.foldlM_cons, List.foldlM_nil, bind_pure, step?, hup, if_false] at hlast
    split at hlast
    · cases hlast
    · rename_i hdirectory
      split at hlast
      · -- The last part would mean a directory, but the place is none.
        rw [Option.some.inj hlast, hfile] at hdirectory
        exact absurd rfl hdirectory
      · split at hlast
        · rw [← Option.some.inj hlast, Place.child, List.getLast?_concat]
        · cases hlast

theorem hasEnding_congr {p q : String} (h : name p = name q) : hasEnding p = hasEnding q := by
  funext ending
  rw [hasEnding, h, hasEnding]

theorem name_ne_of_hasEnding {ending : String} (h : hasEnding path ending = true) :
    name path ≠ ".." := by
  simp only [hasEnding, Bool.and_eq_true, bne_iff_ne] at h
  exact h.1.1

/-- The file of the user has a name. -/
theorem name_of_userFile? {user : String} (h : files.userFile? = some user) : name user ≠ ".." := by
  obtain ⟨directory, -, rfl⟩ := Option.map_eq_some_iff.mp h
  have hlist : (directory ++ "/plang.toml").toList =
      directory.toList ++ '/' :: "plang.toml".toList := by simp
  have hparts : parts (directory ++ "/plang.toml") = parts directory ++ ["plang.toml"] := by
    rw [parts, hlist, List.splitOn_append_cons_self, List.map_append, parts]
    rfl
  rw [name, hparts, List.getLastD_concat]
  decide

theorem sources_some (files : Files) (path : String) :
    files.sources (some path) = files.sources none ++ [⟨path, true⟩] := by
  simp [sources]

end Files

namespace Library

variable {lib : Library} {files : Files} {path : String} {place : Place}

theorem name_of_formatOf? {format : Format} (h : lib.formatOf? path = some format) :
    Files.name path ≠ ".." := by
  rw [formatOf?, Format.of?] at h
  have hany := List.find?_some h
  obtain ⟨_, -, hending⟩ := List.any_eq_true.mp hany
  exact Files.name_ne_of_hasEnding hending

/-- Paths that lead to one file tell one format. -/
theorem formatOf?_congr {p q : String} (hp : files.locate? p = some place)
    (hq : files.locate? q = some place) (hfile : files.isDirectory place = false)
    (hpUp : Files.name p ≠ "..") (hqUp : Files.name q ≠ "..") :
    lib.formatOf? p = lib.formatOf? q := by
  have hname := (Files.getLast?_of_locate? hp hfile hpUp).symm.trans
    (Files.getLast?_of_locate? hq hfile hqUp)
  rw [formatOf?, Format.of?, Files.hasEnding_congr (Option.some.inj hname), formatOf?, Format.of?]

/-- The files that are always asked for are read, and keep tables of settings
tables. -/
def WellFormed (lib : Library) (files : Files) : Prop :=
  ∀ source ∈ files.sources none, ∃ layer,
    lib.collect? files source.path source.required = some layer ∧ layer.Tabular

/-- A file that was written well-formed leaves no other file malformed. -/
theorem WellFormed.put (h : lib.WellFormed files) (hsearch : lib.Searches)
    (hlocate : files.locate? path = some place) (hfile : files.isDirectory place = false)
    {format : Format} (hformat : lib.formatOf? path = some format) {text : String} {layer : Layer}
    (hparse : lib.parse? format text = some layer) (hlayer : layer.Tabular) :
    lib.WellFormed (files.put place text) := by
  have hkept (p : String) (hp : ∃ old, lib.collect? files p false = some old ∧ old.Tabular) :
      ∃ new, lib.collect? (files.put place text) p false = some new ∧ new.Tabular := by
    rcases hsearch.written files place text p false with hsame | hnone | ⟨q, -, other, hq, hother, hnew⟩
    · rwa [hsame]
    · exact ⟨[], hnone, .nil⟩
    · have hsame : lib.formatOf? q = lib.formatOf? path :=
        formatOf?_congr hq hlocate hfile (name_of_formatOf? hother) (name_of_formatOf? hformat)
      rw [hsame, hformat] at hother
      cases hother
      exact ⟨layer, hnew.trans hparse, hlayer⟩
  intro source hsource
  simp only [Files.sources, List.mem_append, List.mem_map, Option.mem_toList,
    Option.toList_none, List.not_mem_nil, false_and, exists_false, or_false] at hsource
  rcases hsource with ⟨p, hp, rfl⟩ | ⟨user, huser, rfl⟩
  · refine hkept p (h ⟨p, false⟩ ?_)
    exact List.mem_append_left _ (List.mem_append_left _ (List.mem_map_of_mem hp))
  · obtain ⟨huser, hthere⟩ := Option.filter_eq_some_iff.mp huser
    rcases Files.isThere_put hthere with hbefore | hplace
    · refine hkept user (h ⟨user, false⟩ ?_)
      have hasked : files.userFile?.filter files.isThere = some user :=
        Option.filter_eq_some_iff.mpr ⟨huser, hbefore⟩
      rw [Files.sources, hasked]
      exact List.mem_append_left _ (List.mem_append_right _ List.mem_cons_self)
    · have hsame : lib.formatOf? user = some format :=
        (formatOf?_congr hplace hlocate hfile (Files.name_of_userFile? huser)
          (name_of_formatOf? hformat)).trans hformat
      have hread : (files.put place text).read? user = some text := by
        rw [Files.read?_put, if_pos hplace]
      exact ⟨layer, (hsearch.exact false hsame hread).trans hparse, hlayer⟩

theorem WellFormed.exists_layers (h : lib.WellFormed files) :
    ∃ layers, lib.layers? files none = some layers ∧ ∀ layer ∈ layers, layer.Tabular := by
  rw [WellFormed] at h
  rw [layers?]
  generalize files.sources none = sources at h
  induction sources with
  | nil => exact ⟨[], rfl, List.forall_mem_nil _⟩
  | cons source sources ih =>
    obtain ⟨⟨layer, hlayer, htabular⟩, hrest⟩ := List.forall_mem_cons.mp h
    obtain ⟨layers, hlayers, htabulars⟩ := ih hrest
    refine ⟨layer :: layers, ?_, List.forall_mem_cons.mpr ⟨htabular, htabulars⟩⟩
    rw [List.mapM_cons, hlayer, hlayers]
    rfl

end Library

namespace Environment

/-- None of the variables names a setting. -/
def Silent (vars : List (String × String)) : Prop := ∀ v ∈ vars, setting? v.1 = none

instance : DecidablePred Silent := fun _ => inferInstanceAs (Decidable (∀ _ ∈ _, _))

theorem Silent.layer {vars : List (String × String)} (h : Silent vars) : layer vars = [] := by
  refine List.eq_nil_iff_forall_not_mem.mpr fun entry hentry => ?_
  obtain ⟨v, hv, hname, -⟩ := exists_of_mem_layer hentry
  rw [h v hv] at hname
  cases hname

end Environment

/-! ## Saving and loading -/

namespace Library

variable {lib : Library}

/-- Tables are written for names that end so that they are read from there. -/
def RoundTrips (lib : Library) : Prop :=
  ∀ path, Files.hasEnding path ".toml" = true → ∃ format, lib.formatOf? path = some format ∧
    ∀ tables : Toml.Tables, tables.Proper → lib.parse? format (lib.write tables) = some tables.toTrees

theorem roundTrips_standard : standard.RoundTrips :=
  fun _ hending => ⟨.toml, formatOf?_toml hending, fun _ h => Toml.read?_document h⟩

theorem Merges.isTabular_foldl (hmerge : lib.Merges) {layers : List Layer}
    (h : ∀ layer ∈ layers, layer.Tabular) {tree : Tree} (htree : tree.IsTabular) :
    (layers.foldl lib.merge tree).IsTabular := by
  induction layers generalizing tree with
  | nil => exact htree
  | cons layer layers ih =>
    obtain ⟨hlayer, hlayers⟩ := List.forall_mem_cons.mp h
    exact ih hlayers (hmerge.isTabular htree hlayer)

/-- Saved settings that are merged last are the settings, whatever was merged
before. -/
theorem Merges.ofLayers?_tables (hmerge : lib.Merges) {layers : List Layer}
    (h : ∀ layer ∈ layers, layer.Tabular) (s : Settings) :
    lib.ofLayers? (layers ++ [s.tables.toTrees] ++ [[]]) = some s := by
  have hlower := hmerge.isTabular_foldl h isTabular_empty
  obtain ⟨htree, hsaved⟩ := hmerge.applies (.toTrees s.proper_tables) s.single_tables _ hlower
  obtain ⟨htabular, hat⟩ := hmerge.applies .nil .nil _ htree
  rw [ofLayers?, List.foldl_append, List.foldl_append]
  refine (Settings.ofTree?_eq_some_iff htabular).mpr fun x => ?_
  rw [hat, Layer.says?_nil, Option.none_or, hsaved, s.says?_tables, Option.some_or, x.settle?_leaf]

/-- Settings can be saved where a file can be written. Asked for, they are
loaded as they were: no lower file shows through, whatever it says of them, as
long as sections are tables in it. -/
theorem load?_save? (lib : Library) (hsearch : lib.Searches) (hmerge : lib.Merges)
    (htoml : lib.RoundTrips) (s : Settings) (files : Files) (path : String)
    (vars : List (String × String)) (hpath : files.Writable path)
    (hending : Files.hasEnding path ".toml" = true) (hfiles : lib.WellFormed files)
    (hvars : Environment.Silent vars) :
    ∃ saved, lib.save? s files path = some saved ∧ lib.load? saved (some path) vars = some s := by
  obtain ⟨place, hlocate, hfile⟩ := hpath
  obtain ⟨format, hformat, hread⟩ := htoml path hending
  have hparse := hread s.tables s.proper_tables
  refine ⟨files.put place (lib.write s.tables), ?_, ?_⟩
  · rw [save?, Files.write?, hlocate]
    simp [hfile]
  · have hsaved := hfiles.put hsearch hlocate hfile hformat hparse
      (Layer.Plain.toTrees s.proper_tables).tabular
    obtain ⟨layers, hlayers, htabular⟩ := hsaved.exists_layers
    have hgiven : lib.collect? (files.put place (lib.write s.tables)) path true =
        some s.tables.toTrees := by
      refine (hsearch.exact true hformat ?_).trans hparse
      rw [Files.read?_put, if_pos hlocate]
    have hall : lib.layers? (files.put place (lib.write s.tables)) (some path) =
        some (layers ++ [s.tables.toTrees]) := by
      rw [layers?] at hlayers
      rw [layers?, Files.sources_some, List.mapM_append, hlayers, List.mapM_cons, hgiven]
      rfl
    rw [load?, hall, hvars.layer]
    exact hmerge.ofLayers?_tables htabular s

/-- A lower file that no settings can be read from. -/
def unreadable : Toml.Tables :=
  [("lexer", [("opening", .flag true), ("trim_whitespace", .text "perhaps")]),
    ("errors", [("raise_at", .text "never")])]

def unreadableFiles : Files := .ofTexts [("config/plang.toml", Toml.document unreadable)]

theorem read?_unreadableFiles :
    (unreadableFiles.read? "config/plang.toml" = some (Toml.document unreadable) ∧
        Files.hasEnding "config/plang.toml" ".toml" = true) ∧
      standard.Lacks unreadableFiles "plang.toml" ∧
      standard.Lacks unreadableFiles ".plang.toml" ∧
      unreadableFiles.sources none = Files.places.map (⟨·, false⟩) ∧
      unreadableFiles.locate? "/work/config/saved.toml" =
        some ⟨["work", "config", "saved.toml"]⟩ ∧
      unreadableFiles.isDirectory ⟨["work", "config", "saved.toml"]⟩ = false ∧
      Files.hasEnding "/work/config/saved.toml" ".toml" = true ∧
      standard.load? unreadableFiles none [] = none := by
  decide +kernel

/-- Delimiters of quotes and line breaks, saved above a file that no settings can
be read from. -/
theorem load?_save?_of_unreadable :
    let s : Settings := ⟨"\n\x22\x22\x22", "\x27\\", false, true, true, .notify⟩
    standard.load? unreadableFiles none [] = none ∧
      ∃ saved, standard.save? s unreadableFiles "/work/config/saved.toml" = some saved ∧
        standard.load? saved (some "/work/config/saved.toml") [("HOME", "plang")] = some s := by
  intro s
  obtain ⟨hnested, hproject, hhidden, hsources, hlocate, hfile, hending, hload⟩ :=
    read?_unreadableFiles
  have hproper : unreadable.Proper := ⟨by decide, by decide, by decide⟩
  have hfiles : standard.WellFormed unreadableFiles := by
    rw [WellFormed, hsources, Files.places]
    simp only [List.map_cons, List.map_nil, List.forall_mem_cons]
    exact ⟨⟨[], searches_standard.absent false hproject, .nil⟩,
      ⟨[], searches_standard.absent false hhidden, .nil⟩,
      ⟨_, collect?_document hproper hnested.2 hnested.1 false,
        (Layer.Plain.toTrees hproper).tabular⟩,
      List.forall_mem_nil _⟩
  exact ⟨hload, load?_save? standard searches_standard merges_standard roundTrips_standard s
    unreadableFiles "/work/config/saved.toml" [("HOME", "plang")] ⟨_, hlocate, hfile⟩ hending hfiles
    (by decide)⟩

end Library

end Phrasebook
