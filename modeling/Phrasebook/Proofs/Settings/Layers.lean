import Mathlib.Data.List.TakeWhile
import Phrasebook.Proofs.Settings.Searching
import Phrasebook.Proofs.Toml.Documents

/-!
# Settings from all sources

A library that is asked for settings collects what the files say, one by one
(`Library.Supply`), and what the variables say. So what is loaded can be told
setting by setting (`load?_eq_some_iff`): the variables count first, and then
the last of the files that says something.

Sources that are in order (`InOrder`) can be loaded, and a file that is asked
for and not there refuses everything (`load?_layered`). Of the library it is
assumed that it finds files by their names and endings and merges setting by
setting. The standard one does, so what it loads from files in TOML is what
their tables say (`Layer.sayings_toTrees`).
-/

namespace Phrasebook

/-! ## Documents -/

theorem Path.read_of_isKey {name : String} (h : Toml.IsKey name) :
    Path.read name = .root (Text.lowercase name) := by
  have hall : ∀ c ∈ name.toList, isNameChar c = true := by
    intro c hc
    have hkey := h.allows hc
    rw [Toml.isKeyChar] at hkey
    rw [isNameChar, hkey, Bool.true_or]
  have htake : name.toList.takeWhile isNameChar = name.toList := List.takeWhile_eq_self_iff.mpr hall
  have hdrop : name.toList.dropWhile isNameChar = [] := List.dropWhile_eq_nil_iff.mpr hall
  have hempty : name.toList.isEmpty = false := List.isEmpty_eq_false_iff.mpr h.1
  rw [read, readName?, htake, hdrop, hempty, String.ofList_toList]
  rfl

/-- A document of tables has the shape that settings have. -/
theorem Layer.Plain.toTrees {tables : Toml.Tables} (h : tables.Proper) :
    Layer.Plain tables.toTrees := by
  intro entry hentry
  obtain ⟨t, ht, rfl⟩ := List.mem_map.mp hentry
  rw [Path.read_of_isKey (h.isKey t ht).1]
  refine fun x _ => ⟨rfl, fun m hm _ => ?_⟩
  obtain ⟨leaf, -, rfl⟩ := List.mem_map.mp hm
  cases leaf.2 <;> rfl

/-- What a document of tables says of a setting. -/
theorem Layer.sayings_toTrees {tables : Toml.Tables} (h : tables.Proper) (x : Setting) :
    sayings tables.toTrees x = tables.flatMap fun t =>
      if Text.lowercase (Text.lowercase t.1) = x.table then
        t.2.filterMap fun m => if Text.lowercase m.1 = x.member then some m.2.toTree else none
      else [] := by
  rw [sayings, Toml.Tables.toTrees, List.flatMap_map]
  refine List.flatMap_congr fun t ht => ?_
  rw [Path.read_of_isKey (h.isKey t ht).1, Path.sayings]
  simp only [Tree.members, List.filterMap_map]
  rfl

/-! ## Files -/

namespace Files

/-- What each of the files says. -/
structure Layers where
  /-- The file `plang.toml`. -/
  project : Layer
  /-- The file `.plang.toml`. -/
  hidden : Layer
  /-- The file `config/plang.toml`. -/
  nested : Layer
  /-- The file of the user. -/
  user : Layer
  /-- The file that is asked for. -/
  given : Layer

/-- The layers, lower ones first. -/
def Layers.all (l : Layers) : List Layer := [l.project, l.hidden, l.nested, l.user, l.given]

theorem Layers.forall_mem_all {l : Layers} {p : Layer → Prop} :
    (∀ layer ∈ l.all, p layer) ↔ p l.project ∧ p l.hidden ∧ p l.nested ∧ p l.user ∧ p l.given := by
  simp [all]

end Files

/-- What the sources say of the setting: the variables, if they say something,
and else the last of the files that does. -/
def Settings.said? (l : Files.Layers) (vars : List (String × String)) (x : Setting) : Option Tree :=
  (Environment.says? vars x).or (lastSaid? (·.says? x) l.all)

namespace Library

/-- The library collects the layer of a file, or nothing if none is asked for. -/
def Collects (lib : Library) (files : Files) (asked : Option String) (required : Bool)
    (layer : Layer) : Prop :=
  match asked with
  | some path => lib.collect? files path required = some layer
  | none => layer = []

/-- The library collects these layers. Only the file that is asked for has to be
there; the one of the user is left out if nothing of this name is. -/
structure Supply (lib : Library) (files : Files) (path : Option String) (l : Files.Layers) :
    Prop where
  project : lib.collect? files "plang.toml" false = some l.project
  hidden : lib.collect? files ".plang.toml" false = some l.hidden
  nested : lib.collect? files "config/plang.toml" false = some l.nested
  user : lib.Collects files (files.userFile?.filter files.isThere) false l.user
  given : lib.Collects files path true l.given

variable {lib : Library} {files : Files} {path : Option String} {vars : List (String × String)}
  {l : Files.Layers}

/-- A file that is not asked for says nothing. -/
theorem Collects.exists_mapM {asked : Option String} {required : Bool} {layer : Layer}
    (h : lib.Collects files asked required layer) :
    ∃ layers, asked.toList.mapM (lib.collect? files · required) = some layers ∧ layers ⊆ [layer] ∧
      ∀ x : Setting, lastSaid? (·.says? x) layers = layer.says? x := by
  cases asked with
  | none =>
    rw [show layer = [] from h]
    exact ⟨[], rfl, List.nil_subset _, fun _ => rfl⟩
  | some asked =>
    refine ⟨[layer], ?_, List.Subset.refl _, fun x => lastSaid?_singleton ..⟩
    rw [Option.toList_some, List.mapM_cons, show lib.collect? files asked required = _ from h]
    rfl

/-- What is loaded is what the layers say, those of files that are not asked for
left out. -/
theorem Supply.layers? (h : lib.Supply files path l) :
    ∃ layers, lib.layers? files path = some layers ∧ layers ⊆ l.all ∧
      ∀ x : Setting, lastSaid? (·.says? x) layers = lastSaid? (·.says? x) l.all := by
  obtain ⟨user, huser, huserSub, huserSaid⟩ := h.user.exists_mapM
  obtain ⟨given, hgiven, hgivenSub, hgivenSaid⟩ := h.given.exists_mapM
  have hfixed : Files.places.mapM (lib.collect? files · false) =
      some [l.project, l.hidden, l.nested] := by
    rw [Files.places, List.mapM_cons, h.project, List.mapM_cons, h.hidden, List.mapM_cons, h.nested]
    rfl
  have hall : l.all = [l.project, l.hidden, l.nested] ++ [l.user] ++ [l.given] := rfl
  refine ⟨[l.project, l.hidden, l.nested] ++ user ++ given, ?_, ?_, fun x => ?_⟩
  · rw [Library.layers?, Files.sources, List.mapM_append, List.mapM_append, List.mapM_map,
      List.mapM_map, List.mapM_map]
    simp only [Function.comp_def, hfixed, huser, hgiven]
    rfl
  · intro layer hlayer
    rw [hall]
    simp only [List.mem_append] at hlayer ⊢
    rcases hlayer with (hlower | hasked) | hasked
    · exact .inl (.inl hlower)
    · exact .inl (.inr (huserSub hasked))
    · exact .inr (hgivenSub hasked)
  · simp only [hall, lastSaid?_append, lastSaid?_singleton, huserSaid, hgivenSaid]

/-- The settings are those that what was said last settles them to. -/
theorem load?_eq_some_iff (hl : lib.Supply files path l)
    (happlies : ∀ layer ∈ l.all ++ [Environment.layer vars], lib.Applies layer)
    (hvars : Environment.Proper vars) {s : Settings} :
    lib.load? files path vars = some s ↔
      ∀ x : Setting, x.settle? (Settings.said? l vars x) = some (x.of s) := by
  obtain ⟨layers, hlayers, hsub, hsaid⟩ := hl.layers?
  have happlies' : ∀ layer ∈ layers ++ [Environment.layer vars], lib.Applies layer :=
    fun layer hlayer => happlies layer ((List.mem_append.mp hlayer).elim
      (fun hfile => List.mem_append_left _ (hsub hfile)) (List.mem_append_right _))
  rw [load?, hlayers, Option.bind_eq_bind, Option.bind_some, ofLayers?_eq_some_iff happlies']
  refine forall_congr' fun x => ?_
  rw [lastSaid?_append, lastSaid?_singleton, hvars.says?_layer, hsaid, Settings.said?]

/-- The sources are in order: the library collects these layers, which have the
shape that settings have, the variables are those of settings, and what is said
of each setting last can be taken for it. -/
structure InOrder (lib : Library) (files : Files) (path : Option String)
    (vars : List (String × String)) (l : Files.Layers) : Prop where
  supply : lib.Supply files path l
  plain : ∀ layer ∈ l.all, layer.Plain
  proper : Environment.Proper vars
  settles : ∀ x : Setting, (x.settle? (Settings.said? l vars x)).isSome

/-- Sources that are in order can be loaded. -/
theorem InOrder.load? (h : lib.InOrder files path vars l)
    (happlies : ∀ layer ∈ l.all ++ [Environment.layer vars], lib.Applies layer) :
    ∃ s, lib.load? files path vars = some s ∧
      ∀ x : Setting, x.settle? (Settings.said? l vars x) = some (x.of s) := by
  obtain ⟨s, hs⟩ := Setting.exists_settled h.settles
  exact ⟨s, (load?_eq_some_iff h.supply happlies h.proper).mpr hs, hs⟩

/-- The standard library merges all layers of sources that are in order. -/
theorem InOrder.applies_standard (h : standard.InOrder files path vars l) :
    ∀ layer ∈ l.all ++ [Environment.layer vars], standard.Applies layer := by
  intro layer hlayer
  rcases List.mem_append.mp hlayer with hfile | hvars
  · exact Library.applies_standard (h.plain layer hfile)
  · rw [List.mem_singleton.mp hvars]
    exact Library.applies_standard h.proper.plain_layer

/-- So does any other, if no layer says a setting twice. -/
theorem Merges.applies_all (hmerge : lib.Merges) (h : lib.InOrder files path vars l)
    (hsingle : ∀ layer ∈ l.all, layer.Single) :
    ∀ layer ∈ l.all ++ [Environment.layer vars], lib.Applies layer := by
  intro layer hlayer
  rcases List.mem_append.mp hlayer with hfile | hvars
  · exact hmerge.applies (h.plain layer hfile) (hsingle layer hfile)
  · rw [List.mem_singleton.mp hvars]
    exact hmerge.applies h.proper.plain_layer h.proper.single_layer

/-- A file that is asked for has to be there. -/
theorem Searches.load?_eq_none (hsearch : lib.Searches) {given : String}
    (h : lib.Lacks files given) (vars : List (String × String)) :
    lib.load? files (some given) vars = none := by
  have hlayers : lib.layers? files (some given) = none := by
    rw [layers?, Files.sources, List.mapM_append, Option.toList_some, List.map_singleton,
      List.mapM_cons, hsearch.absent true h]
    simp [absent?]
  rw [Library.load?, hlayers]
  rfl

/-- Every setting is what the last source that says something of it makes of it,
and the standard if none does: what sources above say of other settings, or of
the rest of its table, leaves it alone. A file that is asked for has to be
there. -/
theorem load?_layered (lib : Library) (hsearch : lib.Searches) (hmerge : lib.Merges) (files : Files)
    (path : Option String) (vars : List (String × String)) :
    (∀ l, lib.InOrder files path vars l → (∀ layer ∈ l.all, layer.Single) →
      ∃ s, lib.load? files path vars = some s ∧
        (∀ x : Setting, x.settle? (Settings.said? l vars x) = some (x.of s)) ∧
        ∀ (x : Setting) (lower upper : List Layer), l.all = lower ++ upper →
          (∀ layer ∈ upper, layer.says? x = none) → Environment.says? vars x = none →
          x.settle? (lastSaid? (·.says? x) lower) = some (x.of s)) ∧
    ∀ given, path = some given → lib.Lacks files given → lib.load? files path vars = none := by
  refine ⟨fun l hl hsingle => ?_, fun given hpath hlacks => ?_⟩
  · obtain ⟨s, hload, hs⟩ := hl.load? (hmerge.applies_all hl hsingle)
    refine ⟨s, hload, hs, ?_⟩
    intro x lower upper hall hupper henv
    have hx := hs x
    rw [Settings.said?, henv, Option.none_or, hall, lastSaid?_append,
      lastSaid?_eq_none_iff.mpr hupper, Option.none_or] at hx
    exact hx
  · rw [hpath]
    exact hsearch.load?_eq_none hlacks vars

/-! ## The standard library -/

/-- A file in TOML says the tables that it is a document of. -/
theorem collect?_document {tables : Toml.Tables} (h : tables.Proper) {given : String}
    (hending : Files.hasEnding given ".toml" = true)
    (hread : files.read? given = some (Toml.document tables)) (required : Bool) :
    standard.collect? files given required = some tables.toTrees :=
  (searches_standard.exact required (formatOf?_toml hending) hread).trans (Toml.read?_document h)

/-- A file that sets both delimiters. -/
def bothDelimiters : Toml.Tables := [("lexer", [("opening", .text "<"), ("closing", .text ">")])]

/-- A file that sets one of them. -/
def oneDelimiter : Toml.Tables := [("lexer", [("closing", .text "]")])]

/-- The two files. -/
def delimiterFiles : Files :=
  .ofTexts [("plang.toml", Toml.document bothDelimiters), ("custom.toml", Toml.document oneDelimiter)]

/-- What they say, if the second one is asked for. -/
def delimiterLayers : Files.Layers :=
  ⟨bothDelimiters.toTrees, [], [], [], oneDelimiter.toTrees⟩

theorem proper_delimiters : bothDelimiters.Proper ∧ oneDelimiter.Proper :=
  ⟨⟨by decide, by decide, by decide⟩, ⟨by decide, by decide, by decide⟩⟩

theorem read?_delimiterFiles :
    (delimiterFiles.read? "plang.toml" = some (Toml.document bothDelimiters) ∧
        Files.hasEnding "plang.toml" ".toml" = true) ∧
      (delimiterFiles.read? "/work/custom.toml" = some (Toml.document oneDelimiter) ∧
        Files.hasEnding "/work/custom.toml" ".toml" = true) ∧
      standard.Lacks delimiterFiles ".plang.toml" ∧
      standard.Lacks delimiterFiles "config/plang.toml" ∧
      standard.Lacks delimiterFiles "/tmp/absent.toml" ∧
      delimiterFiles.userFile?.filter delimiterFiles.isThere = none ∧
      delimiterFiles.isThere "custom" = false ∧
      (standard.load? delimiterFiles (some "custom") []).isSome = true := by
  decide +kernel

theorem supply_delimiters :
    standard.Supply delimiterFiles (some "/work/custom.toml") delimiterLayers := by
  obtain ⟨hproject, hgiven, hhidden, hnested, -, huser, -⟩ := read?_delimiterFiles
  refine
    { project := collect?_document proper_delimiters.1 hproject.2 hproject.1 false
      hidden := searches_standard.absent false hhidden
      nested := searches_standard.absent false hnested
      user := ?_
      given := collect?_document proper_delimiters.2 hgiven.2 hgiven.1 true }
  rw [huser]
  exact Eq.refl _

theorem plain_delimiters : ∀ layer ∈ delimiterLayers.all, layer.Plain :=
  Files.Layers.forall_mem_all.mpr ⟨.toTrees proper_delimiters.1, .nil, .nil, .nil,
    .toTrees proper_delimiters.2⟩

theorem single_delimiters : ∀ layer ∈ delimiterLayers.all, layer.Single := by
  refine Files.Layers.forall_mem_all.mpr ⟨fun x => ?_, .nil, .nil, .nil, fun x => ?_⟩
  · cases x <;> decide
  · cases x <;> decide

/-- The second file sets one delimiter and leaves the other, a variable sets the
severity, and nothing else is set. A third file is not there. -/
theorem load?_layered_of_delimiters :
    standard.load? delimiterFiles (some "/work/custom.toml") [("PLANG__ERRORS__RAISE_AT", "fatal")] =
        some ⟨"<", "]", false, false, false, .fatal⟩ ∧
      standard.load? delimiterFiles (some "/tmp/absent.toml") [] = none := by
  have hvars : Environment.Proper [("PLANG__ERRORS__RAISE_AT", "fatal")] := by
    intro v hv _ _
    rw [List.mem_singleton.mp hv]
    exact .inl ⟨.raiseAt, by decide⟩
  have hsettle (x : Setting) :
      x.settle? (Settings.said? delimiterLayers [("PLANG__ERRORS__RAISE_AT", "fatal")] x) =
        some (x.of ⟨"<", "]", false, false, false, .fatal⟩) := by
    cases x <;> decide
  obtain ⟨s, hload, hs, -⟩ := (load?_layered standard searches_standard merges_standard
      delimiterFiles (some "/work/custom.toml") _).1 delimiterLayers
    ⟨supply_delimiters, plain_delimiters, hvars, fun x => Option.isSome_of_eq_some (hsettle x)⟩
    single_delimiters
  refine ⟨?_, (load?_layered standard searches_standard merges_standard delimiterFiles
    (some "/tmp/absent.toml") []).2 "/tmp/absent.toml" rfl read?_delimiterFiles.2.2.2.2.1⟩
  rw [hload, Setting.eq_of_of fun x => Option.some.inj ((hs x).symm.trans (hsettle x))]

/-- Nothing is there at the path, but there is a file at the path with an ending
put to it. -/
theorem load?_of_longer_name :
    ¬∀ (files : Files) (path : String) (vars : List (String × String)),
      files.isThere path = false → Settings.load? files (some path) vars = none := by
  intro h
  obtain ⟨-, -, -, -, -, -, hthere, hload⟩ := read?_delimiterFiles
  have hnone : standard.load? delimiterFiles (some "custom") [] = none :=
    h delimiterFiles "custom" [] hthere
  rw [hnone] at hload
  cases hload

end Library

end Phrasebook
