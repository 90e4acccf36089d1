import Mathlib.Data.List.Basic
import Phrasebook.Settings.Sources

/-!
# Merging what sources say

The settings as data (`Setting`): each is a member of a table. What a layer says
of a setting is said by its entries: one that is a table of that name with the
member in it, or one whose path leads to the member (`Path.sayings`). What is
said last counts (`Layer.says?`).

A layer is `Plain` if its entries have the shape that settings have: a table
where settings are in a table, and no table where a setting is. Merging such an
entry puts what it says in the place of what was there, and leaves every other
setting alone (`Plain.at?_set`); so does merging such a layer
(`Tree.at?_addLayer`).

That is what is relied on of a library (`Library.Merges`): of several layers the
last that says something of a setting counts (`Library.at?_foldl_merge`). The
settings that a tree says are read off it one by one (`ofTree?_eq_some_iff`).
-/

namespace Phrasebook

/-! ## What is said last -/

section LastSaid

variable {α β σ : Type}

/-- What the last of the sources that says something says. -/
def lastSaid? (says? : α → Option β) (sources : List α) : Option β :=
  (sources.filterMap says?).getLast?

theorem lastSaid?_append (says? : α → Option β) (lower upper : List α) :
    lastSaid? says? (lower ++ upper) = (lastSaid? says? upper).or (lastSaid? says? lower) := by
  rw [lastSaid?, List.filterMap_append, List.getLast?_append, lastSaid?, lastSaid?]

theorem lastSaid?_singleton (says? : α → Option β) (source : α) :
    lastSaid? says? [source] = says? source := by
  rw [lastSaid?, List.filterMap_cons, List.filterMap_nil]
  cases says? source <;> rfl

theorem lastSaid?_cons (says? : α → Option β) (source : α) (sources : List α) :
    lastSaid? says? (source :: sources) = (lastSaid? says? sources).or (says? source) := by
  rw [← List.singleton_append, lastSaid?_append, lastSaid?_singleton]

/-- The last of all that is said is what the last of the sources says last. -/
theorem lastSaid?_getLast? (sayings : α → List β) (sources : List α) :
    lastSaid? (fun a => (sayings a).getLast?) sources = (sources.flatMap sayings).getLast? := by
  induction sources with
  | nil => rfl
  | cons a rest ih => rw [lastSaid?_cons, ih, List.flatMap_cons, List.getLast?_append]

theorem lastSaid?_eq_none_iff {says? : α → Option β} {sources : List α} :
    lastSaid? says? sources = none ↔ ∀ source ∈ sources, says? source = none := by
  rw [lastSaid?, List.getLast?_eq_none_iff, List.filterMap_eq_nil_iff]

/-- Sources that are merged one after the other leave what the last of them
says, if each puts what it says in the place of what was there. -/
theorem lastSaid?_foldl (Inv : σ → Prop) (get : σ → Option β) {says? : α → Option β}
    {step : σ → α → σ} {sources : List α}
    (hstep : ∀ a ∈ sources, ∀ s, Inv s → Inv (step s a) ∧ get (step s a) = (says? a).or (get s))
    {s : σ} (hs : Inv s) :
    Inv (sources.foldl step s) ∧
      get (sources.foldl step s) = (lastSaid? says? sources).or (get s) := by
  induction sources generalizing s with
  | nil => exact ⟨hs, rfl⟩
  | cons a rest ih =>
    obtain ⟨hfirst, hrest⟩ := List.forall_mem_cons.mp hstep
    obtain ⟨hinv, hget⟩ := hfirst s hs
    rw [List.foldl_cons, lastSaid?_cons, Option.or_assoc, ← hget]
    exact ih hrest hinv

end LastSaid

/-! ## Settings as data -/

/-- One of the settings. -/
inductive Setting where
  | opening
  | closing
  | trims
  | lexiconCaseSensitive
  | binderCaseSensitive
  | raiseAt
  deriving DecidableEq

namespace Setting

/-- The table that the setting is in. -/
def table : Setting → String
  | .opening => "lexer"
  | .closing => "lexer"
  | .trims => "lexer"
  | .lexiconCaseSensitive => "lexicon"
  | .binderCaseSensitive => "binder"
  | .raiseAt => "errors"

/-- The name of the setting in its table. -/
def member : Setting → String
  | .opening => "opening"
  | .closing => "closing"
  | .trims => "trim_whitespace"
  | .lexiconCaseSensitive => "case_sensitive"
  | .binderCaseSensitive => "case_sensitive"
  | .raiseAt => "raise_at"

/-- What a setting is set to. -/
inductive Content where
  | text (text : String)
  | flag (value : Bool)
  | severity (severity : Severity)
  deriving DecidableEq

/-- What the setting is set to in given settings. -/
def of (x : Setting) (s : Settings) : Content :=
  match x with
  | .opening => .text s.opening
  | .closing => .text s.closing
  | .trims => .flag s.trims
  | .lexiconCaseSensitive => .flag s.lexiconCaseSensitive
  | .binderCaseSensitive => .flag s.binderCaseSensitive
  | .raiseAt => .severity s.raiseAt

/-- What a value sets the setting to, if it can be taken for that. -/
def convert? (x : Setting) (value : Tree) : Option Content :=
  match x with
  | .opening => value.toText?.map .text
  | .closing => value.toText?.map .text
  | .trims => value.toFlag?.map .flag
  | .lexiconCaseSensitive => value.toFlag?.map .flag
  | .binderCaseSensitive => value.toFlag?.map .flag
  | .raiseAt => value.toSeverity?.map .severity

/-- What the setting is set to by what was said of it last, by the standard if
nothing was said. -/
def settle? (x : Setting) (said : Option Tree) : Option Content :=
  match said with
  | some value => x.convert? value
  | none => some (x.of .standard)

/-- Settings of one kind are settled in one way: by the conversion of the kind,
or to the standard. -/
theorem settle?_eq_map {α : Type} {x : Setting} {value : α} {convert : Tree → Option α}
    {wrap : α → Content} (hvalue : x.of .standard = wrap value)
    (hconvert : ∀ said, x.convert? said = (convert said).map wrap) (said : Option Tree) :
    x.settle? said = (said.elim (some value) convert).map wrap := by
  cases said with
  | none => exact congrArg some hvalue
  | some said => exact hconvert said

/-- Settings are the same if each of them is set to the same. -/
theorem eq_of_of {s t : Settings} (h : ∀ x : Setting, x.of s = x.of t) : s = t := by
  have hopening := h .opening
  have hclosing := h .closing
  have htrims := h .trims
  have hlexicon := h .lexiconCaseSensitive
  have hbinder := h .binderCaseSensitive
  have hraiseAt := h .raiseAt
  cases s
  cases t
  simp only [of, Content.text.injEq, Content.flag.injEq, Content.severity.injEq] at *
  simp only [*]

/-- What settles a setting settles it to something of its kind. -/
theorem exists_of_isSome {α : Type} {x : Setting} {said : Option Tree}
    (h : (x.settle? said).isSome) {value : α} {convert : Tree → Option α} (wrap : α → Content)
    (hvalue : x.of .standard = wrap value)
    (hconvert : ∀ tree, x.convert? tree = (convert tree).map wrap) :
    ∃ a, x.settle? said = some (wrap a) := by
  rw [settle?_eq_map hvalue hconvert] at h ⊢
  obtain ⟨a, ha⟩ := Option.isSome_iff_exists.mp (Option.isSome_map.symm.trans h)
  exact ⟨a, by rw [ha, Option.map_some]⟩

/-- What settles every setting makes up settings. -/
theorem exists_settled {said : Setting → Option Tree}
    (h : ∀ x : Setting, (x.settle? (said x)).isSome) :
    ∃ s : Settings, ∀ x : Setting, x.settle? (said x) = some (x.of s) := by
  obtain ⟨opening, ho⟩ := exists_of_isSome (h .opening) .text rfl fun _ => rfl
  obtain ⟨closing, hc⟩ := exists_of_isSome (h .closing) .text rfl fun _ => rfl
  obtain ⟨trims, ht⟩ := exists_of_isSome (h .trims) .flag rfl fun _ => rfl
  obtain ⟨lexicon, hl⟩ := exists_of_isSome (h .lexiconCaseSensitive) .flag rfl fun _ => rfl
  obtain ⟨binder, hb⟩ := exists_of_isSome (h .binderCaseSensitive) .flag rfl fun _ => rfl
  obtain ⟨raiseAt, hr⟩ := exists_of_isSome (h .raiseAt) .severity rfl fun _ => rfl
  refine ⟨⟨opening, closing, trims, lexicon, binder, raiseAt⟩, fun x => ?_⟩
  cases x with
  | opening => exact ho
  | closing => exact hc
  | trims => exact ht
  | lexiconCaseSensitive => exact hl
  | binderCaseSensitive => exact hb
  | raiseAt => exact hr

end Setting

namespace Tree

/-- Whether the tree is a table. -/
def isTable : Tree → Bool
  | .table _ => true
  | _ => false

theorem isTable_put (tree : Tree) (name : String) (value : Tree) :
    (tree.put name value).isTable = true := rfl

theorem isTable_set (tree : Tree) (name : String) (value : Tree) :
    (tree.set name value).isTable = true := by
  cases value <;> simp only [set, isTable_put]

theorem isTable_setAll {tree : Tree} (h : tree.isTable = true) (members : List (String × Tree)) :
    (tree.setAll members).isTable = true := by
  induction members generalizing tree with
  | nil => rwa [setAll]
  | cons m members ih =>
    rw [setAll]
    exact ih (isTable_set tree m.1 m.2)

/-- What members say of the name, the last of several that are spelt differently. -/
def saysMember? (members : List (String × Tree)) (name : String) : Option Tree :=
  lastSaid? (fun m => if Text.lowercase m.1 = name then some m.2 else none) members

/-- What the tree has for the setting. -/
def at? (tree : Tree) (x : Setting) : Option Tree :=
  (tree.member? x.table).bind (·.member? x.member)

@[simp] theorem members_nothing : nothing.members = [] := rfl

@[simp] theorem members_empty : (table []).members = [] := rfl

theorem member?_set {tree value : Tree} {name key : String}
    (h : Text.lowercase name = key → value.isTable = false) :
    (tree.set name value).member? key =
      if Text.lowercase name = key then some value else tree.member? key := by
  cases value with
  | table members =>
    have hne : Text.lowercase name ≠ key := fun he => by cases h he
    rw [set, member?_put, if_neg hne.symm, if_neg hne]
  | _ =>
    rw [set, member?_put]
    · simp only [eq_comm]
    · intro _ he
      cases he

/-- What members say of a name takes the place of what was there. -/
theorem member?_setAll {members : List (String × Tree)} {key : String}
    (h : ∀ m ∈ members, Text.lowercase m.1 = key → m.2.isTable = false) (tree : Tree) :
    (tree.setAll members).member? key = (saysMember? members key).or (tree.member? key) := by
  induction members generalizing tree with
  | nil => rw [setAll]; rfl
  | cons m members ih =>
    obtain ⟨hfirst, hrest⟩ := List.forall_mem_cons.mp h
    rw [setAll, ih hrest, saysMember?, saysMember?, lastSaid?_cons, Option.or_assoc,
      member?_set hfirst]
    split <;> rfl

/-- Every table of settings is a table. -/
def IsTabular (tree : Tree) : Prop :=
  ∀ (x : Setting) (t : Tree), tree.member? x.table = some t → t.isTable = true

theorem IsTabular.put {tree : Tree} (h : tree.IsTabular) {name : String} {value : Tree}
    (hvalue : (∃ x : Setting, x.table = name) → value.isTable = true) :
    (tree.put name value).IsTabular := by
  intro x t ht
  rw [member?_put] at ht
  split at ht
  · rename_i hname
    rw [← Option.some.inj ht]
    exact hvalue ⟨x, hname⟩
  · exact h x t ht

/-- A table of settings that is not there is one without members. -/
theorem IsTabular.getD {tree : Tree} (h : tree.IsTabular) (x : Setting) :
    ((tree.member? x.table).getD (.table [])).isTable = true := by
  cases ht : tree.member? x.table with
  | none => rfl
  | some t => exact h x t ht

/-- A table that is not there may be taken for anything without members. -/
theorem at?_eq_getD {empty : Tree} (tree : Tree) (x : Setting) (h : empty.members = []) :
    tree.at? x = ((tree.member? x.table).getD empty).member? x.member := by
  rw [at?]
  cases tree.member? x.table with
  | none => rw [Option.bind_none, Option.getD_none, member?, h, List.lookup_nil]
  | some t => rfl

theorem at?_put (tree : Tree) (name : String) (value : Tree) (x : Setting) :
    (tree.put name value).at? x =
      if x.table = name then value.member? x.member else tree.at? x := by
  rw [at?, member?_put]
  split <;> rfl

end Tree

/-! ## Entries of a layer -/

namespace Path

/-- The name at which the path begins. -/
def top : Path → String
  | .root name => name
  | .child parent _ => parent.top
  | .place parent _ => parent.top

/-- All that an entry with this path and value says of the setting, in turn: a
table may have several members whose names differ in case only. -/
def sayings (x : Setting) (value : Tree) : Path → List Tree
  | .root name =>
    if Text.lowercase name = x.table then
      value.members.filterMap fun m => if Text.lowercase m.1 = x.member then some m.2 else none
    else []
  | .child (.root table) name =>
    if table = x.table ∧ Text.lowercase name = x.member then [value] else []
  | _ => []

/-- What the entry says of the setting. -/
def says? (x : Setting) (value : Tree) (path : Path) : Option Tree :=
  (path.sayings x value).getLast?

theorem says?_root (x : Setting) (value : Tree) (name : String) :
    (root name).says? x value =
      if Text.lowercase name = x.table then Tree.saysMember? value.members x.member else none := by
  rw [says?, sayings]
  split <;> rfl

theorem says?_child (x : Setting) (value : Tree) (table name : String) :
    (child (.root table) name).says? x value =
      if table = x.table ∧ Text.lowercase name = x.member then some value else none := by
  rw [says?, sayings]
  split <;> rfl

/-- An entry with this path and value has tables where settings are in a table. -/
def Tabular (value : Tree) : Path → Prop
  | .root name => ∀ x : Setting, Text.lowercase name = x.table → value.isTable = true
  | .child (.root _) _ => True
  | path => ∀ x : Setting, path.top ≠ x.table

/-- An entry with this path and value has the shape that settings have: a table
where settings are in a table, and no table where a setting is. -/
def Plain (value : Tree) : Path → Prop
  | .root name => ∀ x : Setting, Text.lowercase name = x.table → value.isTable = true ∧
      ∀ m ∈ value.members, Text.lowercase m.1 = x.member → m.2.isTable = false
  | .child (.root table) name => ∀ x : Setting, table = x.table →
      Text.lowercase name = x.member → value.isTable = false
  | path => ∀ x : Setting, path.top ≠ x.table

theorem Plain.tabular {path : Path} {value : Tree} (h : path.Plain value) : path.Tabular value := by
  match path, h with
  | .root name, h => exact fun x hx => (h x hx).1
  | .child (.root table) name, _ => exact trivial
  | .child (.child parent inner) name, h
  | .child (.place parent index) name, h
  | .place parent index, h => exact h

/-- What the path leads to is neither a setting nor a table of settings. -/
def IsForeign (path : Path) : Prop :=
  ∀ value : Tree, path.Plain value ∧ ∀ x : Setting, path.says? x value = none

/-- What is changed lies under the name at which the path begins. -/
theorem member?_change_of_ne {path : Path} {key : String} (h : path.top ≠ key) (f : Tree → Tree)
    (tree : Tree) : (path.change f tree).member? key = tree.member? key := by
  induction path generalizing f with
  | root name =>
    have hne : key ≠ name := fun he => h he.symm
    rw [change, Tree.member?_put, if_neg hne]
  | child parent name ih => exact ih h _
  | place parent index ih => exact ih h _

/-- A path that does not lead to a setting leaves the tables of settings alone. -/
theorem member?_set_of_ne {path : Path} {key : String} (hroot : ∀ name, path ≠ .root name)
    (h : path.top ≠ key) (value tree : Tree) :
    (path.set value tree).member? key = tree.member? key := by
  cases path with
  | root name => exact absurd rfl (hroot name)
  | child parent name =>
    have hparent : parent.top ≠ key := h
    exact member?_change_of_ne hparent _ tree
  | place parent index =>
    have hparent : parent.top ≠ key := h
    exact member?_change_of_ne hparent _ tree

/-- Tables of settings stay tables. -/
theorem Tabular.isTabular_set {path : Path} {value tree : Tree} (h : path.Tabular value)
    (htree : tree.IsTabular) : (path.set value tree).IsTabular := by
  match path, h with
  | .root name, h =>
    rw [set]
    cases value with
    | table incoming =>
      refine htree.put fun ⟨x, hx⟩ => Tree.isTable_setAll ?_ incoming
      rw [← hx]
      exact htree.getD x
    | _ => exact htree.put fun ⟨x, hx⟩ => h x hx.symm
  | .child (.root table) name, _ => exact htree.put fun _ => Tree.isTable_set _ name value
  | .child (.child parent inner) name, h
  | .child (.place parent index) name, h
  | .place parent index, h =>
    intro x t ht
    rw [member?_set_of_ne (fun _ h => by cases h) (h x)] at ht
    exact htree x t ht

/-- What an entry says of a setting takes the place of what was there; a setting
that it does not say is left as it was. -/
theorem Plain.at?_set {path : Path} {value : Tree} (hplain : path.Plain value) (tree : Tree)
    (x : Setting) : (path.set value tree).at? x = (path.says? x value).or (tree.at? x) := by
  match path, hplain with
  | .root name, hplain =>
    rw [set, says?_root]
    cases value with
    | table incoming =>
      -- Its members are merged into those that the table has, they do not replace the table.
      rw [Tree.set, Tree.at?_put]
      split
      · rename_i hx
        rw [if_pos hx.symm, Tree.at?_eq_getD tree x Tree.members_empty, hx]
        exact Tree.member?_setAll (hplain x hx.symm).2 _
      · rename_i hx
        rw [if_neg (Ne.symm hx), Option.none_or]
    | _ =>
      -- A value that is no table stands elsewhere than a table of settings.
      have hx : Text.lowercase name ≠ x.table := fun hx => by cases (hplain x hx).1
      rw [if_neg hx, Option.none_or]
      exact (tree.at?_put _ _ x).trans (if_neg hx.symm)
  | .child (.root table) name, hplain =>
    rw [set, change, Tree.at?_put, says?_child]
    split
    · rename_i hx
      rw [Tree.member?_set (hplain x hx.symm), Tree.at?_eq_getD tree x Tree.members_nothing, hx]
      simp only [true_and]
      split <;> rfl
    · rename_i hx
      rw [if_neg fun h => hx h.1.symm, Option.none_or]
  | .child (.child parent inner) name, hplain
  | .child (.place parent index) name, hplain
  | .place parent index, hplain =>
    rw [Tree.at?, member?_set_of_ne (fun _ h => by cases h) (hplain x)]
    rfl

end Path

/-! ## Layers -/

namespace Layer

/-- All that the layer says of the setting, in turn. -/
def sayings (layer : Layer) (x : Setting) : List Tree :=
  layer.flatMap fun entry => (Path.read entry.1).sayings x entry.2

/-- What the layer says of the setting; what is said last counts. -/
def says? (layer : Layer) (x : Setting) : Option Tree := (layer.sayings x).getLast?

theorem says?_eq_lastSaid? (layer : Layer) (x : Setting) :
    layer.says? x = lastSaid? (fun entry => (Path.read entry.1).says? x entry.2) layer :=
  (lastSaid?_getLast? _ layer).symm

/-- All entries have tables where settings are in a table. -/
def Tabular (layer : Layer) : Prop := ∀ entry ∈ layer, (Path.read entry.1).Tabular entry.2

/-- All entries have the shape that settings have. -/
def Plain (layer : Layer) : Prop := ∀ entry ∈ layer, (Path.read entry.1).Plain entry.2

/-- No setting is said twice, by two entries or by names that differ in case. -/
def Single (layer : Layer) : Prop := ∀ x : Setting, (layer.sayings x).length ≤ 1

theorem Plain.tabular {layer : Layer} (h : layer.Plain) : layer.Tabular :=
  fun entry hentry => (h entry hentry).tabular

theorem says?_nil (x : Setting) : says? [] x = none := rfl

theorem Tabular.nil : Tabular [] := List.forall_mem_nil _

theorem Plain.nil : Plain [] := List.forall_mem_nil _

theorem Single.nil : Single [] := fun _ => Nat.zero_le 1

end Layer

/-- A layer with tables where settings are in a table leaves them tables. -/
theorem Tree.isTabular_addLayer {layer : Layer} (hlayer : layer.Tabular) {tree : Tree}
    (htree : tree.IsTabular) : (tree.addLayer layer).IsTabular := by
  induction layer generalizing tree with
  | nil => exact htree
  | cons entry rest ih =>
    obtain ⟨hentry, hrest⟩ := List.forall_mem_cons.mp hlayer
    exact ih hrest (hentry.isTabular_set htree)

/-- A layer puts what it says in the place of what was there, and leaves the
rest. -/
theorem Tree.at?_addLayer {layer : Layer} (hlayer : layer.Plain) (tree : Tree) (x : Setting) :
    (tree.addLayer layer).at? x = (layer.says? x).or (tree.at? x) := by
  rw [layer.says?_eq_lastSaid?]
  exact (lastSaid?_foldl (fun _ => True) (·.at? x)
    (fun entry hentry tree _ => ⟨trivial, (hlayer entry hentry).at?_set tree x⟩) trivial).2

/-! ## Merging by a library -/

namespace Library

/-- The library merges setting by setting: a layer keeps tables of settings
tables, it puts what it says in the place of what was there, and it leaves what
it does not say. Nothing is assumed of a layer that says a setting twice. -/
structure Merges (lib : Library) : Prop where
  isTabular {tree : Tree} {layer : Layer} (htree : tree.IsTabular) (hlayer : layer.Tabular) :
    (lib.merge tree layer).IsTabular
  at? {tree : Tree} {layer : Layer} (htree : tree.IsTabular) (hplain : layer.Plain)
    (hsingle : layer.Single) (x : Setting) :
    (lib.merge tree layer).at? x = (layer.says? x).or (tree.at? x)

theorem merges_ofFormats (formats : List Format) (parse? : Format → String → Option Layer) :
    (ofFormats formats parse?).Merges where
  isTabular htree hlayer := Tree.isTabular_addLayer hlayer htree
  at? _ hplain _ x := Tree.at?_addLayer hplain _ x

theorem merges_standard : standard.Merges := merges_ofFormats _ _

/-- The library merges the layer setting by setting. -/
def Applies (lib : Library) (layer : Layer) : Prop :=
  ∀ tree : Tree, tree.IsTabular → (lib.merge tree layer).IsTabular ∧
    ∀ x : Setting, (lib.merge tree layer).at? x = (layer.says? x).or (tree.at? x)

theorem Merges.applies {lib : Library} (h : lib.Merges) {layer : Layer} (hplain : layer.Plain)
    (hsingle : layer.Single) : lib.Applies layer :=
  fun _ htree => ⟨h.isTabular htree hplain.tabular, h.at? htree hplain hsingle⟩

theorem applies_standard {layer : Layer} (h : layer.Plain) : standard.Applies layer :=
  fun tree htree => ⟨Tree.isTabular_addLayer h.tabular htree, Tree.at?_addLayer h tree⟩

theorem isTabular_empty : (Tree.table []).IsTabular := fun _ _ h => by cases h

/-- Of several layers the last that says something of a setting counts. -/
theorem at?_foldl_merge {lib : Library} {layers : List Layer}
    (h : ∀ layer ∈ layers, lib.Applies layer) (x : Setting) :
    (layers.foldl lib.merge (.table [])).IsTabular ∧
      (layers.foldl lib.merge (.table [])).at? x = lastSaid? (·.says? x) layers := by
  obtain ⟨htabular, hat⟩ := lastSaid?_foldl Tree.IsTabular (·.at? x)
    (fun layer hlayer tree htree => (h layer hlayer tree htree).imp_right fun hat => hat x)
    isTabular_empty
  exact ⟨htabular, hat.trans (Option.or_none ..)⟩

end Library

namespace Settings

theorem toPart?_of_isTabular {tree : Tree} (h : tree.IsTabular) (x : Setting) :
    Tree.toPart? (tree.member? x.table) =
      some (.byName ((tree.member? x.table).getD (.table []))) := by
  cases ht : tree.member? x.table with
  | none => rfl
  | some t =>
    have htable := h x t ht
    cases t with
    | table members => rfl
    | _ => cases htable

/-- A member of a part is what its setting is settled to by what the tree has
for it. -/
theorem memberOr_eq_some_iff {α : Type} (tree : Tree) (x : Setting) (place : Nat)
    {convert : Tree → Option α} {value : α} {wrap : α → Setting.Content}
    (hwrap : ∀ {a b}, wrap a = wrap b → a = b) (hvalue : x.of .standard = wrap value)
    (hconvert : ∀ said, x.convert? said = (convert said).map wrap) (v : α) :
    memberOr (.byName ((tree.member? x.table).getD (.table []))) x.member place convert value =
      some v ↔ x.settle? (tree.at? x) = some (wrap v) := by
  have hmember : memberOr (.byName ((tree.member? x.table).getD (.table []))) x.member place
      convert value = (tree.at? x).elim (some value) convert := by
    rw [memberOr, Tree.Part.member?, Tree.at?_eq_getD tree x Tree.members_empty]
    cases ((tree.member? x.table).getD (.table [])).member? x.member <;> rfl
  rw [Setting.settle?_eq_map hvalue hconvert, Option.map_eq_some_iff, hmember]
  constructor
  · exact fun h => ⟨v, h, rfl⟩
  · rintro ⟨a, ha, hav⟩
    rw [ha, hwrap hav]

/-- The settings that a tree says are those that each of its settings is settled
to. -/
theorem ofTree?_eq_some_iff {tree : Tree} (h : tree.IsTabular) {s : Settings} :
    ofTree? tree = some s ↔ ∀ x : Setting, x.settle? (tree.at? x) = some (x.of s) := by
  have hopening :=
    memberOr_eq_some_iff tree .opening 0 Setting.Content.text.inj rfl fun _ => rfl
  have hclosing :=
    memberOr_eq_some_iff tree .closing 1 Setting.Content.text.inj rfl fun _ => rfl
  have htrims :=
    memberOr_eq_some_iff tree .trims 2 Setting.Content.flag.inj rfl fun _ => rfl
  have hlexicon :=
    memberOr_eq_some_iff tree .lexiconCaseSensitive 0 Setting.Content.flag.inj rfl fun _ => rfl
  have hbinder :=
    memberOr_eq_some_iff tree .binderCaseSensitive 0 Setting.Content.flag.inj rfl fun _ => rfl
  have hraise :=
    memberOr_eq_some_iff tree .raiseAt 0 Setting.Content.severity.inj rfl fun _ => rfl
  rw [ofTree?, show Tree.toPart? (tree.member? "lexer") = _ from toPart?_of_isTabular h .opening,
    show Tree.toPart? (tree.member? "lexicon") = _ from
      toPart?_of_isTabular h .lexiconCaseSensitive,
    show Tree.toPart? (tree.member? "binder") = _ from toPart?_of_isTabular h .binderCaseSensitive,
    show Tree.toPart? (tree.member? "errors") = _ from toPart?_of_isTabular h .raiseAt]
  simp only [bind, Option.bind_some, Option.bind_eq_some_iff, pure, Option.some.injEq]
  constructor
  · rintro ⟨opening, ho, closing, hc, trims, ht, lexicon, hl, binder, hb, raiseAt, hr, rfl⟩ x
    cases x with
    | opening => exact (hopening opening).mp ho
    | closing => exact (hclosing closing).mp hc
    | trims => exact (htrims trims).mp ht
    | lexiconCaseSensitive => exact (hlexicon lexicon).mp hl
    | binderCaseSensitive => exact (hbinder binder).mp hb
    | raiseAt => exact (hraise raiseAt).mp hr
  · intro hx
    exact ⟨s.opening, (hopening _).mpr (hx .opening), s.closing, (hclosing _).mpr (hx .closing),
      s.trims, (htrims _).mpr (hx .trims),
      s.lexiconCaseSensitive, (hlexicon _).mpr (hx .lexiconCaseSensitive),
      s.binderCaseSensitive, (hbinder _).mpr (hx .binderCaseSensitive),
      s.raiseAt, (hraise _).mpr (hx .raiseAt), rfl⟩

end Settings

/-- The settings that layers say are those that what was said last settles them
to. -/
theorem Library.ofLayers?_eq_some_iff {lib : Library} {layers : List Layer}
    (h : ∀ layer ∈ layers, lib.Applies layer) {s : Settings} :
    lib.ofLayers? layers = some s ↔
      ∀ x : Setting, x.settle? (lastSaid? (·.says? x) layers) = some (x.of s) := by
  have hat := at?_foldl_merge h
  rw [ofLayers?, Settings.ofTree?_eq_some_iff (hat .opening).1]
  exact forall_congr' fun x => by rw [(hat x).2]

end Phrasebook
