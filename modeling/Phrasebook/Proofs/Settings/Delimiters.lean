import Phrasebook.Proofs.Settings.Layers

/-!
# Delimiters from variables and files

A variable is taken for a truth value or a number if it reads as one, and a
delimiter is then what that prints as (`Environment.spelling`). So a delimiter
that is set by a variable is the text of the variable only if it reads as
neither (`spelling_of_isText`); one that a file sets is the text in the file
(`load?_delimiter`).
-/

namespace Phrasebook

/-! ## What a variable is taken for -/

theorem Digits.split_of_all {cs : List Char} (h : cs.all Char.isDigit = true) :
    Digits.split cs = (cs, []) := by
  have hall : ∀ c ∈ cs, c.isDigit = true := List.all_eq_true.mp h
  rw [split, List.takeWhile_eq_self_iff.mpr hall, List.dropWhile_eq_nil_iff.mpr hall]

/-- An integer can also be read as a number. -/
theorem isSome_binary64_of_isSome_integer {text : String} (h : (Integer.read? text).isSome) :
    (Binary64.read? text).isSome := by
  rw [Integer.read?] at h
  rw [Binary64.read?]
  dsimp only at h ⊢
  split at h
  · cases h
  · rename_i hdigits
    rw [Bool.or_eq_true, Bool.not_eq_true', not_or, Bool.not_eq_false] at hdigits
    split
    · rfl
    · rfl
    · rfl
    · rw [Digits.split_of_all hdigits.2]
      simp [hdigits.1, Digits.exponent?]

namespace Environment

/-- The text of the variable of the setting. -/
def text? (vars : List (String × String)) (x : Setting) : Option String :=
  lastSaid? (fun v => if Text.lowercase v.1 = x.variable then some v.2 else none)
    (Named.ofList vars)

theorem says?_eq_map (vars : List (String × String)) (x : Setting) :
    says? vars x = (text? vars x).map value := by
  rw [says?, text?, lastSaid?, lastSaid?, ← List.getLast?_map, List.map_filterMap]
  refine congrArg List.getLast? (List.filterMap_congr fun v _ => ?_)
  split <;> rfl

theorem says?_nil (x : Setting) : says? [] x = none := rfl

/-- The integer of 64 bits that a text spells. -/
def whole? (text : String) : Option Int :=
  (Integer.read? text).filter fun n => -0x8000000000000000 ≤ n && n < 0x8000000000000000

/-- What the value of a variable prints as. -/
def spelling (text : String) : String :=
  if Text.lowercase text = "true" then "true"
  else if Text.lowercase text = "false" then "false"
  else match whole? text, Binary64.read? text with
    | some n, _ => toString n
    | none, some x => x.text
    | none, none => text

theorem toText?_value (text : String) : (value text).toText? = some (spelling text) := by
  unfold value spelling
  split
  · rename_i h
    rw [if_pos h]
    rfl
  · rename_i h
    rw [if_neg (by rw [h]; decide), if_pos h]
    rfl
  · rename_i htrue hfalse
    rw [if_neg htrue, if_neg hfalse, whole?]
    generalize Option.filter _ (Integer.read? text) = whole
    cases whole <;> cases Binary64.read? text <;> rfl

/-- The text reads neither as a truth value nor as a number. -/
def IsText (text : String) : Prop :=
  Text.lowercase text ≠ "true" ∧ Text.lowercase text ≠ "false" ∧ Binary64.read? text = none

/-- Such a text stands for itself. -/
theorem spelling_of_isText {text : String} (h : IsText text) : spelling text = text := by
  obtain ⟨htrue, hfalse, hnumber⟩ := h
  have hinteger : Integer.read? text = none := by
    rw [← Option.not_isSome_iff_eq_none]
    intro h
    have hsome := isSome_binary64_of_isSome_integer h
    rw [hnumber] at hsome
    cases hsome
  have hwhole : whole? text = none := by
    rw [whole?, hinteger, Option.filter_none]
  rw [spelling, if_neg htrue, if_neg hfalse, hwhole, hnumber]

end Environment

/-! ## Delimiters -/

/-- The document that sets the delimiter to the text. -/
def delimiterDocument (x : Setting) (s : String) : Toml.Tables := [("lexer", [(x.member, .text s)])]

variable {x : Setting}

theorem proper_delimiterDocument (hx : x = .opening ∨ x = .closing) (s : String) :
    (delimiterDocument x s).Proper := by
  have hkey : Toml.IsKey "lexer" ∧ Toml.IsKey x.member := by
    rcases hx with rfl | rfl <;> decide
  refine ⟨fun t ht => ?_, List.pairwise_singleton .., fun t ht => ?_⟩
  · rw [List.mem_singleton.mp ht]
    refine ⟨hkey.1, fun m hm => ?_⟩
    rw [List.mem_singleton.mp hm]
    exact hkey.2
  · rw [List.mem_singleton.mp ht]
    exact List.pairwise_singleton ..

theorem says?_delimiterDocument (hx : x = .opening ∨ x = .closing) (s : String) :
    Layer.says? (delimiterDocument x s).toTrees x = some (.text s) := by
  have htable : Text.lowercase (Text.lowercase "lexer") = x.table := by
    rcases hx with rfl | rfl <;> decide
  rw [Layer.says?, Layer.sayings_toTrees (proper_delimiterDocument hx s), delimiterDocument,
    List.flatMap_singleton, if_pos htable, List.filterMap_cons,
    if_pos (Environment.lowercase_member x)]
  rfl

theorem settle?_delimiter (hx : x = .opening ∨ x = .closing) (value : Tree) :
    x.settle? (some value) = value.toText?.map .text := by
  rcases hx with rfl | rfl <;> rfl

namespace Settings

/-- A delimiter that a variable sets is what the text of the variable is taken
for prints as; that is the text itself if it reads neither as a truth value nor
as a number. A delimiter that a file sets is the text in the file, and there is
a file that sets it to any text. -/
theorem load?_delimiter {x : Setting} (hx : x = .opening ∨ x = .closing) (s : String) :
    (∀ files path vars l, Library.standard.InOrder files path vars l → Environment.text? vars x = some s →
      ∃ t, load? files path vars = some t ∧ x.of t = .text (Environment.spelling s)) ∧
    (Environment.IsText s → Environment.spelling s = s) ∧
    (∀ files path l, Library.standard.InOrder files (some path) [] l → l.given.says? x = some (.text s) →
      ∃ t, load? files (some path) [] = some t ∧ x.of t = .text s) ∧
    ∃ layer, Toml.read? (Toml.document (delimiterDocument x s)) = some layer ∧
      Layer.says? layer x = some (.text s) := by
  refine ⟨?_, Environment.spelling_of_isText, ?_, ?_⟩
  · intro files path vars l hl htext
    obtain ⟨t, hload, ht⟩ := hl.load? hl.applies_standard
    have hx' := ht x
    rw [said?, Environment.says?_eq_map, htext, Option.map_some, Option.some_or,
      settle?_delimiter hx, Environment.toText?_value, Option.map_some] at hx'
    exact ⟨t, hload, (Option.some.inj hx').symm⟩
  · intro files path l hl hgiven
    obtain ⟨t, hload, ht⟩ := hl.load? hl.applies_standard
    have hlast : lastSaid? (·.says? x) l.all = some (.text s) := by
      have hall : l.all = [l.project, l.hidden, l.nested, l.user] ++ [l.given] := rfl
      rw [hall, lastSaid?_append, lastSaid?_singleton, hgiven, Option.some_or]
    have hx' := ht x
    rw [said?, Environment.says?_nil, Option.none_or, hlast, settle?_delimiter hx] at hx'
    exact ⟨t, hload, (Option.some.inj hx').symm⟩
  · exact ⟨_, Toml.read?_document (proper_delimiterDocument hx s), says?_delimiterDocument hx s⟩

/-- No file says anything. -/
def noLayers : Files.Layers := ⟨[], [], [], [], []⟩

theorem plain_noLayers : ∀ layer ∈ noLayers.all, layer.Plain :=
  Files.Layers.forall_mem_all.mpr ⟨.nil, .nil, .nil, .nil, .nil⟩

theorem lacks_empty (path : String) : Library.standard.Lacks .empty path := by
  intro q _
  rw [Files.read?]
  cases Files.empty.locate? q <;> rfl

theorem userFile?_empty : Files.empty.userFile?.filter Files.empty.isThere = none := by
  decide +kernel

theorem supply_empty : Library.standard.Supply .empty none noLayers where
  project := Library.searches_standard.absent false (lacks_empty _)
  hidden := Library.searches_standard.absent false (lacks_empty _)
  nested := Library.searches_standard.absent false (lacks_empty _)
  user := by
    rw [userFile?_empty]
    exact Eq.refl _
  given := rfl

theorem lowercase_openingVariable :
    Text.lowercase "PLANG__LEXER__OPENING" = Setting.opening.variable := by
  decide

theorem text?_openingVariable (s : String) (x : Setting) :
    Environment.text? [("PLANG__LEXER__OPENING", s)] x = if .opening = x then some s else none := by
  refine (lastSaid?_singleton _ _).trans ?_
  simp only [lowercase_openingVariable, Environment.variable_eq_iff]

/-- Sources that are in order: only the variable of the opening delimiter is set. -/
theorem inOrder_openingVariable (s : String) :
    Library.standard.InOrder .empty none [("PLANG__LEXER__OPENING", s)] noLayers where
  supply := supply_empty
  plain := plain_noLayers
  proper := by
    intro v hv _ _
    rw [List.mem_singleton.mp hv]
    exact .inl ⟨.opening, lowercase_openingVariable⟩
  settles x := by
    rw [said?, Environment.says?_eq_map, text?_openingVariable]
    split
    · rename_i hx
      rw [Option.map_some, Option.some_or, settle?_delimiter (.inl hx.symm),
        Environment.toText?_value]
      rfl
    · rfl

/-- A file that sets the opening delimiter to a number with zeros in front. -/
def zerosFiles : Files :=
  .ofTexts [("custom.toml", Toml.document (delimiterDocument .opening "007"))]

theorem read?_zerosFiles :
    (zerosFiles.read? "custom.toml" = some (Toml.document (delimiterDocument .opening "007")) ∧
        Files.hasEnding "custom.toml" ".toml" = true) ∧
      Library.standard.Lacks zerosFiles "plang.toml" ∧
      Library.standard.Lacks zerosFiles ".plang.toml" ∧
      Library.standard.Lacks zerosFiles "config/plang.toml" ∧
      zerosFiles.userFile?.filter zerosFiles.isThere = none := by
  decide +kernel

theorem inOrder_zerosFiles : Library.standard.InOrder zerosFiles (some "custom.toml") []
    { noLayers with given := (delimiterDocument .opening "007").toTrees } := by
  obtain ⟨hgiven, hproject, hhidden, hnested, huser⟩ := read?_zerosFiles
  have hproper := proper_delimiterDocument (.inl (Eq.refl Setting.opening)) "007"
  have hsupply : Library.standard.Supply zerosFiles (some "custom.toml")
      { noLayers with given := (delimiterDocument .opening "007").toTrees } :=
    { project := Library.searches_standard.absent false hproject
      hidden := Library.searches_standard.absent false hhidden
      nested := Library.searches_standard.absent false hnested
      user := huser ▸ Eq.refl _
      given := Library.collect?_document hproper hgiven.2 hgiven.1 true }
  exact
    { supply := hsupply
      plain := Files.Layers.forall_mem_all.mpr ⟨.nil, .nil, .nil, .nil, .toTrees hproper⟩
      proper := List.forall_mem_nil _
      settles := fun x => by cases x <;> decide }

/-- A number with zeros in front loses them on its way through a variable, and
keeps them in a file; a text that is no number stays as it is. -/
theorem load?_delimiter_of_leading_zeros :
    (∃ t, load? .empty none [("PLANG__LEXER__OPENING", "007")] = some t ∧ t.opening = "7") ∧
      (∃ t, load? .empty none [("PLANG__LEXER__OPENING", "<%")] = some t ∧ t.opening = "<%") ∧
      ∃ t, load? zerosFiles (some "custom.toml") [] = some t ∧ t.opening = "007" := by
  obtain ⟨hzeros, -, hfile, -⟩ := load?_delimiter (.inl (Eq.refl Setting.opening)) "007"
  obtain ⟨hpercent, htext, -, -⟩ := load?_delimiter (.inl (Eq.refl Setting.opening)) "<%"
  refine ⟨?_, ?_, ?_⟩
  · obtain ⟨t, hload, ht⟩ := hzeros .empty none _ _ (inOrder_openingVariable "007")
      (text?_openingVariable "007" .opening)
    exact ⟨t, hload, (Setting.Content.text.inj ht).trans (by decide)⟩
  · obtain ⟨t, hload, ht⟩ := hpercent .empty none _ _ (inOrder_openingVariable "<%")
      (text?_openingVariable "<%" .opening)
    exact ⟨t, hload, (Setting.Content.text.inj ht).trans (htext ⟨by decide, by decide, by decide⟩)⟩
  · obtain ⟨t, hload, ht⟩ := hfile zerosFiles "custom.toml" _ inOrder_zerosFiles
      (says?_delimiterDocument (.inl rfl) "007")
    exact ⟨t, hload, Setting.Content.text.inj ht⟩

/-- A delimiter that a variable sets need not be the text of the variable. -/
theorem load?_of_number_in_variable :
    ¬∀ s : String, ∃ t, load? .empty none [("PLANG__LEXER__OPENING", s)] = some t ∧ t.opening = s := by
  intro h
  obtain ⟨t, hload, ht⟩ := h "007"
  obtain ⟨u, hu, hsettle⟩ := (inOrder_openingVariable "007").load?
      (inOrder_openingVariable "007").applies_standard
  have hopening : Setting.opening.settle?
      (said? noLayers [("PLANG__LEXER__OPENING", "007")] .opening) = some (.text "7") := by
    decide
  rw [hsettle, Option.some.inj (hu.symm.trans hload), Setting.of, ht] at hopening
  exact absurd hopening (by decide)

end Settings

end Phrasebook
