import Phrasebook.Proofs.Workspace.Operations

/-!
# What sessions leave of closures and lexicons

A session that renders nothing uses no closure, and lexicons gain no
placeholders by it but those that it registers: it stays within
`Workspace.Gains`, as each of its steps does.
-/

namespace Phrasebook

theorem Shelf.get_put_cases {α : Type} [Inhabited α] (shelf : Shelf α) (n m : Nat) (item : α) :
    (n = m ∧ (shelf.put n item).get m = item) ∨ (shelf.put n item).get m = shelf.get m := by
  by_cases hm : n = m
  · subst hm
    by_cases hn : n < shelf.next
    · exact .inl ⟨rfl, by rw [get_put _ _ _ _ hn, if_pos rfl]⟩
    · have hle := Nat.le_of_not_lt hn
      exact .inr (by rw [get_of_le _ _ hle, get_of_le _ _ ((next_put shelf n item).symm ▸ hle)])
  · exact .inr (get_put_of_ne _ _ _ _ hm)

namespace Lexicon

variable {lexicon : Lexicon} {name : String} {p : Placeholder}

theorem get?_extend_cases {ps : List Placeholder} (h : (lexicon.extend ps).get? name = some p) :
    lexicon.get? name = some p ∨ p ∈ ps := by
  induction ps generalizing lexicon with
  | nil => exact .inl h
  | cons q ps ih =>
    rcases @ih (lexicon.set q) h with h | h
    · rw [get?_set] at h
      split at h
      · exact .inr (List.mem_cons.mpr (.inl (Option.some.inj h).symm))
      · exact .inl h
    · exact .inr (List.mem_cons_of_mem q h)

theorem get?_of_get?_remove {other : String} (h : (lexicon.remove other).get? name = some p) :
    lexicon.get? name = some p := by
  rw [get?_remove] at h
  split at h
  · cases h
  · exact h

end Lexicon

namespace Workspace

/-- A lexicon of the workspace has the placeholder. -/
def Provides (w : Workspace) (p : Placeholder) : Prop :=
  ∃ n name, (w.lexicons.get n).get? name = some p

/-- From `w` to `after` no closure was used, and lexicons gained no other
placeholders than these. -/
structure Gains (ps : List Placeholder) (w after : Workspace) : Prop where
  uses : after.uses = w.uses
  provides : ∀ p, after.Provides p → w.Provides p ∨ p ∈ ps

variable {w after : Workspace} {ps : List Placeholder}

theorem Gains.trans {later : Workspace} (h : Gains ps w after) (hlater : Gains ps after later) :
    Gains ps w later where
  uses := hlater.uses.trans h.uses
  provides p hp := (hlater.provides p hp).elim (h.provides p) .inr

instance : IsPreorder Workspace (Gains ps) where
  refl _ := ⟨rfl, fun _ => .inl⟩
  trans _ _ _ := Gains.trans

theorem gains_of_eq (hlexicons : after.lexicons = w.lexicons) (huses : after.uses = w.uses) :
    w.Gains ps after where
  uses := huses
  provides p hp := by
    rw [Provides, hlexicons] at hp
    exact .inl hp

/-- A new lexicon has no placeholders. -/
theorem gains_add {caseSensitive : Bool}
    (hlexicons : after.lexicons = w.lexicons.add (.empty caseSensitive))
    (huses : after.uses = w.uses) : w.Gains ps after where
  uses := huses
  provides := by
    rintro p ⟨n, name, hp⟩
    rw [hlexicons, Shelf.get_add] at hp
    split at hp
    · exact nomatch (Lexicon.get?_empty _ _).symm.trans hp
    · exact .inl ⟨n, name, hp⟩

theorem gains_put {n : Nat} {lexicon : Lexicon}
    (hlexicons : after.lexicons = w.lexicons.put n lexicon) (huses : after.uses = w.uses)
    (hlexicon : ∀ name p, lexicon.get? name = some p →
      (w.lexicons.get n).get? name = some p ∨ p ∈ ps) : w.Gains ps after where
  uses := huses
  provides := by
    rintro p ⟨m, name, hp⟩
    rw [hlexicons] at hp
    rcases w.lexicons.get_put_cases n m lexicon with ⟨rfl, hget⟩ | hget
    · rw [hget] at hp
      exact (hlexicon name p hp).imp (fun h => ⟨n, name, h⟩) id
    · rw [hget] at hp
      exact .inl ⟨m, name, hp⟩

theorem gains_collect (w : Workspace) (handler : Handler) (ds : List Diagnostic) :
    w.Gains ps (w.collect handler ds) := by
  rw [collect]
  split <;> exact gains_of_eq rfl rfl

/-- Processing that leaves the context as it is. -/
theorem gains_settle {α : Type} {profile : Profile} {outcome : Outcome α}
    (h : outcome.context = w.contextOf profile) : w.Gains ps (w.settle profile outcome) := by
  refine gains_of_eq ?_ ?_
  · rw [lexicons_settle, h]
    exact w.lexicons.put_get profile.lexicon.index
  · rw [uses_settle, h]
    rfl

end Workspace

open Workspace (Gains gains_of_eq)

namespace Session

variable {α β : Type} {ps : List Placeholder}

theorem gains_log (events : List Event) : (log events).Within (Gains ps) :=
  within_modify fun _ => gains_of_eq rfl rfl

theorem gains_process {run : Methods → Context → Handler → Outcome α}
    (h : ∀ methods context handler, (run methods context handler).context = context)
    (profile : Profile) : (process profile run).Within (Gains ps) := by
  intro w
  rw [run_process]
  exact Workspace.gains_settle (h _ _ _)

/-- What is performed begins with an empty journal. -/
theorem gains_perform {x : Session α} (hx : x.Within (Gains ps)) (w : Workspace) :
    w.Gains ps (w.perform x).2.2 :=
  (gains_of_eq rfl rfl : w.Gains ps { w with journal := [] }).trans (hx _)

/-! ## Lexicons -/

theorem gains_changeLexicon (name : String) {f : Lexicon → α × Lexicon}
    (hf : ∀ lexicon other p, (f lexicon).2.get? other = some p →
      lexicon.get? other = some p ∨ p ∈ ps) : (changeLexicon name f).Within (Gains ps) := by
  intro w
  rw [changeLexicon, run_bind, findLexicon, run_bind, run_find]
  cases w.lexiconNames[name]? with
  | none => exact gains_of_eq rfl rfl
  | some id => exact Workspace.gains_put rfl rfl (hf _)

theorem gains_register (name : String) (p : Placeholder) : (register name p).Within (Gains [p]) := by
  refine Within.bind (gains_changeLexicon name fun lexicon other q h => ?_) fun _ =>
    (gains_log _).bind fun _ => within_pure _
  -- Registering one placeholder is extending the lexicon by it.
  exact Lexicon.get?_extend_cases h

theorem gains_makeLexicon (name : String) (caseSensitive : Bool) :
    (makeLexicon name caseSensitive).Within (Gains ps) :=
  within_modify fun _ => Workspace.gains_add rfl rfl

theorem gains_makeLanguage (name : String) (plan : Blueprint) :
    (makeLanguage name plan).Within (Gains ps) := by
  intro w
  refine (w.gains_collect plan.handler []).trans ?_
  simp only [makeLanguage, Workspace.addLanguage]
  cases plan.lexicon with
  | none => exact Workspace.gains_add rfl rfl
  | some lexicon => exact gains_of_eq rfl rfl

/-! ## Languages and their texts -/

theorem gains_setHandler (language : String) (handler : Handler) :
    (setHandler language handler).Within (Gains ps) :=
  (within_modify fun w => w.gains_collect handler []).bind fun _ =>
    (within_find _ language).bind fun _ => within_modify fun _ => gains_of_eq rfl rfl

theorem gains_tokenize (lexer : Lexer) (content : String) : (tokenize lexer content).Within (Gains ps) :=
  (gains_log _).bind fun _ => within_pure _

theorem gains_keepTokens (name : String) (tokens : Tokens) : (keepTokens name tokens).Within (Gains ps) := by
  refine within_modify_pure ?_ tokens
  exact fun _ => gains_of_eq rfl rfl

theorem gains_parse (name : String) (language : Language) (content : String) :
    (parse name language content).Within (Gains ps) :=
  (gains_process (fun _ _ _ => language.profile.context_parse _ _ _ content) _).bind fun tokens =>
    gains_keepTokens name tokens

theorem gains_check (name : String) (language : Language) (tokens : Tokens) :
    (check name language tokens).Within (Gains ps) :=
  (gains_process (fun _ _ _ => language.profile.context_check _ _ _ tokens) _).bind fun tokens =>
    gains_keepTokens name tokens

theorem gains_parseMessage (profile : Profile) (content : String) :
    (parseMessage profile content).Within (Gains ps) :=
  gains_process (fun _ _ _ => Message.context_parse profile _ _ _ content) profile

theorem gains_makeMessage (name : String) (language : Language) (content : String) :
    (makeMessage name language content).Within (Gains ps) := by
  refine (gains_parseMessage _ content).bind fun _ => within_modify_pure ?_ _
  exact fun _ => gains_of_eq rfl rfl

/-! ## Registries -/

theorem gains_changeRegistry (id : RegistryId) (f : Registry → Except Error (α × Registry)) :
    (changeRegistry id f).Within (Gains ps) := by
  refine (within_registryAt id).bind fun _ => (within_ofExcept _).bind fun _ =>
    within_modify_pure ?_ _
  exact fun _ => gains_of_eq rfl rfl

theorem gains_makeRegistry (name : String) (profile : Profile) :
    (makeRegistry name profile).Within (Gains ps) := fun _ => gains_of_eq rfl rfl

theorem gains_nameRegistry (name : String) (id : RegistryId) : (nameRegistry name id).Within (Gains ps) :=
  within_modify fun _ => gains_of_eq rfl rfl

theorem gains_setRegistry (name : String) (id : RegistryId) : (setRegistry name id).Within (Gains ps) := by
  refine (within_find _ name).bind fun language => (within_registryAt id).bind fun registry => ?_
  split
  · refine within_modify_pure ?_ _
    exact fun _ => gains_of_eq rfl rfl
  · exact within_throw _

theorem gains_createMessage (id : RegistryId) (content : String) :
    (createMessage id content).Within (Gains ps) :=
  (within_registryAt id).bind fun _ => gains_parseMessage _ content

theorem gains_storeMessage (id : RegistryId) (key content : String) :
    (storeMessage id key content).Within (Gains ps) :=
  (within_ofExcept _).bind fun _ => (gains_createMessage id content).bind fun _ =>
    gains_changeRegistry id _

end Session

end Phrasebook
