import Mathlib.Order.Defs.Unbundled
import Phrasebook.Workspace.Messages

/-!
# Running sessions

The reply of each session and the workspace after it, as one equation for each:
`run_bind` runs one session after another, and the sessions that the others are
made of look something up (`run_find`), fail (`run_throw`) or process something
(`run_process`).

What a session may make of a workspace is a relation that it stays within
(`Session.Within`). If the relation is a preorder, so does a session of which
each step stays within it (`Within.bind`), and one that only looks something up.
-/

namespace Phrasebook

namespace Workspace

variable {α : Type} (w : Workspace) (profile : Profile) (outcome : Outcome α)

/-- Processing leaves all but lexicons, closures, handlers, collectors and the journal alone. -/
theorem settle_eq :
    ∃ collectors, w.settle profile outcome =
      { w with
        collectors
        lexicons := w.lexicons.put profile.lexicon.index outcome.context.lexicon
        uses := outcome.context.uses
        handlers := w.handlers.put profile.id.index
          ((w.handlerOf profile).after outcome.journal.diagnostics)
        journal := w.journal ++ outcome.journal } := by
  rw [settle, collect]
  split
  · exact ⟨w.collectors, rfl⟩
  · exact ⟨_, rfl⟩

@[simp] theorem lexicons_settle : (w.settle profile outcome).lexicons =
    w.lexicons.put profile.lexicon.index outcome.context.lexicon := by
  obtain ⟨_, h⟩ := w.settle_eq profile outcome
  rw [h]

@[simp] theorem uses_settle : (w.settle profile outcome).uses = outcome.context.uses := by
  obtain ⟨_, h⟩ := w.settle_eq profile outcome
  rw [h]

@[simp] theorem registries_settle : (w.settle profile outcome).registries = w.registries := by
  obtain ⟨_, h⟩ := w.settle_eq profile outcome
  rw [h]

@[simp] theorem registryNames_settle :
    (w.settle profile outcome).registryNames = w.registryNames := by
  obtain ⟨_, h⟩ := w.settle_eq profile outcome
  rw [h]

@[simp] theorem languages_settle : (w.settle profile outcome).languages = w.languages := by
  obtain ⟨_, h⟩ := w.settle_eq profile outcome
  rw [h]

@[simp] theorem binders_settle : (w.settle profile outcome).binders = w.binders := by
  obtain ⟨_, h⟩ := w.settle_eq profile outcome
  rw [h]

end Workspace

namespace Session

variable {α β : Type} (w : Workspace)

theorem run_bind (x : Session α) (f : α → Session β) :
    (x >>= f).run w =
      match x.run w with
      | (.ok a, after) => (f a).run after
      | (.error error, after) => (.error error, after) := by
  show StateT.bind x.run (ExceptT.bindCont f) w = _
  rw [StateT.bind]
  rcases x.run w with ⟨error | a, after⟩
  · rfl
  · rfl

@[simp] theorem run_pure (a : α) : (pure a : Session α).run w = (.ok a, w) := rfl

@[simp] theorem run_throw (error : Error) : (throw error : Session α).run w = (.error error, w) := rfl

@[simp] theorem run_get : (get : Session Workspace).run w = (.ok w, w) := rfl

theorem run_find (objects : Workspace → Std.ExtTreeMap String α) (name : String) :
    (find objects name).run w =
      match (objects w : Std.ExtTreeMap String α)[name]? with
      | some (a : α) => (.ok a, w)
      | none => (.error (.unknownName name), w) := by
  rw [find, run_bind, run_get]
  cases h : (objects w)[name]? with
  | none => simp only [h, run_throw]
  | some a => simp only [h, run_pure]

theorem run_ofExcept (result : Except Error α) : (ofExcept result).run w = (result, w) := by
  cases result <;> rfl

theorem run_process (profile : Profile) (run : Methods → Context → Handler → Outcome α) :
    (process profile run).run w =
      let outcome := run (w.methodsOf profile) (w.contextOf profile) (w.handlerOf profile)
      (outcome.result, w.settle profile outcome) := by
  rw [process, run_bind, run_get]
  show (ofExcept _).run _ = _
  rw [run_ofExcept]

theorem run_getMessage (id : RegistryId) (key : String) :
    (getMessage id key).run w = ((w.registries.get id.index).get key, w) := by
  rw [getMessage, run_bind]
  exact run_ofExcept _ _

/-- The session takes every workspace to one to which `R` relates it. -/
def Within (x : Session α) (R : Workspace → Workspace → Prop) : Prop := ∀ w, R w (x.run w).2

theorem within_modify {R : Workspace → Workspace → Prop} {f : Workspace → Workspace}
    (h : ∀ w, R w (f w)) : (modify f : Session Unit).Within R := h

section Within

variable {R : Workspace → Workspace → Prop} [IsPreorder Workspace R]

theorem Within.bind {x : Session α} {f : α → Session β} (hx : x.Within R)
    (hf : ∀ a, (f a).Within R) : (x >>= f).Within R := by
  intro w
  have hfirst := hx w
  rw [run_bind]
  rcases h : x.run w with ⟨error | a, after⟩
  all_goals rw [h] at hfirst
  · exact hfirst
  · exact IsTrans.trans _ _ _ hfirst (hf a after)

theorem within_pure (a : α) : (pure a : Session α).Within R := fun w => refl w

theorem within_get : (get : Session Workspace).Within R := fun w => refl w

theorem within_throw (error : Error) : (throw error : Session α).Within R := fun w => refl w

theorem within_modify_pure {f : Workspace → Workspace} (h : ∀ w, R w (f w)) (a : α) :
    (do modify f; return a : Session α).Within R :=
  (within_modify h).bind fun _ => within_pure a

theorem within_ofExcept (result : Except Error α) : (ofExcept result).Within R := by
  intro w
  rw [run_ofExcept]
  exact refl w

/-! ## Sessions that only look something up -/

theorem within_find (objects : Workspace → Std.ExtTreeMap String α) (name : String) :
    (find objects name).Within R := by
  intro w
  rw [run_find]
  split <;> exact refl w

theorem within_findLexicon (name : String) : (findLexicon name).Within R :=
  (within_find _ name).bind fun _ => within_get.bind fun _ => within_pure _

theorem within_useLexicon (name : String) (f : Lexicon → α) : (useLexicon name f).Within R :=
  (within_findLexicon name).bind fun _ => within_pure _

theorem within_registryAt (id : RegistryId) : (registryAt id).Within R :=
  within_get.bind fun _ => within_pure _

theorem within_getMessage (id : RegistryId) (key : String) : (getMessage id key).Within R :=
  (within_registryAt id).bind fun _ => within_ofExcept _

end Within

end Session

end Phrasebook
