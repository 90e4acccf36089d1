import Phrasebook.Proofs.Workspace.Sessions

/-!
# What a message brings to its rendering

A message is rendered with the values of the caller and two of its own, its
profile and itself, each under its type. `Message.Equips` says what that binder
holds; there is one such binder (`equips_iff`), whether it is made from a copy
or is the caller's own because that lacks nothing.
-/

namespace Phrasebook

namespace Binder

/-- Binds a datum under its type unless a value is bound there already. -/
def supply (binder : Binder) (datum : Datum) : Binder :=
  if binder.isTypeBound datum.typeName then binder else (binder.bindType datum).2

variable (binder : Binder) (datum : Datum)

theorem caseSensitive_supply : (binder.supply datum).caseSensitive = binder.caseSensitive := by
  rw [supply]
  split <;> rfl

theorem highest_supply : (binder.supply datum).highest = binder.highest := by
  rw [supply]
  split <;> rfl

theorem at?_supply (key : Key) :
    (binder.supply datum).at? key =
      if key = .type datum.typeName then (binder.at? key).or (some (.sealed datum))
      else binder.at? key := by
  have hbound : binder.isTypeBound datum.typeName = (binder.at? (.type datum.typeName)).isSome := rfl
  rw [supply, hbound]
  cases hat : binder.at? (.type datum.typeName) with
  | some value =>
    simp only [Option.isSome_some, if_true]
    split
    · rename_i hkey
      rw [hkey, hat, Option.some_or]
    · rfl
  | none =>
    simp only [Option.isSome_none, Bool.false_eq_true, if_false]
    rw [bindType, at?_insert]
    by_cases hkey : key = .type datum.typeName
    · rw [if_pos hkey.symm, if_pos hkey, hkey, hat, Option.none_or]
    · rw [if_neg (Ne.symm hkey), if_neg hkey]

end Binder

namespace Message

/-- The value that a message brings for a family: its profile, and itself. -/
def brings? (message : Message) (family : TypeName) : Option Value :=
  if family = .profile then some (.sealed (.profile message.profile))
  else if family = .message then some (.sealed (.message message))
  else none

/-- The binder `equipped` is `binder` with what the message brings for families
that have no value, of whatever type. -/
structure Equips (message : Message) (binder equipped : Binder) : Prop where
  caseSensitive : equipped.caseSensitive = binder.caseSensitive
  highest : equipped.highest = binder.highest
  index : ∀ n, equipped.at? (.index n) = binder.at? (.index n)
  name : ∀ n, equipped.at? (.name n) = binder.at? (.name n)
  type : ∀ family,
    equipped.at? (.type family) = (binder.at? (.type family)).or (message.brings? family)

theorem equip_eq_supply (message : Message) (binder : Binder) :
    message.equip binder =
      (binder.supply (.profile message.profile)).supply (.message message) := rfl

theorem equips_equip (message : Message) (binder : Binder) :
    message.Equips binder (message.equip binder) := by
  rw [equip_eq_supply]
  refine ⟨?_, ?_, fun n => ?_, fun n => ?_, fun family => ?_⟩
  · rw [Binder.caseSensitive_supply, Binder.caseSensitive_supply]
  · rw [Binder.highest_supply, Binder.highest_supply]
  · rw [Binder.at?_supply, if_neg Key.noConfusion, Binder.at?_supply, if_neg Key.noConfusion]
  · rw [Binder.at?_supply, if_neg Key.noConfusion, Binder.at?_supply, if_neg Key.noConfusion]
  · have hne : TypeName.profile ≠ TypeName.message := by decide
    simp only [Binder.at?_supply, Datum.typeName, Key.type.injEq, brings?]
    by_cases hprofile : family = .profile
    · rw [if_pos hprofile, if_pos hprofile, if_neg (hprofile ▸ hne)]
    · rw [if_neg hprofile, if_neg hprofile]
      split
      · rfl
      · rw [Option.or_none]

/-- There is one binder that a message makes of the caller's. -/
theorem equips_iff (message : Message) (binder equipped : Binder) :
    message.Equips binder equipped ↔ equipped = message.equip binder := by
  have hequip := equips_equip message binder
  constructor
  · intro h
    refine Binder.ext_at? (h.caseSensitive.trans hequip.caseSensitive.symm)
      (h.highest.trans hequip.highest.symm) fun key => ?_
    cases key with
    | index n => exact (h.index n).trans (hequip.index n).symm
    | name n => exact (h.name n).trans (hequip.name n).symm
    | type family => exact (h.type family).trans (hequip.type family).symm
  · rintro rfl
    exact hequip

theorem transformOwned_eq_transform (message : Message) (methods : Methods) (context : Context)
    (handler : Handler) (binder : Binder) :
    message.transformOwned methods context handler binder =
      message.transform methods context handler binder := by
  rw [transform]
  split
  · rename_i hsupplied
    -- A binder that lacks nothing is the one that the message would make of it.
    rw [suppliedBy, Bool.and_eq_true] at hsupplied
    rw [transformOwned, equip, if_pos hsupplied.1, if_pos hsupplied.2]
  · rfl

end Message

namespace Session

/-- A message is rendered with what the binder holds and what the message
brings for families that have no value, whether the binder is copied for that
or given away, and no binder of the workspace changes. -/
theorem renderMessage_equips (w : Workspace) (message : Message) (binder : Binder)
    (registry : RegistryId) :
    ∃ equipped, (∀ b, message.Equips binder b ↔ b = equipped) ∧
      w.perform (renderMessage message binder) =
        w.perform (transform ⟨message.profile, registry⟩ equipped message.content message.tokens) ∧
      w.perform (renderMessageOwned message binder) = w.perform (renderMessage message binder) ∧
      w.perform (renderMessageAlone message) = w.perform (renderMessage message (.empty false)) ∧
      (w.perform (renderMessage message binder)).2.2.binders = w.binders := by
  have howned : ∀ b, renderMessageOwned message b = renderMessage message b := fun b => by
    simp only [renderMessageOwned, renderMessage, Message.transformOwned_eq_transform]
  refine ⟨message.equip binder, message.equips_iff binder, ?_, ?_, ?_, ?_⟩
  · rw [← howned]
    rfl
  · rw [howned]
  · rw [← howned]
    rfl
  · rw [Workspace.perform, renderMessage, run_process]
    exact Workspace.binders_settle _ _ _

end Session

end Phrasebook
