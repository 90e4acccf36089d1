import Phrasebook.Rendering

/-!
# The rules of rendering

What each token of a message comes to, said of the token alone: the tokens
before it, the context and the binder as they were at the start, and no loop.
Each rule is a text that there may be (`Context.ruleTexts`), and a reference
becomes the first there is (`Context.textOf`); `Context.reportsOn` are the
diagnostics for it. Rendering changes a context in nothing but the uses of
closures, and which closure a reference uses and what it gives to it depends on
no other use (`Lexicon.usesBy`). So the uses that a closure sees are told by the
references before (`Context.advance`).
-/

namespace Phrasebook

/-- The names to which tokens refer, in order. -/
def Tokens.names (tokens : Tokens) : List String := tokens.filterMap Token.name?

theorem Tokens.names_literal (before : Tokens) (raw : String) :
    names (before ++ [.literal raw]) = before.names := by
  rw [names, List.filterMap_append]
  exact List.append_nil _

theorem Tokens.names_placeholder (before : Tokens) (raw name : String) :
    names (before ++ [.placeholder raw name]) = before.names ++ [name] :=
  List.filterMap_append

/-- The value under a key as it is given, none if the key means nothing. -/
def Binder.value? (binder : Binder) (key : KeyName) : Option Value :=
  match binder.get? key with
  | .ok value => value
  | .error _ => none

theorem Binder.value?_position (binder : Binder) (n : Nat) :
    binder.value? (.position n) = binder.at? (.index n) := rfl

theorem Binder.value?_name (binder : Binder) (name : String) :
    binder.value? (.name name) = binder.at? (binder.nameKey name) := rfl

theorem Binder.value?_type (binder : Binder) (key : TypeKey) :
    binder.value? (.type key) = binder.at? (.type key.topmost) := rfl

namespace Placeholder

/-- The type that the placeholder transforms, and the closure that does so. -/
def shows? (p : Placeholder) : Option (TypeKey × Transform) :=
  match p.rule with
  | .typed accepts closure => some (accepts, closure)
  | .nullable accepts closure => some (accepts, closure)
  | .constant _ => none
  | .generator _ => none

/-- The text for no value after those uses of closures. -/
def textAfter? (p : Placeholder) (uses : Uses) : Option String :=
  match p.rule with
  | .constant text => some text
  | .generator closure => some (closure.text uses)
  | .typed _ _ => none
  | .nullable _ closure => some (closure.text uses none)

/-- The uses of closures that the text for no value takes. -/
def usesForNothing (p : Placeholder) : Uses :=
  match p.rule with
  | .generator closure => [.generated closure.id]
  | .nullable _ closure => [.transformed closure.id none]
  | .constant _ => []
  | .typed _ _ => []

theorem accepts?_eq (p : Placeholder) : p.accepts? = p.shows?.map Prod.fst := by
  obtain ⟨name, rule⟩ := p
  cases rule <;> rfl

theorem transformValue_of_shows? {p : Placeholder} {accepts : TypeKey} {closure : Transform}
    (h : p.shows? = some (accepts, closure)) (uses : Uses) (value : Value) :
    p.transformValue uses value =
      if value.typeName = accepts.name then
        (some (closure.text uses (some value.datum)),
          uses ++ [.transformed closure.id (some value.datum)])
      else (none, uses) := by
  obtain ⟨name, rule⟩ := p
  cases rule with
  | constant | generator => cases h
  | typed | nullable => cases h; rfl

/-- A closure that gives no text is not used. -/
theorem uses_of_transformValue_eq_none {p : Placeholder} {uses after : Uses} {value : Value}
    (h : p.transformValue uses value = (none, after)) : after = uses := by
  obtain ⟨name, rule⟩ := p
  cases rule with
  | constant | generator => cases h
  | typed accepts closure | nullable accepts closure =>
    rw [transformValue_of_shows? rfl] at h
    split at h
    · cases h
    · exact (Prod.mk.inj h).2.symm

theorem transformNothing_eq (p : Placeholder) (uses : Uses) :
    p.transformNothing uses = (p.textAfter? uses, uses ++ p.usesForNothing) := by
  obtain ⟨name, rule⟩ := p
  cases rule with
  | constant text => rw [usesForNothing, List.append_nil]; rfl
  | typed accepts closure => rw [usesForNothing, List.append_nil]; rfl
  | generator closure => rfl
  | nullable accepts closure => rfl

end Placeholder

namespace Lexicon

section Offers

variable (lexicon : Lexicon) (binder : Binder)

/-- The placeholder of a name that transforms values, if one is bound for the
family that it accepts: the type it transforms, the closure that does so, and
the value. -/
def offered? (name : String) : Option (TypeKey × Transform × Value) := do
  let p ← lexicon.get? name
  let (accepts, closure) ← p.shows?
  let value ← binder.value? (.type accepts)
  return (accepts, closure, value)

/-- The closure that transforms the value offered, and the datum of the value,
if that has the type which the placeholder transforms. -/
def transforms? (name : String) : Option (Transform × Datum) :=
  (lexicon.offered? binder name).bind fun (accepts, closure, value) =>
    if value.typeName = accepts.name then some (closure, value.datum) else none

/-- The report on the value offered, if it has another type. -/
def mismatch? (name : String) : Option Diagnostic :=
  (lexicon.offered? binder name).bind fun (accepts, _, value) =>
    if value.typeName = accepts.name then none
    else some (.mismatch name accepts.name.text value.typeName.text)

/-- Whether a value is bound for a reference itself, by its position or its name. -/
def isBound (binder : Binder) (position : Nat) (name : String) : Bool :=
  (binder.value? (.position position)).isSome || (binder.value? (.name name)).isSome

/-- The uses of closures that a reference takes: none if a value is bound for
it, or else one for the value offered, or else those of its placeholder without
a value. -/
def usesBy (position : Nat) (name : String) : Uses :=
  if isBound binder position name then []
  else
    match lexicon.transforms? binder name with
    | some (closure, datum) => [.transformed closure.id (some datum)]
    | none => (lexicon.get? name).elim [] Placeholder.usesForNothing

end Offers

variable {lexicon : Lexicon} {binder : Binder} {name : String}

theorem transforms?_of_offered {accepts : TypeKey} {closure : Transform} {value : Value}
    (h : lexicon.offered? binder name = some (accepts, closure, value)) :
    lexicon.transforms? binder name =
      if value.typeName = accepts.name then some (closure, value.datum) else none := by
  rw [transforms?, h]
  rfl

theorem mismatch?_of_offered {accepts : TypeKey} {closure : Transform} {value : Value}
    (h : lexicon.offered? binder name = some (accepts, closure, value)) :
    lexicon.mismatch? binder name =
      if value.typeName = accepts.name then none
      else some (.mismatch name accepts.name.text value.typeName.text) := by
  rw [mismatch?, h]
  rfl

theorem transforms?_of_none (h : lexicon.offered? binder name = none) :
    lexicon.transforms? binder name = none := by
  rw [transforms?, h]
  rfl

theorem mismatch?_of_none (h : lexicon.offered? binder name = none) :
    lexicon.mismatch? binder name = none := by
  rw [mismatch?, h]
  rfl

theorem isBound_eq_false_iff {position : Nat} :
    isBound binder position name = false ↔
      binder.value? (.position position) = none ∧ binder.value? (.name name) = none := by
  simp only [isBound, Bool.or_eq_false_iff, Option.isSome_eq_false_iff, Option.isNone_iff_eq_none]

/-- A reference with a value of its own uses no closure. -/
theorem usesBy_of_bound {position : Nat} (h : isBound binder position name) :
    lexicon.usesBy binder position name = [] := by
  rw [usesBy, if_pos h]

/-- A reference for which nothing is bound uses a closure for the value offered,
or else for no value. -/
theorem usesBy_of_unbound {position : Nat} (h : isBound binder position name = false) :
    lexicon.usesBy binder position name =
      match lexicon.transforms? binder name with
      | some (closure, datum) => [.transformed closure.id (some datum)]
      | none => (lexicon.get? name).elim [] Placeholder.usesForNothing := by
  rw [usesBy, h]
  rfl

end Lexicon

namespace Context

open Lexicon (isBound)

section Rules

variable (context : Context) (binder : Binder)

/-- The text of the value offered, if it has the type that the placeholder transforms. -/
def ofType? (name : String) : Option String :=
  (context.lexicon.transforms? binder name).map fun (closure, datum) =>
    closure.text context.uses (some datum)

/-- The text of a reference by each rule: the value at its position, the value
of its name, the value of the type that its placeholder transforms, and its
placeholder without a value. -/
def ruleTexts (position : Nat) (name : String) : List (Option String) :=
  [(binder.value? (.position position)).map Value.render,
    (binder.value? (.name name)).map Value.render,
    context.ofType? binder name,
    (context.lexicon.get? name).bind (·.textAfter? context.uses)]

/-- The text of a reference by the first rule that gives one. -/
def ruleText? (position : Nat) (name : String) : Option String :=
  (context.ruleTexts binder position name).findSome? id

/-- The reports on a reference: a value of another type that was offered, and
that no rule gives a text. -/
def reportsAt (position : Nat) (name : String) : List Diagnostic :=
  (if isBound binder position name then []
    else (context.lexicon.mismatch? binder name).toList) ++
  (if context.ruleText? binder position name = none then [.unbound name] else [])

/-- The context after more uses of closures. -/
def after (uses : Uses) : Context := { context with uses := context.uses ++ uses }

/-- The context after the tokens, which start a message. -/
def advance (before : Tokens) : Context :=
  context.after (before.names.zipIdx.flatMap fun (name, position) =>
    context.lexicon.usesBy binder position name)

/-- The text of a token that follows the tokens `before`; a reference to which
no rule gives a text is empty. -/
def textOf (before : Tokens) : Token → String
  | .literal raw => raw
  | .placeholder _ name =>
    ((context.advance binder before).ruleText? binder before.names.length name).getD ""

/-- The reports on a token that follows the tokens `before`. -/
def reportsOn (before : Tokens) : Token → List Diagnostic
  | .literal _ => []
  | .placeholder _ name =>
    (context.advance binder before).reportsAt binder before.names.length name

end Rules

variable {context : Context} {binder : Binder} {position : Nat} {name : String}

/-! ## A reference by the rule that it comes to -/

theorem ruleText?_of_index {value : Value}
    (h : binder.value? (.position position) = some value) :
    context.ruleText? binder position name = some value.render := by
  simp only [ruleText?, ruleTexts, h, Option.map_some, List.findSome?_cons, id]

theorem ruleText?_of_name {value : Value} (h : binder.value? (.position position) = none)
    (hname : binder.value? (.name name) = some value) :
    context.ruleText? binder position name = some value.render := by
  simp only [ruleText?, ruleTexts, h, hname, Option.map_none, Option.map_some,
    List.findSome?_cons, id]

/-- A reference for which nothing is bound has the text of a value offered, or
else that of its placeholder without a value. -/
theorem ruleText?_of_unbound (h : isBound binder position name = false) :
    context.ruleText? binder position name =
      match context.ofType? binder name with
      | some text => some text
      | none => (context.lexicon.get? name).bind (·.textAfter? context.uses) := by
  obtain ⟨hindex, hname⟩ := Lexicon.isBound_eq_false_iff.mp h
  simp only [ruleText?, ruleTexts, hindex, hname, Option.map_none, List.findSome?_cons, id]
  cases context.ofType? binder name with
  | some text => rfl
  | none =>
    cases (context.lexicon.get? name).bind (·.textAfter? context.uses) <;> rfl

/-! ## The context after tokens -/

theorem after_nil (context : Context) : context.after [] = context := by
  rw [after, List.append_nil]

theorem after_after (context : Context) (uses more : Uses) :
    (context.after uses).after more = context.after (uses ++ more) := by
  simp only [after, List.append_assoc]

@[simp] theorem lexicon_advance (context : Context) (binder : Binder) (before : Tokens) :
    (context.advance binder before).lexicon = context.lexicon := rfl

theorem advance_nil (context : Context) (binder : Binder) : context.advance binder [] = context :=
  context.after_nil

theorem advance_literal (before : Tokens) (raw : String) :
    context.advance binder (before ++ [.literal raw]) = context.advance binder before := by
  rw [advance, Tokens.names_literal, advance]

theorem advance_placeholder (before : Tokens) (raw name : String) :
    context.advance binder (before ++ [.placeholder raw name]) =
      (context.advance binder before).after
        (context.lexicon.usesBy binder before.names.length name) := by
  simp only [advance, Tokens.names_placeholder, List.zipIdx_append, List.zipIdx_singleton, Nat.zero_add,
    List.flatMap_append, List.flatMap_singleton, after_after]

end Context

end Phrasebook
