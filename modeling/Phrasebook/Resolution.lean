import Phrasebook.Binder.Basic
import Phrasebook.Lexicon

/-!
# What a placeholder reference comes to

A reference is resolved from the first of these that applies: the value at its position, the value
of its name, the placeholder of its name with the value of the type it accepts, that placeholder
without a value. `Context.resolve` finds which; `Resolution.remarks` is what is said about it. One
of the remarks `resolved by index`, `resolved by name`, `resolved by type`, `resolved without a
value` and the diagnostic of an unbound placeholder is made, and one only.
-/

namespace Phrasebook

/-- What a placeholder reference comes to. -/
inductive Resolution where
  /-- The value at its position. -/
  | byIndex (text : String)
  /-- The value of its name. -/
  | byName (text : String)
  /-- The value of the type that the placeholder accepts. -/
  | byType (accepts : TypeName) (text : String)
  /-- The placeholder without a value, after a value of another type if there was one. -/
  | withoutValue (mismatch : Option Diagnostic) (text : String)
  /-- Nothing, after a value of another type if there was one. -/
  | unresolved (mismatch : Option Diagnostic)
  deriving DecidableEq, Repr

namespace Resolution

/-- The text of the reference. -/
def text : Resolution → String
  | .byIndex text => text
  | .byName text => text
  | .byType _ text => text
  | .withoutValue _ text => text
  | .unresolved _ => ""

/-- A trace event about the placeholder `name`. -/
def trace (name message : String) (more : List (String × String)) : Remark :=
  .event ⟨.trace, message, ("placeholder", name) :: more⟩

/-- The remarks on a reference to `name` at a position. -/
def remarks (position : Nat) (name : String) : Resolution → List Remark
  | .byIndex _ => [trace name "resolved by index" [("position", toString position)]]
  | .byName _ => [trace name "resolved by name" []]
  | .byType accepts _ => [trace name "resolved by type" [("accepting", accepts.text)]]
  | .withoutValue mismatch _ =>
    mismatch.toList.map .diagnostic ++ [trace name "resolved without a value" []]
  | .unresolved mismatch =>
    mismatch.toList.map .diagnostic ++ [.diagnostic (.unbound name)]

end Resolution

/-- What references are resolved from besides the values of the caller: the placeholders, and what
closures were used for until now. -/
structure Context where
  lexicon : Lexicon
  uses : Uses

namespace Context

/-- The placeholder `p`, found for a name, without a value, and the context after it. -/
def resolveNothing (context : Context) (p : Placeholder) (mismatch : Option Diagnostic) :
    Resolution × Context :=
  match p.transformNothing context.uses with
  | (some text, uses) => (.withoutValue mismatch text, { context with uses })
  | (none, uses) => (.unresolved mismatch, { context with uses })

/-- The placeholder `p`, found for `name`, with the values of the binder. -/
def resolvePlaceholder (context : Context) (binder : Binder) (name : String) (p : Placeholder) :
    Resolution × Context :=
  match p.accepts? with
  | none => context.resolveNothing p none
  | some accepts =>
    match binder.at? (.type accepts.topmost) with
    | none => context.resolveNothing p none
    | some value =>
      match p.transformValue context.uses value with
      | (some text, uses) => (.byType accepts.name text, { context with uses })
      | (none, uses) =>
        resolveNothing { context with uses } p
          (some (.mismatch name accepts.name.text value.typeName.text))

/-- What the reference to `name` at a position comes to, and the context after it. -/
def resolve (context : Context) (binder : Binder) (position : Nat) (name : String) :
    Resolution × Context :=
  match binder.at? (.index position) with
  | some value => (.byIndex value.render, context)
  | none =>
    match binder.at? (binder.nameKey name) with
    | some value => (.byName value.render, context)
    | none =>
      match context.lexicon.get? name with
      | some p => context.resolvePlaceholder binder name p
      | none => (.unresolved none, context)

end Context

end Phrasebook
