/-!
# Types and their families

A `TypeKey` names a type and, if one was declared, the topmost type of the family that it belongs
to. Binders and placeholders meet on `TypeKey.topmost`, so a value bound for one member of a family
reaches a placeholder that asks for another. Declaring a type to be under itself declares nothing
(`under_self`).
-/

namespace Phrasebook

/-- The name of a type of data. -/
@[ext]
structure TypeName where
  text : String
  deriving DecidableEq, Repr, Inhabited

namespace TypeName

/-- Text. -/
def string : TypeName := ⟨"alloc::string::String"⟩
/-- Borrowed text. -/
def borrowedText : TypeName := ⟨"&str"⟩
/-- Integers. -/
def integer : TypeName := ⟨"i64"⟩
/-- Numbers of 64 bits. -/
def double : TypeName := ⟨"f64"⟩
/-- Truth values. -/
def boolean : TypeName := ⟨"bool"⟩
/-- Characters. -/
def character : TypeName := ⟨"char"⟩
/-- JSON values. -/
def json : TypeName := ⟨"serde_json::value::Value"⟩
/-- Profiles of languages. -/
def profile : TypeName := ⟨"alloc::sync::Arc<plang::language::Profile>"⟩
/-- Messages. -/
def message : TypeName := ⟨"plang::message::Message"⟩

end TypeName

/-- A type, with the topmost type of its family if that is another one. -/
structure TypeKey where
  name : TypeName
  root : Option TypeName
  deriving DecidableEq, Repr, Inhabited

namespace TypeKey

/-- A type on its own. -/
def of (name : TypeName) : TypeKey := ⟨name, none⟩

/-- The type with `root` declared as the topmost of its family. -/
def under (key : TypeKey) (root : TypeName) : TypeKey :=
  ⟨key.name, if root = key.name then none else some root⟩

/-- The topmost type of the family. -/
def topmost (key : TypeKey) : TypeName := key.root.getD key.name

/-- Whether both keys belong to one family. -/
def sharesFamily (a b : TypeKey) : Bool := a.topmost == b.topmost

/-- The key spelt out. -/
def describe (key : TypeKey) : String :=
  match key.root with
  | some root => "TypeKey(" ++ key.name.text ++ " : " ++ root.text ++ ")"
  | none => "TypeKey(" ++ key.name.text ++ ")"

@[simp] theorem topmost_of (name : TypeName) : (of name).topmost = name := rfl

@[simp] theorem under_self (name : TypeName) : (of name).under name = of name := by
  simp [under, of]

@[simp] theorem topmost_under (key : TypeKey) (root : TypeName) :
    (key.under root).topmost = root := by
  by_cases h : root = key.name <;> simp [under, topmost, h]

end TypeKey

end Phrasebook
