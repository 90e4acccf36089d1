import Phrasebook.Token

/-!
# Lexers

A lexer finds the placeholder references of a text and takes the name out of each. What it finds is
a `Scan`: the references in order, each with the text before it, and the text after the last. A scan
covers its text (`Lexer.chars_scan`), so the tokens of a text together with the references that
name nothing are the text again.

`Scan.ofMatches` builds the scan of a text from a rule for a reference at one place: the leftmost
references that do not overlap.
-/

namespace Phrasebook

/-- A reference and the text between it and the one before. -/
structure Hit where
  gap : List Char
  raw : List Char
  deriving DecidableEq, Repr

/-- The references of a text, and the text after the last. -/
structure Scan where
  hits : List Hit
  rest : List Char
  deriving DecidableEq, Repr

namespace Scan

/-- The text that was scanned. -/
def chars (scan : Scan) : List Char :=
  scan.hits.flatMap (fun hit => hit.gap ++ hit.raw) ++ scan.rest

/-- The scan of a text with one more character before it, which belongs to no reference. -/
def consGap (c : Char) : Scan → Scan
  | ⟨[], rest⟩ => ⟨[], c :: rest⟩
  | ⟨hit :: hits, rest⟩ => ⟨⟨c :: hit.gap, hit.raw⟩ :: hits, rest⟩

@[simp] theorem chars_consGap (c : Char) (scan : Scan) :
    (scan.consGap c).chars = c :: scan.chars := by
  rcases scan with ⟨_ | ⟨hit, hits⟩, rest⟩ <;> simp [consGap, chars]

/-- The scan of a text with one more reference before it. -/
def consHit (raw : List Char) (scan : Scan) : Scan := ⟨⟨[], raw⟩ :: scan.hits, scan.rest⟩

@[simp] theorem chars_consHit (raw : List Char) (scan : Scan) :
    (scan.consHit raw).chars = raw ++ scan.chars := by
  simp [consHit, chars]

/-- The leftmost references, none overlapping the one before. `lengthAt` is the length of the
reference at the start of a text, zero if there is none. -/
def ofMatches (lengthAt : List Char → Nat) : List Char → Scan
  | [] => ⟨[], []⟩
  | c :: rest =>
    match lengthAt (c :: rest) with
    | 0 => (ofMatches lengthAt rest).consGap c
    | n + 1 => (ofMatches lengthAt (rest.drop n)).consHit (c :: rest.take n)
termination_by cs => cs.length
decreasing_by
  · simp only [List.length_cons]; omega
  · simp only [List.length_drop, List.length_cons]; omega

@[simp] theorem chars_ofMatches (lengthAt : List Char → Nat) (cs : List Char) :
    (ofMatches lengthAt cs).chars = cs := by
  fun_induction ofMatches lengthAt cs with
  | case1 => rfl
  | case2 c rest _ ih => simp [ih]
  | case3 c rest n _ ih => simp [ih, List.take_append_drop]

end Scan

/-- A way to find the placeholder references of a text and the name in each. -/
structure Lexer where
  /-- The references of a text. -/
  scan : List Char → Scan
  /-- A scan covers its text. -/
  chars_scan : ∀ cs, (scan cs).chars = cs
  /-- The name in a reference; a reference with an empty name stands for nothing. -/
  extract : List Char → List Char

namespace Lexer

/-- The lexer that finds no reference. -/
def plain : Lexer := ⟨fun cs => ⟨[], cs⟩, fun _ => rfl, id⟩

instance : Inhabited Lexer := ⟨plain⟩

/-- Text as a literal token, none if it is empty. -/
def literals (cs : List Char) : Tokens :=
  if cs.isEmpty then [] else [.literal (String.ofList cs)]

/-- The tokens of a reference and the text before it. -/
def hitTokens (lexer : Lexer) (hit : Hit) : Tokens :=
  let name := lexer.extract hit.raw
  literals hit.gap ++
    if name.isEmpty then [] else [.placeholder (String.ofList hit.raw) (String.ofList name)]

/-- The tokens of a text. -/
def tokenize (lexer : Lexer) (content : String) : Tokens :=
  let scan := lexer.scan content.toList
  scan.hits.flatMap lexer.hitTokens ++ literals scan.rest

/-- The references of a text that name nothing. -/
def dropped (lexer : Lexer) (content : String) : List String :=
  ((lexer.scan content.toList).hits.filter fun hit => (lexer.extract hit.raw).isEmpty).map
    fun hit => String.ofList hit.raw

end Lexer

end Phrasebook
