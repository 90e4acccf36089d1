import Phrasebook.Toml.Draft
import Phrasebook.Toml.Quoted
import Phrasebook.Toml.Scalar

/-!
# Reading TOML documents

`Toml.read?` takes a whole document or nothing: headers, dotted keys, strings, numbers, dates,
arrays and inline tables, each table defined once. Containers nest to a limited depth, and keys have
a limited number of parts.
-/

namespace Phrasebook.Toml

/-- How deep arrays and inline tables may nest, and how many parts a key may have. -/
def maxDepth : Nat := 79

/-- The rest after spaces and tabs. -/
def skipSpace (cs : List Char) : List Char := cs.dropWhile isSpace

/-- The rest after a comment, which ends before a line break. -/
def skipComment? : List Char → Option (List Char)
  | [] => some []
  | '\n' :: rest => some ('\n' :: rest)
  | '\r' :: '\n' :: rest => some ('\n' :: rest)
  | c :: rest => if isPlain c then skipComment? rest else none

theorem length_skipComment?_le {cs rest : List Char} (h : skipComment? cs = some rest) :
    rest.length ≤ cs.length := by
  fun_induction skipComment? cs with
  | case1 => cases h; exact Nat.le_refl _
  | case2 => cases h; exact Nat.le_refl _
  | case3 => cases h; exact Nat.le_succ _
  | case4 c cs _ _ _ ih => exact Nat.le_succ_of_le (ih h)
  | case5 => cases h

/-- The rest after spaces and a comment. -/
def skipRemark? (cs : List Char) : Option (List Char) :=
  match skipSpace cs with
  | '#' :: rest => skipComment? rest
  | rest => some rest

theorem length_skipRemark?_le {cs rest : List Char} (h : skipRemark? cs = some rest) :
    rest.length ≤ cs.length := by
  have hs : (skipSpace cs).length ≤ cs.length := (List.dropWhile_sublist _).length_le
  rw [skipRemark?] at h
  split at h
  · rename_i after hafter
    have := length_skipComment?_le h
    rw [hafter, List.length_cons] at hs
    omega
  · cases h
    exact hs

/-- The next line, after what may stand at the end of a line. -/
def endLine? (cs : List Char) : Option (List Char) :=
  match skipRemark? cs with
  | some [] => some []
  | some ('\n' :: rest) => some rest
  | some ('\r' :: '\n' :: rest) => some rest
  | _ => none

/-- The rest after spaces, comments and line breaks. -/
def skipBetween? (cs : List Char) : Option (List Char) :=
  match _ : skipRemark? cs with
  | some ('\n' :: rest) => skipBetween? rest
  | some ('\r' :: '\n' :: rest) => skipBetween? rest
  | rest => rest
termination_by cs.length
decreasing_by
  · have := length_skipRemark?_le ‹_›
    rw [List.length_cons] at this
    omega
  · have := length_skipRemark?_le ‹_›
    rw [List.length_cons, List.length_cons] at this
    omega

/-- Whether the character may stand in a key without quotes. -/
def isKeyChar (c : Char) : Bool := c.isAlphanum || c == '_' || c == '-'

/-- One part of a key, and what follows it. -/
def readKeyPart? (cs : List Char) : Option (String × List Char) :=
  let text (read : Option (List Char × List Char)) : Option (String × List Char) :=
    read.map fun (name, rest) => (String.ofList name, rest)
  match cs with
  | '"' :: rest => text (readBasic? rest)
  | '\'' :: rest => text (readLiteral? rest)
  | cs =>
    let name := cs.takeWhile isKeyChar
    if name.isEmpty then none else some (String.ofList name, cs.dropWhile isKeyChar)

/-- A key of at most so many parts, which are joined by points, and what follows it and the spaces
after it. -/
def readKeyParts? (parts : Nat) (cs : List Char) : Option (List String × String × List Char) :=
  match parts with
  | 0 => none
  | parts + 1 => do
    let (part, rest) ← readKeyPart? (skipSpace cs)
    match skipSpace rest with
    | '.' :: rest =>
      let (path, last, rest) ← readKeyParts? parts rest
      return (part :: path, last, rest)
    | rest => return ([], part, rest)

/-- A key: the names of the tables on its path, its last name, and what follows it and the spaces
after it. -/
def readKey? (cs : List Char) : Option (List String × String × List Char) :=
  readKeyParts? maxDepth cs

mutual

/-- A value, and what follows it; `depth` containers may still be opened. -/
def readValue? (fuel depth : Nat) (cs : List Char) : Option (Tree × List Char) :=
  match fuel with
  | 0 => none
  | fuel + 1 =>
    match cs with
    | '"' :: _ => (readQuoted? cs).map fun (text, rest) => (.text (String.ofList text), rest)
    | '\'' :: _ => (readQuoted? cs).map fun (text, rest) => (.text (String.ofList text), rest)
    | '[' :: rest =>
      match depth with
      | 0 => none
      | depth + 1 =>
        (readArray? fuel depth rest).map fun (elements, rest) => (.list elements, rest)
    | '\x7b' :: rest =>
      match depth with
      | 0 => none
      | depth + 1 =>
        match skipSpace rest with
        | '\x7d' :: rest => some (.table [], rest)
        | rest => do
          let (members, rest) ← readInline? fuel depth [] rest
          return (.table (memberTrees members), rest)
    | cs => readScalar? cs

/-- The elements of an array up to its closing bracket. -/
def readArray? (fuel depth : Nat) (cs : List Char) : Option (List Tree × List Char) :=
  match fuel with
  | 0 => none
  | fuel + 1 => do
    match ← skipBetween? cs with
    | ']' :: rest => return ([], rest)
    | rest =>
      let (element, rest) ← readValue? fuel depth rest
      match ← skipBetween? rest with
      | ',' :: rest =>
        let (elements, rest) ← readArray? fuel depth rest
        return (element :: elements, rest)
      | ']' :: rest => return ([element], rest)
      | _ => none

/-- The members of an inline table up to its closing brace, after those that were read. -/
def readInline? (fuel depth : Nat) (members : Members) (cs : List Char) :
    Option (Members × List Char) :=
  match fuel with
  | 0 => none
  | fuel + 1 => do
    let (path, name, rest) ← readKey? cs
    match rest with
    | '=' :: rest =>
      let (value, rest) ← readValue? fuel depth (skipSpace rest)
      let members ← members.insertDotted true false path name value
      match skipSpace rest with
      | ',' :: rest => readInline? fuel depth members rest
      | '\x7d' :: rest => return (members, rest)
      | _ => none
    | _ => none

end

/-- The lines of a document from here on, below a header. -/
def readLines? (fuel : Nat) (header : List String) (members : Members) (cs : List Char) :
    Option Members :=
  match fuel with
  | 0 => none
  | fuel + 1 =>
    match skipSpace cs with
    | [] => some members
    | '[' :: '[' :: rest => do
      let (path, name, rest) ← readKey? rest
      let ']' :: ']' :: rest := rest | none
      let header := path ++ [name]
      readLines? fuel header (← members.openEntry header) (← endLine? rest)
    | '[' :: rest => do
      let (path, name, rest) ← readKey? rest
      let ']' :: rest := rest | none
      let header := path ++ [name]
      readLines? fuel header (← members.openTable header) (← endLine? rest)
    | c :: rest =>
      if c = '#' ∨ c = '\n' ∨ c = '\r' then do
        readLines? fuel header members (← endLine? (c :: rest))
      else do
        let (path, name, rest) ← readKey? (c :: rest)
        let '=' :: rest := rest | none
        let (value, rest) ← readValue? fuel maxDepth (skipSpace rest)
        readLines? fuel header (← members.insert header path name value) (← endLine? rest)

/-- The members of the table that the whole document spells. A byte order mark may stand before
it. -/
def read? (document : String) : Option (List (String × Tree)) := do
  let cs := match document.toList with
    | '\ufeff' :: rest => rest
    | cs => cs
  match ← settleTable? (memberTrees (← readLines? (cs.length + 1) [] [] cs)) with
  | .table members => return members
  | _ => none

end Phrasebook.Toml
