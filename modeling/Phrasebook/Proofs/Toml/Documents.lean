import Phrasebook.Proofs.Toml.Strings
import Phrasebook.Toml.Reader
import Phrasebook.Toml.Writer

/-!
# Reading back TOML documents

A document with one table after the other, each with texts and truth values as
its members, is read as these tables (`read?_document`). The reader takes such a
document line by line: a header opens a table (`ReadsTo.header`), a line with a
key and a value puts one member into it (`ReadsTo.member`), an empty line
changes nothing (`ReadsTo.empty`). So the lines of a table put the table after
those before it (`ReadsTo.table`), and a document is read table by table
(`readsTo_document`).
-/

namespace Phrasebook.Toml

/-! ## What is written -/

/-- The name can be a key without quotes. -/
def IsKey (name : String) : Prop := name.toList ≠ [] ∧ name.toList.all isKeyChar = true

instance : DecidablePred IsKey := fun _ => inferInstanceAs (Decidable (_ ∧ _))

theorem toList_tableLines (t : String × List (String × Leaf)) :
    (tableLines t).toList =
      '[' :: (t.1.toList ++ ']' :: '\n' :: (String.join (t.2.map memberLine)).toList) := by
  simp [tableLines]

theorem toList_document (t u : String × List (String × Leaf)) (tables : Tables) :
    (document (t :: u :: tables)).toList =
      (tableLines t).toList ++ '\n' :: (document (u :: tables)).toList := by
  simp [document]

/-- Tables and members that can be told apart, with names that need no quotes. -/
structure Tables.Proper (tables : Tables) : Prop where
  isKey : ∀ t ∈ tables, IsKey t.1 ∧ ∀ m ∈ t.2, IsKey m.1
  nodup : (tables.map (·.1)).Nodup
  nodupMembers : ∀ t ∈ tables, (t.2.map (·.1)).Nodup

/-! ## One line -/

theorem isSpace_of_isKeyChar {c : Char} (h : isKeyChar c = true) : isSpace c = false := by
  rw [Bool.eq_false_iff]
  intro hspace
  rw [isSpace, Bool.or_eq_true, beq_iff_eq, beq_iff_eq] at hspace
  rcases hspace with rfl | rfl <;> exact absurd h (by decide)

theorem skipSpace_cons {c : Char} (h : isSpace c = false) (rest : List Char) :
    skipSpace (c :: rest) = c :: rest := by
  rw [skipSpace, List.dropWhile_cons_of_neg (by simp [h])]

theorem skipSpace_append {blank : List Char} (hblank : ∀ c ∈ blank, isSpace c = true)
    {c : Char} (h : isSpace c = false) (rest : List Char) :
    skipSpace (blank ++ c :: rest) = c :: rest := by
  rw [skipSpace, List.dropWhile_append_of_pos hblank]
  exact skipSpace_cons h rest

theorem IsKey.allows {name : String} (h : IsKey name) {c : Char} (hc : c ∈ name.toList) :
    isKeyChar c = true :=
  List.all_eq_true.mp h.2 c hc

/-- A key starts with one of its characters. -/
theorem IsKey.exists_cons {name : String} (h : IsKey name) :
    ∃ a as, name.toList = a :: as ∧ isKeyChar a = true := by
  match hname : name.toList, h.1 with
  | a :: as, _ => exact ⟨a, as, rfl, h.allows (hname ▸ List.mem_cons_self)⟩

/-- A name is read as one part of a key, up to a character that cannot go on
with it. -/
theorem readKeyPart?_of_isKey {name : String} (h : IsKey name) {c : Char}
    (hc : isKeyChar c = false) (rest : List Char) :
    readKeyPart? (name.toList ++ c :: rest) = some (name, c :: rest) := by
  obtain ⟨a, as, hname, ha⟩ := h.exists_cons
  have hstart {d : Char} (hd : isKeyChar d = false) (more : List Char) :
      name.toList ++ c :: rest ≠ d :: more := by
    rw [hname, List.cons_append]
    intro heq
    rw [(List.cons.inj heq).1, hd] at ha
    exact Bool.false_ne_true ha
  have hkey : ∀ c ∈ name.toList, isKeyChar c = true := fun c hc => h.allows hc
  have htake : (name.toList ++ c :: rest).takeWhile isKeyChar = name.toList := by
    rw [List.takeWhile_append_of_pos hkey, List.takeWhile_cons_of_neg (by simp [hc]),
      List.append_nil]
  have hdrop : (name.toList ++ c :: rest).dropWhile isKeyChar = c :: rest := by
    rw [List.dropWhile_append_of_pos hkey, List.dropWhile_cons_of_neg (by simp [hc])]
  have hempty : name.toList.isEmpty = false := by rw [List.isEmpty_eq_false_iff]; exact h.1
  unfold readKeyPart?
  dsimp only
  split
  · rename_i more heq
    exact absurd heq (hstart (by decide) more)
  · rename_i more heq
    exact absurd heq (hstart (by decide) more)
  · rw [htake, hdrop, hempty, String.ofList_toList]
    rfl

/-- A name is read as a key, with the spaces after it. -/
theorem readKey?_of_isKey {name : String} (h : IsKey name) (blank : List Char)
    (hblank : ∀ c ∈ blank, isSpace c = true) {c : Char} (hc : isKeyChar c = false)
    (hspace : isSpace c = false) (hpoint : c ≠ '.') (rest : List Char) :
    readKey? (name.toList ++ (blank ++ c :: rest)) = some ([], name, c :: rest) := by
  have hpart : readKeyPart? (name.toList ++ (blank ++ c :: rest)) =
      some (name, blank ++ c :: rest) := by
    cases blank with
    | nil => exact readKeyPart?_of_isKey h hc rest
    | cons b blank =>
      have hb : isKeyChar b = false := by
        rw [Bool.eq_false_iff]
        intro hkey
        have hspace := hblank b List.mem_cons_self
        rw [isSpace_of_isKeyChar hkey] at hspace
        exact Bool.false_ne_true hspace
      exact readKeyPart?_of_isKey h hb (blank ++ c :: rest)
  have hskip : skipSpace (name.toList ++ (blank ++ c :: rest)) =
      name.toList ++ (blank ++ c :: rest) := by
    obtain ⟨a, as, hname, ha⟩ := h.exists_cons
    rw [hname]
    exact skipSpace_cons (isSpace_of_isKeyChar ha) _
  rw [readKey?, maxDepth, readKeyParts?, hskip, hpart]
  simp only [Option.bind_eq_bind, Option.bind_some, skipSpace_append hblank hspace]
  split
  · rename_i heq
    exact absurd (List.cons.inj heq).1 hpoint
  · rfl

theorem endLine?_newline (rest : List Char) : endLine? ('\n' :: rest) = some rest := rfl

/-- A string starts with a quote. -/
theorem exists_quote_quoted (s : String) :
    ∃ more, (quoted s).toList = '"' :: more ∨ (quoted s).toList = '\'' :: more := by
  rw [quoted, String.toList_ofList]
  cases Form.choose s.toList with
  | basic => exact ⟨_, .inl rfl⟩
  | literal => exact ⟨_, .inr rfl⟩
  | block => exact ⟨_, .inl rfl⟩
  | literalBlock => exact ⟨_, .inr rfl⟩

/-- The space before a value is left out. -/
theorem skipSpace_written (leaf : Leaf) (rest : List Char) :
    skipSpace (' ' :: (leaf.written.toList ++ rest)) = leaf.written.toList ++ rest := by
  have hstart : ∃ a as, leaf.written.toList = a :: as ∧ isSpace a = false := by
    cases leaf with
    | flag value =>
      cases value with
      | false => exact ⟨_, _, rfl, rfl⟩
      | true => exact ⟨_, _, rfl, rfl⟩
    | text s =>
      obtain ⟨more, hmore | hmore⟩ := exists_quote_quoted s
      · exact ⟨_, _, hmore, rfl⟩
      · exact ⟨_, _, hmore, rfl⟩
  obtain ⟨a, as, has, ha⟩ := hstart
  rw [has]
  exact skipSpace_append (List.forall_mem_singleton.mpr (rfl : isSpace ' ' = true)) ha (as ++ rest)

/-- A value is read up to the end of its line. -/
theorem readValue?_leaf (leaf : Leaf) (fuel depth : Nat) (rest : List Char) :
    readValue? (fuel + 1) depth (leaf.written.toList ++ '\n' :: rest) =
      some (leaf.toTree, '\n' :: rest) := by
  cases leaf with
  | flag value =>
    cases value with
    | false => rfl
    | true => rfl
  | text s =>
    have hread : readQuoted? ((quoted s).toList ++ '\n' :: rest) = some (s.toList, '\n' :: rest) :=
      readQuoted?_quoted s (head?_ne (by decide) rest) (head?_ne (by decide) rest)
    rw [Leaf.written, Leaf.toTree]
    obtain ⟨more, hmore | hmore⟩ := exists_quote_quoted s
    · rw [hmore, List.cons_append] at hread
      rw [hmore, List.cons_append, readValue?, hread]
      simp only [Option.map_some, String.ofList_toList]
    · rw [hmore, List.cons_append] at hread
      rw [hmore, List.cons_append, readValue?, hread]
      simp only [Option.map_some, String.ofList_toList]

/-! ## Line by line -/

/-- Below the header, and after these members, the text goes on to these members
in the end. -/
def ReadsTo (header : List String) (members : Members) (cs : List Char) (result : Members) : Prop :=
  ∀ fuel, cs.length < fuel → readLines? fuel header members cs = some result

namespace ReadsTo

variable {names : List String} {members next result : Members} {rest : List Char}

theorem nil : ReadsTo names members [] members := by
  intro fuel hfuel
  obtain ⟨fuel, rfl⟩ := Nat.exists_eq_succ_of_ne_zero (Nat.ne_of_gt hfuel)
  rw [readLines?]
  rfl

/-- An empty line changes nothing. -/
theorem empty (h : ReadsTo names members rest result) :
    ReadsTo names members ('\n' :: rest) result := by
  intro fuel hfuel
  obtain ⟨fuel, rfl⟩ := Nat.exists_eq_succ_of_ne_zero (Nat.ne_of_gt (Nat.zero_lt_of_lt hfuel))
  rw [readLines?, skipSpace_cons rfl]
  exact h fuel (Nat.lt_of_succ_lt_succ hfuel)

/-- A header opens a table. -/
theorem header {name : String} (hkey : IsKey name) (hopen : members.openTable [name] = some next)
    (h : ReadsTo [name] next rest result) :
    ReadsTo names members ('[' :: (name.toList ++ ']' :: '\n' :: rest)) result := by
  intro fuel hfuel
  obtain ⟨fuel, rfl⟩ := Nat.exists_eq_succ_of_ne_zero (Nat.ne_of_gt (Nat.zero_lt_of_lt hfuel))
  have hrest : rest.length < fuel := by
    simp only [List.length_cons, List.length_append] at hfuel
    omega
  obtain ⟨a, as, hname, ha⟩ := hkey.exists_cons
  have hread : readKey? (name.toList ++ ']' :: '\n' :: rest) =
      some ([], name, ']' :: '\n' :: rest) :=
    readKey?_of_isKey hkey [] (List.forall_mem_nil _) rfl rfl (by decide) _
  have hsingle (more : List Char) : name.toList ++ ']' :: '\n' :: rest ≠ '[' :: more := by
    rw [hname]
    exact fun heq => absurd ((List.cons.inj heq).1 ▸ ha) (by decide)
  rw [readLines?, skipSpace_cons rfl]
  split
  · rename_i heq
    cases heq
  · rename_i heq
    exact absurd (List.cons.inj heq).2 (hsingle _)
  · rename_i heq
    rw [← (List.cons.inj heq).2, hread]
    simp only [Option.bind_eq_bind, Option.bind_some, List.nil_append, hopen, endLine?_newline]
    exact h fuel hrest
  · rename_i hne heq
    exact absurd (List.cons.inj heq).1.symm hne

/-- A line with a key and a value puts a member into the table. -/
theorem member {m : String × Leaf} (hkey : IsKey m.1)
    (hinsert : members.insert names [] m.1 m.2.toTree = some next)
    (h : ReadsTo names next rest result) :
    ReadsTo names members ((memberLine m).toList ++ rest) result := by
  intro fuel hfuel
  obtain ⟨fuel, rfl⟩ := Nat.exists_eq_succ_of_ne_zero (Nat.ne_of_gt (Nat.zero_lt_of_lt hfuel))
  obtain ⟨a, as, hname, ha⟩ := hkey.exists_cons
  have hline : (memberLine m).toList ++ rest =
      m.1.toList ++ ([' '] ++ '=' :: ' ' :: (m.2.written.toList ++ '\n' :: rest)) := by
    simp [memberLine]
  have hread : readKey? ((memberLine m).toList ++ rest) =
      some ([], m.1, '=' :: ' ' :: (m.2.written.toList ++ '\n' :: rest)) := by
    rw [hline]
    exact readKey?_of_isKey hkey [' '] (List.forall_mem_singleton.mpr rfl) rfl rfl (by decide) _
  have hrest : rest.length < fuel ∧ 0 < fuel := by
    rw [hline] at hfuel
    simp only [List.length_cons, List.length_append] at hfuel
    omega
  have hvalue : readValue? fuel maxDepth (m.2.written.toList ++ '\n' :: rest) =
      some (m.2.toTree, '\n' :: rest) := by
    obtain ⟨more, rfl⟩ := Nat.exists_eq_succ_of_ne_zero (Nat.ne_of_gt hrest.2)
    exact readValue?_leaf m.2 more maxDepth rest
  have hstart : (memberLine m).toList ++ rest =
      a :: (as ++ ([' '] ++ '=' :: ' ' :: (m.2.written.toList ++ '\n' :: rest))) := by
    rw [hline, hname, List.cons_append]
  rw [hstart] at hread ⊢
  rw [readLines?, skipSpace_cons (isSpace_of_isKeyChar ha)]
  -- The first character is one of a key, so the line is none of those with a meaning of their own.
  split
  · rename_i heq
    cases heq
  · rename_i heq
    exact absurd ((List.cons.inj heq).1 ▸ ha) (by decide)
  · rename_i heq
    exact absurd ((List.cons.inj heq).1 ▸ ha) (by decide)
  · rename_i c more _ _ heq
    have hc : ¬(c = '#' ∨ c = '\n' ∨ c = '\r') := by
      rw [← (List.cons.inj heq).1]
      rintro (rfl | rfl | rfl) <;> exact absurd ha (by decide)
    rw [← heq, if_neg hc, hread]
    simp only [Option.bind_eq_bind, Option.bind_some, skipSpace_written, hvalue, hinsert,
      endLine?_newline]
    exact h fuel hrest.1

end ReadsTo

/-! ## The whole document -/

/-- A table while it is open. -/
def draft (t : String × List (String × Leaf)) : String × Draft :=
  (t.1, .table false false (t.2.map fun m => (m.1, .value m.2.toTree)))

theorem lookup_eq_none_of_not_mem {α : Type} {entries : List (String × α)} {name : String}
    (h : name ∉ entries.map (·.1)) : entries.lookup name = none := by
  rw [List.lookup_eq_none_iff]
  intro entry hentry
  rw [bne_iff_ne]
  rintro rfl
  exact h (List.mem_map_of_mem hentry)

theorem map_fst_draft (tables : Tables) : (tables.map draft).map (·.1) = tables.map (·.1) := by
  rw [List.map_map]
  rfl

theorem Members.replace_append {earlier : Members} {name : String} (h : name ∉ earlier.map (·.1))
    (old new : Draft) :
    Members.replace name new (earlier ++ [(name, old)]) = earlier ++ [(name, new)] := by
  induction earlier with
  | nil => rw [List.nil_append, replace, if_pos rfl, List.nil_append]
  | cons entry earlier ih =>
    rw [List.map_cons, List.mem_cons, not_or] at h
    rw [List.cons_append, replace, if_neg (Ne.symm h.1), ih h.2, List.cons_append]

/-- The header of a table that is not there opens it without members. -/
theorem openTable_draft {done : Tables} {name : String} (h : name ∉ done.map (·.1)) :
    Members.openTable [name] (done.map draft) = some ((done ++ [(name, [])]).map draft) := by
  have hnone : (done.map draft).lookup name = none :=
    lookup_eq_none_of_not_mem (map_fst_draft done ▸ h)
  rw [Members.openTable, List.dropLast_singleton, Members.change, List.getLastD_cons,
    List.getLastD_nil, Members.openLast, hnone, List.map_append]
  rfl

/-- A member that is not there comes after the others of the table that is open. -/
theorem insert_draft {done : Tables} {name : String} (h : name ∉ done.map (·.1))
    {members : List (String × Leaf)} {m : String × Leaf} (hm : m.1 ∉ members.map (·.1)) :
    Members.insert [name] [] m.1 m.2.toTree ((done ++ [(name, members)]).map draft) =
      some ((done ++ [(name, members ++ [m])]).map draft) := by
  have hnone : (members.map fun m => (m.1, Draft.value m.2.toTree)).lookup m.1 = none := by
    refine lookup_eq_none_of_not_mem ?_
    rwa [List.map_map]
  have hdone : name ∉ (done.map draft).map (·.1) := map_fst_draft done ▸ h
  have hlookup : ((done ++ [(name, members)]).map draft).lookup name =
      some (draft (name, members)).2 := by
    rw [List.map_append, List.lookup_append, lookup_eq_none_of_not_mem hdone, Option.none_or]
    exact List.lookup_cons_self
  rw [Members.insert, Members.change, hlookup]
  have hlast (members : List (String × Leaf)) : (done ++ [(name, members)]).map draft =
      done.map draft ++ [(name, (draft (name, members)).2)] := by
    rw [List.map_append]
    rfl
  simp only [draft, Members.change, Members.insertDotted, hnone]
  rw [hlast, hlast]
  refine congrArg some ((Members.replace_append hdone _ _).trans ?_)
  rw [draft, List.map_append]
  rfl

namespace ReadsTo

variable {names : List String} {result : Members} {rest : List Char} {done : Tables}

/-- The lines of several members put them into the table that is open. -/
theorem members {name : String} (hname : name ∉ done.map (·.1))
    {before members : List (String × Leaf)} (hkey : ∀ m ∈ members, IsKey m.1)
    (hnodup : ((before ++ members).map (·.1)).Nodup)
    (h : ReadsTo [name] ((done ++ [(name, before ++ members)]).map draft) rest result) :
    ReadsTo [name] ((done ++ [(name, before)]).map draft)
      ((String.join (members.map memberLine)).toList ++ rest) result := by
  induction members generalizing before with
  | nil => rwa [List.append_nil] at h
  | cons m members ih =>
    obtain ⟨hm, hmembers⟩ := List.forall_mem_cons.mp hkey
    have hnew : m.1 ∉ before.map (·.1) := by
      rw [List.map_append] at hnodup
      exact fun hmem => (List.nodup_append.mp hnodup).2.2 _ hmem _ List.mem_cons_self rfl
    have hsplit : before ++ m :: members = before ++ [m] ++ members := List.append_cons ..
    rw [hsplit] at hnodup h
    rw [List.map_cons, String.join_cons, String.toList_append, List.append_assoc]
    exact member hm (insert_draft hname hnew) (ih hmembers hnodup h)

/-- The lines of a table put the table after those that were read. -/
theorem table {t : String × List (String × Leaf)} (hname : t.1 ∉ done.map (·.1))
    (hkey : IsKey t.1) (hkeys : ∀ m ∈ t.2, IsKey m.1) (hnodup : (t.2.map (·.1)).Nodup)
    (h : ReadsTo [t.1] ((done ++ [t]).map draft) rest result) :
    ReadsTo names (done.map draft) ((tableLines t).toList ++ rest) result := by
  rw [toList_tableLines, List.cons_append, List.append_assoc]
  exact header hkey (openTable_draft hname) (members hname hkeys hnodup h)

end ReadsTo

theorem readsTo_document {done tables : Tables} (h : Tables.Proper (done ++ tables))
    (names : List String) :
    ReadsTo names (done.map draft) (document tables).toList ((done ++ tables).map draft) := by
  induction tables generalizing done names with
  | nil =>
    rw [List.append_nil]
    exact .nil
  | cons t tables ih =>
    have hmem : t ∈ done ++ t :: tables := List.mem_append_right done List.mem_cons_self
    have hname : t.1 ∉ done.map (·.1) := by
      have hnodup := h.nodup
      rw [List.map_append] at hnodup
      exact fun hdone => (List.nodup_append.mp hnodup).2.2 _ hdone _ List.mem_cons_self rfl
    obtain ⟨hkey, hkeys⟩ := h.isKey t hmem
    cases tables with
    | nil =>
      rw [document, List.map_singleton, String.intercalate_singleton,
        ← List.append_nil (tableLines t).toList]
      exact .table hname hkey hkeys (h.nodupMembers t hmem) .nil
    | cons u tables =>
      rw [List.append_cons] at h ⊢
      rw [toList_document]
      exact .table hname hkey hkeys (h.nodupMembers t (by simp)) (.empty (ih h [t.1]))

theorem memberTrees_leaves (members : List (String × Leaf)) :
    memberTrees (members.map fun m => (m.1, .value m.2.toTree)) =
      members.map fun m => (m.1, m.2.toTree) := by
  induction members with
  | nil => rfl
  | cons m members ih => rw [List.map_cons, memberTrees, Draft.toTree, ih, List.map_cons]

theorem memberTrees_draft (tables : Tables) : memberTrees (tables.map draft) = tables.toTrees := by
  induction tables with
  | nil => rfl
  | cons t tables ih =>
    rw [List.map_cons, draft, memberTrees, Draft.toTree, memberTrees_leaves, ih]
    rfl

/-- No table of keys without quotes is marked as a date. -/
theorem IsKey.ne_dateName {name : String} (h : IsKey name) : name ≠ dateName := by
  rintro rfl
  exact absurd (h.allows (c := '$') (by decide)) (by decide)

theorem settle?_leaf (leaf : Leaf) : settle? leaf.toTree = some leaf.toTree := by
  cases leaf <;> rfl

theorem settleMembers?_leaves (members : List (String × Leaf)) :
    settleMembers? (members.map fun m => (m.1, m.2.toTree)) =
      some (members.map fun m => (m.1, m.2.toTree)) := by
  induction members with
  | nil => rfl
  | cons m members ih =>
    rw [List.map_cons, settleMembers?, settle?_leaf, ih]
    rfl

theorem settleTable?_cons {name : String} (h : name ≠ dateName) (value : Tree)
    (rest : List (String × Tree)) :
    settleTable? ((name, value) :: rest) =
      (do return .table ((name, ← settle? value) :: (← settleMembers? rest))) := by
  rw [settleTable?.eq_def]
  exact if_neg h

theorem settleTable?_leaves {members : List (String × Leaf)} (h : ∀ m ∈ members, IsKey m.1) :
    settleTable? (members.map fun m => (m.1, m.2.toTree)) =
      some (.table (members.map fun m => (m.1, m.2.toTree))) := by
  cases members with
  | nil => rfl
  | cons m members =>
    rw [List.map_cons, settleTable?_cons (h m List.mem_cons_self).ne_dateName, settle?_leaf,
      settleMembers?_leaves]
    rfl

theorem settleMembers?_toTrees {tables : Tables} (h : ∀ t ∈ tables, ∀ m ∈ t.2, IsKey m.1) :
    settleMembers? tables.toTrees = some tables.toTrees := by
  induction tables with
  | nil => rfl
  | cons t tables ih =>
    obtain ⟨ht, htables⟩ := List.forall_mem_cons.mp h
    rw [Tables.toTrees] at ih
    rw [Tables.toTrees, List.map_cons, settleMembers?, settle?, settleTable?_leaves ht,
      ih htables]
    rfl

theorem settleTable?_toTrees {tables : Tables} (h : tables.Proper) :
    settleTable? tables.toTrees = some (.table tables.toTrees) := by
  cases tables with
  | nil => rfl
  | cons t tables =>
    obtain ⟨⟨hkey, hkeys⟩, hrest⟩ := List.forall_mem_cons.mp h.isKey
    have hmembers := settleMembers?_toTrees fun t ht => (hrest t ht).2
    rw [Tables.toTrees] at hmembers
    rw [Tables.toTrees, List.map_cons, settleTable?_cons hkey.ne_dateName, settle?,
      settleTable?_leaves hkeys, hmembers]
    rfl

/-- No document starts with a byte order mark. -/
theorem document_ne (tables : Tables) (rest : List Char) :
    (document tables).toList ≠ '\ufeff' :: rest := by
  intro h
  have hhead := congrArg List.head? h
  match tables with
  | [] => cases h
  | [t] =>
    rw [document, List.map_singleton, String.intercalate_singleton, toList_tableLines] at hhead
    exact absurd hhead (head?_ne (by decide) _)
  | t :: u :: tables =>
    rw [toList_document, toList_tableLines] at hhead
    exact absurd hhead (head?_ne (by decide) _)

/-- A document is read as the tables that were written. -/
theorem read?_document {tables : Tables} (h : tables.Proper) :
    read? (document tables) = some tables.toTrees := by
  have hread := @readsTo_document [] tables h [] _ (Nat.lt_succ_self _)
  rw [List.nil_append, List.map_nil] at hread
  unfold read?
  dsimp only
  split
  · rename_i rest heq
    exact absurd heq (document_ne tables rest)
  · rw [hread]
    simp only [Option.bind_eq_bind, Option.bind_some, memberTrees_draft, settleTable?_toTrees h]
    rfl

end Phrasebook.Toml
