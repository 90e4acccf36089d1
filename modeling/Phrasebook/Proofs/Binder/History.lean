import Mathlib.Data.Finset.Card
import Phrasebook.Proofs.Binder.Highest

/-!
# A binder recalls its history

A `History` is what was done under normalized keys, the latest change first,
and nothing in it is ever taken back: `History.latest` finds the value most
recently bound under a key and not since unbound. `History.perform` is the
plainest account of the operations, in which each way to bind is binding under
a key as it is given and the highest position is searched for each time.

`Mirrors` relates a binder to the history of the same operations;
`mirrors_perform` is the step and `mirrors_run` the run. `Refines` is what
follows for all that can be asked of the binder (`run_refines`).
-/

namespace Phrasebook

/-- A change of what is bound. -/
inductive Change where
  | bound (key : Key) (value : Value)
  | unbound (key : Key)
  | cleared

namespace Change

/-- Whether the change says what is bound under the key. -/
def touches (key : Key) : Change → Bool
  | .bound k _ => k = key
  | .unbound k => k = key
  | .cleared => true

/-- The value that the change binds. -/
def value? : Change → Option Value
  | .bound _ value => some value
  | _ => none

/-- The position at which the change binds a value. -/
def position? : Change → Option Nat
  | .bound key _ => key.index?
  | _ => none

end Change

/-- The changes of a binder, the latest first. -/
abbrev History := List Change

namespace History

/-- The value most recently bound under a key and not since unbound or cleared. -/
def latest (history : History) (key : Key) : Option Value :=
  (history.find? (·.touches key)).bind Change.value?

/-- The highest position at which a value is recalled. -/
def highest (history : History) : Option Nat :=
  ((history.filterMap Change.position?).filter fun n => (history.latest (.index n)).isSome).max?

/-- Values bound at the positions from `start` on. -/
def pushed (start : Nat) (values : List Value) : History :=
  ((values.zipIdx start).map fun (value, n) => .bound (.index n) value).reverse

/-- Binds under a key as it is given. -/
def bind (history : History) (caseSensitive : Bool) (key : KeyName) (value : Value) :
    Except Error (Option Value) × History :=
  match key.normalize caseSensitive with
  | .ok k => (.ok (history.latest k), .bound k value :: history)
  | .error error => (.error error, history)

/-- Binds values at the positions after the highest, all of them or none. -/
def push (history : History) (values : List Value) : Except Error (Option Value) × History :=
  let start := history.highest.elim 0 (· + 1)
  if values = [] then (.ok none, history)
  else if start + (values.length - 1) ≤ Binder.maxPushed then
    (.ok none, pushed start values ++ history)
  else (.error (.indexOverflow (history.highest.getD 0) values.length), history)

/-- Unbinds what a key as it is given means. -/
def unbind (history : History) (caseSensitive : Bool) (key : KeyName) :
    Except Error (Option Value) × History :=
  match key.normalize caseSensitive with
  | .ok k => (.ok (history.latest k), .unbound k :: history)
  | .error error => (.error error, history)

/-- Carries out an operation: its reply, and the history with it. -/
def perform (caseSensitive : Bool) (history : History) :
    Binder.Operation → Except Error (Option Value) × History
  | .bind key value => history.bind caseSensitive key value
  | .bindIndex n value => history.bind caseSensitive (.position n) value
  | .bindName name value => history.bind caseSensitive (.name name) value
  | .bindType datum => history.bind caseSensitive (.type (.of datum.typeName)) (.sealed datum)
  | .bindUnder datum root =>
    history.bind caseSensitive (.type ((TypeKey.of datum.typeName).under root)) (.sealed datum)
  | .push values => history.push values
  | .unbind key => history.unbind caseSensitive key
  | .clear => (.ok none, .cleared :: history)

/-- The history of a list of operations. -/
def run (caseSensitive : Bool) (history : History) (ops : List Binder.Operation) : History :=
  ops.foldl (fun h op => (h.perform caseSensitive op).2) history

/-! ## Recalling after a change -/

@[simp] theorem latest_nil (key : Key) : latest [] key = none := rfl

theorem latest_cons (change : Change) (history : History) (key : Key) :
    latest (change :: history) key =
      if change.touches key then change.value? else history.latest key := by
  simp only [latest, List.find?_cons]
  cases change.touches key <;> rfl

theorem latest_bound (k key : Key) (value : Value) (history : History) :
    latest (.bound k value :: history) key =
      if k = key then some value else history.latest key := by
  rw [latest_cons]
  simp only [Change.touches, decide_eq_true_eq, Change.value?]

theorem latest_unbound (k key : Key) (history : History) :
    latest (.unbound k :: history) key = if k = key then none else history.latest key := by
  rw [latest_cons]
  simp only [Change.touches, decide_eq_true_eq, Change.value?]

@[simp] theorem latest_cleared (key : Key) (history : History) :
    latest (.cleared :: history) key = none := rfl

/-- A value that is recalled was bound. -/
theorem bound_mem_of_latest {history : History} {key : Key} {value : Value}
    (h : history.latest key = some value) : .bound key value ∈ history := by
  rw [latest, Option.bind_eq_some_iff] at h
  obtain ⟨change, hfind, hvalue⟩ := h
  have htouches := List.find?_some hfind
  cases change with
  | bound k v =>
    simp only [Change.touches, decide_eq_true_eq, Change.value?, Option.some.injEq] at htouches hvalue
    rw [← htouches, ← hvalue]
    exact List.mem_of_find?_eq_some hfind
  | unbound | cleared => cases hvalue

theorem highest_eq_some_iff {history : History} {m : Nat} :
    history.highest = some m ↔ IsGreatest {n | (history.latest (.index n)).isSome} m := by
  have hmem : ∀ n, n ∈ (history.filterMap Change.position?).filter
      (fun n => (history.latest (.index n)).isSome) ↔ (history.latest (.index n)).isSome := by
    intro n
    rw [List.mem_filter]
    refine ⟨And.right, fun h => ⟨?_, h⟩⟩
    obtain ⟨value, hvalue⟩ := Option.isSome_iff_exists.mp h
    exact List.mem_filterMap.mpr ⟨_, bound_mem_of_latest hvalue, rfl⟩
  rw [highest, List.max?_eq_some_iff]
  simp only [hmem, IsGreatest, upperBounds, Set.mem_ofPred_eq]

theorem pushed_cons (start : Nat) (value : Value) (rest : List Value) (history : History) :
    pushed start (value :: rest) ++ history =
      pushed (start + 1) rest ++ .bound (.index start) value :: history := by
  simp only [pushed, List.zipIdx_cons, List.map_cons, List.reverse_cons, List.append_assoc,
    List.cons_append, List.nil_append]

end History

namespace Binder

/-! ## The binder beside the history -/

/-- The binder holds what the history recalls. -/
structure Mirrors (binder : Binder) (caseSensitive : Bool) (history : History) : Prop where
  caseSensitive : binder.caseSensitive = caseSensitive
  at? : ∀ key, binder.at? key = history.latest key
  tracked : binder.Tracked

namespace Mirrors

theorem empty (caseSensitive : Bool) : (empty caseSensitive).Mirrors caseSensitive [] :=
  ⟨rfl, at?_empty caseSensitive, tracked_empty caseSensitive⟩

variable {binder : Binder} {caseSensitive : Bool} {history : History}

theorem keyOf (h : binder.Mirrors caseSensitive history) (key : KeyName) :
    binder.keyOf key = key.normalize caseSensitive := by
  rw [Binder.keyOf, h.caseSensitive]

/-- What the binder remembers is what a search of the history finds. -/
theorem highest (h : binder.Mirrors caseSensitive history) : binder.highest = history.highest := by
  have hset : binder.positions = {n | (history.latest (.index n)).isSome} := by
    ext n
    rw [mem_positions, h.at?]
    rfl
  refine Option.ext fun m => ?_
  rw [h.tracked.highest_eq_some_iff, History.highest_eq_some_iff, hset]

theorem insert (h : binder.Mirrors caseSensitive history) (key : Key) (value : Value) :
    (binder.insert key value).Mirrors caseSensitive (.bound key value :: history) :=
  ⟨h.caseSensitive, fun k => by rw [at?_insert, History.latest_bound, h.at?],
    h.tracked.insert key value⟩

theorem erase (h : binder.Mirrors caseSensitive history) (key : Key) :
    (binder.erase key).Mirrors caseSensitive (.unbound key :: history) :=
  ⟨h.caseSensitive, fun k => by rw [at?_erase, History.latest_unbound, h.at?],
    h.tracked.erase key⟩

theorem clear (h : binder.Mirrors caseSensitive history) :
    binder.clear.Mirrors caseSensitive (.cleared :: history) := by
  rw [Binder.clear, h.caseSensitive]
  exact ⟨rfl, at?_empty caseSensitive, tracked_empty caseSensitive⟩

theorem insertFrom (h : binder.Mirrors caseSensitive history) (start : Nat) (values : List Value) :
    (binder.insertFrom start values).Mirrors caseSensitive
      (History.pushed start values ++ history) := by
  induction values generalizing binder history start with
  | nil => exact h
  | cons value rest ih =>
    rw [History.pushed_cons]
    exact ih (h.insert (.index start) value) (start + 1)

/-- Binding under a key replies with what the history recalls. -/
theorem perform_bind (h : binder.Mirrors caseSensitive history) (key : KeyName) (value : Value) :
    (binder.perform (.bind key value)).1 = (history.bind caseSensitive key value).1 ∧
      (binder.perform (.bind key value)).2.Mirrors caseSensitive
        (history.bind caseSensitive key value).2 := by
  rw [Binder.perform_bind, h.keyOf, History.bind]
  cases key.normalize caseSensitive with
  | ok k => exact ⟨congrArg Except.ok (h.at? k), h.insert k value⟩
  | error => exact ⟨rfl, h⟩

theorem perform_unbind (h : binder.Mirrors caseSensitive history) (key : KeyName) :
    (binder.perform (.unbind key)).1 = (history.unbind caseSensitive key).1 ∧
      (binder.perform (.unbind key)).2.Mirrors caseSensitive
        (history.unbind caseSensitive key).2 := by
  rw [Binder.perform_unbind, h.keyOf, History.unbind]
  cases key.normalize caseSensitive with
  | ok k => exact ⟨congrArg Except.ok (h.at? k), h.erase k⟩
  | error => exact ⟨rfl, h⟩

theorem perform_push (h : binder.Mirrors caseSensitive history) (values : List Value) :
    (binder.perform (.push values)).1 = (history.push values).1 ∧
      (binder.perform (.push values)).2.Mirrors caseSensitive (history.push values).2 := by
  have hstart : binder.next = history.highest.elim 0 (· + 1) := by
    rw [next_eq_elim, h.highest]
  rw [Binder.perform_push, History.push, hstart, h.highest]
  split
  · exact ⟨rfl, h⟩
  · split
    · exact ⟨rfl, h.insertFrom _ values⟩
    · exact ⟨rfl, h⟩

end Mirrors

/-! ## One operation, and a run -/

/-- The ways to bind are binding under the key that each stands for. -/
theorem perform_bindIndex (binder : Binder) (n : Nat) (value : Value) :
    binder.perform (.bindIndex n value) = binder.perform (.bind (.position n) value) := rfl

theorem perform_bindName (binder : Binder) (name : String) (value : Value) :
    binder.perform (.bindName name value) = binder.perform (.bind (.name name) value) := rfl

theorem perform_bindType (binder : Binder) (datum : Datum) :
    binder.perform (.bindType datum) =
      binder.perform (.bind (.type (.of datum.typeName)) (.sealed datum)) := rfl

theorem perform_bindUnder (binder : Binder) (datum : Datum) (root : TypeName) :
    binder.perform (.bindUnder datum root) =
      binder.perform (.bind (.type ((TypeKey.of datum.typeName).under root)) (.sealed datum)) := rfl

variable {binder : Binder} {caseSensitive : Bool} {history : History}

theorem mirrors_perform (h : binder.Mirrors caseSensitive history) (op : Operation) :
    (binder.perform op).1 = (history.perform caseSensitive op).1 ∧
      (binder.perform op).2.Mirrors caseSensitive (history.perform caseSensitive op).2 := by
  cases op with
  | bind key value => exact h.perform_bind key value
  | bindIndex n value => rw [perform_bindIndex]; exact h.perform_bind _ value
  | bindName name value => rw [perform_bindName]; exact h.perform_bind _ value
  | bindType datum => rw [perform_bindType]; exact h.perform_bind _ _
  | bindUnder datum root => rw [perform_bindUnder]; exact h.perform_bind _ _
  | push values => exact h.perform_push values
  | unbind key => exact h.perform_unbind key
  | clear => exact ⟨rfl, h.clear⟩

theorem mirrors_run (h : binder.Mirrors caseSensitive history) (ops : List Operation) :
    (binder.run ops).Mirrors caseSensitive (History.run caseSensitive history ops) := by
  induction ops generalizing binder history with
  | nil => exact h
  | cons op ops ih => exact ih (mirrors_perform h op).2

/-! ## All that can be asked of a binder -/

/-- A key as it is given means nothing exactly if it is a position below zero. -/
theorem keyOf_eq_error_iff (binder : Binder) (key : KeyName) (error : Error) :
    binder.keyOf key = .error error ↔ ∃ n < 0, key = .index n ∧ error = .negativeIndex n := by
  rcases key with name | (n | n) | n | type
  case index.negSucc =>
    constructor
    · intro h
      exact ⟨_, Int.negSucc_lt_zero n, rfl, (Except.error.inj h).symm⟩
    · rintro ⟨m, -, hm, rfl⟩
      rw [← KeyName.index.inj hm]
      rfl
  case index.ofNat =>
    constructor
    · intro h; cases h
    · rintro ⟨m, hlt, hm, -⟩
      rw [← KeyName.index.inj hm] at hlt
      exact absurd hlt (Int.not_lt.mpr (Int.natCast_nonneg n))
  all_goals
    constructor
    · intro h; cases h
    · rintro ⟨m, -, hm, -⟩; cases hm

theorem Mirrors.size (h : binder.Mirrors caseSensitive history) :
    ∃ live : Finset Key, (∀ key, key ∈ live ↔ (history.latest key).isSome) ∧
      binder.size = live.card := by
  refine ⟨binder.entries.keys.toFinset, fun key => ?_, ?_⟩
  · rw [List.mem_toFinset, Std.ExtTreeMap.mem_keys, ← h.at?, Binder.at?,
      Std.ExtTreeMap.mem_iff_isSome_getElem?]
  · rw [List.toFinset_card_of_nodup Std.ExtTreeMap.nodup_keys, Std.ExtTreeMap.length_keys,
      Binder.size]

/-- Every answer of the binder is the one that its history gives. -/
structure Refines (binder : Binder) (caseSensitive : Bool) (history : History) : Prop where
  /-- Two keys as they are given are the same if they are normalized to the same. -/
  keyOf : ∀ key, binder.keyOf key = key.normalize caseSensitive
  /-- Looking up fails exactly for a position below zero. -/
  get?_error : ∀ key error,
    binder.get? key = .error error ↔ ∃ n < 0, key = .index n ∧ error = .negativeIndex n
  /-- Any other key has the value most recently bound and not since unbound. -/
  get?_ok : ∀ key k, binder.keyOf key = .ok k → binder.get? key = .ok (history.latest k)
  isBound : ∀ key, binder.isBound key = (binder.get? key).map Option.isSome
  isTypeBound : ∀ type, .ok (binder.isTypeBound type) = binder.isBound (.type (.of type))
  /-- The size counts the keys under which something is bound. -/
  size : ∃ live : Finset Key,
    (∀ key, key ∈ live ↔ (history.latest key).isSome) ∧ binder.size = live.card
  /-- Binding replies with the value replaced and unbinding with the value
  removed; no operation fails unless the history says so. -/
  reply : ∀ op, (binder.perform op).1 = (history.perform caseSensitive op).1
  bind_negative : ∀ n < 0, ∀ value,
    binder.perform (.bind (.index n) value) = (.error (.negativeIndex n), binder)
  unbind_negative : ∀ n < 0,
    binder.perform (.unbind (.index n)) = (.error (.negativeIndex n), binder)
  bindName : ∀ name value,
    binder.perform (.bindName name value) = binder.perform (.bind (.name name) value)
  bindIndex : ∀ n value,
    binder.perform (.bindIndex n value) = binder.perform (.bind (.position n) value)
  bindIndex_signed : ∀ (n : Nat) value,
    binder.perform (.bindIndex n value) = binder.perform (.bind (.index n) value)
  bindType : ∀ datum, binder.perform (.bindType datum) =
    binder.perform (.bind (.type (.of datum.typeName)) (.sealed datum))
  bindUnder : ∀ datum root, binder.perform (.bindUnder datum root) =
    binder.perform (.bind (.type ((TypeKey.of datum.typeName).under root)) (.sealed datum))

/-- A key that means nothing changes nothing. -/
theorem perform_negative (binder : Binder) {n : Int} (hn : n < 0) :
    (∀ value, binder.perform (.bind (.index n) value) = (.error (.negativeIndex n), binder)) ∧
      binder.perform (.unbind (.index n)) = (.error (.negativeIndex n), binder) := by
  have hkey := (keyOf_eq_error_iff binder (.index n) _).mpr ⟨n, hn, rfl, rfl⟩
  refine ⟨fun value => ?_, ?_⟩
  · rw [perform_bind, hkey]
  · rw [perform_unbind, hkey]

theorem get?_eq_error_iff (binder : Binder) (key : KeyName) (error : Error) :
    binder.get? key = .error error ↔ binder.keyOf key = .error error := by
  rw [get?]
  cases binder.keyOf key <;> simp [Except.bind, Bind.bind, pure, Except.pure]

/-- After any operations a binder answers as the history of these operations
does: it is the map from normalized keys to the values most recently bound. -/
theorem run_refines (caseSensitive : Bool) (ops : List Operation) :
    ((empty caseSensitive).run ops).Refines caseSensitive (History.run caseSensitive [] ops) := by
  have h := mirrors_run (Mirrors.empty caseSensitive) ops
  generalize (empty caseSensitive).run ops = binder at h
  exact
    { keyOf := h.keyOf
      get?_error := fun key error =>
        (get?_eq_error_iff binder key error).trans (keyOf_eq_error_iff binder key error)
      get?_ok := fun key k hk => by rw [get?, hk, ← h.at?]; rfl
      isBound := fun key => by rw [isBound, get?]; cases binder.keyOf key <;> rfl
      isTypeBound := fun _ => rfl
      size := h.size
      reply := fun op => (mirrors_perform h op).1
      bind_negative := fun n hn => (perform_negative binder hn).1
      unbind_negative := fun n hn => (perform_negative binder hn).2
      bindName := perform_bindName binder
      bindIndex := perform_bindIndex binder
      bindIndex_signed := fun _ _ => rfl
      bindType := perform_bindType binder
      bindUnder := perform_bindUnder binder }

end Binder

end Phrasebook
