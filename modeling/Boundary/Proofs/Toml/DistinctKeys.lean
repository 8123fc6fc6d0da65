import Boundary.Keyed
import Boundary.Proofs.Text.Scans
import Boundary.Toml.Syntax
import Mathlib.Data.List.Nodup

/-!
No table of a document has a key twice, however deep it stands: an assignment only adds a key that
is not there, a header takes its table out before the table is put back, and inline tables are made
by assignments as well. So it does not matter which entry of a key is asked for.
-/
namespace Boundary

namespace Toml

/-- What each step keeps holds in the end. -/
theorem holds_foldlM {σ α : Type} {P : σ → Prop} {Q : α → Prop} {step : σ → α → Option σ}
    (keeps : ∀ {before a after}, Q a → P before → step before a = some after → P after)
    {steps : List α} (good : ∀ a ∈ steps, Q a) {before after : σ} (start : P before)
    (taken : steps.foldlM step before = some after) : P after := by
  induction steps generalizing before with
  | nil =>
    cases taken
    exact start
  | cons a steps ih =>
    rw [List.forall_mem_cons] at good
    obtain ⟨next, made, taken⟩ := Option.bind_eq_some_iff.1 taken
    exact ih good.2 (keeps good.1 start made) taken

inductive Distinct : Toml → Prop
  | string (s : String) : Distinct (.string s)
  | integer (n : Int) : Distinct (.integer n)
  | float (lexeme : String) : Distinct (.float lexeme)
  | bool (b : Bool) : Distinct (.bool b)
  | datetime (lexeme : String) : Distinct (.datetime lexeme)
  | unreadable (lexeme : String) : Distinct (.unreadable lexeme)
  | array {items : List Toml} (each : ∀ v ∈ items, Distinct v) : Distinct (.array items)
  | table {entries : List (String × Toml)} (keys : (entries.map (·.1)).Nodup)
      (each : ∀ e ∈ entries, Distinct e.2) : Distinct (.table entries)

/-! ### While the document is read -/

inductive Node.Distinct : Node → Prop
  | value {v : Toml} (distinct : v.Distinct) : Distinct (.value v)
  | elements {tables : List Entries} (keys : ∀ t ∈ tables, (t.map (·.1)).Nodup)
      (each : ∀ t ∈ tables, ∀ e ∈ t, Distinct e.2) : Distinct (.elements tables)
  | table {implicit dotted : Bool} {entries : Entries} (keys : (entries.map (·.1)).Nodup)
      (each : ∀ e ∈ entries, Distinct e.2) : Distinct (.table implicit dotted entries)

namespace Entries

structure Distinct (entries : Entries) : Prop where
  keys : (entries.map (·.1)).Nodup
  each : ∀ e ∈ entries, e.2.Distinct

variable {name key : String} {node : Node} {entries inner out : Entries}

theorem distinct_nil : Distinct [] := ⟨.nil, nofun⟩

theorem Distinct.of_lookup (distinct : entries.Distinct) (found : entries.lookup key = some node) :
    node.Distinct :=
  distinct.each _ (Keyed.mem_of_get? found)

theorem mem_put {e : String × Node} (mem : e ∈ put name node entries) :
    e = (name, node) ∨ e ∈ entries := by
  induction entries with
  | nil => exact .inl (List.mem_singleton.1 mem)
  | cons d rest ih =>
    rw [put] at mem
    split at mem
    next same =>
      rcases List.mem_cons.1 mem with rfl | mem
      · exact .inl (by rw [same])
      · exact .inr (.tail _ mem)
    next =>
      rcases List.mem_cons.1 mem with rfl | mem
      · exact .inr (.head _)
      · exact (ih mem).imp_right (.tail _)

theorem keys_put : (put name node entries).map (·.1) =
    if name ∈ entries.map (·.1) then entries.map (·.1) else entries.map (·.1) ++ [name] := by
  induction entries with
  | nil => rfl
  | cons d rest ih =>
    rw [put]
    by_cases same : d.1 = name
    · simp [same]
    · have other : name ≠ d.1 := Ne.symm same
      rw [if_neg same, List.map_cons, ih, List.map_cons]
      simp only [List.mem_cons, other, false_or]
      split <;> rfl

theorem Distinct.put (distinct : entries.Distinct) (good : node.Distinct) :
    (put name node entries).Distinct := by
  constructor
  · rw [keys_put]
    split
    · exact distinct.keys
    next fresh =>
      rw [← List.concat_eq_append]
      exact distinct.keys.concat fresh
  · intro e mem
    rcases mem_put mem with rfl | mem
    · exact good
    · exact distinct.each e mem

theorem Distinct.snoc (distinct : entries.Distinct) (fresh : entries.lookup name = none)
    (good : node.Distinct) : Distinct (entries ++ [(name, node)]) := by
  have absent : name ∉ entries.map (·.1) := by
    intro mem
    obtain ⟨e, found, same⟩ := List.mem_map.1 mem
    exact Keyed.get?_eq_none_iff.1 fresh e found same
  constructor
  · rw [List.map_append, List.map_singleton, ← List.concat_eq_append]
    exact distinct.keys.concat absent
  · intro e mem
    rcases List.mem_append.1 mem with mem | mem
    · exact distinct.each e mem
    · rw [List.mem_singleton.1 mem]
      exact good

theorem Distinct.remove (distinct : entries.Distinct) : (remove name entries).Distinct :=
  ⟨distinct.keys.sublist (List.filter_sublist.map _),
    fun e mem => distinct.each e (List.mem_filter.1 mem).1⟩

/-- What is done to the table at the end of a path is all that can matter. -/
theorem distinct_at? {dotted reached : Bool} {change : Bool → Entries → Option Entries}
    {path : List String}
    (keeps : ∀ {byDots before after}, Distinct before → change byDots before = some after →
      Distinct after)
    (distinct : entries.Distinct) (changed : at? dotted change path reached entries = some out) :
    out.Distinct := by
  induction path generalizing reached entries out with
  | nil => exact keeps distinct changed
  | cons key path ih =>
    rw [at?] at changed
    split at changed
    next =>
      obtain ⟨inner, made, same⟩ := Option.bind_eq_some_iff.1 changed
      cases same
      have good := ih distinct_nil made
      exact distinct.put (.table good.keys good.each)
    next implicit byDots inner found =>
      split at changed
      next => cases changed
      next =>
        obtain ⟨after, made, same⟩ := Option.bind_eq_some_iff.1 changed
        cases same
        cases distinct.of_lookup found with
        | table keys each =>
          have good := ih ⟨keys, each⟩ made
          exact distinct.put (.table good.keys good.each)
    next last before found =>
      obtain ⟨after, made, same⟩ := Option.bind_eq_some_iff.1 changed
      cases same
      cases distinct.of_lookup found with
      | elements keys each =>
        rw [List.forall_mem_cons] at keys each
        have good := ih ⟨keys.1, each.1⟩ made
        exact distinct.put (.elements (List.forall_mem_cons.2 ⟨good.keys, keys.2⟩)
          (List.forall_mem_cons.2 ⟨good.each, each.2⟩))
    next => cases changed

theorem distinct_assign? {path : List String} {v : Toml} (good : v.Distinct)
    (distinct : entries.Distinct) (assigned : assign? path name v entries = some out) :
    out.Distinct := by
  refine distinct_at? ?_ distinct assigned
  intro byDots before after distinct added
  split at added
  next => cases added
  next fresh =>
    cases added
    have absent : before.lookup name = none := by
      cases found : before.lookup name with
      | none => rfl
      | some node => simp [found] at fresh
    exact distinct.snoc absent (.value good)

theorem distinct_find? {path : List String} {found : Option Node} (distinct : entries.Distinct)
    (looked : open?.find? name path entries = some found) : ∀ node ∈ found, node.Distinct := by
  induction path generalizing entries with
  | nil =>
    cases looked
    exact fun node mem => distinct.of_lookup mem
  | cons key path ih =>
    rw [open?.find?] at looked
    split at looked
    next =>
      cases looked
      exact nofun
    next there =>
      cases distinct.of_lookup there with
      | table keys each => exact ih ⟨keys, each⟩ looked
    next there =>
      cases distinct.of_lookup there with
      | elements keys each => exact ih ⟨keys _ (.head _), each _ (.head _)⟩ looked
    next => cases looked

theorem distinct_open? {path : List String} {rest : Entries} (distinct : entries.Distinct)
    (opened : open? path name entries = some (inner, rest)) : inner.Distinct ∧ rest.Distinct := by
  obtain ⟨found, looked, opened⟩ := Option.bind_eq_some_iff.1 opened
  obtain ⟨without, taken, opened⟩ := Option.bind_eq_some_iff.1 opened
  have kept : Distinct without := by
    refine distinct_at? ?_ distinct taken
    intro byDots before after distinct removed
    cases removed
    exact distinct.remove
  have good := distinct_find? distinct looked
  split at opened
  next =>
    cases opened
    exact ⟨distinct_nil, kept⟩
  next =>
    cases opened
    cases good _ rfl with
    | table keys each => exact ⟨⟨keys, each⟩, kept⟩
  next => cases opened

end Entries

/-- The value that a statement assigns has no key twice. -/
def Statement.Distinct : Statement → Prop
  | .assign _ _ v => v.Distinct
  | _ => True

namespace Draft

structure Distinct (d : Draft) : Prop where
  rest : d.rest.Distinct
  current : d.current.Distinct

variable {d after : Draft}

theorem distinct_close? {entries : Entries} (distinct : d.Distinct)
    (closed : d.close? = some entries) : entries.Distinct := by
  unfold close? at closed
  split at closed
  next =>
    cases closed
    exact distinct.current
  next =>
    refine Entries.distinct_at? ?_ distinct.rest closed
    intro byDots before after good made
    cases made
    exact good.put (.table distinct.current.keys distinct.current.each)
  next =>
    refine Entries.distinct_at? ?_ distinct.rest closed
    intro byDots before after good made
    have one : ∀ {tables : List Entries}, Node.Distinct (.elements tables) →
        Node.Distinct (.elements (d.current :: tables)) := by
      intro tables others
      cases others with
      | elements keys each =>
        exact .elements (List.forall_mem_cons.2 ⟨distinct.current.keys, keys⟩)
          (List.forall_mem_cons.2 ⟨distinct.current.each, each⟩)
    split at made
    next absent =>
      cases made
      exact good.snoc absent (one (.elements nofun nofun))
    next found =>
      cases made
      exact good.put (one (good.of_lookup found))
    next => cases made

theorem distinct_add? {statement : Statement} (good : statement.Distinct) (distinct : d.Distinct)
    (added : d.add? statement = some after) : after.Distinct := by
  cases statement with
  | assign path name v =>
    obtain ⟨current, assigned, same⟩ := Option.bind_eq_some_iff.1 added
    cases same
    exact ⟨distinct.rest, Entries.distinct_assign? good distinct.current assigned⟩
  | header path name =>
    obtain ⟨whole, closed, added⟩ := Option.bind_eq_some_iff.1 added
    obtain ⟨⟨current, rest⟩, opened, same⟩ := Option.bind_eq_some_iff.1 added
    cases same
    obtain ⟨current, rest⟩ := Entries.distinct_open? (distinct_close? distinct closed) opened
    exact ⟨rest, current⟩
  | element path name =>
    obtain ⟨whole, closed, same⟩ := Option.bind_eq_some_iff.1 added
    cases same
    exact ⟨distinct_close? distinct closed, Entries.distinct_nil⟩

end Draft

/-! ### The document -/

theorem keys_entriesToToml (entries : Entries) :
    (entriesToToml entries).map (·.1) = entries.map (·.1) := by
  induction entries with
  | nil => rfl
  | cons e entries ih => rw [entriesToToml, List.map_cons, ih, List.map_cons]

mutual
theorem distinct_toToml : ∀ {node : Node}, node.Distinct → node.toToml.Distinct
  | .value _, .value distinct => distinct
  | .elements tables, .elements keys each =>
    .array fun v mem => distinct_tablesToToml keys each v (List.mem_reverse.1 mem)
  | .table _ _ entries, .table keys each =>
    .table (by rwa [keys_entriesToToml]) (distinct_entriesToToml each)
theorem distinct_tablesToToml : ∀ {tables : List Entries},
    (∀ t ∈ tables, (t.map (·.1)).Nodup) → (∀ t ∈ tables, ∀ e ∈ t, e.2.Distinct) →
      ∀ v ∈ tablesToToml tables, v.Distinct
  | [], _, _, _, mem => nomatch mem
  | t :: ts, keys, each, v, mem => by
    rw [List.forall_mem_cons] at keys each
    rcases List.mem_cons.1 mem with rfl | mem
    · exact .table (by rw [keys_entriesToToml]; exact keys.1) (distinct_entriesToToml each.1)
    · exact distinct_tablesToToml keys.2 each.2 v mem
theorem distinct_entriesToToml : ∀ {entries : Entries}, (∀ e ∈ entries, e.2.Distinct) →
    ∀ e ∈ entriesToToml entries, e.2.Distinct
  | [], _, _, mem => nomatch mem
  | (name, node) :: rest, each, e, mem => by
    rw [List.forall_mem_cons] at each
    rcases List.mem_cons.1 mem with rfl | mem
    · exact distinct_toToml each.1
    · exact distinct_entriesToToml each.2 e mem
end

theorem distinct_ofStatements? {statements : List Statement} {document : List (String × Toml)}
    (good : ∀ statement ∈ statements, statement.Distinct)
    (made : ofStatements? statements = some document) : (Toml.table document).Distinct := by
  obtain ⟨draft, read, made⟩ := Option.bind_eq_some_iff.1 made
  obtain ⟨entries, closed, same⟩ := Option.bind_eq_some_iff.1 made
  cases same
  have start : Draft.start.Distinct := ⟨Entries.distinct_nil, Entries.distinct_nil⟩
  have whole := Draft.distinct_close?
    (holds_foldlM (fun good distinct added => Draft.distinct_add? good distinct added) good start
      read) closed
  have root : (Node.table false false entries).Distinct := .table whole.keys whole.each
  exact distinct_toToml root

theorem distinct_ofAssignments? {assignments : List (List String × String × Toml)} {v : Toml}
    (good : ∀ a ∈ assignments, a.2.2.Distinct) (made : ofAssignments? assignments = some v) :
    v.Distinct := by
  obtain ⟨entries, added, same⟩ := Option.bind_eq_some_iff.1 made
  cases same
  have whole : Entries.Distinct entries := by
    refine holds_foldlM ?_ good Entries.distinct_nil added
    intro before a after good distinct assigned
    exact Entries.distinct_assign? good distinct assigned
  exact .table (by rw [keys_entriesToToml]; exact whole.keys) (distinct_entriesToToml whole.each)

/-! ### What is read -/

section
open Scanner

theorem yields_bounded {α : Type} {P : α → Prop} {s : Nat → Scanner α}
    (yields : ∀ fuel, Yields (s fuel) P) : Yields (bounded s) P :=
  fun text a rest made => yields _ text a rest made

theorem yields_items {α : Type} {P : α → Prop} {item : Scanner α} (yields : Yields item P)
    (close : Char) : Yields (items item close) fun made => ∀ a ∈ made, P a := by
  refine yields_bounded fun fuel => ?_
  induction fuel with
  | zero => exact yields_fail
  | succ fuel ih =>
    refine yields_bind fun _ => yields_bind fun next => ?_
    split
    · exact yields_bind fun _ => yields_pure nofun
    · refine yields.bind fun first good => yields_bind fun _ => yields_bind fun next => ?_
      split
      · refine yields_bind fun _ => ih.bind fun others rest => ?_
        exact yields_pure (List.forall_mem_cons.2 ⟨good, rest⟩)
      · exact yields_bind fun _ => yields_pure (List.forall_mem_cons.2 ⟨good, nofun⟩)

theorem distinct_ofInteger (word : List Char) (n : Option Int) : (ofInteger word n).Distinct := by
  unfold ofInteger
  split
  · exact .integer _
  · exact .unreadable _

theorem distinct_ofFloat (word : List Char) (finite : Bool) : (ofFloat word finite).Distinct := by
  unfold ofFloat
  split
  · exact .float _
  · exact .unreadable _

theorem distinct_number? {word : List Char} {v : Toml} (made : number? word = some v) :
    v.Distinct := by
  unfold number? at made
  dsimp only at made
  split at made
  · split at made
    · cases made
      exact distinct_ofInteger _ _
    · cases made
  · split at made
    · cases made
      exact distinct_ofFloat _ _
    · split at made
      · split at made
        · obtain ⟨d, -, rfl⟩ := Option.map_eq_some_iff.1 made
          exact distinct_ofFloat _ _
        · cases made
      · split at made
        · cases made
        · split at made
          · cases made
            exact distinct_ofInteger _ _
          · cases made

theorem distinct_scalarOfLexeme? {word : List Char} {v : Toml}
    (made : scalarOfLexeme? word = some v) : v.Distinct := by
  unfold scalarOfLexeme? at made
  split at made
  · cases made
    exact .bool _
  · split at made
    · cases made
      exact .bool _
    · split at made
      · cases made
        exact .datetime _
      · exact distinct_number? made

theorem yields_scalar : Yields scalar Distinct := by
  refine yields_bind fun word => ?_
  split
  next made => exact yields_pure (distinct_scalarOfLexeme? made)
  next => exact yields_fail

theorem yields_flatValue : Yields flatValue Distinct := by
  refine yields_bind fun next => ?_
  split
  · exact yields_bind fun s => yields_pure (.string s)
  · exact yields_bind fun s => yields_pure (.string s)
  · exact yields_scalar

theorem yields_assignment {between : Scanner Unit} {value : Scanner Toml}
    (yields : Yields value Distinct) :
    Yields (assignment between value) fun made => made.2.2.Distinct := by
  refine yields_bind fun key => yields_bind fun _ => yields_bind fun _ => yields_bind fun _ => ?_
  exact yields.bind fun v good => yields_pure good

theorem yields_value (depth : Nat) : Yields (value depth) Distinct := by
  induction depth with
  | zero => exact yields_flatValue
  | succ depth ih =>
    refine yields_bind fun next => ?_
    split
    · refine yields_bind fun _ => (yields_items ih ']').bind fun made each => ?_
      exact yields_pure (.array each)
    · refine yields_bind fun _ => ?_
      refine (yields_items (yields_assignment ih) '\x7d').bind fun made each => ?_
      split
      next table => exact yields_pure (distinct_ofAssignments? each table)
      next => exact yields_fail
    · exact yields_flatValue

theorem yields_header : Yields header Statement.Distinct := by
  refine yields_bind fun _ => yields_bind fun next => ?_
  split
  · exact yields_bind fun _ => yields_bind fun key => yields_bind fun _ => yields_pure trivial
  · exact yields_bind fun key => yields_bind fun _ => yields_pure trivial

theorem yields_statement :
    Yields statement fun found => ∀ made ∈ found, Statement.Distinct made := by
  have ends : ∀ found : Option Statement, (∀ made ∈ found, Statement.Distinct made) →
      Yields (do spaces; comment; return found)
        fun found => ∀ made ∈ found, Statement.Distinct made :=
    fun found good => yields_bind fun _ => yields_bind fun _ => yields_pure good
  refine yields_bind fun _ => yields_bind fun next => ?_
  split
  case h_5 =>
    have one : Yields (Option.some <$> header) fun found => ∀ made ∈ found, made.Distinct :=
      yields_header.map fun made good => by simpa using good
    exact one.bind ends
  case h_6 =>
    refine (yields_assignment (yields_value maxDepth)).bind fun made good => ends _ ?_
    simpa [Statement.Distinct] using good
  all_goals exact ends none nofun

theorem yields_lines (fuel : Nat) :
    Yields (lines fuel) fun statements => ∀ made ∈ statements, Statement.Distinct made := by
  induction fuel with
  | zero => exact yields_fail
  | succ fuel ih =>
    refine yields_statement.bind fun found good => yields_bind fun left => ?_
    have here : ∀ made ∈ found.toList, Statement.Distinct made := by simpa using good
    split
    · exact yields_pure here
    · refine yields_bind fun _ => ih.bind fun later rest => ?_
      exact yields_pure (List.forall_mem_append.2 ⟨here, rest⟩)

/-- No table of a document has a key twice. -/
theorem distinct_parse? {text : String} {document : List (String × Toml)}
    (parsed : parse? text = some document) : (Toml.table document).Distinct := by
  obtain ⟨statements, read, made⟩ := Option.bind_eq_some_iff.1 parsed
  exact distinct_ofStatements? ((yields_bounded yields_lines).all read) made

end

/-! ### What is asked for -/

section
variable {v : Toml} {key : String} {entries : List (String × Toml)}

theorem Distinct.of_lookup (distinct : Distinct (.table entries))
    (found : entries.lookup key = some v) : v.Distinct := by
  cases distinct with
  | table keys each => exact each _ (Keyed.mem_of_get? found)

/-- In a table with different keys each entry is found. -/
theorem lookup_of_mem (keys : (entries.map (·.1)).Nodup) (mem : (key, v) ∈ entries) :
    entries.lookup key = some v := by
  induction entries with
  | nil => cases mem
  | cons e entries ih =>
    obtain ⟨once, keys⟩ := List.nodup_cons.1 keys
    change Keyed.get? key (e :: entries) = some v
    rw [Keyed.get?_cons]
    rcases List.mem_cons.1 mem with rfl | mem
    · exact if_pos rfl
    · have other : key ≠ e.1 := by
        rintro rfl
        exact once (List.mem_map.2 ⟨_, mem, rfl⟩)
      rw [if_neg other]
      exact ih keys mem

end

end Toml
end Boundary
