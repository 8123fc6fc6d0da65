import Boundary.Callback.Registry
/-!
A registry answers as its history demands: what was asked of it so far, with the answers, says which
numbers have been issued, which of them have been withdrawn, and what is registered under the rest.
-/
namespace Boundary.History
variable {α : Type}

inductive Op (α : Type) where
  | register (a : α)
  | lookup (id : Int)
  | unregister (id : Int)
  | size

inductive Answer (α : Type) where
  | registered (id : Int)
  | refused (e : BridgeError)
  | faulted (f : Fault)
  | found (a? : Option α)
  | removed (done : Bool)
  | counted (n : Nat)

def perform (r : Registry α) : Op α → Answer α × Registry α
  | .register a =>
    match r.register a with
    | .ok (.ok (id, r)) => (.registered id, r)
    | .ok (.error e) => (.refused e, r)
    | .error f => (.faulted f, r)
  | .lookup id => (.found (r.lookup id), r)
  | .unregister id =>
    match r.unregister id with
    | some (_, r) => (.removed true, r)
    | none => (.removed false, r)
  | .size => (.counted r.size, r)

structure Event (α : Type) where
  op : Op α
  answer : Answer α

/-- What happens, and the registry in the end. -/
def run (r : Registry α) : List (Op α) → List (Event α) × Registry α
  | [] => ([], r)
  | op :: ops =>
    (⟨op, (perform r op).1⟩ :: (run (perform r op).2 ops).1, (run (perform r op).2 ops).2)

/-! ### What a history says -/

def Event.issued? : Event α → Option Int
  | ⟨_, .registered id⟩ => some id
  | _ => none

def Event.withdrawn? : Event α → Option Int
  | ⟨.unregister id, .removed true⟩ => some id
  | _ => none

def issued (past : List (Event α)) : List Int := past.filterMap Event.issued?

def withdrawn (past : List (Event α)) : List Int := past.filterMap Event.withdrawn?

def live (past : List (Event α)) : List Int := (issued past).filter fun id => id ∉ withdrawn past

/-- The first `n` numbers, in order. -/
def numbers (n : Nat) : List Int := (List.range n).map fun k : Nat => (k : Int) + 1

theorem numbers_succ (n : Nat) : numbers (n + 1) = numbers n ++ [(n : Int) + 1] := by
  unfold numbers
  rw [List.range_succ, List.map_append]
  rfl

/-- The number was issued for `a`, and has not been given back since. -/
def Live (past : List (Event α)) (id : Int) (a : α) : Prop :=
  ∃ before since, past = before ++ ⟨.register a, .registered id⟩ :: since ∧
    ∀ e ∈ since, e.op ≠ .unregister id

theorem live_nil (id : Int) (a : α) : ¬ Live [] id a := by
  rintro ⟨before, since, split, -⟩
  cases before <;> cases split

theorem live_snoc (past : List (Event α)) (e : Event α) (id : Int) (a : α) :
    Live (past ++ [e]) id a ↔
      Live past id a ∧ e.op ≠ .unregister id ∨ e = ⟨.register a, .registered id⟩ := by
  constructor
  · rintro ⟨before, since, split, quiet⟩
    rcases List.eq_nil_or_concat since with rfl | ⟨since, last, rfl⟩
    · right
      have same := List.append_inj_right' split rfl
      cases same
      rfl
    · left
      rw [List.concat_eq_append, ← List.cons_append, ← List.append_assoc] at split
      obtain ⟨front, back⟩ := List.append_inj' split rfl
      cases back
      rw [List.concat_eq_append] at quiet
      refine ⟨⟨before, since, front, ?_⟩, ?_⟩
      · intro d mem
        exact quiet d (List.mem_append_left _ mem)
      · exact quiet e (List.mem_append_right _ (List.mem_singleton_self e))
  · rintro (⟨⟨before, since, rfl, quiet⟩, other⟩ | rfl)
    · refine ⟨before, since ++ [e], ?_, ?_⟩
      · rw [List.append_assoc, List.cons_append]
      · intro d mem
        rcases List.mem_append.1 mem with mem | mem
        · exact quiet d mem
        · rw [List.mem_singleton.1 mem]
          exact other
    · refine ⟨past, [], rfl, ?_⟩
      intro d mem
      cases mem

theorem issued_snoc_of_none (past : List (Event α)) {e : Event α} (h : e.issued? = none) :
    issued (past ++ [e]) = issued past := by
  unfold issued
  rw [List.filterMap_append, List.filterMap_cons_none h, List.filterMap_nil, List.append_nil]

theorem issued_snoc_of_some (past : List (Event α)) {e : Event α} {id : Int}
    (h : e.issued? = some id) : issued (past ++ [e]) = issued past ++ [id] := by
  unfold issued
  rw [List.filterMap_append, List.filterMap_cons_some h, List.filterMap_nil]

theorem withdrawn_snoc_of_none (past : List (Event α)) {e : Event α} (h : e.withdrawn? = none) :
    withdrawn (past ++ [e]) = withdrawn past := by
  unfold withdrawn
  rw [List.filterMap_append, List.filterMap_cons_none h, List.filterMap_nil, List.append_nil]

theorem withdrawn_snoc_of_some (past : List (Event α)) {e : Event α} {id : Int}
    (h : e.withdrawn? = some id) : withdrawn (past ++ [e]) = withdrawn past ++ [id] := by
  unfold withdrawn
  rw [List.filterMap_append, List.filterMap_cons_some h, List.filterMap_nil]

theorem mem_live_iff (past : List (Event α)) (id : Int) :
    id ∈ live past ↔ id ∈ issued past ∧ id ∉ withdrawn past := by
  unfold live
  rw [List.mem_filter, decide_eq_true_iff]

/-! ### The registry beside its history -/

structure Recorded (kind : Capability) (limit : Nat) (past : List (Event α)) (r : Registry α) :
    Prop where
  kind_eq : r.kind = kind
  limit_eq : r.limit = limit
  lastId_eq : r.lastId = (issued past).length
  issued_eq : issued past = numbers (issued past).length
  keys_eq : r.entries.map (·.1) = live past
  lookup_iff : ∀ id a, r.lookup id = some a ↔ Live past id a
  withdrawn_issued : ∀ id ∈ withdrawn past, id ∈ issued past
  withdrawn_once : (withdrawn past).Nodup
  size_le : 0 < limit → r.size ≤ limit

variable {kind : Capability} {limit : Nat} {past : List (Event α)} {r : Registry α}

theorem recorded_empty (kind : Capability) (limit : Nat) :
    Recorded kind limit [] (Registry.empty kind limit : Registry α) := by
  constructor
  · rfl
  · rfl
  · rfl
  · rfl
  · rfl
  · intro id a
    constructor
    · intro found
      cases found
    · intro alive
      exact absurd alive (live_nil id a)
  · intro id mem
    cases mem
  · exact .nil
  · intro positive
    exact Nat.zero_le limit

theorem Recorded.issued_bounds (recorded : Recorded kind limit past r) {id : Int}
    (mem : id ∈ issued past) : 1 ≤ id ∧ id ≤ r.lastId := by
  rw [recorded.issued_eq] at mem
  unfold numbers at mem
  obtain ⟨n, below, rfl⟩ := List.mem_map.1 mem
  have := List.mem_range.1 below
  rw [recorded.lastId_eq]
  omega

theorem Recorded.size_eq (recorded : Recorded kind limit past r) :
    r.size = (live past).length := by
  rw [← recorded.keys_eq, List.length_map]
  rfl

/-- Nothing changes for the registry when no number is issued and none is given back. -/
theorem recorded_neutral (recorded : Recorded kind limit past r) {e : Event α}
    (no_issue : e.issued? = none) (no_return : e.withdrawn? = none)
    (vain : ∀ id, e.op = .unregister id → r.lookup id = none) :
    Recorded kind limit (past ++ [e]) r := by
  have issued_same := issued_snoc_of_none past no_issue
  have withdrawn_same := withdrawn_snoc_of_none past no_return
  have live_same : live (past ++ [e]) = live past := by
    unfold live
    rw [issued_same, withdrawn_same]
  refine ⟨recorded.kind_eq, recorded.limit_eq, ?_, ?_, ?_, ?_, ?_, ?_, recorded.size_le⟩
  · rw [issued_same]
    exact recorded.lastId_eq
  · rw [issued_same]
    exact recorded.issued_eq
  · rw [live_same]
    exact recorded.keys_eq
  · intro id a
    rw [live_snoc, recorded.lookup_iff]
    constructor
    · intro alive
      refine .inl ⟨alive, fun asked => ?_⟩
      have gone := vain id asked
      rw [(recorded.lookup_iff id a).2 alive] at gone
      cases gone
    · rintro (⟨alive, -⟩ | rfl)
      · exact alive
      · cases no_issue
  · rw [issued_same, withdrawn_same]
    exact recorded.withdrawn_issued
  · rw [withdrawn_same]
    exact recorded.withdrawn_once

theorem recorded_add (recorded : Recorded kind limit past r) (a : α)
    (room : r.isFull = false) (below : r.lastId < maxCallbackId) :
    Recorded kind limit (past ++ [⟨.register a, .registered (r.lastId + 1)⟩]) (r.add a below) := by
  have issued_more : issued (past ++ [⟨.register a, .registered (r.lastId + 1)⟩]) =
      issued past ++ [r.lastId + 1] := issued_snoc_of_some past rfl
  have withdrawn_same : withdrawn (past ++ [⟨.register a, .registered (r.lastId + 1)⟩]) =
      withdrawn past := withdrawn_snoc_of_none past rfl
  have fresh : r.lastId + 1 ∉ withdrawn past := by
    intro mem
    have := recorded.issued_bounds (recorded.withdrawn_issued _ mem)
    omega
  refine ⟨recorded.kind_eq, recorded.limit_eq, ?_, ?_, ?_, ?_, ?_, ?_, ?_⟩
  · rw [issued_more, List.length_append, List.length_singleton]
    change r.lastId + 1 = _
    rw [recorded.lastId_eq]
    rfl
  · rw [issued_more, List.length_append, List.length_singleton, numbers_succ,
      ← recorded.issued_eq, recorded.lastId_eq]
  · unfold live
    rw [issued_more, withdrawn_same, List.filter_append]
    change (r.entries ++ [(r.lastId + 1, a)]).map (·.1) = _
    rw [List.map_append, recorded.keys_eq]
    simp [live, fresh]
  · intro id b
    rw [Registry.lookup_add, live_snoc, ← recorded.lookup_iff]
    have new : r.lookup (r.lastId + 1) = none :=
      Registry.lookup_eq_none_of_lastId_lt (by omega)
    by_cases last : id = r.lastId + 1
    · subst last
      rw [if_pos rfl, new]
      simp
    · rw [if_neg last]
      simp [Ne.symm last]
  · rw [issued_more, withdrawn_same]
    intro id mem
    exact List.mem_append_left _ (recorded.withdrawn_issued id mem)
  · rw [withdrawn_same]
    exact recorded.withdrawn_once
  · intro positive
    rw [Registry.size_add]
    unfold Registry.isFull at room
    rw [recorded.limit_eq] at room
    simp [positive] at room
    omega

theorem recorded_remove (recorded : Recorded kind limit past r) {id : Int} {a : α}
    (found : r.lookup id = some a) :
    Recorded kind limit (past ++ [⟨.unregister id, .removed true⟩]) (r.remove id) := by
  have issued_same : issued (past ++ [⟨.unregister id, .removed true⟩]) = issued past :=
    issued_snoc_of_none past rfl
  have withdrawn_more : withdrawn (past ++ [⟨.unregister id, .removed true⟩]) =
      withdrawn past ++ [id] := withdrawn_snoc_of_some past rfl
  have alive : id ∈ live past := by
    rw [← recorded.keys_eq]
    exact List.mem_map.2 ⟨(id, a), Keyed.mem_of_get? found, rfl⟩
  rw [mem_live_iff] at alive
  refine ⟨recorded.kind_eq, recorded.limit_eq, ?_, ?_, ?_, ?_, ?_, ?_, ?_⟩
  · rw [issued_same]
    exact recorded.lastId_eq
  · rw [issued_same]
    exact recorded.issued_eq
  · have keys : (r.entries.filter (·.1 ≠ id)).map (·.1) = (live past).filter (· ≠ id) := by
      rw [← recorded.keys_eq, List.filter_map]
      rfl
    unfold live at keys ⊢
    rw [issued_same, withdrawn_more]
    change (r.entries.filter (·.1 ≠ id)).map (·.1) = _
    rw [keys, List.filter_filter]
    refine List.filter_congr fun other _ => ?_
    simp [and_comm]
  · intro other b
    rw [Registry.lookup_remove, live_snoc, ← recorded.lookup_iff]
    by_cases same : other = id
    · simp [same]
    · simp [same, Ne.symm same]
  · rw [issued_same, withdrawn_more]
    intro other mem
    rcases List.mem_append.1 mem with mem | mem
    · exact recorded.withdrawn_issued other mem
    · rw [List.mem_singleton.1 mem]
      exact alive.1
  · rw [withdrawn_more, List.nodup_append]
    refine ⟨recorded.withdrawn_once, List.pairwise_singleton .., ?_⟩
    intro other mem last lastMem same
    rw [same, List.mem_singleton.1 lastMem] at mem
    exact alive.2 mem
  · intro positive
    exact Nat.le_trans (List.length_filter_le ..) (recorded.size_le positive)

/-! ### What a registry answers -/

theorem perform_register_of_full (full : r.isFull = true) (a : α) :
    perform r (.register a) = (.refused (.registryFull r.kind r.limit), r) := by
  have answer : r.register a = .ok (.error (.registryFull r.kind r.limit)) := by
    unfold Registry.register
    rw [if_pos full]
  rw [perform, answer]

theorem perform_register_of_spent (room : r.isFull = false) (spent : ¬ r.lastId < maxCallbackId)
    (a : α) : perform r (.register a) = (.faulted (.callbackIdOverflow r.kind.text), r) := by
  have answer : r.register a = .error (.callbackIdOverflow r.kind.text) := by
    unfold Registry.register
    rw [room, if_neg Bool.false_ne_true, dif_neg spent]
  rw [perform, answer]

theorem perform_register_of_room (room : r.isFull = false) (below : r.lastId < maxCallbackId)
    (a : α) : perform r (.register a) = (.registered (r.lastId + 1), r.add a below) := by
  have answer : r.register a = .ok (.ok (r.lastId + 1, r.add a below)) := by
    unfold Registry.register
    rw [room, if_neg Bool.false_ne_true, dif_pos below]
  rw [perform, answer]

theorem perform_unregister_of_some {id : Int} {a : α} (found : r.lookup id = some a) :
    perform r (.unregister id) = (.removed true, r.remove id) := by
  have answer : r.unregister id = some (a, r.remove id) := by
    unfold Registry.unregister
    rw [found]
    rfl
  rw [perform, answer]

theorem perform_unregister_of_none {id : Int} (missing : r.lookup id = none) :
    perform r (.unregister id) = (.removed false, r) := by
  have answer : r.unregister id = none := by
    unfold Registry.unregister
    rw [missing]
    rfl
  rw [perform, answer]

theorem recorded_perform (recorded : Recorded kind limit past r) (op : Op α) :
    Recorded kind limit (past ++ [⟨op, (perform r op).1⟩]) (perform r op).2 := by
  cases op with
  | register a =>
    cases full : r.isFull with
    | true =>
      rw [perform_register_of_full full]
      refine recorded_neutral recorded rfl rfl ?_
      intro id asked
      cases asked
    | false =>
      by_cases below : r.lastId < maxCallbackId
      · rw [perform_register_of_room full below]
        exact recorded_add recorded a full below
      · rw [perform_register_of_spent full below]
        refine recorded_neutral recorded rfl rfl ?_
        intro id asked
        cases asked
  | lookup id =>
    refine recorded_neutral recorded rfl rfl ?_
    intro other asked
    cases asked
  | unregister id =>
    cases found : r.lookup id with
    | none =>
      rw [perform_unregister_of_none found]
      refine recorded_neutral recorded rfl rfl ?_
      intro other asked
      cases asked
      exact found
    | some a =>
      rw [perform_unregister_of_some found]
      exact recorded_remove recorded found
  | size =>
    refine recorded_neutral recorded rfl rfl ?_
    intro id asked
    cases asked

theorem recorded_run (recorded : Recorded kind limit past r) (ops : List (Op α)) :
    Recorded kind limit (past ++ (run r ops).1) (run r ops).2 := by
  induction ops generalizing past r with
  | nil =>
    unfold run
    rw [List.append_nil]
    exact recorded
  | cons op ops ih =>
    have whole := ih (recorded_perform recorded op)
    rw [List.append_assoc] at whole
    exact whole

theorem Recorded.mem_live_iff_lookup (recorded : Recorded kind limit past r) (id : Int) :
    id ∈ live past ↔ ∃ a, r.lookup id = some a := by
  rw [← recorded.keys_eq]
  constructor
  · intro mem
    obtain ⟨e, listed, rfl⟩ := List.mem_map.1 mem
    cases found : r.lookup e.1 with
    | none => exact absurd rfl (Keyed.get?_eq_none_iff.1 found e listed)
    | some a => exact ⟨a, rfl⟩
  · rintro ⟨a, found⟩
    exact List.mem_map.2 ⟨(id, a), Keyed.mem_of_get? found, rfl⟩

theorem Recorded.isFull_iff (recorded : Recorded kind limit past r) :
    r.isFull = true ↔ 0 < limit ∧ limit ≤ (live past).length := by
  unfold Registry.isFull
  rw [Bool.and_eq_true, decide_eq_true_iff, decide_eq_true_iff, recorded.limit_eq,
    recorded.size_eq]

/-- What has happened determines what `r` answers next. -/
structure Faithful (kind : Capability) (limit : Nat) (past : List (Event α)) (r : Registry α) :
    Prop where
  issued_eq : issued past = numbers (issued past).length
  issued_le : ((issued past).length : Int) ≤ 2147483647
  register_eq : ∀ a, (perform r (.register a)).1 =
    if 0 < limit ∧ limit ≤ (live past).length then .refused (.registryFull kind limit)
    else if ((issued past).length : Int) = 2147483647 then
      .faulted (.callbackIdOverflow kind.text)
    else .registered ((issued past).length + 1)
  register_keeps : ∀ a, (∀ id, (perform r (.register a)).1 ≠ .registered id) →
    (perform r (.register a)).2 = r
  lookup_some_iff : ∀ id a, (perform r (.lookup id)).1 = .found (some a) ↔ Live past id a
  lookup_none_iff : ∀ id, (perform r (.lookup id)).1 = .found none ↔ ∀ a, ¬ Live past id a
  unregister_eq : ∀ id, (perform r (.unregister id)).1 = .removed (decide (id ∈ live past))
  mem_live_iff : ∀ id, id ∈ live past ↔ ∃ a, Live past id a
  withdrawn_issued : ∀ id ∈ withdrawn past, id ∈ issued past
  withdrawn_once : (withdrawn past).Nodup
  size_eq : (perform r .size).1 = .counted (live past).length
  live_le : 0 < limit → (live past).length ≤ limit

theorem faithful_of_recorded (recorded : Recorded kind limit past r) :
    Faithful kind limit past r := by
  have last := recorded.lastId_eq
  have last_le := r.lastId_mem.2
  unfold maxCallbackId at last_le
  have alive : ∀ id, id ∈ live past ↔ ∃ a, Live past id a := by
    intro id
    rw [recorded.mem_live_iff_lookup]
    simp only [recorded.lookup_iff]
  constructor
  case issued_eq => exact recorded.issued_eq
  case issued_le => omega
  case register_eq =>
    intro a
    by_cases full : r.isFull = true
    · rw [perform_register_of_full full, if_pos (recorded.isFull_iff.1 full), recorded.kind_eq,
        recorded.limit_eq]
    · rw [if_neg fun crowded => full (recorded.isFull_iff.2 crowded)]
      rw [Bool.not_eq_true] at full
      by_cases below : r.lastId < maxCallbackId
      · rw [perform_register_of_room full below, last, if_neg]
        unfold maxCallbackId at below
        omega
      · rw [perform_register_of_spent full below, if_pos, recorded.kind_eq]
        unfold maxCallbackId at below
        omega
  case register_keeps =>
    intro a none_issued
    cases full : r.isFull with
    | true => rw [perform_register_of_full full]
    | false =>
      by_cases below : r.lastId < maxCallbackId
      · rw [perform_register_of_room full below] at none_issued
        exact absurd rfl (none_issued _)
      · rw [perform_register_of_spent full below]
  case lookup_some_iff =>
    intro id a
    rw [← recorded.lookup_iff]
    exact ⟨fun same => Answer.found.inj same, congrArg Answer.found⟩
  case lookup_none_iff =>
    intro id
    have missing : r.lookup id = none ↔ ∀ a, ¬ Live past id a := by
      rw [Option.eq_none_iff_forall_ne_some]
      simp only [ne_eq, recorded.lookup_iff]
    rw [← missing]
    exact ⟨fun same => Answer.found.inj same, congrArg Answer.found⟩
  case unregister_eq =>
    intro id
    cases found : r.lookup id with
    | none =>
      rw [perform_unregister_of_none found, decide_eq_false]
      rw [recorded.mem_live_iff_lookup, found]
      rintro ⟨a, same⟩
      cases same
    | some a =>
      rw [perform_unregister_of_some found, decide_eq_true]
      rw [recorded.mem_live_iff_lookup]
      exact ⟨a, found⟩
  case mem_live_iff => exact alive
  case withdrawn_issued => exact recorded.withdrawn_issued
  case withdrawn_once => exact recorded.withdrawn_once
  case size_eq =>
    rw [← recorded.size_eq]
    rfl
  case live_le =>
    rw [← recorded.size_eq]
    exact recorded.size_le

theorem faithful_run (kind : Capability) (limit : Nat) (ops : List (Op α)) :
    Faithful kind limit (run (Registry.empty kind limit) ops).1
      (run (Registry.empty kind limit) ops).2 :=
  faithful_of_recorded (recorded_run (recorded_empty kind limit) ops)

-- A number that was given back is not issued again, and a refusal uses none up.
example :
    issued (run (Registry.empty .signer 1) [.register "a", .register "b", .unregister 1,
      .register "c"]).1 = [1, 2] := by decide

end Boundary.History
