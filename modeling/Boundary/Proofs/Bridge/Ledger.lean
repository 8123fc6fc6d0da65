import Boundary.Proofs.Bridge.Orderly
/-!
Who answers for which number. A number in a registry is either an affair of the host alone, or one
native object asks for it; and the object is there because a handle still counts for it. What
changes this goes in small steps: a number comes in, goes over to a new object, comes back from an
object that ends, and goes out.
-/
namespace Boundary
open Run
variable {H : Type}

/-- What an object gives back when it ends. -/
def ResidentObject.numbers : ResidentObject → List (Capability × Int)
  | .signer (.foreign n) => [(.signer, n)]
  | .keyManager (.foreign table) => [(.keyManager, table.id)]
  | _ => []

theorem ResidentObject.nodup_numbers (o : ResidentObject) : o.numbers.Nodup := by
  unfold numbers
  split <;> simp

theorem ResidentObject.numbers_foreign (kind : Capability) (n : Int) :
    (foreign kind n).numbers = [(kind, n)] := by
  cases kind <;> rfl

namespace Process

/-- There is a callback under the number. -/
def Numbered (c : Capability × Int) (p : Process H) : Prop := ∃ ref, Registered c.1 c.2 ref p

/-- The object at the address asks for the number. -/
def Asks (c : Capability × Int) (address : Nat) (p : Process H) : Prop :=
  ∃ o, p.objects.get? address = some o ∧ c ∈ o.numbers

/-- Every handle has its calls in flight, as often as `calls` lists it. -/
structure Flying (calls : List HandleId) (p : Process H) : Prop where
  known : ∀ id ∈ calls, id < p.handles.length
  inFlight : ∀ id < p.handles.length, (p.handle id).inFlight = calls.count id

/-- The numbers in the registries are those of `own`, and those that objects ask for. An object that
asks is at the address `loose`, or there is a handle for it that has not let it go. If an object
asked for a number in the past, it still does, or it is gone and no other object asks for that. -/
structure Accounted (past : Capability × Int → Nat → Prop) (own : List (Capability × Int))
    (calls : List HandleId) (loose : Option Nat) (p : Process H) : Prop extends Flying calls p where
  exact : ∀ c, Numbered c p ↔ c ∈ own ∨ ∃ a, Asks c a p
  nodup : own.Nodup
  apart : ∀ {c a}, Asks c a p → c ∉ own
  single : ∀ {c a b}, Asks c a p → Asks c b p → a = b
  plain : ∀ {a t}, p.objects.get? a = some (.keyManager (.foreign t)) → t.answers = none
  placed : ∀ {a o}, p.objects.get? a = some o → 0 < a ∧ a ≤ p.objects.lastAddress
  owned : ∀ {c a}, Asks c a p → loose = some a ∨
    ∃ id < p.handles.length, (p.handle id).address = a ∧ 0 ≤ (p.handle id).counter
  lasting : ∀ {c a}, past c a → Asks c a p ∨ p.objects.get? a = none ∧ ∀ b, ¬ Asks c b p
  older : ∀ {c a}, past c a →
    c.2 ≤ (p.current.registry c.1).lastId ∧ a ≤ p.objects.lastAddress

section
variable {past : Capability × Int → Nat → Prop} {own : List (Capability × Int)}
  {calls : List HandleId} {loose : Option Nat} {p q : Process H} {o : ResidentObject}
  {address : Nat} {kind : Capability} {n : Int} {ref : CallbackRef} {id : HandleId}

/-- Nothing else of a process matters. -/
theorem Accounted.congr (accounted : Accounted past own calls loose p)
    (callbacks : q.callbacks = p.callbacks) (objects : q.objects = p.objects)
    (handles : q.handles = p.handles) : Accounted past own calls loose q := by
  obtain ⟨c, held, os, hs, host⟩ := p
  obtain ⟨c', held', os', hs', host'⟩ := q
  simp only at callbacks objects handles
  subst callbacks objects handles
  exact ⟨⟨accounted.known, accounted.inFlight⟩, accounted.exact, accounted.nodup, accounted.apart,
    accounted.single, accounted.plain, accounted.placed, accounted.owned, accounted.lasting,
    accounted.older⟩

theorem Accounted.perm {other : List (Capability × Int)}
    (accounted : Accounted past own calls loose p) (same : own.Perm other) :
    Accounted past other calls loose p where
  toFlying := accounted.toFlying
  exact c := by rw [accounted.exact, same.mem_iff]
  nodup := same.nodup_iff.1 accounted.nodup
  apart asks := by
    rw [← same.mem_iff]
    exact accounted.apart asks
  single := accounted.single
  plain := accounted.plain
  placed := accounted.placed
  owned := accounted.owned
  lasting := accounted.lasting
  older := accounted.older

/-- This moment becomes the past. -/
theorem Accounted.since (accounted : Accounted past own calls loose p) :
    Accounted (fun c a => Asks c a p) own calls loose p :=
  { accounted with
    lasting := .inl
    older := fun {c a} asks => by
      obtain ⟨ref, registered⟩ := (accounted.exact c).2 (.inr ⟨a, asks⟩)
      obtain ⟨o, found, -⟩ := asks
      obtain ⟨callbacks, installed, entry⟩ := registered
      refine ⟨?_, (accounted.placed found).2⟩
      unfold current
      rw [installed]
      exact ((callbacks.registry c.1).issued _ (Keyed.mem_of_get? entry)).2 }

/-- No object is at the address of none. -/
theorem Accounted.null (accounted : Accounted past own calls loose p) :
    p.objects.get? 0 = none := by
  cases found : p.objects.get? 0 with
  | none => rfl
  | some o => exact absurd (accounted.placed found).1 (Nat.lt_irrefl 0)

theorem Accounted.loosen (accounted : Accounted past own calls none p) :
    Accounted past own calls loose p :=
  { accounted with
    owned := fun asks => by
      rcases accounted.owned asks with none | owner
      · cases none
      · exact .inr owner }

theorem Accounted.of_null (accounted : Accounted past own calls (some 0) p) :
    Accounted past own calls none p :=
  { accounted with
    owned := fun {c a} asks => by
      rcases accounted.owned asks with same | owner
      · cases same
        obtain ⟨o, found, -⟩ := asks
        rw [accounted.null] at found
        cases found
      · exact .inr owner }

/-! ### Objects come and go -/

theorem asks_add (accounted : Accounted past own calls loose p) (o : ResidentObject)
    (c : Capability × Int) (a : Nat) :
    Asks c a { p with objects := (p.objects.add o).2 } ↔
      (a = p.objects.lastAddress + 1 ∧ c ∈ o.numbers) ∨ Asks c a p := by
  unfold Asks
  simp only [ResidentObjects.get?_add]
  by_cases here : a = p.objects.lastAddress + 1
  · subst here
    have free : p.objects.get? (p.objects.lastAddress + 1) = none := by
      cases found : p.objects.get? (p.objects.lastAddress + 1) with
      | none => rfl
      | some o' =>
        have := accounted.placed found
        omega
    simp [free]
  · simp [here]

/-- A number goes over to a new object, which no handle stands for as yet. -/
theorem Accounted.add (accounted : Accounted past (o.numbers ++ own) calls none p)
    (plain : ∀ t, o = .keyManager (.foreign t) → t.answers = none)
    (fresh : ∀ c ∈ o.numbers, ∀ a, ¬ past c a) :
    Accounted past own calls (some (p.objects.lastAddress + 1))
      { p with objects := (p.objects.add o).2 } := by
  have asks := asks_add accounted o
  obtain ⟨-, nodup, disjoint⟩ := List.nodup_append.1 accounted.nodup
  refine ⟨⟨accounted.known, accounted.inFlight⟩, fun c => ?_, nodup, fun {c a} => ?_,
    fun {c a b} => ?_, fun {a t} => ?_, fun {a o'} => ?_, fun {c a} => ?_, fun {c a} asked => ?_,
    fun asked => ?_⟩
  · have exact := accounted.exact c
    simp only [asks]
    change Numbered c p ↔ _
    rw [exact, List.mem_append]
    constructor
    · rintro ((mem | mem) | ⟨a, old⟩)
      · exact .inr ⟨_, .inl ⟨rfl, mem⟩⟩
      · exact .inl mem
      · exact .inr ⟨a, .inr old⟩
    · rintro (mem | ⟨a, ⟨-, mem⟩ | old⟩)
      · exact .inl (.inr mem)
      · exact .inl (.inl mem)
      · exact .inr ⟨a, old⟩
  · rw [asks]
    rintro (⟨-, mem⟩ | old)
    · exact fun mem' => disjoint c mem c mem' rfl
    · exact fun mem => accounted.apart old (List.mem_append_right _ mem)
  · rw [asks, asks]
    rintro (⟨rfl, mem⟩ | old) (⟨rfl, mem'⟩ | old')
    · rfl
    · exact absurd (List.mem_append_left _ mem) (accounted.apart old')
    · exact absurd (List.mem_append_left _ mem') (accounted.apart old)
    · exact accounted.single old old'
  · rw [ResidentObjects.get?_add]
    split
    · intro same
      exact plain t (Option.some.inj same)
    · exact accounted.plain
  · rw [ResidentObjects.get?_add]
    change _ → 0 < a ∧ a ≤ p.objects.lastAddress + 1
    split
    · intro _
      omega
    · intro found
      have := accounted.placed found
      omega
  · rw [asks]
    rintro (⟨rfl, -⟩ | old)
    · exact .inl rfl
    · rcases accounted.owned old with none | owner
      · cases none
      · exact .inr owner
  · simp only [asks]
    rcases accounted.lasting asked with old | ⟨gone, unasked⟩
    · exact .inl (.inr old)
    · refine .inr ⟨?_, fun b => ?_⟩
      · have made := (accounted.older asked).2
        rw [ResidentObjects.get?_add, if_neg (by omega)]
        exact gone
      · rintro (⟨-, mem⟩ | old)
        · exact fresh c mem a asked
        · exact unasked b old
  · obtain ⟨issued, made⟩ := accounted.older asked
    exact ⟨issued, Nat.le_succ_of_le made⟩

/-- A new handle for the object that has none. -/
theorem Accounted.adopt (accounted : Accounted past own calls (some address) p)
    (kind : Capability) : Accounted past own calls none
      { p with handles := p.handles ++ [⟨kind, address, 0, false⟩] } := by
  let h : Handle := ⟨kind, address, 0, false⟩
  have last : ({ p with handles := p.handles ++ [h] } : Process H).handle p.handles.length = h :=
    handle_append h p
  have longer (id : HandleId) : id < (p.handles ++ [h]).length ↔
      id < p.handles.length ∨ id = p.handles.length := by
    rw [List.length_append, List.length_singleton]
    exact Nat.lt_succ_iff_lt_or_eq
  refine ⟨⟨fun id mem => ?_, fun id owned => ?_⟩, accounted.exact, accounted.nodup,
    accounted.apart, accounted.single, accounted.plain, accounted.placed, fun {c a} asks => ?_,
    accounted.lasting, accounted.older⟩
  · exact (longer id).2 (.inl (accounted.known id mem))
  · rcases (longer id).1 owned with owned | rfl
    · rw [handle_append_of_lt owned]
      exact accounted.inFlight id owned
    · have fresh : p.handles.length ∉ calls := fun mem => Nat.lt_irrefl _ (accounted.known _ mem)
      rw [last, List.count_eq_zero_of_not_mem fresh]
      rfl
  · right
    rcases accounted.owned asks with same | ⟨id, owned, at_, counts⟩
    · cases same
      refine ⟨_, (longer _).2 (.inr rfl), ?_⟩
      rw [last]
      exact ⟨rfl, Int.le_refl 0⟩
    · refine ⟨id, (longer id).2 (.inl owned), ?_⟩
      rw [handle_append_of_lt owned]
      exact ⟨at_, counts⟩

theorem Accounted.making (accounted : Accounted past (o.numbers ++ own) calls none p)
    (plain : ∀ t, o = .keyManager (.foreign t) → t.answers = none)
    (fresh : ∀ c ∈ o.numbers, ∀ a, ¬ past c a) (kind : Capability) :
    Accounted past own calls none (p.making kind o) :=
  (accounted.add plain fresh).adopt kind

theorem asks_removing (address : Nat) (c : Capability × Int) (a : Nat) (p : Process H) :
    Asks c a (removing address p) ↔ a ≠ address ∧ Asks c a p := by
  unfold Asks removing
  simp only [ResidentObjects.get?_remove]
  by_cases here : a = address
  · simp [here]
  · simp [here]

/-- What the object has asked for comes back. -/
theorem Accounted.removing (accounted : Accounted past own calls (some address) p)
    (found : p.objects.get? address = some o) :
    Accounted past (o.numbers ++ own) calls none (removing address p) := by
  have here {c : Capability × Int} (mem : c ∈ o.numbers) : Asks c address p := ⟨o, found, mem⟩
  have asks := asks_removing (p := p) address
  refine ⟨⟨accounted.known, accounted.inFlight⟩, fun c => ?_, ?_, fun {c a} => ?_,
    fun {c a b} => ?_, fun {a t} => ?_, fun {a o'} => ?_, fun {c a} => ?_, fun {c a} asked => ?_,
    accounted.older⟩
  · have exact := accounted.exact c
    simp only [asks, List.mem_append]
    change Numbered c p ↔ _
    rw [exact]
    constructor
    · rintro (mem | ⟨a, asked⟩)
      · exact .inl (.inr mem)
      · by_cases same : a = address
        · obtain ⟨o', found', mem⟩ := asked
          rw [same, found] at found'
          cases found'
          exact .inl (.inl mem)
        · exact .inr ⟨a, same, asked⟩
    · rintro ((mem | mem) | ⟨a, -, asked⟩)
      · exact .inr ⟨address, here mem⟩
      · exact .inl mem
      · exact .inr ⟨a, asked⟩
  · refine List.nodup_append.2 ⟨o.nodup_numbers, accounted.nodup, ?_⟩
    rintro c mem _ mem' rfl
    exact accounted.apart (here mem) mem'
  · rw [asks]
    rintro ⟨elsewhere, asked⟩ mem
    rcases List.mem_append.1 mem with mem | mem
    · exact elsewhere (accounted.single asked (here mem))
    · exact accounted.apart asked mem
  · rw [asks, asks]
    rintro ⟨-, first⟩ ⟨-, second⟩
    exact accounted.single first second
  · change (p.objects.remove address).get? a = _ → _
    rw [ResidentObjects.get?_remove]
    split
    · nofun
    · exact accounted.plain
  · change (p.objects.remove address).get? a = _ → 0 < a ∧ a ≤ p.objects.lastAddress
    rw [ResidentObjects.get?_remove]
    split
    · nofun
    · exact accounted.placed
  · rw [asks]
    rintro ⟨elsewhere, asked⟩
    rcases accounted.owned asked with same | owner
    · cases same
      exact absurd rfl elsewhere
    · exact .inr owner
  · simp only [asks]
    change _ ∨ (p.objects.remove address).get? a = none ∧ _
    rw [ResidentObjects.get?_remove]
    rcases accounted.lasting asked with old | ⟨gone, unasked⟩
    · by_cases same : a = address
      · rw [if_pos same]
        refine .inr ⟨rfl, fun b => ?_⟩
        rintro ⟨elsewhere, other⟩
        exact elsewhere ((accounted.single other old).trans same)
      · exact .inl ⟨same, old⟩
    · rw [gone, ite_self]
      exact .inr ⟨rfl, fun b other => unasked b other.2⟩

/-- Keys are put into a store. -/
theorem Accounted.replacing {keys keys' : KeyStore} (accounted : Accounted past own calls loose p)
    (found : p.objects.get? address = some (.keyManager (.own keys))) :
    Accounted past own calls loose
      { p with objects := p.objects.replace address (.keyManager (.own keys')) } := by
  have lookup (a : Nat) (o : ResidentObject) :
      (p.objects.replace address (.keyManager (.own keys'))).get? a = some o →
        (a = address ∧ o = .keyManager (.own keys')) ∨ p.objects.get? a = some o := by
    rw [ResidentObjects.get?_replace]
    split
    next here =>
      intro same
      exact .inl ⟨here, (Option.some.inj same).symm⟩
    next => exact .inr
  have asks (c : Capability × Int) (a : Nat) : Asks c a
      { p with objects := p.objects.replace address (.keyManager (.own keys')) } ↔ Asks c a p := by
    unfold Asks
    simp only [ResidentObjects.get?_replace]
    by_cases here : a = address
    · simp [here, found, ResidentObject.numbers]
    · simp [here]
  refine ⟨⟨accounted.known, accounted.inFlight⟩, fun c => ?_, accounted.nodup, fun {c a} => ?_,
    fun {c a b} => ?_, fun {a t} held => ?_, fun {a o} held => ?_, fun {c a} => ?_,
    fun {c a} asked => ?_, accounted.older⟩
  · simp only [asks]
    exact accounted.exact c
  · rw [asks]
    exact accounted.apart
  · rw [asks, asks]
    exact accounted.single
  · rcases lookup a _ held with ⟨-, other⟩ | held
    · cases other
    · exact accounted.plain held
  · rcases lookup a o held with ⟨rfl, -⟩ | held
    · exact accounted.placed found
    · exact accounted.placed held
  · rw [asks]
    exact accounted.owned
  · simp only [asks]
    rw [ResidentObjects.get?_replace]
    rcases accounted.lasting asked with old | ⟨gone, unasked⟩
    · exact .inl old
    · have elsewhere : a ≠ address := by
        rintro rfl
        rw [found] at gone
        cases gone
      rw [if_neg elsewhere]
      exact .inr ⟨gone, unasked⟩

/-! ### Calls start and end -/

/-- One handle changes what it counts. It must not let its object go unless that is loose then. -/
theorem Accounted.set_handle {calls' : List HandleId} {h : Handle} {d : Int}
    (accounted : Accounted past own calls none p) (known : id < p.handles.length)
    (shifted : (p.handle id).Shifted d h)
    (counts : ∀ other,
      (calls'.count other : Int) = calls.count other + if other = id then d else 0)
    (kept : loose = some h.address ∨ (loose = none ∧ (0 ≤ (p.handle id).counter → 0 ≤ h.counter))) :
    Accounted past own calls' loose { p with handles := p.handles.set id h } := by
  have length : (p.handles.set id h).length = p.handles.length := List.length_set ..
  refine ⟨⟨fun other mem => ?_, fun other owned => ?_⟩, accounted.exact, accounted.nodup,
    accounted.apart, accounted.single, accounted.plain, accounted.placed, fun {c a} asks => ?_,
    accounted.lasting, accounted.older⟩
  · dsimp only
    rw [length]
    by_cases same : other = id
    · rw [same]
      exact known
    · have counted := List.count_pos_iff.2 mem
      have flying := counts other
      rw [if_neg same] at flying
      exact accounted.known other (List.count_pos_iff.1 (by omega))
  · dsimp only at owned
    rw [length] at owned
    have flying := accounted.inFlight other owned
    by_cases same : other = id
    · subst same
      rw [handle_set known, shifted.inFlight_eq, counts, if_pos rfl, flying]
    · rw [handle_set_of_ne same, counts, if_neg same, flying, Int.add_zero]
  · rcases accounted.owned asks with none | ⟨other, owned, at_, counted⟩
    · cases none
    · by_cases same : other = id
      · subst same
        rcases kept with rfl | ⟨rfl, low⟩
        · left
          rw [shifted.address_eq, at_]
        · refine .inr ⟨other, by rwa [length], ?_⟩
          rw [handle_set known]
          exact ⟨shifted.address_eq.trans at_, low counted⟩
      · refine .inr ⟨other, by rwa [length], ?_⟩
        rw [handle_set_of_ne same]
        exact ⟨at_, counted⟩

theorem Accounted.counting (accounted : Accounted past own calls none p)
    (known : id < p.handles.length) (intact : (p.handle id).destroyed = false)
    (low : 0 ≤ (p.handle id).counter) :
    Accounted past own (id :: calls) none (p.counting id 1) := by
  refine accounted.set_handle known (Handle.shifted_counting intact) (fun other => ?_)
    (.inr ⟨rfl, fun _ => ?_⟩)
  · by_cases same : other = id
    · simp [same]
    · simp [same, Ne.symm same]
  · dsimp only
    omega

/-! ### Numbers come and go -/

theorem numbered_iff (c : Capability × Int) (p : Process H) :
    Numbered c p ↔ ∃ ref, (p.current.registry c.1).lookup c.2 = some ref := by
  unfold Numbered Registered current
  cases p.callbacks with
  | some callbacks => simp
  | none =>
    have empty : ((Callbacks.withLimit 0).registry c.1).lookup c.2 = none := by
      cases c.1 <;> rfl
    simp [empty]

theorem Accounted.installed (accounted : Accounted past own calls loose p) :
    Accounted past own calls loose { p with callbacks := some p.current } := by
  have same (c : Capability × Int) :
      Numbered c { p with callbacks := some p.current } ↔ Numbered c p := by
    rw [numbered_iff, numbered_iff]
    rfl
  refine ⟨⟨accounted.known, accounted.inFlight⟩, fun c => ?_, accounted.nodup, accounted.apart,
    accounted.single, accounted.plain, accounted.placed, accounted.owned, accounted.lasting,
    accounted.older⟩
  rw [same]
  exact accounted.exact c

/-- A number that was not given out before comes in. -/
theorem Accounted.registering {r : Registry CallbackRef}
    (accounted : Accounted past own calls loose p)
    (room : (p.current.registry kind).register ref = .ok (.ok (n, r))) :
    Accounted past ((kind, n) :: own) calls loose (p.registering kind r ref) ∧
      ∀ a, ¬ past (kind, n) a := by
  obtain ⟨⟨fresh, last⟩, lookup⟩ := Registry.of_register room
  have unused : ¬ Numbered (kind, n) p := by
    rw [numbered_iff]
    rintro ⟨ref', found⟩
    rw [Registry.lookup_eq_none_of_lastId_lt fresh] at found
    cases found
  have numbered (c : Capability × Int) :
      Numbered c (p.registering kind r ref) ↔ c = (kind, n) ∨ Numbered c p := by
    obtain ⟨k, m⟩ := c
    rw [numbered_iff, numbered_iff]
    change (∃ ref', ((p.current.setRegistry kind r).registry k).lookup m = some ref') ↔ _
    rw [Callbacks.registry_setRegistry]
    by_cases same : k = kind
    · subst same
      rw [if_pos rfl, lookup]
      by_cases here : m = n
      · simp [here]
      · simp [here]
    · simp [same]
  have own_unused : (kind, n) ∉ own := fun mem => unused ((accounted.exact _).2 (.inl mem))
  have asks_unused (a : Nat) : ¬ Asks (kind, n) a p := fun asks =>
    unused ((accounted.exact _).2 (.inr ⟨a, asks⟩))
  refine ⟨⟨⟨accounted.known, accounted.inFlight⟩, fun c => ?_, ?_, fun {c a} asks => ?_,
    accounted.single, accounted.plain, accounted.placed, accounted.owned, accounted.lasting,
    fun {c a} asked => ?_⟩, fun a asked => ?_⟩
  · rw [numbered, accounted.exact, List.mem_cons, or_assoc]
    rfl
  · exact List.nodup_cons.2 ⟨own_unused, accounted.nodup⟩
  · rw [List.mem_cons, not_or]
    refine ⟨?_, accounted.apart asks⟩
    rintro rfl
    exact asks_unused a asks
  · obtain ⟨issued, made⟩ := accounted.older asked
    refine ⟨?_, made⟩
    change _ ≤ ((p.current.setRegistry kind r).registry c.1).lastId
    rw [Callbacks.registry_setRegistry]
    split
    next same =>
      rw [same] at issued
      omega
    next => exact issued
  · have issued := (accounted.older asked).1
    dsimp only at issued
    omega

/-- A number that no object asks for goes out. -/
theorem Accounted.withdrawing (accounted : Accounted past ((kind, n) :: own) calls loose p) :
    Accounted past own calls loose (withdrawing kind n p) := by
  obtain ⟨unlisted, nodup⟩ := List.nodup_cons.1 accounted.nodup
  have numbered (c : Capability × Int) :
      Numbered c (Process.withdrawing kind n p) ↔ c ≠ (kind, n) ∧ Numbered c p := by
    obtain ⟨k, m⟩ := c
    rw [numbered_iff, numbered_iff]
    change (∃ ref, ((p.current.setRegistry kind ((p.current.registry kind).remove n)).registry
      k).lookup m = some ref) ↔ _
    rw [Callbacks.registry_setRegistry]
    by_cases same : k = kind
    · subst same
      rw [if_pos rfl, Registry.lookup_remove]
      by_cases here : m = n
      · simp [here]
      · simp [here]
    · simp [same]
  have apart {c : Capability × Int} {a : Nat} (asks : Asks c a p) : c ≠ (kind, n) ∧ c ∉ own := by
    have away := accounted.apart asks
    rwa [List.mem_cons, not_or] at away
  refine ⟨⟨accounted.known, accounted.inFlight⟩, fun c => ?_, nodup, fun asks => (apart asks).2,
    accounted.single, accounted.plain, accounted.placed, accounted.owned, accounted.lasting,
    fun {c a} asked => ?_⟩
  · rw [numbered, accounted.exact, List.mem_cons]
    constructor
    · rintro ⟨other, (same | mem) | asks⟩
      · exact absurd same other
      · exact .inl mem
      · exact .inr asks
    · rintro (mem | ⟨a, asks⟩)
      · exact ⟨fun same => unlisted (same ▸ mem), .inl (.inr mem)⟩
      · exact ⟨(apart asks).1, .inr ⟨a, asks⟩⟩
  · obtain ⟨issued, made⟩ := accounted.older asked
    refine ⟨?_, made⟩
    change _ ≤ ((p.current.setRegistry kind _).registry c.1).lastId
    rw [Callbacks.registry_setRegistry]
    split
    next same =>
      rw [same] at issued
      exact issued
    next => exact issued

end
end Process
end Boundary
