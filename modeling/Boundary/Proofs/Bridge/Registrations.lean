import Boundary.Proofs.Bridge.Wrappers
import Mathlib.Logic.Relation
/-!
Registrations live as long as the objects that they serve. Whatever the host does with native
objects, and whatever its callbacks do meanwhile, the registries hold the numbers that the host has
registered for itself and the numbers of the objects that are there, and no others.
-/
namespace Boundary
open Run Process
variable {H α β : Type}

/-! ### Host code -/

/-- A callback, on whatever it is called. -/
inductive Host.Code (host : Host H) : ∀ {α : Type}, Run (Process H) α → Prop
  | sign (ref : CallbackRef) (payload : Bytes) : Code host (host.sign ref payload)
  | importKey (ref : CallbackRef) (key : Jwk) : Code host (host.importKey ref key)
  | signerFor (ref : CallbackRef) (key : Jwk) : Code host (host.signerFor ref key)
  | dropped (ref : CallbackRef) : Code host (host.dropped ref)

/-- What the host does with native objects and with the callbacks that it holds. -/
inductive Host.Operation (host : Host H) : ∀ {α : Type}, Run (Process H) α → Prop
  | sign (id : HandleId) (payload : Bytes) : Operation host (host.library.sign id payload)
  | importKey (id : HandleId) (key : Jwk) : Operation host (host.library.importKey id key)
  | signerFor (id : HandleId) (key : Jwk) : Operation host (host.library.signerFor id key)
  | destroy (kind : Capability) (id : HandleId) : Operation host (host.library.destroy kind id)
  | newKeyManager : Operation host host.library.newKeyManager
  | fromHost (kind : Capability) (ref : CallbackRef) :
      Operation host (host.library.fromHost host kind ref)
  | unsupported {lib : Library (Process H)} {kind : Capability}
      (missing : lib.fromHostEntry kind = none) (ref : CallbackRef) :
      Operation host (lib.fromHost host kind ref)
  | letGo (ref : CallbackRef) : Operation host (host.letGo ref)

/-- Host code that leaves registries, objects and handles to the operations, also in callbacks. -/
inductive Tidy : ∀ {α : Type}, Run (Process H) α → Prop
  | aside {α : Type} {x : Run (Process H) α}
      (untouched : ∀ p, (left x p).callbacks = p.callbacks ∧ (left x p).objects = p.objects ∧
        (left x p).handles = p.handles) : Tidy x
  | operation {α : Type} {x : Run (Process H) α} {host : Host H}
      (code : ∀ {β : Type} {y : Run (Process H) β}, host.Code y → Tidy y)
      (op : host.Operation x) : Tidy x
  /-- The entry point of another library does not take the callback, and gives no object. -/
  | failing {host : Host H} (code : ∀ {β : Type} {y : Run (Process H) β}, host.Code y → Tidy y)
      {lib : Library (Process H)} {kind : Capability} {make : Int → Run (Process H) (Reply Nat)}
      (resident : lib.core = Core.resident) (entry : lib.fromHostEntry kind = some make)
      (tries : ∀ n, Tidy (make n))
      (fails : ∀ n p reply q, make n p = .ok reply q → reply.status.code ≠ 0 ∨ reply.value = 0)
      (ref : CallbackRef) : Tidy (lib.fromHost host kind ref)
  | bind {α β : Type} {x : Run (Process H) α} {next : α → Run (Process H) β} (first : Tidy x)
      (rest : ∀ a, Tidy (next a)) : Tidy (x >>= next)
  | attempt {α : Type} {x : Run (Process H) α} (tried : Tidy x) : Tidy (Run.attempt x)
  | onFault {α : Type} {x : Run (Process H) α} {cleanup : Run (Process H) Unit} (tried : Tidy x)
      (cleans : Tidy cleanup) : Tidy (Run.onFault x cleanup)
  | noUnwind {α : Type} {x : Run (Process H) α} (inner : Tidy x) : Tidy (Run.noUnwind x)

section
variable {past : Capability × Int → Nat → Prop} {own : List (Capability × Int)}
  {calls : List HandleId} {host : Host H}

theorem keeps_operation (keeping : host.Keeping) {x : Run (Process H) α}
    (op : host.Operation x) : Keeps (Accounted past own calls none) x := by
  cases op with
  | sign id payload => exact keeps_sign keeping id payload
  | importKey id key => exact keeps_importKey keeping id key
  | signerFor id key => exact keeps_signerFor keeping id key
  | destroy kind id => exact keeps_destroy keeping kind id
  | newKeyManager => exact keeps_newKeyManager
  | fromHost kind ref => exact keeps_fromHost keeping kind ref
  | unsupported missing ref => exact keeps_fromHost_of_none keeping missing ref
  | letGo ref => exact keeps_letGo keeping ref

theorem keeping_of_code (keeps : ∀ {β : Type} {y : Run (Process H) β}, host.Code y →
    ∀ past own calls, Keeps (Accounted past own calls none) y) : host.Keeping where
  signs past own calls ref payload := keeps (.sign ref payload) past own calls
  imports past own calls ref key := keeps (.importKey ref key) past own calls
  gives past own calls ref key := keeps (.signerFor ref key) past own calls
  drops past own calls ref := keeps (.dropped ref) past own calls

/-- One case for each way to put host code together. -/
theorem keeps_of_tidy {x : Run (Process H) α} (tidy : Tidy x)
    (past : Capability × Int → Nat → Prop) (own : List (Capability × Int))
    (calls : List HandleId) : Keeps (Accounted past own calls none) x := by
  induction tidy generalizing past own calls with
  | aside untouched => exact keeps_aside untouched
  | operation code op keeps => exact keeps_operation (keeping_of_code keeps) op
  | failing code resident entry tries fails ref keeps tries_keeps =>
    exact keeps_fromHost_of_failing (keeping_of_code keeps) resident entry
      (fun n own => tries_keeps n past own calls) fails ref
  | bind first rest keeps rest_keeps =>
    exact leads_bind (keeps past own calls) fun a => rest_keeps a past own calls
  | attempt tried keeps => exact keeps_attempt (keeps past own calls)
  | onFault tried cleans keeps cleans_keep =>
    exact leads_onFault (keeps past own calls) (cleans_keep past own calls).values
  | noUnwind inner keeps => exact leads_noUnwind (keeps past own calls).values

theorem keeping_of_tidy (code : ∀ {β : Type} {y : Run (Process H) β}, host.Code y → Tidy y) :
    host.Keeping :=
  keeping_of_code fun callback => keeps_of_tidy (code callback)

end

/-! ### Moments -/

/-- A moment: the numbers that the host has registered for itself, the handles with calls in flight,
each as often as there are calls on it, and the process. -/
structure Moment (H : Type) where
  own : List (Capability × Int)
  calls : List HandleId
  process : Process H

namespace Moment

/-- There are no native objects as yet. -/
structure Fresh (m : Moment H) : Prop where
  calls : m.calls = []
  handles : m.process.handles = []
  objects : m.process.objects = .empty
  nodup : m.own.Nodup
  own : ∀ c, Numbered c m.process ↔ c ∈ m.own

/-- The next moment. Besides its operations, the host registers callbacks for itself. -/
inductive Next : Moment H → Moment H → Prop
  | ran {own : List (Capability × Int)} {calls : List HandleId} {p q : Process H} {α : Type}
      {x : Run (Process H) α} (tidy : Tidy x) (ended : Ends x p q) :
      Next ⟨own, calls, p⟩ ⟨own, calls, q⟩
  /-- A method of the object calls the callback behind it. -/
  | called {own : List (Capability × Int)} {calls : List HandleId} {p : Process H}
      {kind : Capability} {n : Int} {ref : CallbackRef} {id : HandleId}
      (behind : Behind kind n ref id p) : Next ⟨own, calls, p⟩ ⟨own, id :: calls, p.begun ref id⟩
  | registered {own : List (Capability × Int)} {calls : List HandleId} {p q : Process H}
      {host : Host H} {kind : Capability} {ref : CallbackRef} {n : Int}
      (done : host.register kind ref p = .ok (.ok n) q) :
      Next ⟨own, calls, p⟩ ⟨(kind, n) :: own, calls, q⟩
  | refused {own : List (Capability × Int)} {calls : List HandleId} {p q : Process H}
      {host : Host H} {kind : Capability} {ref : CallbackRef}
      (code : ∀ {β : Type} {y : Run (Process H) β}, host.Code y → Tidy y)
      (ended : Ends (host.register kind ref) p q)
      (fruitless : ∀ n, host.register kind ref p ≠ .ok (.ok n) q) :
      Next ⟨own, calls, p⟩ ⟨own, calls, q⟩
  | unregistered {own : List (Capability × Int)} {calls : List HandleId} {p q : Process H}
      {host : Host H} {kind : Capability} {n : Int}
      (code : ∀ {β : Type} {y : Run (Process H) β}, host.Code y → Tidy y)
      (mine : (kind, n) ∈ own) (ended : Ends (host.unregister kind n) p q) :
      Next ⟨own, calls, p⟩ ⟨own.erase (kind, n), calls, q⟩

/-- Every number is an affair of the host, or one object asks for it, for which there is a handle
that has not let it go. -/
structure Exact (m : Moment H) : Prop where
  numbered : ∀ c, Numbered c m.process ↔ c ∈ m.own ∨ ∃ a, Asks c a m.process
  apart : ∀ {c a}, Asks c a m.process → c ∉ m.own
  single : ∀ {c a b}, Asks c a m.process → Asks c b m.process → a = b
  held : ∀ {c a}, Asks c a m.process → ∃ id < m.process.handles.length,
    (m.process.handle id).address = a ∧ 0 ≤ (m.process.handle id).counter
  /-- When all objects are given up and no method is under way, nothing of theirs remains. -/
  cleared : m.calls = [] → (∀ h ∈ m.process.handles, h.destroyed = true) →
    ∀ c, Numbered c m.process ↔ c ∈ m.own

/-- The ledger is kept, and what an object asked for in the past is no affair of the host. -/
structure Kept (past : Capability × Int → Nat → Prop) (m : Moment H) : Prop where
  accounted : Accounted past m.own m.calls none m.process
  apart : ∀ {c a}, past c a → c ∉ m.own

section
variable {past : Capability × Int → Nat → Prop} {m m' : Moment H}

theorem Fresh.kept (fresh : m.Fresh) : Kept (fun _ _ => False) m := by
  have gone (a : Nat) : m.process.objects.get? a = none := by
    rw [fresh.objects]
    rfl
  have idle (c : Capability × Int) (a : Nat) : ¬ Asks c a m.process := by
    rintro ⟨o, found, -⟩
    rw [gone] at found
    cases found
  have none (id : HandleId) : ¬ id < m.process.handles.length := by
    rw [fresh.handles]
    exact Nat.not_lt_zero id
  refine ⟨⟨⟨?_, fun id known => absurd known (none id)⟩, fun c => ?_, fresh.nodup,
    fun asks => absurd asks (idle _ _), fun asks => absurd asks (idle _ _), ?_, ?_,
    fun asks => absurd asks (idle _ _), False.elim, False.elim⟩, False.elim⟩
  · rw [fresh.calls]
    nofun
  · rw [fresh.own c]
    simp [idle]
  · intro a t found
    rw [gone] at found
    cases found
  · intro a o found
    rw [gone] at found
    cases found

/-- From now on, the objects that are there are the past. -/
theorem Kept.since (kept : Kept past m) : Kept (fun c a => Asks c a m.process) m :=
  ⟨kept.accounted.since, kept.accounted.apart⟩

theorem Kept.exact (kept : Kept past m) : m.Exact := by
  have accounted := kept.accounted
  have held {c : Capability × Int} {a : Nat} (asks : Asks c a m.process) :
      ∃ id < m.process.handles.length,
        (m.process.handle id).address = a ∧ 0 ≤ (m.process.handle id).counter := by
    rcases accounted.owned asks with none | owner
    · cases none
    · exact owner
  refine ⟨accounted.exact, accounted.apart, accounted.single, held, fun idle given c => ?_⟩
  -- An object that asks has a handle, but a handle that is given up and idle has let its object go.
  have unasked (a : Nat) : ¬ Asks c a m.process := by
    intro asks
    obtain ⟨id, known, -, counts⟩ := held asks
    have flying := accounted.inFlight id known
    have listed : m.process.handle id ∈ m.process.handles := by
      simp [handle, known]
    rw [idle] at flying
    simp [Handle.inFlight, given _ listed] at flying
    omega
  rw [accounted.exact]
  simp [unasked]

theorem Kept.next (kept : Kept past m) (step : Next m m') : Kept past m' := by
  cases step with
  | ran tidy ended =>
    exact ⟨(keeps_of_tidy tidy past _ _).of_ends kept.accounted ended, kept.apart⟩
  | called behind =>
    refine ⟨?_, kept.apart⟩
    have counting := kept.accounted.counting behind.owned behind.intact behind.counted.1
    exact counting.congr rfl rfl rfl
  | registered done =>
    obtain ⟨n', r, room⟩ := registrable_of_register done
    rw [register_eq _ room] at done
    cases done
    obtain ⟨accounted, fresh⟩ := kept.accounted.registering room
    refine ⟨accounted, fun {c a} asked => ?_⟩
    rw [List.mem_cons, not_or]
    refine ⟨?_, kept.apart asked⟩
    rintro rfl
    exact fresh a asked
  | refused code ended fruitless =>
    have keeping := keeping_of_tidy code
    refine ⟨?_, kept.apart⟩
    rcases exists_of_ends ended with ⟨answer, done⟩ | ⟨f, stopped⟩
    · have grown := (leads_register keeping _ _).of_ok kept.accounted done
      cases answer with
      | ok n => exact absurd done (fruitless n)
      | error e => exact grown
    · exact (leads_register keeping _ _).of_fault kept.accounted stopped
  | unregistered code mine ended =>
    have listed := kept.accounted.perm (List.perm_cons_erase mine)
    have keeping := keeping_of_tidy code
    refine ⟨?_, fun asked mem => kept.apart asked (List.mem_of_mem_erase mem)⟩
    rcases exists_of_ends ended with ⟨_, done⟩ | ⟨f, stopped⟩
    · exact (leads_unregister keeping _ _).of_ok listed done
    · exact (leads_unregister keeping _ _).of_fault listed stopped

theorem Kept.later (kept : Kept past m) (reached : Relation.ReflTransGen Next m m') :
    Kept past m' := by
  induction reached with
  | refl => exact kept
  | tail _ step ih => exact ih.next step

end
end Moment

theorem behind_of_fromHost {host : Host H} {kind : Capability} {ref : CallbackRef} {id : HandleId}
    {p q : Process H} (done : host.library.fromHost host kind ref p = .ok (.ok id) q) :
    ∃ n, Behind kind n ref id q := by
  have registrable : Registrable kind ref p := by
    unfold Library.fromHost at done
    rw [fromHostEntry_eq] at done
    obtain ⟨answer, t, registered, made⟩ := exists_of_bind done
    cases answer with
    | error e => cases made
    | ok n => exact registrable_of_register registered
  obtain ⟨n, r, room⟩ := registrable
  rw [fromHost_eq host room] at done
  cases done
  exact ⟨n, fronts_making kind n (p.registering kind r ref), registered_registering room⟩

/-- At every moment the registries are exact. From one moment to any later one, a number that an
object asks for stays as long as the object does. And an object that is made from a callback asks
for the number of the callback. -/
theorem registrations_follow_objects {start m : Moment H} (fresh : start.Fresh)
    (reached : Relation.ReflTransGen Moment.Next start m) :
    m.Exact ∧
      (∀ later, Relation.ReflTransGen Moment.Next m later → ∀ {c a}, Asks c a m.process →
        (Numbered c later.process ↔ (later.process.objects.get? a).isSome)) ∧
      ∀ {host : Host H} {kind ref id q},
        host.library.fromHost host kind ref m.process = .ok (.ok id) q →
          ∃ n, Behind kind n ref id q := by
  have kept := fresh.kept.later reached
  refine ⟨kept.exact, fun later onward c a asks => ?_, behind_of_fromHost⟩
  have after := kept.since.later onward
  rcases after.accounted.lasting asks with asking | ⟨gone, unasked⟩
  · have numbered := (after.accounted.exact c).2 (.inr ⟨a, asking⟩)
    obtain ⟨o, found, -⟩ := asking
    simp [numbered, found]
  · have unlisted := after.apart asks
    rw [after.accounted.exact]
    simp [unlisted, unasked, gone]

/-- A host that gives signer 5 for every key. -/
def generous : Host Unit where
  sign _ payload := return .ok payload
  importKey _ key := return .ok key
  signerFor _ _ := do
    hold 5
    return .ok 5
  dropped _ := return ()

/-- A library whose entry points panic before they take anything. -/
def panicking : Library (Process Unit) :=
  { generous.library with
    keyManager := { generous.library.keyManager with
      fromHost := some fun _ => return ⟨Status.initial.setPanic .null, 0⟩ } }

/-! Two callbacks of a kind at a time, the first of them a signer of the host's own. A key manager
gives the second signer, so that there is no room for a third; another key manager comes to nothing.
At the end both objects are given up. -/

def vacant : Process Unit :=
  { Process.start () with callbacks := some (.withLimit 2), held := [1, 2, 3, 4] }

def lending : Process Unit := left (generous.register .signer 1) vacant

def give : Run (Process Unit) (Except DomainError HandleId) := do
  let _ ← generous.library.fromHost generous .keyManager 2
  generous.library.signerFor 0 ⟨none, "OKP", "Ed25519", none, "k", none⟩

def giving : Process Unit := left give lending

def fail : Run (Process Unit)
    (Except BridgeError HandleId × Except Fault (Except BridgeError HandleId)) := do
  let full ← generous.library.fromHost generous .signer 3
  let panicked ← Run.attempt (panicking.fromHost generous .keyManager 4)
  return (full, panicked)

def failing : Process Unit := left fail giving

def giveUp : Run (Process Unit) Unit := do
  generous.library.destroy .keyManager 0
  generous.library.destroy .signer 1

def settled : Process Unit := left giveUp failing

theorem tidy_generous {y : Run (Process Unit) β} (code : generous.Code y) : Tidy y := by
  cases code with
  | sign ref payload => exact .aside fun _ => ⟨rfl, rfl, rfl⟩
  | importKey ref key => exact .aside fun _ => ⟨rfl, rfl, rfl⟩
  | signerFor ref key => exact .aside fun _ => ⟨rfl, rfl, rfl⟩
  | dropped ref => exact .aside fun _ => ⟨rfl, rfl, rfl⟩

theorem tidy_give : Tidy give := by
  refine .bind (.operation tidy_generous (.fromHost _ _)) fun _ => ?_
  exact .operation tidy_generous (.signerFor _ _)

theorem tidy_fail : Tidy fail := by
  refine .bind (.operation tidy_generous (.fromHost _ _)) fun _ => ?_
  refine .bind (.attempt (.failing tidy_generous rfl rfl (fun _ => ?_) ?_ _)) fun _ => ?_
  · exact .aside fun _ => ⟨rfl, rfl, rfl⟩
  · intro n p reply q done
    cases done
    exact .inr rfl
  · exact .aside fun _ => ⟨rfl, rfl, rfl⟩

theorem tidy_giveUp : Tidy giveUp :=
  .bind (.operation tidy_generous (.destroy _ _)) fun _ =>
    .operation tidy_generous (.destroy _ _)

theorem fresh_vacant : Moment.Fresh ⟨[], [], vacant⟩ := by
  refine ⟨rfl, rfl, rfl, List.nodup_nil, fun c => ?_⟩
  have none : (vacant.current.registry c.1).lookup c.2 = none := by
    cases c.1 <;> rfl
  simp [numbered_iff, none]

theorem registrations_follow_objects_generous :
    (answer fail giving = .ok (.error (.registryFull .signer 2), .error .panicWhilePanicking) ∧
        Numbered (.keyManager, 1) failing ∧ Numbered (.signer, 2) failing) ∧
      ∀ c, Numbered c settled ↔ c = (.signer, 1) := by
  have failed : answer fail giving =
      .ok (.error (.registryFull .signer 2), .error .panicWhilePanicking) := rfl
  have given : answer give lending = .ok (.ok 1) := rfl
  have gaveUp : answer giveUp failing = .ok () := rfl
  have registered : generous.register .signer 1 vacant = .ok (.ok 1) lending := rfl
  have first : Relation.ReflTransGen Moment.Next ⟨[], [], vacant⟩ ⟨[(.signer, 1)], [], giving⟩ :=
    .tail (.single (.registered registered)) (.ran tidy_give (ends_left given))
  have second : Moment.Next ⟨[(.signer, 1)], [], giving⟩ ⟨[(.signer, 1)], [], failing⟩ :=
    .ran tidy_fail (ends_left failed)
  have third : Moment.Next ⟨[(.signer, 1)], [], failing⟩ ⟨[(.signer, 1)], [], settled⟩ :=
    .ran tidy_giveUp (ends_left gaveUp)
  obtain ⟨-, lasting, -⟩ := registrations_follow_objects fresh_vacant first
  obtain ⟨exact, -⟩ := registrations_follow_objects fresh_vacant ((first.tail second).tail third)
  have manager : Asks (.keyManager, 1) 1 giving := ⟨_, rfl, .head _⟩
  have signer : Asks (.signer, 2) 2 giving := ⟨_, rfl, .head _⟩
  refine ⟨⟨failed, ?_, ?_⟩, fun c => ?_⟩
  · exact (lasting _ (.single second) manager).2 rfl
  · exact (lasting _ (.single second) signer).2 rfl
  · have cleared := exact.cleared rfl (by decide) c
    rwa [List.mem_singleton] at cleared

end Boundary
