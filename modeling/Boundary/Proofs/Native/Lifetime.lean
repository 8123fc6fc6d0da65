import Boundary.Native.Handle
import Boundary.Proofs.Unwinding
/-!
The life of a handle, from its making until its owner drops it: calls start and end in any order,
and the object is given up at some point, maybe more than once.

One counter stands for two things. As long as the handle is not given up, it is the number of calls
in flight; after that it is one less. So it comes to -1 exactly when the object is given up and the
last call has ended, and stays there, since no call can start any more. What each step does with
the counter is said here, and who frees the object.
-/
namespace Boundary.Handle
open Run

namespace Place
variable {σ : Type} (p : Place σ) (s : σ)

theorem tryAcquire_eq : p.tryAcquire s =
    match (p.read s).tryAcquire with
    | .error f => .error (.fault f) s
    | .ok none => .ok none s
    | .ok (some h) => .ok (some h.address) (p.write h s) := by
  unfold Place.tryAcquire
  rw [bind_get]
  rcases (p.read s).tryAcquire with f | _ | h <;> rfl

theorem acquire_eq : p.acquire s =
    match (p.read s).tryAcquire with
    | .error f => .error (.fault f) s
    | .ok none => .error (.fault (.useAfterDestroy (p.read s).kind.objectName)) s
    | .ok (some h) => .ok h.address (p.write h s) := by
  unfold Place.acquire
  rw [bind_eq, tryAcquire_eq]
  rcases (p.read s).tryAcquire with f | _ | h <;> rfl

theorem finish_eq (change : Handle → Release × Handle) : p.finish change s =
    match (change (p.read s)).1 with
    | .keep => .ok () (p.write (change (p.read s)).2 s)
    | .free address => p.free address (p.write (change (p.read s)).2 s)
    | .excess => .error (.fault (.doubleRelease (change (p.read s)).2.kind.objectName))
        (p.write (change (p.read s)).2 s) := by
  unfold Place.finish
  rw [bind_get]
  rcases change (p.read s) with ⟨_ | _ | _, h⟩ <;> rfl

end Place

/-- A handle with what goes on around it: in `world` its object is freed, and `freed` lists the
addresses for which that was attempted. -/
structure Lifetime (ω : Type) where
  handle : Handle
  /-- The addresses that the calls in flight were given. -/
  calls : List Nat
  dropped : Bool
  freed : List Nat
  world : ω

namespace Lifetime

inductive Step where
  | acquire
  | tryAcquire
  /-- Ends one of the calls in flight. -/
  | release (call : Nat)
  | destroy
  /-- The owner drops the handle, which gives the object up. -/
  | drop
  deriving DecidableEq, Repr

def fresh (h : Handle) (world : ω) : Lifetime ω := ⟨h, [], false, [], world⟩

/-- Notes the address and frees the object. -/
def free (close : Nat → Run ω Unit) (address : Nat) : Run (Lifetime ω) Unit := fun s =>
  match close address s.world with
  | .ok _ world => .ok () { s with freed := s.freed ++ [address], world }
  | .error stop world => .error stop { s with freed := s.freed ++ [address], world }

def place (close : Nat → Run ω Unit) : Place (Lifetime ω) where
  read := handle
  write handle s := { s with handle }
  free := free close

def started (address : Nat) (s : Lifetime ω) : Lifetime ω :=
  { s with calls := s.calls ++ [address] }

def ended (call : Nat) (s : Lifetime ω) : Lifetime ω :=
  { s with calls := s.calls.eraseIdx call }

/-- What a step comes to: the address for a call, if one has started. -/
def perform (close : Nat → Run ω Unit) : Step → Run (Lifetime ω) (Option Nat)
  | .acquire => do
    let address ← (place close).acquire
    modify (started address)
    return some address
  | .tryAcquire => do
    match ← (place close).tryAcquire with
    | none => return none
    | some address => do
      modify (started address)
      return some address
  | .release call => do
    modify (ended call)
    (place close).release
    return none
  | .destroy => do
    (place close).destroy
    return none
  | .drop => do
    modify fun s => { s with dropped := true }
    (place close).destroy
    return none

/-- The owner drops the handle last, and a call ends once. -/
def Possible (s : Lifetime ω) : Step → Prop
  | .release call => s.dropped = false ∧ call < s.calls.length
  | .drop => s.dropped = false ∧ s.calls = []
  | _ => s.dropped = false

def GivenUp (past : List Step) : Prop := Step.destroy ∈ past ∨ Step.drop ∈ past

instance (past : List Step) : Decidable (GivenUp past) := inferInstanceAs (Decidable (_ ∨ _))

/-- `s` is where `past` leads to. Steps that end in a fault count like the others. -/
inductive Trace (close : Nat → Run ω Unit) (start : Lifetime ω) :
    List Step → Lifetime ω → Prop
  | start : Trace close start [] start
  | step {past s step} (earlier : Trace close start past s) (possible : s.Possible step) :
    Trace close start (past ++ [step]) (left (perform close step) s)

/-- The object is given up and no call is in flight. -/
def Idle (s : Lifetime ω) : Prop := s.handle.destroyed = true ∧ s.calls = []

instance (s : Lifetime ω) : Decidable s.Idle := inferInstanceAs (Decidable (_ ∧ _))

/-- What the counter says about the calls and the object. -/
structure Counted (kind : Capability) (address : Nat) (s : Lifetime ω) : Prop where
  kind_eq : s.handle.kind = kind
  address_eq : s.handle.address = address
  counter_eq : s.handle.counter = s.calls.length - if s.handle.destroyed then 1 else 0
  calls_eq : ∀ a ∈ s.calls, a = address

variable {ω : Type} {close : Nat → Run ω Unit} {kind : Capability} {address : Nat}
  {s : Lifetime ω}

theorem Counted.counter_of_owned (counted : Counted kind address s)
    (owned : s.handle.destroyed = false) : s.handle.counter = s.calls.length := by
  have counter := counted.counter_eq
  rw [owned, if_neg Bool.false_ne_true] at counter
  omega

theorem Counted.counter_of_destroyed (counted : Counted kind address s)
    (given : s.handle.destroyed = true) : s.handle.counter = s.calls.length - 1 := by
  have counter := counted.counter_eq
  rw [given, if_pos rfl] at counter
  exact counter

theorem inFlight_eq (counted : Counted kind address s) :
    s.handle.inFlight = s.calls.length := by
  unfold inFlight
  cases given : s.handle.destroyed with
  | true =>
    have counter := counted.counter_of_destroyed given
    rw [if_pos rfl]
    omega
  | false =>
    rw [if_neg Bool.false_ne_true]
    exact counted.counter_of_owned given

/-- The counter tells when nobody needs the object any more. -/
theorem idle_iff (counted : Counted kind address s) : s.Idle ↔ s.handle.counter = released := by
  unfold Idle released
  rw [← List.length_eq_zero_iff]
  cases given : s.handle.destroyed with
  | true =>
    have counter := counted.counter_of_destroyed given
    rw [and_iff_right rfl]
    omega
  | false =>
    have counter := counted.counter_of_owned given
    constructor
    · intro both
      cases both.1
    · intro last
      omega

theorem released_le_counter (counted : Counted kind address s) :
    released ≤ s.handle.counter := by
  have counter := counted.counter_eq
  unfold released
  split at counter <;> omega

theorem not_idle_of_owned (owned : s.handle.destroyed = false) : ¬ s.Idle := by
  intro idle
  rw [idle.1] at owned
  cases owned

theorem not_idle_of_live {call : Nat} (live : call < s.calls.length) : ¬ s.Idle := by
  intro idle
  rw [idle.2] at live
  cases live

/-! ### The counter goes up and down -/

/-- The counter of a handle is one up, and its address is given to one more call. -/
def calling (s : Lifetime ω) : Lifetime ω :=
  started s.handle.address
    { s with handle := { s.handle with counter := s.handle.counter + 1 } }

/-- A call has ended, and the counter went down. -/
def lowered (call : Nat) (s : Lifetime ω) : Lifetime ω :=
  { ended call s with handle := { s.handle with counter := s.handle.counter - 1 } }

/-- The object is given up, and the counter went down. -/
def abandoned (s : Lifetime ω) : Lifetime ω :=
  { s with handle := { s.handle with counter := s.handle.counter - 1, destroyed := true } }

theorem counted_calling (counted : Counted kind address s) :
    Counted kind address s.calling := by
  constructor
  · exact counted.kind_eq
  · exact counted.address_eq
  · have counter := counted.counter_eq
    change s.handle.counter + 1 = ((s.calls ++ [s.handle.address]).length : Int) - _
    rw [List.length_append, List.length_singleton, counter]
    change _ = _ - if s.handle.destroyed then 1 else 0
    omega
  · intro a mem
    rcases List.mem_append.1 mem with mem | mem
    · exact counted.calls_eq a mem
    · rw [List.mem_singleton.1 mem]
      exact counted.address_eq

theorem counted_lowered (counted : Counted kind address s) {call : Nat}
    (live : call < s.calls.length) : Counted kind address (s.lowered call) := by
  constructor
  · exact counted.kind_eq
  · exact counted.address_eq
  · have counter := counted.counter_eq
    have fewer := List.length_eraseIdx_of_lt live
    change s.handle.counter - 1 = ((s.calls.eraseIdx call).length : Int) -
      if s.handle.destroyed then 1 else 0
    omega
  · intro a mem
    exact counted.calls_eq a (List.mem_of_mem_eraseIdx mem)

theorem counted_abandoned (counted : Counted kind address s)
    (owned : s.handle.destroyed = false) : Counted kind address s.abandoned := by
  constructor
  · exact counted.kind_eq
  · exact counted.address_eq
  · have counter := counted.counter_of_owned owned
    change s.handle.counter - 1 = (s.calls.length : Int) - 1
    omega
  · exact counted.calls_eq

/-! ### Starting a call -/

theorem not_refused (counted : Counted kind address s) (owned : s.handle.destroyed = false) :
    ¬ (s.handle.destroyed = true ∨ s.handle.counter ≤ released) := by
  have counter := counted.counter_of_owned owned
  rintro (given | low)
  · rw [owned] at given
    cases given
  · unfold released at low
    omega

theorem tryAcquire_of_destroyed (given : s.handle.destroyed = true) :
    s.handle.tryAcquire = .ok none := by
  unfold Handle.tryAcquire
  rw [if_pos (.inl given)]

theorem tryAcquire_of_full (counted : Counted kind address s) (owned : s.handle.destroyed = false)
    (full : (s.calls.length : Int) = maxCounter) :
    s.handle.tryAcquire = .error (.callCounterOverflow kind.objectName) := by
  have counter := counted.counter_of_owned owned
  unfold Handle.tryAcquire
  rw [if_neg (not_refused counted owned), if_pos (by omega), counted.kind_eq]

theorem tryAcquire_of_room (counted : Counted kind address s) (owned : s.handle.destroyed = false)
    (room : (s.calls.length : Int) ≠ maxCounter) :
    s.handle.tryAcquire = .ok (some { s.handle with counter := s.handle.counter + 1 }) := by
  have counter := counted.counter_of_owned owned
  unfold Handle.tryAcquire
  rw [if_neg (not_refused counted owned), if_neg (by omega)]

theorem read_eq : (place close).read s = s.handle := rfl

theorem perform_tryAcquire_eq : perform close .tryAcquire s =
    match s.handle.tryAcquire with
    | .error f => .error (.fault f) s
    | .ok none => .ok none s
    | .ok (some h) => .ok (some h.address) (started h.address { s with handle := h }) := by
  rw [perform, bind_eq, Place.tryAcquire_eq, read_eq]
  rcases s.handle.tryAcquire with f | _ | h <;> rfl

theorem perform_acquire_eq : perform close .acquire s =
    match s.handle.tryAcquire with
    | .error f => .error (.fault f) s
    | .ok none => .error (.fault (.useAfterDestroy s.handle.kind.objectName)) s
    | .ok (some h) => .ok (some h.address) (started h.address { s with handle := h }) := by
  rw [perform, bind_eq, Place.acquire_eq, read_eq]
  rcases s.handle.tryAcquire with f | _ | h <;> rfl

variable (close) in
/-- Once the object is given up no call starts. -/
theorem perform_starting_of_destroyed (given : s.handle.destroyed = true) :
    perform close .tryAcquire s = .ok none s ∧
      perform close .acquire s =
        .error (.fault (.useAfterDestroy s.handle.kind.objectName)) s := by
  rw [perform_tryAcquire_eq, perform_acquire_eq, tryAcquire_of_destroyed given]
  exact ⟨rfl, rfl⟩

/-- Before that, a call starts unless there is no room in the counter. -/
theorem perform_starting_of_owned (counted : Counted kind address s)
    (owned : s.handle.destroyed = false) {step : Step}
    (starting : step = .acquire ∨ step = .tryAcquire) :
    perform close step s =
      if (s.calls.length : Int) = maxCounter then
        .error (.fault (.callCounterOverflow kind.objectName)) s
      else .ok (some address) s.calling := by
  rw [← counted.address_eq]
  by_cases full : (s.calls.length : Int) = maxCounter
  · have refused := tryAcquire_of_full counted owned full
    rw [if_pos full]
    rcases starting with rfl | rfl
    · rw [perform_acquire_eq, refused]
    · rw [perform_tryAcquire_eq, refused]
  · have started := tryAcquire_of_room counted owned full
    rw [if_neg full]
    rcases starting with rfl | rfl
    · rw [perform_acquire_eq, started]
      rfl
    · rw [perform_tryAcquire_eq, started]
      rfl

variable (close) in
theorem left_perform_starting (counted : Counted kind address s) {step : Step}
    (starting : step = .acquire ∨ step = .tryAcquire) :
    left (perform close step) s = s ∨
      s.handle.destroyed = false ∧ left (perform close step) s = s.calling := by
  unfold left
  cases given : s.handle.destroyed with
  | true =>
    left
    obtain ⟨tried, acquired⟩ := perform_starting_of_destroyed close given
    rcases starting with rfl | rfl
    · rw [acquired]
    · rw [tried]
  | false =>
    rw [perform_starting_of_owned counted given starting]
    by_cases full : (s.calls.length : Int) = maxCounter
    · left
      rw [if_pos full]
    · right
      rw [if_neg full]
      exact ⟨rfl, rfl⟩

/-! ### Giving back -/

/-- Frees the object if nobody needs it any more. -/
def closeIfIdle (close : Nat → Run ω Unit) : Run (Lifetime ω) (Option Nat) := fun s =>
  if s.Idle then (do free close s.handle.address; return none : Run _ _) s else .ok none s

theorem finish_eq_closeIfIdle {change : Handle → Release × Handle} {after : Lifetime ω}
    (written : { s with handle := (change s.handle).2 } = after)
    (decided : (change s.handle).1 = if after.Idle then .free after.handle.address else .keep) :
    (do (place close).finish change; return none : Run (Lifetime ω) (Option Nat)) s
      = closeIfIdle close after := by
  have write_eq : (place close).write (change s.handle).2 s = after := written
  rw [bind_eq, Place.finish_eq, read_eq, write_eq, decided]
  unfold closeIfIdle
  by_cases idle : after.Idle
  · rw [if_pos idle, if_pos idle, bind_eq]
    rfl
  · rw [if_neg idle, if_neg idle]
    rfl

/-- As many calls end as have started, so the counter never falls below -1. -/
theorem perform_release_eq (counted : Counted kind address s) {call : Nat}
    (live : call < s.calls.length) :
    perform close (.release call) s = closeIfIdle close (s.lowered call) := by
  have fewer := counted_lowered counted live
  have idle : (s.lowered call).Idle ↔ s.handle.counter - 1 = released := idle_iff fewer
  have bounded : ¬ s.handle.counter - 1 < released := Int.not_lt.2 (released_le_counter fewer)
  refine finish_eq_closeIfIdle (s := ended call s) rfl ?_
  unfold Handle.release
  dsimp only
  by_cases last : s.handle.counter - 1 = released
  · rw [if_pos (idle.2 last)]
    exact if_pos last
  · rw [if_neg fun h => last (idle.1 h)]
    exact (if_neg last).trans (if_neg bounded)

theorem destroy_eq_of_destroyed (given : s.handle.destroyed = true) :
    s.handle.destroy = (.keep, s.handle) := by
  unfold Handle.destroy
  exact if_pos given

theorem destroy_eq_of_owned (owned : s.handle.destroyed = false) :
    s.handle.destroy =
      (if s.handle.counter - 1 = released then .free s.handle.address else .keep,
        s.abandoned.handle) := by
  unfold Handle.destroy
  rw [owned]
  rfl

theorem abandon_eq (counted : Counted kind address s) (owned : s.handle.destroyed = false) :
    (do (place close).destroy; return none : Run (Lifetime ω) (Option Nat)) s
      = closeIfIdle close s.abandoned := by
  have idle : s.abandoned.Idle ↔ s.handle.counter - 1 = released :=
    idle_iff (counted_abandoned counted owned)
  have decision := destroy_eq_of_owned owned
  refine finish_eq_closeIfIdle ?_ ?_
  · rw [decision]
    rfl
  · rw [decision]
    dsimp only
    by_cases last : s.handle.counter - 1 = released
    · rw [if_pos (idle.2 last), if_pos last]
      rfl
    · rw [if_neg fun h => last (idle.1 h), if_neg last]

theorem answer_closeIfIdle : answer (closeIfIdle close) s =
    if s.Idle then (answer (close s.handle.address) s.world).map fun _ => none else .ok none := by
  unfold answer closeIfIdle
  by_cases idle : s.Idle
  · rw [if_pos idle, if_pos idle, bind_eq]
    unfold free
    cases close s.handle.address s.world <;> rfl
  · rw [if_neg idle, if_neg idle]

/-- The object was freed, whatever that came to. -/
def closed (close : Nat → Run ω Unit) (s : Lifetime ω) : Lifetime ω :=
  { s with
    freed := s.freed ++ [s.handle.address]
    world := left (close s.handle.address) s.world }

theorem left_closeIfIdle :
    left (closeIfIdle close) s = if s.Idle then closed close s else s := by
  unfold left closeIfIdle
  by_cases idle : s.Idle
  · rw [if_pos idle, if_pos idle, bind_eq]
    unfold free closed left
    cases close s.handle.address s.world <;> rfl
  · rw [if_neg idle, if_neg idle]

variable (close) in
/-- Only the first time that the object is given up the counter changes. -/
theorem perform_destroy_giving (counted : Counted kind address s) :
    ∃ t, Counted kind address t ∧ t.freed = s.freed ∧ t.world = s.world ∧
      t.handle.destroyed = true ∧
      (t.Idle = s.Idle ∧ perform close .destroy s = .ok none t ∨
        ¬ s.Idle ∧ perform close .destroy s = closeIfIdle close t) := by
  cases given : s.handle.destroyed with
  | true =>
    refine ⟨s, counted, rfl, rfl, given, .inl ⟨rfl, ?_⟩⟩
    rw [perform, bind_eq]
    unfold Place.destroy
    rw [Place.finish_eq, read_eq, destroy_eq_of_destroyed given]
    rfl
  | false =>
    refine ⟨s.abandoned, counted_abandoned counted given, rfl, rfl, rfl, .inr ?_⟩
    exact ⟨not_idle_of_owned given, abandon_eq counted given⟩

variable (close) in
/-- A step that gives back changes the counter first, unless the object was given up before. Then
it frees the object if that made it idle. -/
theorem perform_giving (counted : Counted kind address s) {step : Step} (possible : s.Possible step)
    (no_acquire : step ≠ .acquire) (no_try : step ≠ .tryAcquire) :
    ∃ t, Counted kind address t ∧ t.freed = s.freed ∧ t.world = s.world ∧
      (t.handle.destroyed = true ↔
        s.handle.destroyed = true ∨ step = .destroy ∨ step = .drop) ∧
      (t.Idle = s.Idle ∧ perform close step s = .ok none t ∨
        ¬ s.Idle ∧ perform close step s = closeIfIdle close t) := by
  cases step with
  | acquire => exact absurd rfl no_acquire
  | tryAcquire => exact absurd rfl no_try
  | release call =>
    have live : call < s.calls.length := possible.2
    refine ⟨s.lowered call, counted_lowered counted live, rfl, rfl, ?_, .inr ?_⟩
    · change s.handle.destroyed = true ↔ _
      simp
    · exact ⟨not_idle_of_live live, perform_release_eq counted live⟩
  | destroy =>
    obtain ⟨t, counted', freed, world, given, outcome⟩ :=
      perform_destroy_giving close counted
    exact ⟨t, counted', freed, world, by simp [given], outcome⟩
  | drop =>
    -- Apart from the mark that the handle is gone, dropping is giving up.
    have unheld : Counted kind address { s with dropped := true } :=
      ⟨counted.kind_eq, counted.address_eq, counted.counter_eq, counted.calls_eq⟩
    obtain ⟨t, counted', freed, world, given, outcome⟩ :=
      perform_destroy_giving close unheld
    exact ⟨t, counted', freed, world, by simp [given], outcome⟩

end Lifetime
end Boundary.Handle
