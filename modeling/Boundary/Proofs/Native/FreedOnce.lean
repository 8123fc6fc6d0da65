import Boundary.Native.Resident
import Boundary.Proofs.Native.Calls
import Boundary.Proofs.Native.Lifetime
/-!
The object of a handle is freed once. That happens at the step at which it is first given up with
no call in flight, and whatever freeing comes to, nobody tries again: the counter is at -1 before,
and from there no step moves it.
-/
namespace Boundary.Handle.Lifetime
open Run

/-- What holds after every step: the object was freed once if it is idle, and else never. -/
structure Sound (kind : Capability) (address : Nat) (s : Lifetime ω) : Prop
    extends Counted kind address s where
  freed_eq : s.freed = if s.Idle then [address] else []

variable {ω : Type} {close : Nat → Run ω Unit} {kind : Capability} {address : Nat}
  {s : Lifetime ω}

theorem eq_of_ofRaw {raw : RawObject} {h : Handle} (made : Handle.ofRaw kind raw = .ok h) :
    h = ⟨kind, raw.address, 0, false⟩ := by
  unfold Handle.ofRaw at made
  split at made
  · cases made
  · split at made
    · cases made
    · cases made
      rfl

theorem sound_fresh (kind : Capability) (address : Nat) (world : ω) :
    Sound kind address (fresh ⟨kind, address, 0, false⟩ world) := by
  constructor
  · constructor
    · rfl
    · rfl
    · rfl
    · intro a mem
      cases mem
  · rfl

/-- Whatever freeing comes to, it was done once. -/
theorem sound_closeIfIdle (counted : Counted kind address s) (unfreed : s.freed = []) :
    Sound kind address (left (closeIfIdle close) s) := by
  rw [left_closeIfIdle]
  by_cases idle : s.Idle
  · rw [if_pos idle]
    refine ⟨⟨counted.kind_eq, counted.address_eq, counted.counter_eq, counted.calls_eq⟩, ?_⟩
    rw [if_pos (show (closed close s).Idle from idle)]
    change s.freed ++ [s.handle.address] = [address]
    rw [unfreed, counted.address_eq]
    rfl
  · rw [if_neg idle]
    refine ⟨counted, ?_⟩
    rw [if_neg idle, unfreed]

theorem Sound.freed_of_not_idle (sound : Sound kind address s) (busy : ¬ s.Idle) :
    s.freed = [] := by
  rw [sound.freed_eq, if_neg busy]

theorem givenUp_snoc (past : List Step) (step : Step) :
    GivenUp (past ++ [step]) ↔ GivenUp past ∨ step = .destroy ∨ step = .drop := by
  unfold GivenUp
  simp only [List.mem_append, List.mem_singleton, eq_comm (b := step)]
  constructor
  · rintro ((h | h) | (h | h))
    · exact .inl (.inl h)
    · exact .inr (.inl h)
    · exact .inl (.inr h)
    · exact .inr (.inr h)
  · rintro ((h | h) | (h | h))
    · exact .inl (.inl h)
    · exact .inr (.inl h)
    · exact .inl (.inr h)
    · exact .inr (.inr h)

variable (close) in
theorem sound_perform (sound : Sound kind address s) {step : Step} (possible : s.Possible step) :
    Sound kind address (left (perform close step) s) ∧
      ((left (perform close step) s).handle.destroyed = true ↔
        s.handle.destroyed = true ∨ step = .destroy ∨ step = .drop) := by
  by_cases starting : step = .acquire ∨ step = .tryAcquire
  · have no_end : ¬ (step = .destroy ∨ step = .drop) := by
      rcases starting with rfl | rfl <;> decide
    rw [or_iff_left no_end]
    rcases left_perform_starting close sound.toCounted starting with same | ⟨owned, one⟩
    · rw [same]
      exact ⟨sound, Iff.rfl⟩
    · rw [one]
      refine ⟨⟨counted_calling sound.toCounted, ?_⟩, Iff.rfl⟩
      rw [if_neg (not_idle_of_owned (s := s.calling) owned)]
      exact sound.freed_of_not_idle (not_idle_of_owned owned)
  · rw [not_or] at starting
    obtain ⟨t, counted, freed, -, given, outcome⟩ :=
      perform_giving close sound.toCounted possible starting.1 starting.2
    rcases outcome with ⟨same, outcome⟩ | ⟨busy, outcome⟩
    · rw [left_of_ok outcome]
      refine ⟨⟨counted, ?_⟩, given⟩
      rw [freed, sound.freed_eq]
      simp only [same]
    · rw [left_congr outcome]
      have unfreed : t.freed = [] := freed.trans (sound.freed_of_not_idle busy)
      refine ⟨sound_closeIfIdle counted unfreed, ?_⟩
      rw [left_closeIfIdle, ← given]
      split <;> rfl

theorem idle_perform (sound : Sound kind address s) {step : Step} (possible : s.Possible step)
    (idle : s.Idle) : (left (perform close step) s).Idle := by
  by_cases starting : step = .acquire ∨ step = .tryAcquire
  · rcases left_perform_starting close sound.toCounted starting with same | ⟨owned, -⟩
    · rw [same]
      exact idle
    · exact absurd idle (not_idle_of_owned owned)
  · rw [not_or] at starting
    obtain ⟨t, -, -, -, -, outcome⟩ :=
      perform_giving close sound.toCounted possible starting.1 starting.2
    rcases outcome with ⟨same, outcome⟩ | ⟨busy, -⟩
    · rw [left_of_ok outcome]
      exact same.mpr idle
    · exact absurd idle busy

/-- The object is freed at the step that makes it idle. -/
theorem freed_perform_ne_iff (sound : Sound kind address s) {step : Step}
    (possible : s.Possible step) :
    (left (perform close step) s).freed ≠ s.freed ↔
      (left (perform close step) s).Idle ∧ ¬ s.Idle := by
  have sound' := (sound_perform close sound possible).1
  rw [sound'.freed_eq, sound.freed_eq]
  by_cases idle : s.Idle
  · simp [idle, idle_perform sound possible idle]
  · simp [idle]

theorem sound_trace {world : ω} {past : List Step}
    (trace : Trace close (fresh ⟨kind, address, 0, false⟩ world) past s) :
    Sound kind address s ∧ (s.handle.destroyed = true ↔ GivenUp past) := by
  induction trace with
  | start =>
    refine ⟨sound_fresh kind address world, ?_⟩
    simp [fresh, GivenUp]
  | step earlier possible ih =>
    obtain ⟨sound, given⟩ := ih
    obtain ⟨sound', given'⟩ := sound_perform close sound possible
    refine ⟨sound', ?_⟩
    rw [given', given, givenUp_snoc]

theorem Sound.freed_ne_nil_iff (sound : Sound kind address s) : s.freed ≠ [] ↔ s.Idle := by
  rw [sound.freed_eq]
  by_cases idle : s.Idle
  · simp [idle]
  · simp [idle]

/-- What freeing comes to is what the step comes to that frees. -/
theorem answer_perform_giving (sound : Sound kind address s) {step : Step}
    (possible : s.Possible step) (no_acquire : step ≠ .acquire) (no_try : step ≠ .tryAcquire) :
    answer (perform close step) s =
      if (left (perform close step) s).freed = s.freed then .ok none
      else (answer (close address) s.world).map fun _ => none := by
  obtain ⟨t, counted, freed, world, -, outcome⟩ :=
    perform_giving close sound.toCounted possible no_acquire no_try
  rcases outcome with ⟨-, outcome⟩ | ⟨busy, outcome⟩
  · rw [left_of_ok outcome, answer_of_ok outcome, if_pos freed]
  · rw [left_congr outcome, answer_congr outcome, left_closeIfIdle, answer_closeIfIdle, world,
      counted.address_eq]
    by_cases idle : t.Idle
    · rw [if_pos idle, if_pos idle, if_neg]
      change t.freed ++ [t.handle.address] ≠ s.freed
      simp [freed]
    · rw [if_neg idle, if_neg idle, if_pos freed]

/-- The only faults of a step: no call starts any more, too many calls are in flight, or freeing
ends in a fault. -/
theorem fault_of_perform (sound : Sound kind address s) {step : Step} (possible : s.Possible step)
    {f : Fault} (faulted : answer (perform close step) s = .error (.fault f)) :
    f = .useAfterDestroy kind.objectName ∨ f = .callCounterOverflow kind.objectName ∨
      answer (close address) s.world = .error (.fault f) := by
  by_cases starting : step = .acquire ∨ step = .tryAcquire
  · cases given : s.handle.destroyed with
    | true =>
      left
      obtain ⟨tried, acquired⟩ := perform_starting_of_destroyed close given
      unfold answer at faulted
      rcases starting with rfl | rfl
      · rw [acquired] at faulted
        cases faulted
        rw [sound.kind_eq]
      · rw [tried] at faulted
        cases faulted
    | false =>
      right
      left
      unfold answer at faulted
      rw [perform_starting_of_owned sound.toCounted given starting] at faulted
      by_cases full : (s.calls.length : Int) = maxCounter
      · rw [if_pos full] at faulted
        cases faulted
        rfl
      · rw [if_neg full] at faulted
        cases faulted
  · right
    right
    rw [not_or] at starting
    rw [answer_perform_giving sound possible starting.1 starting.2] at faulted
    split at faulted
    · cases faulted
    · cases closing : answer (close address) s.world with
      | ok done =>
        rw [closing] at faulted
        cases faulted
      | error stop =>
        rw [closing] at faulted
        cases faulted
        rfl

theorem freed_perform_starting (counted : Counted kind address s) {step : Step}
    (starting : step = .acquire ∨ step = .tryAcquire) :
    (left (perform close step) s).freed = s.freed := by
  rcases left_perform_starting close counted starting with same | ⟨-, one⟩
  · rw [same]
  · rw [one]
    rfl

/-- A failure that the entry point reports gets out of the step that frees. -/
theorem stops_perform (sound : Sound kind address s) {step : Step} (possible : s.Possible step)
    (frees : (left (perform close step) s).freed ≠ s.freed)
    (failing : ∀ a t, close address s.world ≠ .ok a t) :
    ∃ stop, answer (perform close step) s = .error stop := by
  have no_start : ¬ (step = .acquire ∨ step = .tryAcquire) := fun starting =>
    frees (freed_perform_starting sound.toCounted starting)
  rw [not_or] at no_start
  rw [answer_perform_giving sound possible no_start.1 no_start.2, if_neg frees]
  cases closing : answer (close address) s.world with
  | ok done =>
    obtain ⟨t, closed⟩ := eq_ok_of_answer closing
    exact absurd closed (failing done t)
  | error stop => exact ⟨stop, rfl⟩

/-- What is known of a handle after `past`, and what the next step does. -/
structure Kept (close : Nat → Run ω Unit) (kind : Capability) (address : Nat) (past : List Step)
    (s : Lifetime ω) : Prop where
  freed_eq : s.freed = if GivenUp past ∧ s.calls = [] then [address] else []
  calls_eq : ∀ a ∈ s.calls, a = address
  inFlight_eq : s.handle.inFlight = s.calls.length
  destroyed_iff : s.handle.destroyed = true ↔ GivenUp past
  isReleased_iff : s.handle.isReleased = true ↔ s.freed ≠ []
  refuses : GivenUp past →
    perform close .tryAcquire s = .ok none s ∧
    perform close .acquire s = .error (.fault (.useAfterDestroy kind.objectName)) s
  starts : ¬ GivenUp past → ∀ step, step = .acquire ∨ step = .tryAcquire →
    perform close step s =
      if (s.calls.length : Int) = 9223372036854775807 then
        .error (.fault (.callCounterOverflow kind.objectName)) s
      else .ok (some address) s.calling
  frees_iff : ∀ step, s.Possible step →
    ((left (perform close step) s).freed ≠ s.freed ↔
      (GivenUp (past ++ [step]) ∧ (left (perform close step) s).calls = []) ∧
        ¬ (GivenUp past ∧ s.calls = []))
  gives_back : ∀ step, s.Possible step → step ≠ .acquire → step ≠ .tryAcquire →
    answer (perform close step) s =
      if (left (perform close step) s).freed = s.freed then .ok none
      else (answer (close address) s.world).map fun _ => none
  /-- No step finds that the object was released too often; only freeing itself may say so. -/
  no_excess : ∀ step, s.Possible step → ∀ text,
    answer (perform close step) s = .error (.fault (.doubleRelease text)) →
    answer (close address) s.world = .error (.fault (.doubleRelease text))
  /-- When an entry point of the core frees the object, nobody says so, and a failure that it
  reports gets out of the step. -/
  through_core : ∀ (core : Core ω) (entry : Nat → Run ω (Reply Unit)),
    (∀ a, RaisesOnly (fun _ => False) (entry a)) → (close = fun a => core.call (entry a)) →
    ∀ step, s.Possible step →
      (∀ text, answer (perform close step) s ≠ .error (.fault (.doubleRelease text))) ∧
      ∀ reply after, entry address s.world = .ok reply after → reply.status.code ≠ 0 →
        (left (perform close step) s).freed ≠ s.freed →
        ∃ stop, answer (perform close step) s = .error stop

theorem no_excess_of_sound (sound : Sound kind address s) {step : Step}
    (possible : s.Possible step) {text : String}
    (twice : answer (perform close step) s = .error (.fault (.doubleRelease text))) :
    answer (close address) s.world = .error (.fault (.doubleRelease text)) := by
  rcases fault_of_perform sound possible twice with other | other | closing
  · cases other
  · cases other
  · exact closing

theorem kept_along_trace {raw : RawObject} {h : Handle}
    (made : Handle.ofRaw kind raw = .ok h) (close : Nat → Run ω Unit) (world : ω)
    {past : List Step} {s : Lifetime ω} (trace : Trace close (fresh h world) past s) :
    Kept close kind raw.address past s := by
  rw [eq_of_ofRaw made] at trace
  obtain ⟨sound, given⟩ := sound_trace trace
  have idle : s.Idle ↔ GivenUp past ∧ s.calls = [] := and_congr_left' given
  constructor
  case freed_eq =>
    rw [sound.freed_eq]
    simp only [idle]
  case calls_eq => exact sound.calls_eq
  case inFlight_eq => exact inFlight_eq sound.toCounted
  case destroyed_iff => exact given
  case isReleased_iff =>
    unfold isReleased
    rw [decide_eq_true_iff, sound.freed_ne_nil_iff, idle_iff sound.toCounted]
  case refuses =>
    intro gone
    rw [← sound.kind_eq]
    exact perform_starting_of_destroyed close (given.2 gone)
  case starts =>
    intro held step starting
    have owned : s.handle.destroyed = false := by
      rw [← Bool.not_eq_true, given]
      exact held
    exact perform_starting_of_owned sound.toCounted owned starting
  case frees_iff =>
    intro step possible
    have given' := (sound_perform close sound possible).2
    rw [given, ← givenUp_snoc] at given'
    rw [freed_perform_ne_iff sound possible, idle]
    exact and_congr_left' (and_congr_left' given')
  case gives_back =>
    intro step possible
    exact answer_perform_giving sound possible
  case no_excess =>
    intro step possible text
    exact no_excess_of_sound sound possible
  case through_core =>
    intro core entry foreign through step possible
    subst through
    constructor
    · intro text twice
      obtain ⟨after, faulted⟩ := eq_error_of_answer (no_excess_of_sound sound possible twice)
      have contained : RaisesOnly Fault.OfCall (entry raw.address) :=
        (foreign raw.address).mono fun _ never => never.elim
      cases core.call_raises contained _ _ _ faulted
    · intro reply after reported failed frees
      exact stops_perform sound possible frees fun a t => core.call_ne_ok reported failed a t

/-- An entry point that frees nothing and says so. -/
def refusal (address : Nat) : Run (List Nat) (Reply Unit) :=
  Run.change fun asked => (⟨Status.initial.setError .null, ()⟩, asked ++ [address])

def refused (address : Nat) : Run (List Nat) Unit := Core.resident.call (refusal address)

/-- A call in flight, and the object given up. -/
def awaited : Lifetime (List Nat) := ⟨⟨.signer, 7, 0, true⟩, [7], false, [], []⟩

theorem kept_though_refused :
    Handle.ofRaw .signer ⟨.signer, 7⟩ = .ok ⟨.signer, 7, 0, false⟩ ∧
    Trace refused (fresh ⟨.signer, 7, 0, false⟩ []) [.acquire, .destroy] awaited ∧
    awaited.handle.inFlight = 1 ∧ awaited.freed = [] ∧
    (left (perform refused (.release 0)) awaited).freed = [7] ∧
    ∃ stop, answer (perform refused (.release 0)) awaited = .error stop := by
  have made : Handle.ofRaw .signer ⟨.signer, 7⟩ = .ok ⟨.signer, 7, 0, false⟩ := rfl
  have acquired : Trace refused (fresh ⟨.signer, 7, 0, false⟩ []) [.acquire] _ := .step .start rfl
  have trace : Trace refused (fresh ⟨.signer, 7, 0, false⟩ []) [.acquire, .destroy] awaited :=
    .step acquired rfl
  have possible : awaited.Possible (.release 0) := ⟨rfl, by decide⟩
  have kept := kept_along_trace made refused [] trace
  have frees : (left (perform refused (.release 0)) awaited).freed = [7] := rfl
  have foreign : ∀ address, RaisesOnly (fun _ => False) (refusal address) := by
    intro address
    exact raises_only_change _
  have failing := (kept.through_core Core.resident refusal foreign rfl _ possible).2
    ⟨Status.initial.setError .null, ()⟩ [7] rfl (by decide) (by rw [frees]; decide)
  exact ⟨made, trace, kept.inFlight_eq, kept.freed_eq, frees, failing⟩

end Boundary.Handle.Lifetime
