import Boundary.Proofs.Bridge.OrderlyHost
/-!
Methods and the calls in flight. A method counts as one call from before its argument crosses over
until after its result has come back, whichever way it ends. So its object cannot go in between, and
who gives the object up meanwhile leaves it to the end of the last call.
-/
namespace Boundary
open Run Process
variable {H α β γ : Type}

namespace Library
variable {lib : Library (Process H)}

/-- What goes on between the start of a method and its end. -/
def work [Wire α] (lib : Library (Process H)) (entry : Nat → Buffer → Run (Process H) (Reply β))
    (argument : α) (finish : β → Run (Process H) γ) (address : Nat) :
    Run (Process H) (Except DomainError γ) := do
  lib.respond (entry address (← lib.lowerArgument argument)) finish

theorem Orderly.work [Wire α] (orderly : lib.Orderly)
    {entry : Nat → Buffer → Run (Process H) (Reply β)} {finish : β → Run (Process H) γ}
    (enters : ∀ address b, Process.Orderly (entry address b))
    (finishes : ∀ b, Process.Orderly (finish b)) (argument : α) (address : Nat) :
    Process.Orderly (lib.work entry argument finish address) := by
  refine .bind (orderly_lower orderly.reclaims orderly.allocates _) fun b => ?_
  refine .bind (.bind ?_ fun _ => orderly_pure _) fun answer => ?_
  · exact orderly_callOr orderly.reclaims _ (enters address b)
  · cases answer with
    | error e => exact orderly_pure _
    | ok answer => exact .bind (finishes answer) fun _ => orderly_pure _

end Library

/-! ### The start and the end of a call -/

section
variable {lib : Library (Process H)} {kind : Capability} {id : HandleId} {p t u : Process H}
  {body : Nat → Run (Process H) γ}

theorem Handle.isReleased_eq_false {h : Handle} (low : 0 ≤ h.counter) : h.isReleased = false := by
  unfold Handle.isReleased Handle.released
  simp
  omega

theorem Process.Callable.inFlight_counting (callable : Callable id p) :
    ((p.counting id 1).handle id).inFlight = (p.handle id).counter + 1 := by
  rw [handle_counting callable.owned]
  simp [Handle.inFlight, callable.intact]

theorem Process.Callable.owned_counting (callable : Callable id p) :
    id < (p.counting id 1).handles.length := by
  unfold counting
  rw [List.length_set]
  exact callable.owned

/-- The handle of a call, at any later moment until the call ends. -/
theorem inFlight_of_kept (callable : Callable id p) (kept : Kept (p.counting id 1) u) :
    (u.handle id).inFlight = (p.handle id).counter + 1 := by
  have shifted := (kept.handle id callable.owned_counting).inFlight_eq
  rw [callable.inFlight_counting] at shifted
  omega

theorem address_of_kept (callable : Callable id p) (kept : Kept (p.counting id 1) u) :
    (u.handle id).address = (p.handle id).address := by
  rw [(kept.handle id callable.owned_counting).address_eq, handle_counting callable.owned]

/-- Whoever gives an object up during a call on it leaves it where it is. -/
theorem destroy_of_busy (lib : Library (Process H)) (kind : Capability)
    (owned : id < u.handles.length) (busy : 0 < (u.handle id).inFlight) :
    lib.destroy kind id u =
      .ok () (if (u.handle id).destroyed = true then u else givenUp id u) := by
  by_cases given : (u.handle id).destroyed = true
  · rw [if_pos given]
    exact destroy_of_destroyed lib kind owned given
  · have finish := Handle.Place.finish_eq (lib.place kind id) u Handle.destroy
    have read : (lib.place kind id).read u = u.handle id := rfl
    have kept : (u.handle id).destroy =
        (.keep, { u.handle id with counter := (u.handle id).counter - 1, destroyed := true }) := by
      unfold Handle.inFlight at busy
      unfold Handle.destroy Handle.released
      rw [if_neg given] at busy ⊢
      dsimp only
      rw [if_neg (by omega)]
    rw [read, kept] at finish
    rw [if_neg given]
    exact finish

theorem left_release (lib : Library (Process H)) (kind : Capability)
    (counted : 0 ≤ (t.handle id).counter) :
    left (lib.place kind id).release t =
      if (t.handle id).counter = 0 then
        left (lib.freeObject kind (t.handle id).address) (t.counting id (-1))
      else t.counting id (-1) := by
  split
  next last =>
    have finish := Handle.Place.finish_eq (lib.place kind id) t Handle.release
    have read : (lib.place kind id).read t = t.handle id := rfl
    have freeing : (t.handle id).release.1 = .free (t.handle id).address := by
      unfold Handle.release
      rw [last]
      rfl
    rw [read, freeing] at finish
    exact left_congr finish
  next busy => exact left_of_ok (Library.release_eq lib (by omega))

theorem during_of_full (lib : Library (Process H)) (kind : Capability)
    (body : Nat → Run (Process H) γ) (intact : (p.handle id).destroyed = false)
    (full : (p.handle id).counter = Handle.maxCounter) :
    (lib.place kind id).during body p =
      .error (.fault (.callCounterOverflow (p.handle id).kind.objectName)) p := by
  have read : (lib.place kind id).read p = p.handle id := rfl
  have refused : (p.handle id).tryAcquire =
      .error (.callCounterOverflow (p.handle id).kind.objectName) := by
    have low : ¬ ((p.handle id).destroyed = true ∨ (p.handle id).counter ≤ Handle.released) := by
      rw [intact, full]
      decide
    unfold Handle.tryAcquire
    rw [if_neg low, if_pos full]
  unfold Handle.Place.during
  rw [bind_eq, Handle.Place.acquire_eq, read, refused]

end

/-- A method that is one call on the handle from its start to its end, however it ends; `work` is
all that it does in between. -/
structure Balanced (lib : Library (Process H)) (kind : Capability) (id : HandleId)
    (method : Run (Process H) γ) (work : Nat → Run (Process H) γ) : Prop where
  counts : ∀ {p q : Process H}, id < p.handles.length → Ends method p q →
    (q.handle id).inFlight = (p.handle id).inFlight
  /-- Nothing is allocated, and nothing is called. -/
  refuses : ∀ {p : Process H}, (p.handle id).destroyed = true →
    method p = .error (.fault (.useAfterDestroy (p.handle id).kind.objectName)) p
  overflows : ∀ {p : Process H}, (p.handle id).destroyed = false →
    (p.handle id).counter = Handle.maxCounter →
      method p = .error (.fault (.callCounterOverflow (p.handle id).kind.objectName)) p
  /-- Whatever has run since the start of the call. -/
  holds : ∀ {p u : Process H} {α : Type} {past : Run (Process H) α}, Callable id p →
    Process.Orderly past → Ends past (p.counting id 1) u →
      (u.handle id).isReleased = false ∧ ∀ other : Library (Process H),
        other.destroy kind id u =
          .ok () (if (u.handle id).destroyed = true then u else givenUp id u)
  /-- The object goes only if it was given up, and only after all the work. -/
  frees : ∀ {p t : Process H}, Callable id p →
    Ends (work (p.handle id).address) (p.counting id 1) t →
      left method p =
        if (t.handle id).destroyed = true ∧ (p.handle id).counter = 0 then
          left (lib.freeObject kind (p.handle id).address) (t.counting id (-1))
        else t.counting id (-1)
  answers : ∀ {p t : Process H}, Callable id p →
    Ends (work (p.handle id).address) (p.counting id 1) t →
      ¬ ((t.handle id).destroyed = true ∧ (p.handle id).counter = 0) →
        answer method p = answer (work (p.handle id).address) (p.counting id 1)

section
variable {lib : Library (Process H)} {kind : Capability} {id : HandleId} {p t : Process H}
  {work : Nat → Run (Process H) γ}

/-- When the object is given up and no other call is in flight, the counter is at its last step. -/
theorem counter_of_kept (callable : Callable id p) (kept : Kept (p.counting id 1) t) :
    0 ≤ (t.handle id).counter ∧ ((t.handle id).counter = 0 ↔
      (t.handle id).destroyed = true ∧ (p.handle id).counter = 0) := by
  have flying := inFlight_of_kept callable kept
  have counted := callable.counted
  unfold Handle.inFlight at flying
  split at flying
  next given =>
    rw [and_iff_right given]
    omega
  next intact =>
    refine ⟨by omega, fun last => ?_, fun both => absurd both.1 intact⟩
    omega

theorem balanced_during (orderly : lib.Orderly)
    (works : ∀ address, Process.Orderly (work address)) :
    Balanced lib kind id ((lib.place kind id).during work) work where
  counts := by
    intro p q owned ended
    have around : Process.Orderly ((lib.place kind id).during work) :=
      .during lib kind id (orderly.freeObject kind) works
    have shifted := ((kept_of_orderly around ended).handle id owned).inFlight_eq
    omega
  refuses := Library.during_of_destroyed lib kind work
  overflows := during_of_full lib kind work
  holds := by
    intro p u α past callable orderly ended
    have kept := kept_of_orderly orderly ended
    have counted := callable.counted
    have busy : 0 < (u.handle id).inFlight := by
      rw [inFlight_of_kept callable kept]
      omega
    refine ⟨Handle.isReleased_eq_false (Handle.counter_nonneg busy), fun other => ?_⟩
    exact destroy_of_busy other kind (Nat.lt_of_lt_of_le callable.owned_counting kept.owned) busy
  frees := by
    intro p t callable ended
    have kept := kept_of_orderly (works _) ended
    obtain ⟨low, last⟩ := counter_of_kept callable kept
    rw [left_congr (Library.during_of_callable callable lib work), left_ensuring_of_ends ended,
      left_release lib kind low, address_of_kept callable kept]
    exact if_congr last rfl rfl
  answers := by
    intro p t callable ended stays
    have kept := kept_of_orderly (works _) ended
    obtain ⟨low, last⟩ := counter_of_kept callable kept
    have busy : 0 < (t.handle id).counter := by
      have := mt last.1 stays
      omega
    rw [answer_congr (Library.during_of_callable callable lib work)]
    exact answer_ensuring_of_ends ended (Library.release_eq lib busy)

end

/-- Every method of a signer or a key manager is one call on its handle. -/
theorem methods_balanced {lib : Library (Process H)} (orderly : lib.Orderly) (id : HandleId) :
    (∀ payload : Bytes, Balanced lib .signer id (lib.sign id payload)
      (lib.work lib.signer.sign payload (lib.liftResult Bytes))) ∧
    (∀ key : Jwk, Balanced lib .keyManager id (lib.importKey id key)
      (lib.work lib.keyManager.importKey key (lib.liftResult Jwk))) ∧
    ∀ key : Jwk, Balanced lib .keyManager id (lib.signerFor id key)
      (lib.work lib.keyManager.signerFor key fun address =>
        adopt .signer ⟨.signer, address⟩) := by
  refine ⟨fun payload => ?_, fun key => ?_, fun key => ?_⟩
  · exact balanced_during orderly (orderly.work orderly.signs orderly.liftResult payload)
  · exact balanced_during orderly (orderly.work orderly.imports orderly.liftResult key)
  · exact balanced_during orderly (orderly.work orderly.gives (fun _ => .adopt _ _) key)

/-- Host code that notes what happens to it. -/
def noted (word : String) : Run (Process (List String)) Unit := setHost (· ++ [word])

def frugal : Host (List String) :=
  ⟨fun _ payload => return .ok payload, fun _ key => return .ok key, fun ref _ => return .ok ref,
    fun _ => noted "dropped"⟩

/-- Host code that gives up the signer that it is called for. -/
def spender : Host (List String) :=
  { frugal with
    sign := fun _ payload => do
      frugal.library.destroy .signer 0
      noted "signed"
      return .ok payload }

/-- A process with a signer that has a spender behind it. -/
def spending : Process (List String) :=
  left (spender.library.fromHost spender .signer 1) { Process.start [] with held := [1] }

/-- What the signer does with two bytes. -/
def spend : Run (Process (List String)) (Except DomainError Bytes) :=
  spender.library.work spender.library.signer.sign ([1, 2] : Bytes)
    (spender.library.liftResult Bytes) 1

def spent : Process (List String) := left spend (spending.counting 0 1)

def finished : Process (List String) := left (spender.library.sign 0 [1, 2]) spending

theorem orderly_frugal : frugal.Orderly where
  signs _ _ := orderly_pure _
  imports _ _ := orderly_pure _
  gives _ _ := orderly_pure _
  drops _ := .aside fun _ => rfl

theorem orderly_spender : spender.Orderly where
  signs _ payload := by
    have frees := orderly_frugal.library.freeObject .signer
    have notes : Process.Orderly (noted "signed") := .aside fun _ => rfl
    exact .bind (.destroy _ _ _ frees) fun _ => .bind notes fun _ => orderly_pure _
  imports := orderly_frugal.imports
  gives := orderly_frugal.gives
  drops := orderly_frugal.drops

theorem methods_balanced_spender :
    (spent.host = ["signed"] ∧ (spent.handle 0).destroyed = true ∧
        (spent.handle 0).isReleased = false) ∧
      (finished = left (spender.library.freeObject .signer 1) (spent.counting 0 (-1)) ∧
        finished.host = ["signed", "dropped"] ∧ (finished.handle 0).inFlight = 0) ∧
      spender.library.sign 0 [] finished =
        .error (.fault (.useAfterDestroy "Signer")) finished := by
  have orderly := orderly_spender.library
  have balanced (payload : Bytes) := (methods_balanced orderly 0).1 payload
  have callable : Callable 0 spending := ⟨by decide, rfl, by decide⟩
  have works : Ends spend (spending.counting 0 1) spent := ends_left (a := .ok [1, 2]) rfl
  have ended : Ends (spender.library.sign 0 [1, 2]) spending finished :=
    ends_left (a := .ok [1, 2]) rfl
  have freed := (balanced [1, 2]).frees callable works
  have past : Process.Orderly spend := orderly.work orderly.signs orderly.liftResult _ _
  refine ⟨⟨rfl, rfl, ?_⟩, ⟨freed, rfl, ?_⟩, ?_⟩
  · exact ((balanced [1, 2]).holds callable past works).1
  · exact (balanced [1, 2]).counts (by decide) ended
  · exact (balanced []).refuses rfl

end Boundary
