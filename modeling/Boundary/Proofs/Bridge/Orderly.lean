import Boundary.Proofs.Bridge.Withdrawn
/-!
Programs that touch handles only by the rules: they make handles, start calls on them that end again
whichever way they take, and give them up. Nothing else is known of such a program: it may be a
callback that calls back into the core, or an entry point that calls callbacks.

A handle that was there before such a program has as many calls in flight after it.
-/
namespace Boundary
open Run
variable {H α β γ : Type}

namespace Handle

/-- The same handle with `d` more calls in flight. In between it may have been given up. -/
structure Shifted (d : Int) (h h' : Handle) : Prop where
  kind_eq : h'.kind = h.kind
  address_eq : h'.address = h.address
  inFlight_eq : h'.inFlight = h.inFlight + d
  given : h.destroyed = true → h'.destroyed = true

theorem shifted_refl (h : Handle) : h.Shifted 0 h := ⟨rfl, rfl, (Int.add_zero _).symm, id⟩

theorem Shifted.trans {c d : Int} {h h' h'' : Handle} (first : h.Shifted c h')
    (next : h'.Shifted d h'') : h.Shifted (c + d) h'' where
  kind_eq := next.kind_eq.trans first.kind_eq
  address_eq := next.address_eq.trans first.address_eq
  inFlight_eq := by
    have := first.inFlight_eq
    have := next.inFlight_eq
    omega
  given := fun given => next.given (first.given given)

theorem shifted_counting {h : Handle} (intact : h.destroyed = false) :
    h.Shifted 1 { h with counter := h.counter + 1 } :=
  ⟨rfl, rfl, by simp [inFlight, intact], id⟩

theorem tryAcquire_eq_some {h started : Handle} (acquired : h.tryAcquire = .ok (some started)) :
    started = { h with counter := h.counter + 1 } ∧ h.destroyed = false ∧ 0 ≤ h.counter := by
  unfold tryAcquire released at acquired
  split at acquired
  · cases acquired
  next idle =>
    split at acquired
    · cases acquired
    · cases acquired
      rw [not_or] at idle
      refine ⟨rfl, by simpa using idle.1, ?_⟩
      omega

theorem shifted_tryAcquire {h h' : Handle} (started : h.tryAcquire = .ok (some h')) :
    h.Shifted 1 h' := by
  obtain ⟨rfl, intact, -⟩ := tryAcquire_eq_some started
  exact shifted_counting intact

theorem shifted_release (h : Handle) : h.Shifted (-1) h.release.2 := by
  refine ⟨rfl, rfl, ?_, fun given => given⟩
  unfold inFlight release
  dsimp only
  split <;> omega

theorem shifted_destroy (h : Handle) : h.Shifted 0 h.destroy.2 := by
  unfold destroy
  split
  · exact shifted_refl h
  next intact =>
    refine ⟨rfl, rfl, ?_, fun _ => rfl⟩
    simp only [inFlight, if_neg intact]
    simp

end Handle

namespace Process

/-- The handles of `p` are there in `q`, each with as many more calls in flight as `more` says. -/
structure Shifted (more : HandleId → Int) (p q : Process H) : Prop where
  owned : p.handles.length ≤ q.handles.length
  handle : ∀ id < p.handles.length, (p.handle id).Shifted (more id) (q.handle id)

/-- Every call that has started in between has ended. -/
abbrev Kept (p q : Process H) : Prop := Shifted (fun _ => 0) p q

theorem Shifted.trans {c d : HandleId → Int} {p q r : Process H} (first : Shifted c p q)
    (next : Shifted d q r) : Shifted (fun id => c id + d id) p r where
  owned := Nat.le_trans first.owned next.owned
  handle := by
    intro id owned
    exact (first.handle id owned).trans (next.handle id (Nat.lt_of_lt_of_le owned first.owned))

theorem kept_of_eq {p q : Process H} (same : q.handles = p.handles) : Kept p q := by
  refine ⟨Nat.le_of_eq (congrArg List.length same.symm), fun id _ => ?_⟩
  unfold handle
  rw [same]
  exact Handle.shifted_refl _

theorem Shifted.congr {c d : HandleId → Int} {p q : Process H} (shifted : Shifted c p q)
    (same : ∀ id, c id = d id) : Shifted d p q := by
  rwa [← funext same]

theorem Kept.trans {p q r : Process H} (first : Kept p q) (next : Kept q r) : Kept p r :=
  (Shifted.trans first next).congr fun _ => rfl

theorem shifted_set {d : Int} {id : HandleId} {h : Handle} {p : Process H}
    (shifted : (p.handle id).Shifted d h) :
    Shifted (fun other => if other = id then d else 0) p
      { p with handles := p.handles.set id h } := by
  refine ⟨Nat.le_of_eq (List.length_set ..).symm, fun other owned => ?_⟩
  split
  next same =>
    subst same
    rw [handle_set owned]
    exact shifted
  next apart =>
    rw [handle_set_of_ne apart]
    exact Handle.shifted_refl _

/-- A program that touches handles only by the rules. -/
inductive Orderly : {α : Type} → Run (Process H) α → Prop
  | aside {α : Type} {x : Run (Process H) α}
    (untouched : ∀ p, (left x p).handles = p.handles) : Orderly x
  | adopt (kind : Capability) (o : RawObject) : Orderly (adopt kind o)
  | during {α : Type} (lib : Library (Process H)) (kind : Capability) (id : HandleId)
    {body : Nat → Run (Process H) α} (frees : ∀ address, Orderly (lib.freeObject kind address))
    (calls : ∀ address, Orderly (body address)) : Orderly ((lib.place kind id).during body)
  | destroy (lib : Library (Process H)) (kind : Capability) (id : HandleId)
    (frees : ∀ address, Orderly (lib.freeObject kind address)) : Orderly (lib.destroy kind id)
  | bind {α β : Type} {x : Run (Process H) α} {next : α → Run (Process H) β} (first : Orderly x)
    (rest : ∀ a, Orderly (next a)) : Orderly (x >>= next)
  | attempt {α : Type} {x : Run (Process H) α} (tried : Orderly x) : Orderly (Run.attempt x)
  | onFault {α : Type} {x : Run (Process H) α} {cleanup : Run (Process H) Unit} (tried : Orderly x)
    (cleans : Orderly cleanup) : Orderly (Run.onFault x cleanup)
  | noUnwind {α : Type} {x : Run (Process H) α} (inner : Orderly x) : Orderly (Run.noUnwind x)

/-! ### Calls in flight -/

section
variable {lib : Library (Process H)} {kind : Capability} {id : HandleId} {p q : Process H}

/-- What is done after the counter went down. -/
theorem shifted_finish {d : Int} {change : Handle → Handle.Release × Handle}
    (frees : ∀ address r s, Ends (lib.freeObject kind address) r s → Kept r s)
    (changes : ∀ h : Handle, h.Shifted d (change h).2)
    (ended : Ends ((lib.place kind id).finish change) p q) :
    Shifted (fun other => if other = id then d else 0) p q := by
  have written := shifted_set (changes (p.handle id))
  have finish := Handle.Place.finish_eq (lib.place kind id) p change
  have read : (lib.place kind id).read p = p.handle id := rfl
  rw [read] at finish
  cases next : (change (p.handle id)).1 with
  | keep =>
    rw [next] at finish
    obtain ⟨rfl, -⟩ := ended
    rw [left_of_ok finish]
    exact written
  | free address =>
    rw [next] at finish
    have freed := frees _ _ _ (ends_congr finish ended)
    exact (written.trans freed).congr fun _ => Int.add_zero _
  | excess =>
    rw [next] at finish
    obtain ⟨rfl, -⟩ := ended
    rw [left_of_error finish]
    exact written

/-- A call that starts and ends leaves the counter as it was. -/
theorem kept_during {body : Nat → Run (Process H) α}
    (frees : ∀ address r s, Ends (lib.freeObject kind address) r s → Kept r s)
    (calls : ∀ address r s, Ends (body address) r s → Kept r s)
    (ended : Ends ((lib.place kind id).during body) p q) : Kept p q := by
  have started := Handle.Place.acquire_eq (lib.place kind id) p
  have read : (lib.place kind id).read p = p.handle id := rfl
  rw [read] at started
  rcases ends_bind ended with ⟨address, r, acquired, ended⟩ | ⟨f, refused⟩
  · have begun : Shifted (fun other => if other = id then 1 else 0) p r := by
      rcases given : (p.handle id).tryAcquire with f | _ | h
      all_goals
        rw [given, acquired] at started
        cases started
      exact shifted_set (Handle.shifted_tryAcquire given)
    obtain ⟨s, worked, released⟩ := ends_ensuring ended
    have last : Shifted (fun other => if other = id then -1 else 0) s q :=
      shifted_finish frees Handle.shifted_release released
    refine ((begun.trans (calls _ _ _ worked)).trans last).congr fun other => ?_
    split <;> rfl
  · rcases given : (p.handle id).tryAcquire with g | _ | h
    all_goals
      rw [given, refused] at started
      cases started
    all_goals exact kept_of_eq rfl

theorem kept_adopt {o : RawObject} (ended : Ends (adopt kind o) p q) : Kept p q := by
  obtain ⟨rfl, -⟩ := ended
  unfold adopt
  split
  · exact kept_of_eq rfl
  next h _ =>
    refine ⟨?_, fun id owned => ?_⟩
    · exact Nat.le.intro (List.length_append ..).symm
    · have older : (left (Run.change fun p => (p.handles.length,
          { p with handles := p.handles ++ [h] })) p).handle id = p.handle id :=
        handle_append_of_lt owned h
      rw [older]
      exact Handle.shifted_refl _

/-- The calls that an orderly program starts have ended when it has. -/
theorem kept_of_orderly {x : Run (Process H) α} (orderly : Orderly x) (ended : Ends x p q) :
    Kept p q := by
  induction orderly generalizing p q with
  | aside untouched =>
    obtain ⟨rfl, -⟩ := ended
    exact kept_of_eq (untouched p)
  | adopt kind o => exact kept_adopt ended
  | during lib kind id frees calls freed called =>
    exact kept_during (fun _ _ _ => freed _) (fun _ _ _ => called _) ended
  | destroy lib kind id frees freed =>
    refine (shifted_finish (fun _ _ _ => freed _) Handle.shifted_destroy ended).congr fun _ => ?_
    exact ite_self 0
  | bind first rest kept kept_rest =>
    rcases ends_bind ended with ⟨a, r, done, ended⟩ | ⟨f, failed⟩
    · exact (kept (ends_of_ok done)).trans (kept_rest a ended)
    · exact kept (ends_of_fault failed)
  | attempt tried kept => exact kept (ends_attempt ended)
  | onFault tried cleans kept kept_clean =>
    rcases ends_onFault ended with ⟨a, done⟩ | ⟨f, r, failed, cleaned⟩
    · exact kept (ends_of_ok done)
    · exact (kept (ends_of_fault failed)).trans (kept_clean (ends_of_ok cleaned))
  | noUnwind inner kept =>
    obtain ⟨a, done⟩ := ends_noUnwind ended
    exact kept (ends_of_ok done)

end

/-! ### Calls to an orderly core -/

section
variable {x : Run (Process H) α} {core : Core (Process H)}

theorem Orderly.of_still (still : Still x) : Orderly x := .aside fun p => by rw [still p]

theorem orderly_pure (a : α) : Orderly (pure a : Run (Process H) α) := .aside fun _ => rfl

theorem orderly_raise (f : Fault) : Orderly (Run.raise f : Run (Process H) α) :=
  .aside fun _ => rfl

theorem orderly_abort : Orderly (Run.abort : Run (Process H) α) := .aside fun _ => rfl

theorem orderly_get : Orderly (get : Run (Process H) (Process H)) := .aside fun _ => rfl

theorem orderly_ensuring {cleanup : Run (Process H) Unit} (tried : Orderly x)
    (cleans : Orderly cleanup) : Orderly (Run.ensuring x cleanup) :=
  .bind (.onFault tried cleans) fun _ => .bind cleans fun _ => orderly_pure _

theorem orderly_settle {release : Buffer → Run (Process H) Unit}
    (payloads : ∀ b, Orderly (release b)) (status : Status) :
    Orderly (Core.settle release status) := by
  unfold Core.settle
  split
  · exact orderly_raise _
  · exact payloads _
  · exact .bind (payloads _) fun _ => orderly_raise _
  · split
    · exact .bind (payloads _) fun _ => orderly_raise _
    · split
      · exact .bind (payloads _) fun _ => orderly_raise _
      · exact .onFault (orderly_raise _) (payloads _)

variable (reclaims : ∀ b, Orderly (Run.change (core.reclaim b)))
include reclaims

theorem orderly_freeWithin (fuel : Nat) (b : Buffer) : Orderly (core.freeWithin fuel b) := by
  induction fuel generalizing b with
  | zero => exact .bind (reclaims b) fun _ => orderly_pure _
  | succ fuel ih =>
    refine .bind (reclaims b) fun status => orderly_settle (fun payload => ?_) status
    split
    · exact orderly_pure _
    · exact ih payload

theorem orderly_release (b : Buffer) : Orderly (core.release b) := by
  unfold Core.release
  split
  · exact orderly_pure _
  · have within := fun p : Process H => orderly_freeWithin reclaims (core.backlog p + 1) b
    exact .bind orderly_get within

theorem orderly_call {entry : Run (Process H) (Reply α)} (enters : Orderly entry) :
    Orderly (core.call entry) := by
  refine .bind enters fun reply => .bind ?_ fun _ => orderly_pure _
  exact orderly_settle (orderly_release reclaims) reply.status

theorem orderly_lift (s : Shape) (b : Buffer) : Orderly (core.lift s b) := by
  have releases := orderly_release reclaims b
  unfold Core.lift
  split
  · exact .bind releases fun _ => orderly_pure _
  · exact .onFault (orderly_raise _) releases

theorem orderly_callOr (s : Shape) {entry : Run (Process H) (Reply α)} (enters : Orderly entry) :
    Orderly (core.callOr s entry) := by
  refine .bind enters fun reply => ?_
  split
  · exact .bind (orderly_lift reclaims s _) fun _ => orderly_pure _
  · exact .bind (orderly_settle (orderly_release reclaims) _) fun _ => orderly_pure _

theorem orderly_lower (allocates : ∀ b, Orderly (Run.change (core.allocate b))) (v : Value) :
    Orderly (core.lower v) := by
  unfold Core.lower Core.lowerBytes
  split
  · exact orderly_raise _
  · split
    · exact orderly_pure _
    · split
      · exact orderly_raise _
      · exact orderly_call reclaims (allocates _)

end
end Process

/-- A core and its entry points, all of which touch handles only by the rules. -/
structure Library.Orderly (lib : Library (Process H)) : Prop where
  allocates : ∀ b, Process.Orderly (Run.change (lib.core.allocate b))
  reclaims : ∀ b, Process.Orderly (Run.change (lib.core.reclaim b))
  signs : ∀ address b, Process.Orderly (lib.signer.sign address b)
  imports : ∀ address b, Process.Orderly (lib.keyManager.importKey address b)
  gives : ∀ address b, Process.Orderly (lib.keyManager.signerFor address b)
  freesSigner : ∀ address, Process.Orderly (lib.signer.free address)
  freesKeyManager : ∀ address, Process.Orderly (lib.keyManager.free address)

namespace Library
open Process
variable {lib : Library (Process H)}

theorem Orderly.freeObject (orderly : lib.Orderly) (kind : Capability) (address : Nat) :
    Process.Orderly (lib.freeObject kind address) := by
  refine orderly_call orderly.reclaims ?_
  cases kind
  · exact orderly.freesSigner address
  · exact orderly.freesKeyManager address

theorem Orderly.liftResult [Wire α] (orderly : lib.Orderly) (b : Buffer) :
    Process.Orderly (lib.liftResult α b) :=
  .bind (orderly_lift orderly.reclaims _ b) fun _ => orderly_pure _

end Library

end Boundary
