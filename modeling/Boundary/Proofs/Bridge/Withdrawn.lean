import Boundary.Proofs.Bridge.Made
import Boundary.Proofs.Callback.History
/-!
Callbacks that are gone. A number that was withdrawn is not given out again, and calls of an object
that asks for it change nothing. The end of an object withdraws the number of its own callback and
leaves the other objects as they are.
-/
namespace Boundary
open Run Process
variable {H α β : Type} {host : Host H} {kind : Capability} {n : Int} {ref : CallbackRef}
  {id : HandleId} {p q : Process H} {key : Jwk}

/-! ### Withdrawn numbers -/

theorem release_counting (lib : Library (Process H)) (kind : Capability)
    (callable : Callable id p) : (lib.place kind id).release (p.counting id 1) = .ok () p := by
  have counted := callable.counted
  have busy : 0 < ((p.counting id 1).handle id).counter := by
    rw [handle_counting callable.owned]
    dsimp only
    omega
  rw [Library.release_eq lib busy, counting_counting callable.owned]

/-- A method whose object turns the argument down leaves everything as it was. -/
theorem method_of_refused [Wire α] {γ : Type} (faithful : Wire.Faithful α) {a : α}
    (crosses : Wire.Crosses a) (callable : Callable id p)
    {entry : Nat → Buffer → Run (Process H) (Reply β)} {finish : β → Run (Process H) γ}
    {placeholder : β} {body : Buffer → Run (Process H) (Except DomainError β)} {e : DomainError}
    {made : Buffer} (encoded : Buffer.encoding e = .ok made)
    (entered : ∀ buffer,
      entry (p.handle id).address buffer = Entry.enter placeholder (body buffer))
    (refused : ∀ buffer, Wire.lift α buffer.content = .ok a →
      body buffer (p.counting id 1) = .ok (.error e) (p.counting id 1)) :
    host.library.method kind id entry a finish p = .ok (.error e) p := by
  obtain ⟨buffer, readable, method⟩ :=
    Library.method_of_callable host kind faithful crosses callable entry finish
  have answer : host.library.respond (entry (p.handle id).address buffer) finish
      (p.counting id 1) = .ok (.error e) (p.counting id 1) := by
    rw [entered buffer]
    exact Library.respond_error host finish (refused buffer readable) encoded
  exact method.trans (ensuring_of_ok answer (release_counting _ kind callable))

/-- An argument that cannot be lent does not get to the object. -/
theorem method_of_not_crosses [Wire α] {γ : Type} {a : α} (large : ¬ Wire.Crosses a)
    (callable : Callable id p)
    (entry : Nat → Buffer → Run (Process H) (Reply β)) (finish : β → Run (Process H) γ) :
    ∃ f, host.library.method kind id entry a finish p = .error (.fault f) p := by
  obtain ⟨f, refused⟩ := Library.lowerArgument_of_not_crosses host large (p.counting id 1)
  refine ⟨f, ?_⟩
  unfold Library.method
  rw [Library.during_of_callable callable, ensuring_eq, bind_eq, refused]
  dsimp only
  rw [release_counting _ kind callable]

theorem sign_of_unregistered {payload : Bytes} (fronts : Fronts .signer n id p)
    (unregistered : Unregistered .signer n p) (crosses : Wire.Crosses payload) :
    host.library.sign id payload p = .ok (.error (.unavailable .signer)) p := by
  obtain ⟨made, encoded⟩ := encoding_unavailable .signer
  refine method_of_refused Wire.faithful_bytes crosses fronts.callable encoded
    (fun buffer => Resident.sign_eq_enter host _ buffer) fun buffer readable => ?_
  exact Resident.signBody_of_unregistered host fronts.object unregistered readable

theorem importKey_of_unregistered (fronts : Fronts .keyManager n id p)
    (unregistered : Unregistered .keyManager n p) (crosses : Wire.Crosses key) :
    host.library.importKey id key p = .ok (.error (.unavailable .keyManager)) p := by
  obtain ⟨made, encoded⟩ := encoding_unavailable .keyManager
  refine method_of_refused Wire.faithful_jwk crosses fronts.callable encoded
    (fun buffer => Resident.importKey_eq_enter host _ buffer) fun buffer readable => ?_
  exact Resident.importBody_of_unregistered host fronts.object unregistered readable crosses

theorem signerFor_of_unregistered (fronts : Fronts .keyManager n id p)
    (unregistered : Unregistered .keyManager n p) (crosses : Wire.Crosses key) :
    host.library.signerFor id key p = .ok (.error (.unavailable .keyManager)) p := by
  obtain ⟨made, encoded⟩ := encoding_unavailable .keyManager
  refine method_of_refused Wire.faithful_jwk crosses fronts.callable encoded
    (fun buffer => Resident.signerFor_eq_enter host _ buffer) fun buffer readable => ?_
  exact Resident.signerBody_of_unregistered host fronts.object unregistered readable crosses

/-- A number that was given out and withdrawn. -/
def Withdrawn (n : Int) (r : Registry α) : Prop := n ≤ r.lastId ∧ r.lookup n = none

theorem withdrawn_of_unregister {r r' : Registry α} {a : α}
    (gone : r.unregister n = some (a, r')) : Withdrawn n r' := by
  unfold Registry.unregister at gone
  cases found : r.lookup n with
  | none =>
    rw [found] at gone
    cases gone
  | some b =>
    rw [found] at gone
    cases gone
    refine ⟨(r.issued _ (Keyed.mem_of_get? found)).2, ?_⟩
    rw [Registry.lookup_remove, if_pos rfl]

theorem withdrawn_perform {r : Registry α} (gone : Withdrawn n r) (op : History.Op α) :
    Withdrawn n (History.perform r op).2 := by
  obtain ⟨issued, missing⟩ := gone
  cases op with
  | lookup other => exact ⟨issued, missing⟩
  | size => exact ⟨issued, missing⟩
  | register a =>
    cases room : r.isFull with
    | true =>
      rw [History.perform_register_of_full room]
      exact ⟨issued, missing⟩
    | false =>
      by_cases below : r.lastId < maxCallbackId
      · rw [History.perform_register_of_room room below]
        have other : n ≠ r.lastId + 1 := by omega
        refine ⟨Int.le_add_one issued, ?_⟩
        rw [Registry.lookup_add, if_neg other, missing]
      · rw [History.perform_register_of_spent room below]
        exact ⟨issued, missing⟩
  | unregister other =>
    cases found : r.lookup other with
    | none =>
      rw [History.perform_unregister_of_none found]
      exact ⟨issued, missing⟩
    | some a =>
      rw [History.perform_unregister_of_some found]
      refine ⟨issued, ?_⟩
      rw [Registry.lookup_remove, missing, ite_self]

/-- No number is given out again. -/
theorem withdrawn_run {r : Registry α} (gone : Withdrawn n r) (ops : List (History.Op α)) :
    Withdrawn n (History.run r ops).2 := by
  induction ops generalizing r with
  | nil => exact gone
  | cons op ops ih => exact ih (withdrawn_perform gone op)

/-! ### What is left of an object -/

namespace Process

/-- The owner of the handle has given its object up. -/
def givenUp (id : HandleId) (p : Process H) : Process H :=
  { p with
    handles := p.handles.set id
      { p.handle id with counter := (p.handle id).counter - 1, destroyed := true } }

def withdrawing (kind : Capability) (n : Int) (p : Process H) : Process H :=
  { p with
    callbacks := some (p.current.setRegistry kind ((p.current.registry kind).remove n)) }

def removing (address : Nat) (p : Process H) : Process H :=
  { p with objects := p.objects.remove address }

end Process

theorem unregister_eq (host : Host H) (registered : Registered kind n ref p) :
    host.unregister kind n p =
      (do
        host.letGo ref
        return true : Run (Process H) Bool) ((withdrawing kind n p).holding ref) := by
  obtain ⟨c, installed, found⟩ := registered
  have current := current_of_installed installed
  have gone : (c.registry kind).unregister n = some (ref, (c.registry kind).remove n) := by
    unfold Registry.unregister
    rw [found]
    rfl
  unfold Host.unregister
  rw [bind_get, installed]
  dsimp only
  rw [gone]
  unfold withdrawing
  rw [current]
  rfl

theorem left_unregister (host : Host H) (registered : Registered kind n ref p) :
    left (host.unregister kind n) p = withdrawing kind n p ∨
      left (host.unregister kind n) p = left (host.dropped ref) (withdrawing kind n p) := by
  have left_eq : left (host.unregister kind n) p =
      left (host.letGo ref) ((withdrawing kind n p).holding ref) := by
    rw [left_congr (unregister_eq host registered)]
    exact left_map (host.letGo ref) (fun _ => true) _
  have letGo := host.letGo_eq ref ((withdrawing kind n p).holding ref)
  rw [lettingGo_holding] at letGo
  by_cases refers : (withdrawing kind n p).refersTo ref = true
  · rw [if_pos refers] at letGo
    exact .inl (left_eq.trans (left_of_ok letGo))
  · rw [if_neg refers] at letGo
    exact .inr (left_eq.trans (left_congr letGo))

theorem left_free {address : Nat} (object : p.objects.get? address = some (.foreign kind n)) :
    left (Resident.free host address) p = left (host.unregister kind n) (removing address p) := by
  have taken : Resident.take address p = .ok (.foreign kind n) (removing address p) := by
    unfold Resident.take
    rw [bind_get, object]
    rfl
  have freed : Resident.free host address p = host.exportedFree kind n (removing address p) := by
    unfold Resident.free
    rw [bind_eq, taken]
    cases kind <;> rfl
  rw [left_congr freed]
  unfold Host.exportedFree
  rw [left_noUnwind]
  exact left_map (host.unregister kind n) (fun _ => ()) _

/-- A call leaves what its body leaves. -/
theorem left_call (x : Run (Process H) Unit) (p : Process H) :
    left (host.library.core.call (Entry.enter () do return .ok (← x))) p = left x p := by
  let body : Run (Process H) (Except DomainError Unit) := do return .ok (← x)
  have same : left body p = left x p := left_map x (Except.ok : Unit → Except DomainError Unit) p
  rw [← same]
  rcases Library.enter_cases host () body p with
    ⟨-, came⟩ | ⟨a, q, ran, -, came⟩ | ⟨e, q, ran, -, came⟩ | ⟨f, g, q, ran, -, came⟩
  · rw [left_of_error came]
  · rw [left_of_ok came, left_of_ok ran]
  · rw [left_of_error came, left_of_ok ran]
  · rw [left_of_error came, left_of_error ran]

/-- An object that was given up is not given up again. -/
theorem destroy_of_destroyed (lib : Library (Process H)) (kind : Capability)
    (owned : id < p.handles.length) (given : (p.handle id).destroyed = true) :
    lib.destroy kind id p = .ok () p := by
  have finish := Handle.Place.finish_eq (lib.place kind id) p Handle.destroy
  have read : (lib.place kind id).read p = p.handle id := rfl
  have kept : (p.handle id).destroy = (.keep, p.handle id) := by
    unfold Handle.destroy
    rw [if_pos given]
  have same : (lib.place kind id).write (p.handle id) p = p := by
    change ({ p with handles := p.handles.set id (p.handle id) } : Process H) = p
    rw [set_handle owned]
  rw [read, kept] at finish
  dsimp only at finish
  rw [same] at finish
  exact finish

/-- Where the owner of a handle gives it up: the object goes when no call is left, and with it the
registration of its callback. -/
theorem left_destroy (host : Host H) (fronts : Fronts kind n id p) :
    left (host.library.destroy kind id) p = givenUp id p ∨
      left (host.library.destroy kind id) p =
        left (host.unregister kind n) (removing (p.handle id).address (givenUp id p)) := by
  have finish := Handle.Place.finish_eq (host.library.place kind id) p Handle.destroy
  have read : (host.library.place kind id).read p = p.handle id := rfl
  have destroyed : (p.handle id).destroy =
      (if (p.handle id).counter - 1 = Handle.released then .free (p.handle id).address else .keep,
        { p.handle id with counter := (p.handle id).counter - 1, destroyed := true }) := by
    unfold Handle.destroy
    rw [fronts.intact]
    rfl
  rw [read, destroyed] at finish
  by_cases last : (p.handle id).counter - 1 = Handle.released
  · right
    rw [if_pos last] at finish
    have freeing : host.library.destroy kind id p = host.library.core.call
        (Entry.enter () do return .ok (← Resident.free host (p.handle id).address))
        (givenUp id p) := by
      refine finish.trans ?_
      cases kind <;> rfl
    have object : (givenUp id p).objects.get? (p.handle id).address = some (.foreign kind n) :=
      fronts.object
    rw [left_congr freeing, left_call, left_free object]
  · left
    rw [if_neg last] at finish
    exact left_of_ok finish

theorem Process.Fronts.removing {other : Capability} {m : Int} {address : Nat}
    (fronts : Fronts kind n id p) (object : p.objects.get? address = some (.foreign other m))
    (apart : other ≠ kind) : Fronts kind n id (removing address p) where
  owned := fronts.owned
  intact := fronts.intact
  counted := fronts.counted
  made := fronts.made
  object := by
    have elsewhere : (p.handle id).address ≠ address := by
      intro same
      have both := fronts.object
      rw [same, object] at both
      cases kind <;> cases other <;> first | exact apart rfl | cases both
    have found := fronts.object
    unfold ResidentObjects.get? at found ⊢
    change (p.objects.entries.remove address).get? (p.handle id).address = _
    rw [Keyed.get?_remove, if_neg elsewhere]
    exact found

/-- A signer outlives the key manager that gave it, as far as the end of that is concerned. -/
theorem behind_of_destroy {m : Int} {signer : CallbackRef} {sid : HandleId}
    (manager : Behind .keyManager n ref id p) (behind : Behind .signer m signer sid p)
    (dropping : ∀ q : Process H, Behind .signer m signer sid q →
      Behind .signer m signer sid (left (host.dropped ref) q)) :
    Behind .signer m signer sid (left (host.library.destroy .keyManager id) p) := by
  have apart : id ≠ sid := by
    rintro rfl
    have both := manager.object
    rw [behind.object] at both
    cases both
  have given : Behind .signer m signer sid (givenUp id p) :=
    ⟨behind.toFronts.set_of_ne apart _, behind.registered⟩
  let freed := removing (p.handle id).address (givenUp id p)
  have gone : Behind .signer m signer sid (withdrawing .keyManager n freed) := by
    have without : Fronts .signer m sid freed :=
      given.toFronts.removing manager.object (by decide)
    exact ⟨without.congr rfl rfl, given.registered.of_ne (by decide) rfl⟩
  have registered : Registered .keyManager n ref freed := manager.registered
  rcases left_destroy host manager.toFronts with same | same
  · rw [same]
    exact given
  · rw [same]
    rcases left_unregister host registered with same | same
    · rw [same]
      exact gone
    · rw [same]
      exact dropping _ gone

end Boundary
