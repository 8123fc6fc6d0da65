import Boundary.Proofs.Bridge.Behind
/-!
Objects made from callbacks. The callback gets a number, under which it stands from then on, and
the object is given the number; nothing of the callback runs.
-/
namespace Boundary
open Run Process
variable {H α : Type}

namespace Process

/-- The callbacks that there will be when one is needed. -/
def current (p : Process H) : Callbacks := p.callbacks.getD (.withLimit 0)

/-- What gets the number for the callback, which is not held any more. -/
def registering (kind : Capability) (r : Registry CallbackRef) (ref : CallbackRef)
    (p : Process H) : Process H :=
  { p with callbacks := some (p.current.setRegistry kind r), held := p.held.erase ref }

/-- There is a number left for the callback, and a place. -/
def Registrable (kind : Capability) (ref : CallbackRef) (p : Process H) : Prop :=
  ∃ n r, (p.current.registry kind).register ref = .ok (.ok (n, r))

end Process

theorem Process.current_of_installed {c : Callbacks} {p : Process H}
    (installed : p.callbacks = some c) : p.current = c := by
  unfold Process.current
  rw [installed]
  rfl

theorem Callbacks.registry_setRegistry (kind other : Capability) (r : Registry CallbackRef)
    (c : Callbacks) :
    (c.setRegistry kind r).registry other = if other = kind then r else c.registry other := by
  cases kind <;> cases other <;> rfl

/-- What is given a number gets the next one, and nothing else changes. -/
theorem Registry.of_register {r r' : Registry α} {a : α} {n : Int}
    (room : r.register a = .ok (.ok (n, r'))) :
    (r.lastId < n ∧ r'.lastId = n) ∧
      ∀ m, r'.lookup m = if m = n then some a else r.lookup m := by
  unfold Registry.register at room
  split at room
  · cases room
  · split at room
    next below =>
      cases room
      exact ⟨⟨Int.lt_succ _, rfl⟩, Registry.lookup_add a r below⟩
    next => cases room

section
variable {host : Host H} {kind : Capability} {n : Int} {ref : CallbackRef} {id : HandleId}
  {p q : Process H} {r : Registry CallbackRef}

theorem installedOrDefault_eq (p : Process H) :
    installedOrDefault p = .ok p.current { p with callbacks := some p.current } := by
  unfold installedOrDefault current
  rw [bind_get]
  cases installed : p.callbacks with
  | none => rfl
  | some c =>
    have same : { p with callbacks := some c } = p := by rw [← installed]
    dsimp only [Option.getD_some]
    rw [same]
    rfl

/-- What comes of it when a callback is to get a number. -/
theorem register_outcome (host : Host H) (kind : Capability) (ref : CallbackRef)
    (p : Process H) :
    host.register kind ref p =
      match (p.current.registry kind).register ref with
      | .error f =>
        Run.onFault (Run.raise f) (host.letGo ref) { p with callbacks := some p.current }
      | .ok (.error e) =>
        (host.letGo ref >>= fun _ => pure (.error e)) { p with callbacks := some p.current }
      | .ok (.ok (n, r)) => .ok (.ok n) (p.registering kind r ref) := by
  unfold Host.register
  rw [bind_eq, installedOrDefault_eq]
  dsimp only
  rcases (p.current.registry kind).register ref with f | e | ⟨n, r⟩ <;> rfl

theorem register_eq (host : Host H)
    (room : (p.current.registry kind).register ref = .ok (.ok (n, r))) :
    host.register kind ref p = .ok (.ok n) (p.registering kind r ref) := by
  rw [register_outcome, room]

theorem registrable_of_register {t : Process H}
    (registered : host.register kind ref p = .ok (.ok n) t) : Registrable kind ref p := by
  rw [register_outcome] at registered
  rcases room : (p.current.registry kind).register ref with f | e | ⟨m, r⟩
  · rw [room] at registered
    exact absurd registered (stops_onFault (host.letGo ref) (stops_raise f) _ _ _)
  · rw [room] at registered
    obtain ⟨_, _, -, ended⟩ := exists_of_bind registered
    cases ended
  · exact ⟨m, r, room⟩

theorem registered_registering
    (room : (p.current.registry kind).register ref = .ok (.ok (n, r))) :
    Registered kind n ref (p.registering kind r ref) := by
  refine ⟨_, rfl, ?_⟩
  rw [Callbacks.registry_setRegistry, if_pos rfl, (Registry.of_register room).2, if_pos rfl]

/-- The registries of the two kinds have nothing to do with each other. -/
theorem Process.Registered.of_ne {other : Capability} {m : Int} {lent : CallbackRef}
    (registered : Registered other m lent p) (apart : other ≠ kind)
    (changed : q.callbacks = some (p.current.setRegistry kind r)) : Registered other m lent q := by
  obtain ⟨c, installed, found⟩ := registered
  refine ⟨_, changed, ?_⟩
  rw [Callbacks.registry_setRegistry, if_neg apart]
  unfold current
  rw [installed]
  exact found

theorem construct_making (host : Host H) (kind : Capability) (o : ResidentObject) (q : Process H) :
    host.library.construct kind (Entry.enter 0 do return .ok (← Resident.add o)) q =
      .ok q.handles.length (q.making kind o) := by
  have added : (do return .ok (← Resident.add o) : Run (Process H) (Except DomainError Nat)) q =
      .ok (.ok (q.objects.lastAddress + 1)) { q with objects := (q.objects.add o).2 } := rfl
  unfold Library.construct
  rw [bind_eq, (Library.enter_ok (Library.quiet_library host) 0 added).2]
  exact Library.adopt_making kind o q

theorem newKeyManager_eq (host : Host H) (p : Process H) :
    host.library.newKeyManager p =
      .ok p.handles.length (p.making .keyManager (.keyManager (.own .empty))) :=
  construct_making host .keyManager (.keyManager (.own .empty)) p

theorem fromHostEntry_eq (host : Host H) (kind : Capability) :
    host.library.fromHostEntry kind =
      some fun n => Entry.enter 0 do return .ok (← Resident.add (.foreign kind n)) := by
  cases kind <;> rfl

/-- The object is there, the callback is registered, and its code has not run. -/
theorem fromHost_eq (host : Host H)
    (room : (p.current.registry kind).register ref = .ok (.ok (n, r))) :
    host.library.fromHost host kind ref p =
      .ok (.ok p.handles.length)
        ((p.registering kind r ref).making kind (.foreign kind n)) := by
  unfold Library.fromHost
  rw [fromHostEntry_eq]
  dsimp only
  rw [bind_eq, register_eq host room]
  dsimp only
  rw [bind_eq]
  unfold onFault
  rw [construct_making]
  rfl

end
end Boundary
