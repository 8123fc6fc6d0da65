import Boundary.Proofs.Bridge.Answers
import Boundary.Proofs.Bridge.Exports
import Boundary.Proofs.Bridge.Withdrawn

/-!
What calls from the native core do to the registries. Numbers of the two kinds overlap, so that the
same number may stand for a signer and for a key manager. Dispatch changes nothing but that a signer
which a key manager gives gets the next number for signers; and what stands for a callback in the
native core ends no registration but its own. The callbacks are taken to leave the registries alone
themselves, whatever else they do and however they end.
-/
namespace Boundary
open Run Process
variable {H α : Type} {host : Host H} {kind : Capability} {n : Int} {ref : CallbackRef}
  {p : Process H} {c : Callbacks} {key : Jwk}

/-- Host code that does not use the registries. -/
structure Host.Discreet (host : Host H) : Prop where
  sign : ∀ ref payload, Retains Process.callbacks (host.sign ref payload)
  importKey : ∀ ref key, Retains Process.callbacks (host.importKey ref key)
  signerFor : ∀ ref key, Retains Process.callbacks (host.signerFor ref key)
  dropped : ∀ ref, Retains Process.callbacks (host.dropped ref)

namespace Callbacks

/-- One signer more, under the next number; the key managers are the same. -/
structure Gaining (c : Callbacks) (m : Int) (signer : CallbackRef) (d : Callbacks) : Prop where
  number : m = c.signers.lastId + 1
  fresh : c.signers.lookup m = none
  entries : d.signers.entries = c.signers.entries ++ [(m, signer)]
  lastId : d.signers.lastId = m
  limit : d.signers.limit = c.signers.limit
  keyManagers : d.keyManagers = c.keyManagers

theorem gaining_of_register {m : Int} {signer : CallbackRef} {r : Registry CallbackRef}
    (room : c.signers.register signer = .ok (.ok (m, r))) :
    c.Gaining m signer (c.setRegistry .signer r) := by
  unfold Registry.register at room
  split at room
  · cases room
  · split at room
    next below =>
      cases room
      exact ⟨rfl, Registry.lookup_eq_none_of_lastId_lt (Int.lt_succ _), rfl, rfl, rfl, rfl⟩
    next => cases room

/-- What the kind has under the number is gone, if anything; the other kind is the same. -/
structure Lacking (c : Callbacks) (kind : Capability) (n : Int) (d : Callbacks) : Prop where
  entries : (d.registry kind).entries = (c.registry kind).entries.remove n
  lookup : ∀ m, (d.registry kind).lookup m = if m = n then none else (c.registry kind).lookup m
  lastId : (d.registry kind).lastId = (c.registry kind).lastId
  limit : (d.registry kind).limit = (c.registry kind).limit
  others : ∀ other, other ≠ kind → d.registry other = c.registry other

theorem lacking_remove (c : Callbacks) (kind : Capability) (n : Int) :
    c.Lacking kind n (c.setRegistry kind ((c.registry kind).remove n)) := by
  have changed : (c.setRegistry kind ((c.registry kind).remove n)).registry kind =
      (c.registry kind).remove n := by rw [registry_setRegistry, if_pos rfl]
  refine ⟨?_, fun m => ?_, ?_, ?_, fun other apart => ?_⟩
  · rw [changed]
    rfl
  · rw [changed, Registry.lookup_remove]
  · rw [changed]
    rfl
  · rw [changed]
    rfl
  · rw [registry_setRegistry, if_neg apart]

theorem lacking_of_missing (missing : (c.registry kind).lookup n = none) : c.Lacking kind n c := by
  refine ⟨?_, fun m => ?_, rfl, rfl, fun _ _ => rfl⟩
  · have others := Keyed.get?_eq_none_iff.1 missing
    exact (List.filter_eq_self.2 fun e member => decide_eq_true (others e member)).symm
  · by_cases same : m = n
    · rw [if_pos same, same, missing]
    · rw [if_neg same]

end Callbacks

theorem Registry.isFull_of_register {r : Registry α} {a : α} {e : BridgeError}
    (refused : r.register a = .ok (.error e)) : r.isFull = true := by
  unfold Registry.register at refused
  split at refused
  next full => exact full
  · split at refused
    · cases refused
    · cases refused

namespace Host

theorem Discreet.letGo (discreet : host.Discreet) (ref : CallbackRef) :
    Retains Process.callbacks (host.letGo ref) := by
  intro p
  have went := host.letGo_eq ref p
  by_cases refers : (p.lettingGo ref).refersTo ref = true
  · rw [if_pos refers] at went
    rw [left_of_ok went]
    rfl
  · rw [if_neg refers] at went
    rw [left_congr went]
    exact discreet.dropped ref (p.lettingGo ref)

/-! ### Dispatch -/

theorem retains_lookup (kind : Capability) (n : Int) :
    Retains Process.callbacks (Process.lookup kind n : Run (Process H) (Option CallbackRef)) := by
  intro p
  unfold Process.lookup
  rw [left_congr (bind_get _ p)]
  split
  · rfl
  · rfl

theorem Discreet.dispatch (discreet : host.Discreet) (kind : Capability) (n : Int)
    {use : CallbackRef → Run (Process H) (Option α)}
    (uses : ∀ ref, Retains Process.callbacks (use ref)) :
    Retains Process.callbacks (host.dispatch kind n use) := by
  refine retains_bind (retains_lookup kind n) fun found => ?_
  cases found with
  | none => exact retains_pure none
  | some ref => exact retains_ensuring (uses ref) (discreet.letGo ref)

theorem Discreet.dispatchSign (discreet : host.Discreet) (n : Int) (payload : Bytes) :
    Retains Process.callbacks (host.dispatchSign n payload) :=
  discreet.dispatch .signer n fun ref =>
    retains_bind (discreet.sign ref payload) fun _ => retains_pure _

theorem Discreet.dispatchImport (discreet : host.Discreet) (n : Int) (key : Jwk) :
    Retains Process.callbacks (host.dispatchImport n key) :=
  discreet.dispatch .keyManager n fun ref =>
    retains_bind (discreet.importKey ref key) fun _ => retains_pure _

/-! ### Signers of a key manager -/

/-- Either a callback gets the next number, or the registries stay as they were. -/
theorem Discreet.register_cases (discreet : host.Discreet) (installed : p.callbacks = some c)
    (kind : Capability) (ref : CallbackRef) :
    (∃ m r, (c.registry kind).register ref = .ok (.ok (m, r)) ∧
      host.register kind ref p = .ok (.ok m) (p.registering kind r ref)) ∨
    (left (host.register kind ref) p).callbacks = some c ∧
      (∀ m q, host.register kind ref p ≠ .ok (.ok m) q) ∧
      ∀ e q, host.register kind ref p = .ok (.error e) q → (c.registry kind).isFull = true := by
  have current := current_of_installed installed
  have same : { p with callbacks := some p.current } = p := by rw [current, ← installed]
  have went := register_outcome host kind ref p
  rw [same, current] at went
  rcases tried : (c.registry kind).register ref with f | e | ⟨m, r⟩
  all_goals
    rw [tried] at went
    dsimp only at went
  · have stopped : Stops (Run.onFault (Run.raise f) (host.letGo ref) :
        Run (Process H) (Except BridgeError Int)) := stops_onFault _ (stops_raise f)
    refine .inr ⟨?_, fun m q done => ?_, fun e q done => ?_⟩
    · rw [left_congr went, ← installed]
      exact retains_onFault (retains_raise f) (discreet.letGo ref) p
    · exact stopped p _ q (went.symm.trans done)
    · exact absurd (went.symm.trans done) (stopped p _ q)
  · refine .inr ⟨?_, fun m q done => ?_, fun _ _ _ => ?_⟩
    · rw [left_congr went, ← installed]
      exact retains_bind (discreet.letGo ref) (fun _ => retains_pure _) p
    · obtain ⟨_, t, -, ended⟩ := exists_of_bind (went.symm.trans done)
      cases ended
    · exact Registry.isFull_of_register tried
  · exact .inl ⟨m, r, rfl, went⟩

/-- Why a key manager gives no signer, where `c` are the callbacks: it does not give one, or there
is no place left for it. -/
def Withheld (host : Host H) (ref : CallbackRef) (key : Jwk) (c : Callbacks)
    (p : Process H) : Prop :=
  (∃ e q, host.signerFor ref key p = .ok (.error e) q) ∨
    ∃ signer q, host.signerFor ref key p = .ok (.ok signer) q ∧ c.signers.isFull = true

/-- The signer that a key manager gives gets the next number, or the registries stay as they
were. -/
theorem Discreet.signerNumber_cases (discreet : host.Discreet) (installed : p.callbacks = some c)
    (ref : CallbackRef) (key : Jwk) :
    (∃ signer q m r, host.signerFor ref key p = .ok (.ok signer) q ∧
      c.signers.register signer = .ok (.ok (m, r)) ∧ q.callbacks = some c ∧
      host.signerNumber ref key p = .ok (some m) (q.registering .signer r signer)) ∨
    (left (host.signerNumber ref key) p).callbacks = some c ∧
      (∀ m q, host.signerNumber ref key p ≠ .ok (some m) q) ∧
      ∀ q, host.signerNumber ref key p = .ok none q → host.Withheld ref key c p := by
  have kept := discreet.signerFor ref key
  rcases given : host.signerFor ref key p with ⟨e | signer, q⟩ | ⟨stop, q⟩
  · have none := signerNumber_of_error given
    refine .inr ⟨?_, ?_, fun _ _ => .inl ⟨e, q, given⟩⟩
    · rw [left_of_ok none, kept.of_ok given, installed]
    · intro m t done
      cases none.symm.trans done
  · have still : q.callbacks = some c := (kept.of_ok given).trans installed
    have asked : host.signerNumber ref key p =
        (do return (← host.register .signer signer).toOption : Run (Process H) (Option Int)) q := by
      unfold signerNumber
      rw [bind_eq, given]
    rcases discreet.register_cases still .signer signer with ⟨m, r, room, -⟩ | refused
    · have current : (q.current.registry .signer).register signer = .ok (.ok (m, r)) := by
        rw [current_of_installed still, room]
      exact .inl ⟨signer, q, m, r, rfl, room, still, signerNumber_of_room given current⟩
    · obtain ⟨unchanged, numberless, full⟩ := refused
      refine .inr ⟨?_, ?_, ?_⟩
      · rw [left_congr asked, left_map, unchanged]
      · intro m t done
        obtain ⟨answer, u, registered, ended⟩ := exists_of_bind (asked.symm.trans done)
        cases answer with
        | error e => cases ended
        | ok m => exact numberless m u registered
      · intro t done
        obtain ⟨answer, u, registered, ended⟩ := exists_of_bind (asked.symm.trans done)
        cases answer with
        | error e => exact .inr ⟨signer, q, given, full e u registered⟩
        | ok m => cases ended
  · have stopped : host.signerNumber ref key p = .error stop q := by
      unfold signerNumber
      rw [bind_eq, given]
    refine .inr ⟨?_, ?_, ?_⟩
    · rw [left_of_error stopped, kept.of_error given, installed]
    · intro m t done
      cases stopped.symm.trans done
    · intro t done
      cases stopped.symm.trans done

theorem dispatchSignerFor_of_registered (host : Host H)
    (registered : Registered .keyManager n ref p) (key : Jwk) :
    host.dispatchSignerFor n key p =
      ensuring (host.signerNumber ref key) (host.letGo ref) (p.holding ref) :=
  host.dispatch_of_registered registered fun ref => host.signerNumber ref key

theorem Discreet.dispatchSignerFor_cases (discreet : host.Discreet) (n : Int) (key : Jwk)
    (p : Process H) :
    (∃ c ref signer t m r, p.callbacks = some c ∧ c.keyManagers.lookup n = some ref ∧
      host.signerFor ref key (p.holding ref) = .ok (.ok signer) t ∧
      c.signers.register signer = .ok (.ok (m, r)) ∧
      ∃ q, host.dispatchSignerFor n key p = .ok (some m) q ∧
        q.callbacks = some (c.setRegistry .signer r)) ∨
    (left (host.dispatchSignerFor n key) p).callbacks = p.callbacks ∧
      (∀ m q, host.dispatchSignerFor n key p ≠ .ok (some m) q) ∧
      ∀ c q, p.callbacks = some c → host.dispatchSignerFor n key p = .ok none q →
        c.keyManagers.lookup n = none ∨
          ∃ ref, c.keyManagers.lookup n = some ref ∧ host.Withheld ref key c (p.holding ref) := by
  cases installed : p.callbacks with
  | none =>
    have missing : host.dispatchSignerFor n key p = .ok none p :=
      dispatch_of_uninstalled installed _
    refine .inr ⟨?_, ?_, nofun⟩
    · rw [left_of_ok missing, installed]
    · intro m q done
      cases missing.symm.trans done
  | some c =>
    cases found : c.keyManagers.lookup n with
    | none =>
      have missing : host.dispatchSignerFor n key p = .ok none p :=
        host.dispatch_of_unregistered ⟨c, installed, found⟩ fun ref => host.signerNumber ref key
      refine .inr ⟨?_, ?_, ?_⟩
      · rw [left_of_ok missing, installed]
      · intro m q done
        cases missing.symm.trans done
      · rintro _ q ⟨⟩ -
        exact .inl found
    | some ref =>
      have registered : Registered .keyManager n ref p := ⟨c, installed, found⟩
      have asked := dispatchSignerFor_of_registered host registered key
      have held : (p.holding ref).callbacks = some c := installed
      rcases discreet.signerNumber_cases held ref key with
        ⟨signer, t, m, r, given, room, still, numbered⟩ | ⟨unchanged, numberless, reason⟩
      · -- The key manager is still registered, so that letting it go runs nothing.
        have kept : Registered .keyManager n ref (t.registering .signer r signer) := by
          have before : Registered .keyManager n ref t := ⟨c, still, found⟩
          have apart : Capability.keyManager ≠ .signer := nofun
          exact before.of_ne apart rfl
        have closed := host.letGo_of_registered kept
        refine .inl ⟨c, ref, signer, t, m, r, rfl, found, given, room, _,
          asked.trans (ensuring_of_ok numbered closed), ?_⟩
        rw [← current_of_installed still]
        rfl
      · refine .inr ⟨?_, ?_, ?_⟩
        · rw [left_congr asked, left_ensuring (discreet.letGo ref), unchanged]
        · intro m q done
          obtain ⟨t, done⟩ := exists_of_ensuring (asked.symm.trans done)
          exact numberless m t done
        · rintro _ q ⟨⟩ done
          obtain ⟨t, done⟩ := exists_of_ensuring (asked.symm.trans done)
          exact .inr ⟨ref, found, reason t done⟩

/-! ### Release -/

theorem left_exportedFree (kind : Capability) (n : Int) (p : Process H) :
    left (host.exportedFree kind n) p = left (host.unregister kind n) p := by
  unfold exportedFree
  rw [left_noUnwind]
  exact left_map (host.unregister kind n) (fun _ => ()) p

theorem unregister_of_uninstalled (absent : p.callbacks = none) :
    host.unregister kind n p = .ok false p := by
  unfold unregister
  rw [bind_get, absent]
  rfl

theorem unregister_of_unregistered (unregistered : Unregistered kind n p) :
    host.unregister kind n p = .ok false p := by
  obtain ⟨c, installed, missing⟩ := unregistered
  have nothing : (c.registry kind).unregister n = none := by
    unfold Registry.unregister
    rw [missing]
    rfl
  unfold unregister
  rw [bind_get, installed]
  dsimp only
  rw [nothing]
  rfl

theorem Discreet.exportedFree (discreet : host.Discreet) (installed : p.callbacks = some c)
    (kind : Capability) (n : Int) :
    ∃ d, (left (host.exportedFree kind n) p).callbacks = some d ∧ c.Lacking kind n d := by
  rw [left_exportedFree]
  cases found : (c.registry kind).lookup n with
  | none =>
    refine ⟨c, ?_, Callbacks.lacking_of_missing found⟩
    rw [left_of_ok (unregister_of_unregistered ⟨c, installed, found⟩), installed]
  | some ref =>
    have withdrawn : (withdrawing kind n p).callbacks =
        some (c.setRegistry kind ((c.registry kind).remove n)) := by
      rw [← current_of_installed installed]
      rfl
    refine ⟨_, ?_, c.lacking_remove kind n⟩
    rcases left_unregister host ⟨c, installed, found⟩ with ended | ended
    · rw [ended, withdrawn]
    · rw [ended, discreet.dropped ref, withdrawn]

/-! ### Both -/

/-- What calls under a number do to the registries: dispatch of each kind, and release. -/
structure Framed (host : Host H) (n : Int) (p : Process H) : Prop where
  signs : ∀ payload, (left (host.dispatchSign n payload) p).callbacks = p.callbacks
  imports : ∀ key, (left (host.dispatchImport n key) p).callbacks = p.callbacks
  gives : ∀ key m q, host.dispatchSignerFor n key p = .ok (some m) q →
    ∃ c d ref signer t, p.callbacks = some c ∧ q.callbacks = some d ∧
      c.keyManagers.lookup n = some ref ∧
      host.signerFor ref key (p.holding ref) = .ok (.ok signer) t ∧ c.Gaining m signer d
  /-- Also where a fault gets out. -/
  withholds : ∀ key, (∀ m q, host.dispatchSignerFor n key p ≠ .ok (some m) q) →
    (left (host.dispatchSignerFor n key) p).callbacks = p.callbacks
  reasons : ∀ key c q, p.callbacks = some c → host.dispatchSignerFor n key p = .ok none q →
    c.keyManagers.lookup n = none ∨
      ∃ ref, c.keyManagers.lookup n = some ref ∧ host.Withheld ref key c (p.holding ref)
  uninstalled : p.callbacks = none → ∀ kind, (left (host.exportedFree kind n) p).callbacks = none
  releases : ∀ kind c, p.callbacks = some c →
    ∃ d, (left (host.exportedFree kind n) p).callbacks = some d ∧ c.Lacking kind n d

theorem registries_framed (discreet : host.Discreet) (n : Int) (p : Process H) :
    host.Framed n p where
  signs payload := discreet.dispatchSign n payload p
  imports key := discreet.dispatchImport n key p
  gives key m q done := by
    rcases discreet.dispatchSignerFor_cases n key p with
      ⟨c, ref, signer, t, m, r, installed, found, given, room, q, issued, changed⟩ | ⟨-, never, -⟩
    · cases issued.symm.trans done
      exact ⟨c, _, ref, signer, t, installed, changed, found, given,
        Callbacks.gaining_of_register room⟩
    · exact absurd done (never m q)
  withholds key never := by
    rcases discreet.dispatchSignerFor_cases n key p with
      ⟨c, ref, signer, t, m, r, -, -, -, -, q, issued, -⟩ | ⟨unchanged, -⟩
    · exact absurd issued (never m q)
    · exact unchanged
  reasons key c q installed done := by
    rcases discreet.dispatchSignerFor_cases n key p with
      ⟨c, ref, signer, t, m, r, -, -, -, -, q, issued, -⟩ | ⟨-, -, reason⟩
    · cases issued.symm.trans done
    · exact reason c q installed done
  uninstalled absent kind := by
    rw [left_exportedFree, left_of_ok (unregister_of_uninstalled absent), absent]
  releases kind c installed := discreet.exportedFree installed kind n

theorem discreet_terse : terse.Discreet where
  sign _ _ _ := rfl
  importKey _ _ _ := rfl
  signerFor _ _ _ := rfl
  dropped _ _ := rfl

/-- The key manager with the number 1 gives a signer, and the signer with the number 1 goes. -/
theorem registries_framed_terse :
    terse.Discreet ∧
      (∃ q c d, terse.dispatchSignerFor 1 default tersely = .ok (some 2) q ∧
        tersely.callbacks = some c ∧ q.callbacks = some d ∧ c.Gaining 2 3 d) ∧
      ∃ d, (left (terse.exportedFree .signer 1) tersely).callbacks = some d ∧
        d.signers.lookup 1 = none ∧ d.keyManagers.lookup 1 = some 2 := by
  have framed := registries_framed discreet_terse 1 tersely
  refine ⟨discreet_terse, ?_, ?_⟩
  · obtain ⟨c, d, ref, signer, t, installed, changed, -, given, gaining⟩ :=
      framed.gives default 2 _ rfl
    cases given
    exact ⟨_, c, d, rfl, installed, changed, gaining⟩
  · obtain ⟨d, released, lacking⟩ := framed.releases .signer _ rfl
    refine ⟨d, released, (lacking.lookup 1).trans (if_pos rfl), ?_⟩
    have others : d.keyManagers = tersely.current.keyManagers := lacking.others .keyManager nofun
    rw [others]
    rfl

end Host
end Boundary
