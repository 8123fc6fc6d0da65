import Boundary.Callback.Export
import Boundary.Proofs.Text.ByteLength
import Boundary.Proofs.Unwinding
import Boundary.Proofs.Wire.Typed
/-!
What the native core reaches through a number. As long as a callback is registered under it, each of
the exported entry points comes to the same as the callback itself, which is held until it is
through and whose faults end the process.
-/
namespace Boundary
open Run
variable {H α β : Type}

namespace Jwk

/-- A key with a member whose length cannot be written down. -/
def overlong (d : Option String) : Jwk :=
  ⟨none, "OKP", "Ed25519", d, String.ofList (List.replicate 2147483648 'k'), none⟩

theorem lower_overlong (d : Option String) : ∃ e, Wire.lower (overlong d) = .error e := by
  have length : (Bytes.ofText (overlong d).x).length = 2147483648 :=
    Bytes.length_ofText_replicate _ (by decide)
  cases written : Wire.lower (overlong d) with
  | error e => exact ⟨e, rfl⟩
  | ok b =>
    have fits : (Wire.toValue (overlong d)).oversize? = none := Value.fits_of_write written
    have each := Value.anyOversize?_eq_none_iff.1 fits
    have short := Value.tooLong?_eq_none_iff.1 (each (.text (overlong d).x) (by simp))
    rw [length] at short
    exact absurd short (by decide)

theorem encoding_overlong (d : Option String) : ∃ f, Buffer.encoding (overlong d) = .error f := by
  obtain ⟨e, large⟩ := lower_overlong d
  refine ⟨.oversize e, ?_⟩
  rw [Buffer.encoding, large]

end Jwk

namespace Process

/-- The callback stands under the number. -/
def Registered (kind : Capability) (n : Int) (ref : CallbackRef) (p : Process H) : Prop :=
  ∃ c, p.callbacks = some c ∧ (c.registry kind).lookup n = some ref

/-- There are callbacks, but none under the number. -/
def Unregistered (kind : Capability) (n : Int) (p : Process H) : Prop :=
  ∃ c, p.callbacks = some c ∧ (c.registry kind).lookup n = none

def holding (ref : CallbackRef) (p : Process H) : Process H := { p with held := ref :: p.held }

def lettingGo (ref : CallbackRef) (p : Process H) : Process H :=
  { p with held := p.held.erase ref }

theorem lettingGo_holding (ref : CallbackRef) (p : Process H) :
    (p.holding ref).lettingGo ref = p := by
  unfold holding lettingGo
  rw [List.erase_cons_head]

theorem Registered.refersTo {kind : Capability} {n : Int} {ref : CallbackRef} {p : Process H}
    (registered : Registered kind n ref p) : p.refersTo ref = true := by
  obtain ⟨c, installed, found⟩ := registered
  have mem := Keyed.mem_of_get? found
  have known : c.refersTo ref = true := by
    unfold Callbacks.refersTo
    rw [Bool.or_eq_true]
    cases kind with
    | signer => exact .inl (List.any_eq_true.2 ⟨_, mem, by simp⟩)
    | keyManager => exact .inr (List.any_eq_true.2 ⟨_, mem, by simp⟩)
  simp [Process.refersTo, installed, known]

theorem lookup_of_registered {kind : Capability} {n : Int} {ref : CallbackRef} {p : Process H}
    (registered : Registered kind n ref p) : lookup kind n p = .ok (some ref) (p.holding ref) := by
  obtain ⟨c, installed, found⟩ := registered
  unfold lookup
  rw [bind_get, installed, Option.bind_some, found]
  rfl

theorem lookup_of_unregistered {kind : Capability} {n : Int} {p : Process H}
    (unregistered : Unregistered kind n p) : lookup kind n p = .ok none p := by
  obtain ⟨c, installed, missing⟩ := unregistered
  unfold lookup
  rw [bind_get, installed, Option.bind_some, missing]
  rfl

end Process

namespace Host
open Process
variable (host : Host H)

/-- Runs code of the host on a callback of the host, where no fault may get out. -/
def lent (ref : CallbackRef) (use : Run (Process H) α) : Run (Process H) α :=
  Run.noUnwind do
    Process.hold ref
    Run.ensuring use (host.letGo ref)

theorem lent_eq (ref : CallbackRef) (use : Run (Process H) α) (p : Process H) :
    host.lent ref use p =
      match use (p.holding ref) with
      | .ok a q =>
        match host.letGo ref q with
        | .ok _ r => .ok a r
        | .error _ r => .error .abort r
      | .error (.fault _) q => .error .abort (left (host.letGo ref) q)
      | .error .abort q => .error .abort q := by
  have held : host.lent ref use p = noUnwind (ensuring use (host.letGo ref)) (p.holding ref) := rfl
  rw [held]
  unfold noUnwind
  rw [ensuring_eq]
  rcases use (p.holding ref) with ⟨a, q⟩ | ⟨f | _, q⟩
  · dsimp only
    cases host.letGo ref q <;> rfl
  · dsimp only
    unfold left
    cases host.letGo ref q <;> rfl
  · rfl

theorem exists_of_lent {ref : CallbackRef} {use : Run (Process H) α} {p q : Process H} {a : α}
    (done : host.lent ref use p = .ok a q) : ∃ t, use (p.holding ref) = .ok a t := by
  rw [lent_eq] at done
  split at done
  next b t used =>
    split at done
    · cases done
      exact ⟨t, used⟩
    · cases done
  next => cases done
  next => cases done

theorem lent_map (ref : CallbackRef) (use : Run (Process H) α) (f : α → β) :
    host.lent ref (do return f (← use)) = do return f (← host.lent ref use) := by
  funext p
  rw [lent_eq, bind_eq, bind_eq, lent_eq]
  rcases use (p.holding ref) with ⟨a, q⟩ | ⟨g | _, q⟩
  · dsimp only [pure, EStateM.pure]
    cases host.letGo ref q <;> rfl
  · rfl
  · rfl

theorem letGo_eq (ref : CallbackRef) (p : Process H) :
    host.letGo ref p =
      if (p.lettingGo ref).refersTo ref = true then .ok () (p.lettingGo ref)
      else host.dropped ref (p.lettingGo ref) := by
  change (if (p.lettingGo ref).refersTo ref = true then pure () else host.dropped ref :
    Run (Process H) Unit) (p.lettingGo ref) = _
  split <;> rfl

/-- Nothing is dropped as long as the callback is registered. -/
theorem letGo_of_registered {kind : Capability} {n : Int} {ref : CallbackRef} {p : Process H}
    (registered : Registered kind n ref p) : host.letGo ref p = .ok () (p.lettingGo ref) := by
  have kept : Registered kind n ref (p.lettingGo ref) := registered
  rw [letGo_eq, if_pos kept.refersTo]

theorem lent_of_ok {ref : CallbackRef} {use : Run (Process H) α} {p q r : Process H} {a : α}
    (done : use (p.holding ref) = .ok a q) (letting : host.letGo ref q = .ok () r) :
    host.lent ref use p = .ok a r := by
  rw [lent_eq, done]
  dsimp only
  rw [letting]

theorem dispatch_of_registered {kind : Capability} {n : Int} {ref : CallbackRef}
    {p : Process H} (registered : Registered kind n ref p)
    (use : CallbackRef → Run (Process H) (Option α)) :
    host.dispatch kind n use p = ensuring (use ref) (host.letGo ref) (p.holding ref) := by
  unfold dispatch
  rw [bind_eq, lookup_of_registered registered]

theorem noUnwind_dispatch {kind : Capability} {n : Int} {ref : CallbackRef} {p : Process H}
    (registered : Registered kind n ref p)
    (use : CallbackRef → Run (Process H) (Option α)) :
    noUnwind (host.dispatch kind n use) p = host.lent ref (use ref) p :=
  noUnwind_congr (host.dispatch_of_registered registered use)

theorem dispatch_of_unregistered {kind : Capability} {n : Int} {p : Process H}
    (unregistered : Unregistered kind n p) (use : CallbackRef → Run (Process H) (Option α)) :
    host.dispatch kind n use p = .ok none p := by
  unfold dispatch
  rw [bind_eq, lookup_of_unregistered unregistered]
  rfl

/-! ### The exported entry points -/

section
variable {n : Int} {ref : CallbackRef} {p : Process H}

theorem exportedSign_eq {c : Callbacks} (installed : p.callbacks = some c) (payload : Bytes) :
    host.exportedSign n (some payload) true p =
      (noUnwind (host.dispatchSign n payload) >>= fun signature =>
        pure (.ofSignature signature) : Run (Process H) SignOutcome) p := by
  have asked : host.exportedSign n (some payload) true p =
      noUnwind (do return .ofSignature (← host.dispatchSign n payload)) p := by
    refine noUnwind_congr ?_
    rw [if_pos rfl, bind_get, installed]
    rfl
  rw [asked, noUnwind_bind]
  rfl

theorem exportedSign_of_registered (registered : Registered .signer n ref p) (payload : Bytes) :
    host.exportedSign n (some payload) true p =
      (host.lent ref (host.sign ref payload) >>= fun answer =>
        pure (.ofSignature answer.toOption) : Run (Process H) SignOutcome) p := by
  have signed : noUnwind (host.dispatchSign n payload) p =
      (do return (← host.lent ref (host.sign ref payload)).toOption) p := by
    rw [← lent_map]
    exact host.noUnwind_dispatch registered _
  obtain ⟨c, installed, -⟩ := registered
  rw [host.exportedSign_eq installed, bind_eq, signed, bind_eq, bind_eq]
  cases host.lent ref (host.sign ref payload) p <;> rfl

theorem exportedSign_of_unregistered (unregistered : Unregistered .signer n p) (payload : Bytes) :
    host.exportedSign n (some payload) true p = .ok .unavailable p := by
  have signed : noUnwind (host.dispatchSign n payload) p = .ok none p := by
    unfold noUnwind dispatchSign
    rw [host.dispatch_of_unregistered unregistered]
  obtain ⟨c, installed, -⟩ := unregistered
  rw [host.exportedSign_eq installed, bind_eq, signed]
  rfl

/-- The encoding of a key, or the end of the process. -/
def keyBuffer : Option Jwk → Run (Process H) Buffer
  | none => return .null
  | some key =>
    match Buffer.encoding key with
    | .ok b => return b
    | .error _ => Run.abort

variable {view : View} {key : Jwk}

theorem still_lentKey (view : View) : Still (lentKey view : Run (Process H) Jwk) := by
  unfold lentKey
  split
  · exact still_pure _
  · exact still_raise _

theorem lentKey_bind (readable : Wire.lift Jwk view.bytes = .ok key)
    (next : Jwk → Run (Process H) α) : (lentKey view >>= next) p = next key p := by
  have lent : lentKey view p = .ok key p := by
    unfold lentKey
    rw [readable]
    rfl
  rw [bind_eq, lent]

theorem exportedImport_eq {c : Callbacks} (installed : p.callbacks = some c)
    (readable : Wire.lift Jwk view.bytes = .ok key) :
    host.exportedImport n view p = (noUnwind (host.dispatchImport n key) >>= keyBuffer) p := by
  have asked : host.exportedImport n view p =
      noUnwind (host.dispatchImport n key >>= fun
        | none => return .null
        | some key => Run.give (Buffer.encoding key)) p := by
    refine noUnwind_congr ?_
    rw [bind_get, installed]
    exact lentKey_bind readable _
  rw [asked, noUnwind_bind, bind_eq, bind_eq]
  rcases noUnwind (host.dispatchImport n key) p with ⟨_ | key, q⟩ | ⟨stop, q⟩
  · rfl
  · unfold keyBuffer
    dsimp only
    cases Buffer.encoding key <;> rfl
  · rfl

theorem exportedImport_of_registered (registered : Registered .keyManager n ref p)
    (readable : Wire.lift Jwk view.bytes = .ok key) :
    host.exportedImport n view p =
      (host.lent ref (host.importKey ref key) >>= fun answer => keyBuffer answer.toOption) p := by
  have asked : noUnwind (host.dispatchImport n key) p =
      (do return (← host.lent ref (host.importKey ref key)).toOption) p := by
    rw [← lent_map]
    exact host.noUnwind_dispatch registered _
  obtain ⟨c, installed, -⟩ := registered
  rw [host.exportedImport_eq installed readable, bind_eq, asked, bind_eq, bind_eq]
  cases host.lent ref (host.importKey ref key) p <;> rfl

theorem exportedImport_of_unregistered (unregistered : Unregistered .keyManager n p)
    (readable : Wire.lift Jwk view.bytes = .ok key) :
    host.exportedImport n view p = .ok .null p := by
  have asked : noUnwind (host.dispatchImport n key) p = .ok none p := by
    unfold noUnwind dispatchImport
    rw [host.dispatch_of_unregistered unregistered]
  obtain ⟨c, installed, -⟩ := unregistered
  rw [host.exportedImport_eq installed readable, bind_eq, asked]
  rfl

/-- The number of a signer that a key manager of the host gives for a key. -/
def signerNumber (ref : CallbackRef) (key : Jwk) : Run (Process H) (Option Int) := do
  match ← host.signerFor ref key with
  | .error _ => return none
  | .ok signer => return (← host.register .signer signer).toOption

theorem exportedSignerFor_eq {c : Callbacks} (installed : p.callbacks = some c)
    (readable : Wire.lift Jwk view.bytes = .ok key) :
    host.exportedSignerFor n view p = noUnwind (host.dispatchSignerFor n key) p := by
  refine noUnwind_congr ?_
  rw [bind_get, installed]
  exact lentKey_bind readable _

theorem exportedSignerFor_of_registered (registered : Registered .keyManager n ref p)
    (readable : Wire.lift Jwk view.bytes = .ok key) :
    host.exportedSignerFor n view p = host.lent ref (host.signerNumber ref key) p := by
  have asked := host.noUnwind_dispatch registered fun ref => host.signerNumber ref key
  obtain ⟨c, installed, -⟩ := registered
  rw [host.exportedSignerFor_eq installed readable]
  exact asked

theorem exportedSignerFor_of_unregistered (unregistered : Unregistered .keyManager n p)
    (readable : Wire.lift Jwk view.bytes = .ok key) :
    host.exportedSignerFor n view p = .ok none p := by
  have missing : host.dispatchSignerFor n key p = .ok none p :=
    host.dispatch_of_unregistered unregistered fun ref => host.signerNumber ref key
  obtain ⟨c, installed, -⟩ := unregistered
  rw [host.exportedSignerFor_eq installed readable]
  unfold noUnwind
  rw [missing]

end
end Host
end Boundary
