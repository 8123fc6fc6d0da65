import Boundary.Proofs.Bridge.Lent

/-!
What is exported, beside the dispatch that it stands for. The native core knows nothing of optional
values: an answer that is missing is a null address with the length 0, the null buffer, or the null
object, and an answer that is empty is none of these. Under any number, in any state, what comes out
says just what dispatch gives, and the state is the one that dispatch leaves. Only a fault makes a
difference, since it ends the process.
-/
namespace Boundary
open Run Process
variable {H α : Type} {host : Host H} {kind : Capability} {n : Int} {p q : Process H}

/-- The bytes at an address, if there is one, as many as are lent. -/
def lentAt (place : Option Bytes) (length : Nat) : Option Bytes := place.map (·.take length)

theorem lentAt_nothing {place : Option Bytes} {length : Nat} (nothing : place = none ∨ length = 0) :
    (lentAt place length).getD [] = [] := by
  rcases nothing with rfl | rfl
  · rfl
  · cases place <;> rfl

namespace Host

/-! ### Before callbacks are installed -/

theorem dispatch_of_uninstalled (absent : p.callbacks = none)
    (use : CallbackRef → Run (Process H) (Option α)) : host.dispatch kind n use p = .ok none p := by
  have missing : Process.lookup kind n p = .ok none p := by
    unfold Process.lookup
    rw [bind_get, absent]
    rfl
  unfold dispatch
  rw [bind_eq, missing]
  rfl

theorem exportedSign_of_uninstalled (absent : p.callbacks = none) (payload : Option Bytes) :
    host.exportedSign n payload true p = .ok .unavailable p := by
  have asked : host.exportedSign n payload true p = noUnwind (pure .unavailable) p := by
    refine noUnwind_congr ?_
    rw [if_pos rfl, bind_get, absent]
    rfl
  exact asked

theorem exportedImport_of_uninstalled (absent : p.callbacks = none) (argument : View) :
    host.exportedImport n argument p = .ok .null p := by
  have asked : host.exportedImport n argument p = noUnwind (pure .null) p := by
    refine noUnwind_congr ?_
    rw [bind_get, absent]
    rfl
  exact asked

theorem exportedSignerFor_of_uninstalled (absent : p.callbacks = none) (argument : View) :
    host.exportedSignerFor n argument p = .ok none p := by
  have asked : host.exportedSignerFor n argument p = noUnwind (pure none) p := by
    refine noUnwind_congr ?_
    rw [bind_get, absent]
    rfl
  exact asked

/-! ### In any state -/

theorem exportedSign_getD (payload : Option Bytes) (hasPlace : Bool) :
    host.exportedSign n payload hasPlace = host.exportedSign n (some (payload.getD [])) hasPlace :=
  rfl

/-- The signature with its length, or neither. -/
theorem exportedSign_eq_dispatch (host : Host H) (n : Int) (p : Process H)
    (payload : Option Bytes) :
    host.exportedSign n payload true p =
      match host.dispatchSign n (payload.getD []) p with
      | .ok signature q => .ok (.ofSignature signature) q
      | .error _ q => .error .abort q := by
  cases installed : p.callbacks with
  | none =>
    have missing : host.dispatchSign n (payload.getD []) p = .ok none p :=
      dispatch_of_uninstalled installed _
    rw [exportedSign_of_uninstalled installed, missing]
    rfl
  | some c =>
    rw [exportedSign_getD, host.exportedSign_eq installed, bind_eq, noUnwind_eq]
    cases host.dispatchSign n (payload.getD []) p <;> rfl

section
variable {key : Jwk} {argument : View}

theorem exportedImport_eq_dispatch (host : Host H) (n : Int) (p : Process H)
    (readable : Wire.lift Jwk argument.bytes = .ok key) :
    host.exportedImport n argument p =
      match host.dispatchImport n key p with
      | .ok answer q => keyBuffer answer q
      | .error _ q => .error .abort q := by
  cases installed : p.callbacks with
  | none =>
    have missing : host.dispatchImport n key p = .ok none p := dispatch_of_uninstalled installed _
    rw [exportedImport_of_uninstalled installed, missing]
    rfl
  | some c =>
    rw [host.exportedImport_eq installed readable, bind_eq, noUnwind_eq]
    cases host.dispatchImport n key p <;> rfl

theorem exportedSignerFor_eq_dispatch (host : Host H) (n : Int) (p : Process H)
    (readable : Wire.lift Jwk argument.bytes = .ok key) :
    host.exportedSignerFor n argument p =
      match host.dispatchSignerFor n key p with
      | .ok answer q => .ok answer q
      | .error _ q => .error .abort q := by
  cases installed : p.callbacks with
  | none =>
    have missing : host.dispatchSignerFor n key p = .ok none p :=
      dispatch_of_uninstalled installed _
    rw [exportedSignerFor_of_uninstalled installed, missing]
  | some c =>
    rw [host.exportedSignerFor_eq installed readable, noUnwind_eq]
    cases host.dispatchSignerFor n key p <;> rfl

end

/-- Each entry point says what dispatch gives under the number. -/
structure ExportsAgree (host : Host H) (n : Int) (p : Process H) : Prop where
  /-- Without a place for the length, nothing happens. -/
  placeless : ∀ payload, host.exportedSign n payload false p = .ok ⟨none, none⟩ p
  uninstalled : p.callbacks = none → ∀ payload argument,
    host.exportedSign n payload true p = .ok ⟨none, some 0⟩ p ∧
      host.exportedImport n argument p = .ok .null p ∧
      host.exportedSignerFor n argument p = .ok none p
  signs : ∀ place length payload, (lentAt place length).getD [] = payload →
    (place = none ∨ length = 0 → payload = []) ∧
      match host.dispatchSign n payload p with
      | .ok (some signature) q =>
        host.exportedSign n (lentAt place length) true p =
          .ok ⟨some signature, some signature.length⟩ q
      | .ok none q => host.exportedSign n (lentAt place length) true p = .ok ⟨none, some 0⟩ q
      | .error _ q => host.exportedSign n (lentAt place length) true p = .error .abort q
  /-- A key that there is no buffer for ends the process. -/
  imports : ∀ (key : Jwk) (argument : View), Wire.lower key = .ok argument.bytes →
    match host.dispatchImport n key p with
    | .ok (some shown) q =>
      (∀ made, Buffer.encoding shown = .ok made →
        host.exportedImport n argument p = .ok made q ∧ made.isNull = false ∧
          Wire.lift Jwk made.content = .ok shown) ∧
      ∀ f, Buffer.encoding shown = .error f → host.exportedImport n argument p = .error .abort q
    | .ok none q => host.exportedImport n argument p = .ok .null q
    | .error _ q => host.exportedImport n argument p = .error .abort q
  gives : ∀ (key : Jwk) (argument : View), Wire.lower key = .ok argument.bytes →
    match host.dispatchSignerFor n key p with
    | .ok answer q => host.exportedSignerFor n argument p = .ok answer q
    | .error _ q => host.exportedSignerFor n argument p = .error .abort q

theorem exports_agree_with_dispatch (host : Host H) (n : Int) (p : Process H) :
    ExportsAgree host n p where
  placeless _ := rfl
  uninstalled absent payload argument :=
    ⟨exportedSign_of_uninstalled absent payload, exportedImport_of_uninstalled absent argument,
      exportedSignerFor_of_uninstalled absent argument⟩
  signs := by
    rintro place length _ rfl
    refine ⟨lentAt_nothing, ?_⟩
    have same := exportedSign_eq_dispatch host n p (lentAt place length)
    rcases given : host.dispatchSign n ((lentAt place length).getD []) p with ⟨_ | s, q⟩ | ⟨stop, q⟩
    all_goals rwa [given] at same
  imports := by
    intro key argument lowered
    have same := exportedImport_eq_dispatch host n p (Wire.faithful_jwk.lift_of_lower lowered)
    rcases given : host.dispatchImport n key p with ⟨_ | shown, q⟩ | ⟨stop, q⟩
    all_goals rw [given] at same
    · exact same
    · dsimp only [keyBuffer] at same
      refine ⟨fun made encoded => ?_, fun f large => ?_⟩
      · obtain ⟨_, region, written⟩ := Buffer.lower_of_encoding encoded
        rw [encoded] at same
        refine ⟨same, ?_, Wire.faithful_jwk.lift_of_lower written⟩
        rw [region]
        rfl
      · rwa [large] at same
    · exact same
  gives := by
    intro key argument lowered
    have same := exportedSignerFor_eq_dispatch host n p (Wire.faithful_jwk.lift_of_lower lowered)
    cases given : host.dispatchSignerFor n key p with
    | ok answer q | error stop q => rwa [given] at same

/-- Host code that signs with no bytes at all. -/
def terse : Host Unit where
  sign _ _ := return .ok []
  importKey _ key := return .ok key.toPublic
  signerFor _ _ := do
    Process.hold 3
    return .ok 3
  dropped _ := return ()

/-- A process with a terse signer and a terse key manager, each under the number 1. -/
def tersely : Process Unit :=
  left (do let _ ← terse.register .signer 1; terse.register .keyManager 2)
    { Process.start () with held := [1, 2] }

/-- An empty signature is one, a number that was never given out has none, and the numbers of the
two kinds do not get mixed up. -/
theorem exports_agree_with_dispatch_terse :
    let key : Jwk := ⟨none, "OKP", "Ed25519", some "s", "k", none⟩
    let argument : View := ⟨31, some (Wire.toValue key).encode⟩
    terse.exportedSign 1 (lentAt none 4) true tersely = .ok ⟨some [], some 0⟩ tersely ∧
      terse.exportedSign (-1) (lentAt none 4) true tersely = .ok ⟨none, some 0⟩ tersely ∧
      (∃ made, terse.exportedImport 1 argument tersely = .ok made tersely ∧
        made.isNull = false ∧ Wire.lift Jwk made.content = .ok key.toPublic) ∧
      ∃ q, terse.exportedSignerFor 1 argument tersely = .ok (some 2) q := by
  intro key argument
  have agree := exports_agree_with_dispatch terse 1 tersely
  have lowered : Wire.lower key = .ok argument.bytes := by rfl
  refine ⟨(agree.signs none 4 _ rfl).2, ?_, ?_, ?_⟩
  · exact ((exports_agree_with_dispatch terse (-1) tersely).signs none 4 _ rfl).2
  · have encoded := Buffer.encoding_of_short (a := key.toPublic) rfl (by decide)
    exact ⟨_, (agree.imports key argument lowered).1 _ encoded⟩
  · exact ⟨_, agree.gives key argument lowered⟩

/-- Host code that answers every import with the same key. -/
def insisting (shown : Jwk) : Host Unit := { terse with importKey := fun _ _ => return .ok shown }

theorem exportedImport_insisting {shown : Jwk} {f : Fault}
    (large : Buffer.encoding shown = .error f) {key : Jwk} {argument : View}
    (readable : Wire.lift Jwk argument.bytes = .ok key) :
    (insisting shown).dispatchImport 1 key tersely = .ok (some shown) tersely ∧
      (insisting shown).exportedImport 1 argument tersely = .error .abort tersely := by
  have given : (insisting shown).dispatchImport 1 key tersely = .ok (some shown) tersely := rfl
  have came := exportedImport_eq_dispatch (insisting shown) 1 tersely readable
  rw [given] at came
  refine ⟨given, came.trans ?_⟩
  unfold keyBuffer
  dsimp only
  rw [large]
  rfl

/-- Dispatch gives a key that is too long for any buffer. -/
theorem overlong_answer_ends_process :
    let key : Jwk := ⟨none, "OKP", "Ed25519", some "s", "k", none⟩
    let argument : View := ⟨31, some (Wire.toValue key).encode⟩
    let host := insisting (.overlong none)
    Wire.lower key = .ok argument.bytes ∧
      host.dispatchImport 1 key tersely = .ok (some (.overlong none)) tersely ∧
      host.exportedImport 1 argument tersely = .error .abort tersely := by
  intro key argument host
  have lowered : Wire.lower key = .ok argument.bytes := by rfl
  obtain ⟨f, large⟩ := Jwk.encoding_overlong none
  exact ⟨lowered, exportedImport_insisting large (Wire.faithful_jwk.lift_of_lower lowered)⟩

end Host
end Boundary
