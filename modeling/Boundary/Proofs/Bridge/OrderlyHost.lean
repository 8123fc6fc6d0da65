import Boundary.Proofs.Bridge.Orderly
/-!
The library of the process itself is as orderly as the callbacks behind its objects.
-/
namespace Boundary
open Run Process
variable {H α β γ : Type}

/-- A callback that leaves the handles to the methods. -/
structure Host.Orderly (host : Host H) : Prop where
  signs : ∀ ref payload, Process.Orderly (host.sign ref payload)
  imports : ∀ ref key, Process.Orderly (host.importKey ref key)
  gives : ∀ ref key, Process.Orderly (host.signerFor ref key)
  drops : ∀ ref, Process.Orderly (host.dropped ref)

section
variable {x : Run (Process H) α} {host : Host H}

theorem orderly_get_bind {next : Process H → Run (Process H) α}
    (rest : ∀ p, Process.Orderly (next p)) : Process.Orderly (get >>= next) :=
  .bind (.aside fun _ => rfl) rest

theorem orderly_enter (placeholder : α) {body : Run (Process H) (Except DomainError α)}
    (runs : Process.Orderly body) : Process.Orderly (Entry.enter placeholder body) := by
  refine .bind (.attempt runs) fun answer => ?_
  split
  · exact orderly_pure _
  all_goals
    split
    · exact orderly_pure _
    · exact orderly_abort

theorem orderly_installedOrDefault :
    Process.Orderly (installedOrDefault : Run (Process H) Callbacks) := by
  refine .aside fun p => ?_
  rw [left_of_ok (Boundary.installedOrDefault_eq p)]

theorem orderly_lookup (kind : Capability) (n : Int) :
    Process.Orderly (lookup kind n : Run (Process H) (Option CallbackRef)) := by
  refine orderly_get_bind fun p => ?_
  split
  · exact orderly_pure _
  · exact .bind (.aside fun _ => rfl) fun _ => orderly_pure _

theorem orderly_setObjects (objects : ResidentObjects) :
    Process.Orderly (Resident.setObjects objects : Run (Process H) Unit) :=
  .aside fun _ => rfl

theorem orderly_add (o : ResidentObject) :
    Process.Orderly (Resident.add o : Run (Process H) Nat) :=
  .aside fun _ => rfl

theorem orderly_keyManagerAt (address : Nat) :
    Process.Orderly (Resident.keyManagerAt address : Run (Process H) ResidentKeyManager) := by
  refine orderly_get_bind fun p => ?_
  split
  · exact orderly_pure _
  · exact orderly_abort

namespace Host.Orderly
variable (orderly : host.Orderly)
include orderly

theorem letGo (ref : CallbackRef) : Process.Orderly (host.letGo ref) := by
  refine .bind (.aside fun _ => rfl) fun _ => orderly_get_bind fun p => ?_
  split
  · exact orderly_pure _
  · exact orderly.drops ref

theorem register (kind : Capability) (ref : CallbackRef) :
    Process.Orderly (host.register kind ref) := by
  refine .bind orderly_installedOrDefault fun c => ?_
  split
  · exact .onFault (orderly_raise _) (orderly.letGo ref)
  · exact .bind (orderly.letGo ref) fun _ => orderly_pure _
  · exact .bind (.aside fun _ => rfl) fun _ => orderly_pure _

theorem unregister (kind : Capability) (n : Int) :
    Process.Orderly (host.unregister kind n) := by
  refine orderly_get_bind fun p => ?_
  split
  · exact orderly_pure _
  · split
    · exact orderly_pure _
    · refine .bind (.aside fun _ => rfl) fun _ => .bind (.aside fun _ => rfl) fun _ => ?_
      exact .bind (orderly.letGo _) fun _ => orderly_pure _

theorem dispatch (kind : Capability) (n : Int)
    {use : CallbackRef → Run (Process H) (Option α)} (uses : ∀ ref, Process.Orderly (use ref)) :
    Process.Orderly (host.dispatch kind n use) := by
  refine .bind (orderly_lookup kind n) fun found => ?_
  split
  · exact orderly_pure _
  · exact orderly_ensuring (uses _) (orderly.letGo _)

theorem exportedFree (kind : Capability) (n : Int) :
    Process.Orderly (host.exportedFree kind n) :=
  .noUnwind (.bind (orderly.unregister kind n) fun _ => orderly_pure _)

theorem exportedSign (n : Int) (payload : Option Bytes) (hasPlace : Bool) :
    Process.Orderly (host.exportedSign n payload hasPlace) := by
  refine .noUnwind ?_
  split
  · refine orderly_get_bind fun p => ?_
    split
    · exact orderly_pure _
    · refine .bind (orderly.dispatch .signer n fun ref => ?_) fun _ => orderly_pure _
      exact .bind (orderly.signs ref _) fun _ => orderly_pure _
  · exact orderly_pure _

theorem exportedImport (n : Int) (view : View) :
    Process.Orderly (host.exportedImport n view) := by
  refine .noUnwind (orderly_get_bind fun p => ?_)
  split
  · exact orderly_pure _
  · refine .bind (.of_still (Host.still_lentKey view)) fun key => ?_
    refine .bind (orderly.dispatch .keyManager n fun ref => ?_) fun answer => ?_
    · exact .bind (orderly.imports ref _) fun _ => orderly_pure _
    · split
      · exact orderly_pure _
      · exact .of_still (still_result _)

theorem exportedSignerFor (n : Int) (view : View) :
    Process.Orderly (host.exportedSignerFor n view) := by
  refine .noUnwind (orderly_get_bind fun p => ?_)
  split
  · exact orderly_pure _
  · refine .bind (.of_still (Host.still_lentKey view)) fun key => ?_
    refine orderly.dispatch .keyManager n fun ref => .bind (orderly.gives ref key) fun given => ?_
    split
    · exact orderly_pure _
    · exact .bind (orderly.register .signer _) fun _ => orderly_pure _

theorem free (address : Nat) : Process.Orderly (Resident.free host address) := by
  have takes : Process.Orderly (Resident.take address : Run (Process H) ResidentObject) := by
    refine orderly_get_bind fun p => ?_
    dsimp only
    split
    · exact orderly_abort
    · exact .bind (orderly_setObjects _) fun _ => orderly_pure _
  refine .bind takes fun o => ?_
  split
  · exact orderly.exportedFree .signer _
  · exact orderly.exportedFree .keyManager _
  · exact orderly_pure _

theorem signBody (address : Nat) (payload : Buffer) :
    Process.Orderly (Resident.signBody host address payload) := by
  have found : Process.Orderly (Resident.signerAt address : Run (Process H) ResidentSigner) := by
    refine orderly_get_bind fun p => ?_
    split
    · exact orderly_pure _
    · exact orderly_abort
  refine .bind found fun signer => .bind (.of_still (still_argument payload)) fun bytes => ?_
  have signs : Process.Orderly (Resident.sign host bytes signer) := by
    cases signer with
    | own key => exact orderly_pure _
    | foreign n =>
      refine .bind (orderly.exportedSign n _ true) fun outcome => ?_
      split <;> exact orderly_pure _
  refine .bind signs fun answer => ?_
  split
  · exact orderly_pure _
  · exact .bind (.of_still (still_result _)) fun _ => orderly_pure _

theorem importBody (address : Nat) (key : Buffer) :
    Process.Orderly (Resident.importBody host address key) := by
  refine .bind (orderly_keyManagerAt address) fun manager => ?_
  refine .bind (.of_still (still_argument key)) fun key => ?_
  have imports : Process.Orderly (Resident.importKey host address key manager) := by
    cases manager with
    | own keys =>
      unfold Resident.importKey
      dsimp only
      split
      · exact orderly_pure _
      · exact orderly_get_bind fun p => .bind (orderly_setObjects _) fun _ => orderly_pure _
    | foreign table =>
      refine .bind (.of_still (still_lend key)) fun view => ?_
      dsimp only
      split
      · refine .bind (orderly.exportedImport _ _) fun answer => ?_
        split
        · exact orderly_pure _
        · split <;> exact orderly_pure _
      · refine .bind (orderly_pure _) fun answer => ?_
        split
        · exact orderly_pure _
        · split <;> exact orderly_pure _
  refine .bind imports fun answer => ?_
  split
  · exact orderly_pure _
  · exact .bind (.of_still (still_result _)) fun _ => orderly_pure _

theorem signerBody (address : Nat) (key : Buffer) :
    Process.Orderly (Resident.signerBody host address key) := by
  refine .bind (orderly_keyManagerAt address) fun manager => ?_
  refine .bind (.of_still (still_argument key)) fun key => ?_
  have gives : Process.Orderly (Resident.signerFor host key manager) := by
    cases manager with
    | own keys => exact orderly_pure _
    | foreign table =>
      refine .bind (.of_still (still_lend key)) fun view => ?_
      dsimp only
      split
      · refine .bind (orderly.exportedSignerFor _ _) fun answer => ?_
        split <;> exact orderly_pure _
      · refine .bind (orderly_pure _) fun answer => ?_
        split <;> exact orderly_pure _
  refine .bind gives fun answer => ?_
  split
  · exact orderly_pure _
  · exact .bind (orderly_add _) fun _ => orderly_pure _

theorem library : host.library.Orderly where
  allocates _ := .aside fun _ => rfl
  reclaims _ := .aside fun _ => rfl
  signs address b := orderly_enter _ (orderly.signBody address b)
  imports address b := orderly_enter _ (orderly.importBody address b)
  gives address b := orderly_enter _ (orderly.signerBody address b)
  freesSigner address := orderly_enter _ (.bind (orderly.free address) fun _ => orderly_pure _)
  freesKeyManager address := orderly_enter _ (.bind (orderly.free address) fun _ => orderly_pure _)

end Host.Orderly
end
end Boundary
