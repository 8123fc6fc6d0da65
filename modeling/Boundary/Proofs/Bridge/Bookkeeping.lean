import Boundary.Proofs.Bridge.Ledger
import Boundary.Proofs.Outcomes
/-!
The ledger of numbers is kept by everything that goes on between the host and the library of the
process, as long as the callbacks keep it.
-/
namespace Boundary
open Run Process
variable {H α β γ : Type}

/-- The callbacks keep the ledger, whoever calls them and however often. -/
structure Host.Keeping (host : Host H) : Prop where
  signs : ∀ past own calls ref payload,
    Keeps (Accounted past own calls none) (host.sign ref payload)
  imports : ∀ past own calls ref key,
    Keeps (Accounted past own calls none) (host.importKey ref key)
  gives : ∀ past own calls ref key,
    Keeps (Accounted past own calls none) (host.signerFor ref key)
  drops : ∀ past own calls ref, Keeps (Accounted past own calls none) (host.dropped ref)

/-! ### Buffers -/

theorem still_release (b : Buffer) : Still (Core.resident.release b : Run (Process H) Unit) := by
  intro p
  unfold Core.release
  split <;> rfl

theorem still_settle (status : Status) :
    Still (Core.settle Core.resident.release status : Run (Process H) Unit) := by
  have releases := still_release (H := H)
  unfold Core.settle
  split
  · exact still_raise _
  · exact releases _
  · exact still_bind (releases _) fun _ => still_raise _
  · split
    · exact still_bind (releases _) fun _ => still_raise _
    · split
      · exact still_bind (releases _) fun _ => still_raise _
      · exact still_onFault (still_raise _) (releases _)

theorem still_lowerArgument [Wire α] (host : Host H) (a : α) :
    Still (host.library.lowerArgument a) := by
  unfold Library.lowerArgument Core.lower Core.lowerBytes
  split
  · exact still_raise _
  · split
    · exact still_pure _
    · split
      · exact still_raise _
      · exact still_bind (fun _ => rfl) fun _ =>
          still_bind (still_settle _) fun _ => still_pure _

theorem still_liftResult [Wire α] (host : Host H) (b : Buffer) :
    Still (host.library.liftResult α b) := by
  refine still_bind ?_ fun _ => still_pure _
  unfold Core.lift
  split
  · exact still_bind (still_release b) fun _ => still_pure _
  · exact still_onFault (still_raise _) (still_release b)

section
variable {past : Capability × Int → Nat → Prop} {own : List (Capability × Int)}
  {calls : List HandleId} {loose : Option Nat} {p : Process H} {before failed : Process H → Prop}

/-- What touches neither registries, objects nor handles. -/
theorem keeps_aside {x : Run (Process H) α}
    (untouched : ∀ p, (left x p).callbacks = p.callbacks ∧ (left x p).objects = p.objects ∧
      (left x p).handles = p.handles) : Keeps (Accounted past own calls loose) x := by
  refine keeps_of_ends fun p q accounted ended => ?_
  obtain ⟨rfl, -⟩ := ended
  obtain ⟨callbacks, objects, handles⟩ := untouched p
  exact accounted.congr callbacks objects handles

/-! ### Callbacks -/

/-- A number that came of a registration is the host's as yet, and was nobody's before. -/
def Grown (past : Capability × Int → Nat → Prop) (own : List (Capability × Int))
    (calls : List HandleId) (kind : Capability) : Option Int → Process H → Prop
  | none, p => Accounted past own calls none p
  | some n, p => Accounted past ((kind, n) :: own) calls none p ∧ ∀ a, ¬ past (kind, n) a

/-- A signer for which there is no object as yet; a number that it asks for is like that, too. -/
def Offered (past : Capability × Int → Nat → Prop) (own : List (Capability × Int))
    (calls : List HandleId) : Except DomainError ResidentSigner → Process H → Prop
  | .ok s, p => Accounted past ((ResidentObject.signer s).numbers ++ own) calls none p ∧
      ∀ c ∈ (ResidentObject.signer s).numbers, ∀ a, ¬ past c a
  | .error _, p => Accounted past own calls none p

section
variable {host : Host H} (keeping : host.Keeping)
include keeping

theorem keeps_letGo (ref : CallbackRef) :
    Keeps (Accounted past own calls none) (host.letGo ref) := by
  have erases : Keeps (Accounted past own calls none)
      (modify fun p : Process H => { p with held := p.held.erase ref }) :=
    keeps_aside fun _ => ⟨rfl, rfl, rfl⟩
  refine leads_bind erases fun _ => leads_get_bind fun p accounted => ?_
  split
  · exact leads_pure fun _ same => same ▸ accounted
  · exact (keeping.drops past own calls ref).only accounted

theorem leads_register (kind : Capability) (ref : CallbackRef) :
    Leads (Accounted past own calls none) (host.register kind ref)
      (fun answer => Grown past own calls kind answer.toOption)
      (Accounted past own calls none) := by
  intro p accounted
  have installed : Accounted past own calls none { p with callbacks := some p.current } :=
    accounted.installed
  have letting : Keeps (Accounted past own calls none) (host.letGo ref) := keeps_letGo keeping ref
  rw [register_outcome]
  rcases room : (p.current.registry kind).register ref with f | e | ⟨n, r⟩
  · exact leads_onFault (leads_raise fun _ kept => kept) letting.values _ installed
  · have refused : Leads (Accounted past own calls none)
        (do
          host.letGo ref
          return .error e : Run (Process H) (Except BridgeError Int))
        (fun answer => Grown past own calls kind answer.toOption)
        (Accounted past own calls none) :=
      leads_bind letting fun _ => leads_pure fun _ kept => kept
    exact refused _ installed
  · exact accounted.registering room

theorem leads_unregister (kind : Capability) (n : Int) :
    Leads (Accounted past ((kind, n) :: own) calls none) (host.unregister kind n)
      (fun _ => Accounted past own calls none) (Accounted past own calls none) := by
  intro p accounted
  obtain ⟨ref, registered⟩ := (accounted.exact (kind, n)).2 (.inl (.head _))
  have letting : Leads (Accounted past own calls none)
      (do
        host.letGo ref
        return true : Run (Process H) Bool) (fun _ => Accounted past own calls none)
      (Accounted past own calls none) :=
    leads_bind (keeps_letGo keeping ref) fun _ => leads_pure fun _ kept => kept
  have without : Accounted past own calls none ((withdrawing kind n p).holding ref) :=
    accounted.withdrawing.congr rfl rfl rfl
  rw [unregister_eq host registered]
  exact letting _ without

theorem leads_exportedFree (kind : Capability) (n : Int) :
    Leads (Accounted past ((kind, n) :: own) calls none) (host.exportedFree kind n)
      (fun _ => Accounted past own calls none) failed :=
  leads_noUnwind (leads_bind (leads_unregister keeping kind n).values fun _ =>
    leads_pure fun _ kept => kept)

omit keeping in
theorem keeps_lookup (kind : Capability) (n : Int) :
    Keeps (Accounted past own calls none)
      (lookup kind n : Run (Process H) (Option CallbackRef)) := by
  refine leads_get_bind fun p accounted => ?_
  split
  · exact leads_pure fun _ same => same ▸ accounted
  next ref _ =>
    have holds : Keeps (Accounted past own calls none) (hold ref : Run (Process H) Unit) :=
      keeps_aside fun _ => ⟨rfl, rfl, rfl⟩
    exact (leads_bind holds fun _ => leads_pure fun _ kept => kept).only accounted

omit keeping in
/-- What comes of a callback that is called through its number, faults aside. -/
theorem leads_dispatch {after : Option α → Process H → Prop} (kind : Capability) (n : Int)
    {use : CallbackRef → Run (Process H) (Option α)}
    (absent : ∀ p, Accounted past own calls none p → after none p)
    (uses : ∀ ref, Leads (Accounted past own calls none) (use ref) after fun _ => True)
    (finishes : ∀ ref answer,
      Leads (after answer) (host.letGo ref) (fun _ => after answer) fun _ => True) :
    Leads (Accounted past own calls none) (host.dispatch kind n use) after fun _ => True := by
  refine leads_bind (keeps_lookup kind n).values fun found => ?_
  cases found with
  | none => exact leads_pure absent
  | some ref => exact leads_ensuring (uses ref) (finishes ref) leads_anywhere

theorem leads_exportedSign (n : Int) (payload : Option Bytes) (hasPlace : Bool) :
    Leads (Accounted past own calls none) (host.exportedSign n payload hasPlace)
      (fun _ => Accounted past own calls none) failed := by
  refine leads_noUnwind ?_
  split
  · refine leads_get_bind fun p accounted => ?_
    split
    · exact leads_pure fun _ same => same ▸ accounted
    · have dispatched : Leads (Accounted past own calls none)
          (host.dispatchSign n (payload.getD [])) (fun _ => Accounted past own calls none)
          fun _ => True := by
        refine leads_dispatch .signer n (fun _ kept => kept) (fun ref => ?_)
          fun ref _ => (keeps_letGo keeping ref).values
        exact leads_bind (keeping.signs past own calls ref _).values fun _ =>
          leads_pure fun _ kept => kept
      refine Leads.only ?_ accounted
      exact leads_bind dispatched fun _ => leads_pure fun _ kept => kept
  · exact leads_pure fun _ kept => kept

theorem leads_exportedImport (n : Int) (view : View) :
    Leads (Accounted past own calls none) (host.exportedImport n view)
      (fun _ => Accounted past own calls none) failed := by
  refine leads_noUnwind (leads_get_bind fun p accounted => ?_)
  split
  · exact leads_pure fun _ same => same ▸ accounted
  · have dispatched (key : Jwk) : Leads (Accounted past own calls none)
        (host.dispatchImport n key) (fun _ => Accounted past own calls none) fun _ => True := by
      refine leads_dispatch .keyManager n (fun _ kept => kept) (fun ref => ?_)
        fun ref _ => (keeps_letGo keeping ref).values
      exact leads_bind (keeping.imports past own calls ref key).values fun _ =>
        leads_pure fun _ kept => kept
    refine Leads.only ?_ accounted
    refine leads_bind ((Host.still_lentKey view).keeps _).values fun key => ?_
    refine leads_bind (dispatched key) fun answer => ?_
    split
    · exact leads_pure fun _ kept => kept
    · exact ((still_result _).keeps _).values

/-- The number of a signer that is registered for this is new. -/
theorem leads_exportedSignerFor (n : Int) (view : View) :
    Leads (Accounted past own calls none) (host.exportedSignerFor n view)
      (Grown past own calls .signer) failed := by
  refine leads_noUnwind (leads_get_bind fun p accounted => ?_)
  split
  · exact leads_pure fun _ same => same ▸ accounted
  · refine Leads.only ?_ accounted
    refine leads_bind ((Host.still_lentKey view).keeps _).values fun key => ?_
    refine leads_dispatch .keyManager n (fun _ kept => kept) (fun ref => ?_) fun ref answer => ?_
    · refine leads_bind (keeping.gives past own calls ref key).values fun given => ?_
      split
      · exact leads_pure fun _ kept => kept
      · exact leads_bind (leads_register keeping .signer _).values fun _ =>
          leads_pure fun _ grown => grown
    · cases answer with
      | none => exact (keeps_letGo keeping ref).values
      | some m =>
        intro p grown
        have fresh := grown.2
        exact ((keeps_letGo keeping ref).values.imp (fun _ grown => grown.1)
          (fun _ _ kept => ⟨kept, fresh⟩) fun _ kept => kept) p grown

/-! ### Entry points -/

omit keeping in
theorem leads_take (address : Nat) :
    Leads (Accounted past own calls (some address)) (Resident.take address)
      (fun o => Accounted past (o.numbers ++ own) calls none) failed := by
  refine leads_get_bind fun p accounted => ?_
  dsimp only
  split
  · exact leads_abort
  next o found =>
    rintro _ rfl
    exact accounted.removing found

/-- The end of an object that no handle stands for any more. -/
theorem leads_free (address : Nat) :
    Leads (Accounted past own calls (some address)) (Resident.free host address)
      (fun _ => Accounted past own calls none) failed := by
  refine leads_bind (leads_take address) fun o => ?_
  split
  · exact leads_exportedFree keeping .signer _
  · exact leads_exportedFree keeping .keyManager _
  next signers managers =>
    have none : o.numbers = [] := by
      unfold ResidentObject.numbers
      split
      next n => exact absurd rfl (signers n)
      next t => exact absurd rfl (managers t)
      next => rfl
    rw [none]
    exact leads_pure fun _ kept => kept

theorem keeps_signBody (address : Nat) (payload : Buffer) :
    Keeps (Accounted past own calls none) (Resident.signBody host address payload) := by
  have found : Still (Resident.signerAt address : Run (Process H) ResidentSigner) := by
    refine still_bind (fun _ => rfl) fun p => ?_
    split
    · exact still_pure _
    · exact fun _ => rfl
  refine leads_bind (found.keeps _) fun signer => ?_
  refine leads_bind ((still_argument payload).keeps _) fun bytes => ?_
  have signs : Keeps (Accounted past own calls none) (Resident.sign host bytes signer) := by
    cases signer with
    | own key => exact leads_pure fun _ kept => kept
    | foreign n =>
      refine leads_bind (leads_exportedSign keeping n _ true) fun outcome => ?_
      split <;> exact leads_pure fun _ kept => kept
  refine leads_bind signs fun answer => ?_
  split
  · exact leads_pure fun _ kept => kept
  · exact leads_bind ((still_result _).keeps _) fun _ => leads_pure fun _ kept => kept

omit keeping in
/-- The key manager is there as long as nothing happens. -/
theorem leads_keyManagerAt (address : Nat) :
    Leads (Accounted past own calls none) (Resident.keyManagerAt address)
      (fun m p => Accounted past own calls none p ∧
        p.objects.get? address = some (.keyManager m)) failed := by
  refine leads_get_bind fun p accounted => ?_
  split
  next m found => exact leads_pure fun _ same => same ▸ ⟨accounted, found⟩
  next => exact leads_abort

theorem keeps_foreignImport (table : KeyManagerVtable) (key : Jwk)
    (plain : table.answers = none) :
    Keeps (Accounted past own calls none) (Resident.foreignImport host table key) := by
  refine leads_bind ((still_lend key).keeps _) fun view => ?_
  rw [plain]
  dsimp only
  refine leads_bind (leads_exportedImport keeping _ _) fun answer => ?_
  split
  · exact leads_pure fun _ kept => kept
  · split <;> exact leads_pure fun _ kept => kept

theorem keeps_importBody (address : Nat) (key : Buffer) :
    Keeps (Accounted past own calls none) (Resident.importBody host address key) := by
  refine leads_bind (leads_keyManagerAt address) fun manager => ?_
  refine leads_bind (((still_argument key).keeps _).imp (fun _ both => both)
    (fun _ _ both => both) fun _ both => both.1) fun key => ?_
  have imports : Leads (fun p => Accounted past own calls none p ∧
      p.objects.get? address = some (.keyManager manager))
      (Resident.importKey host address key manager) (fun _ => Accounted past own calls none)
      (Accounted past own calls none) := by
    cases manager with
    | own keys =>
      unfold Resident.importKey
      dsimp only
      split
      · exact leads_pure fun _ both => both.1
      · rintro p ⟨accounted, found⟩
        exact accounted.replacing found
    | foreign table =>
      rintro p ⟨accounted, found⟩
      exact keeps_foreignImport keeping table key (accounted.plain found) p accounted
  refine leads_bind imports fun answer => ?_
  split
  · exact leads_pure fun _ kept => kept
  · exact leads_bind ((still_result _).keeps _) fun _ => leads_pure fun _ kept => kept

omit keeping in
theorem leads_add {o : ResidentObject}
    (plain : ∀ t, o = .keyManager (.foreign t) → t.answers = none) :
    Leads (fun p => Accounted past (o.numbers ++ own) calls none p ∧
        ∀ c ∈ o.numbers, ∀ a, ¬ past c a)
      (Resident.add o) (fun address => Accounted past own calls (some address)) failed := by
  rintro p ⟨accounted, fresh⟩
  exact accounted.add plain fresh

theorem leads_foreignSignerFor (table : KeyManagerVtable) (key : Jwk)
    (plain : table.answers = none) :
    Leads (Accounted past own calls none) (Resident.foreignSignerFor host table key)
      (Offered past own calls) (Accounted past own calls none) := by
  refine leads_bind ((still_lend key).keeps _) fun view => ?_
  rw [plain]
  dsimp only
  refine leads_bind (leads_exportedSignerFor keeping _ _) fun answer => ?_
  cases answer with
  | none => exact leads_pure fun _ kept => kept
  | some m =>
    refine leads_pure fun _ grown => ⟨grown.1, fun c mem => ?_⟩
    rw [List.mem_singleton.1 mem]
    exact grown.2

theorem leads_signerBody (address : Nat) (key : Buffer) :
    Leads (Accounted past own calls none) (Resident.signerBody host address key)
      (fun answer => Accounted past own calls answer.toOption) (Accounted past own calls none) := by
  refine leads_bind (leads_keyManagerAt address) fun manager => ?_
  refine leads_bind (((still_argument key).keeps _).imp (fun _ both => both)
    (fun _ _ both => both) fun _ both => both.1) fun key => ?_
  have gives : Leads (fun p => Accounted past own calls none p ∧
      p.objects.get? address = some (.keyManager manager))
      (Resident.signerFor host key manager) (Offered past own calls)
      (Accounted past own calls none) := by
    cases manager with
    | own keys =>
      unfold Resident.signerFor
      dsimp only
      refine leads_pure fun p both => ?_
      unfold KeyStore.signerFor
      split
      · exact ⟨both.1, nofun⟩
      · exact both.1
    | foreign table =>
      rintro p ⟨accounted, found⟩
      exact leads_foreignSignerFor keeping table key (accounted.plain found) p accounted
  refine leads_bind gives fun answer => ?_
  cases answer with
  | error e => exact leads_pure fun _ kept => kept
  | ok signer => exact leads_bind (leads_add nofun) fun _ => leads_pure fun _ kept => kept

end
end
end Boundary
