import Boundary.Proofs.Bridge.Bookkeeping
import Boundary.Proofs.Native.Calls
/-!
The objects of the library as the host uses them keep the ledger of numbers: methods, which start
and end a call on a handle, the end of a handle, and the ways to come by a new one.
-/
namespace Boundary
open Run Process
variable {H α β γ : Type}

section
variable {past : Capability × Int → Nat → Prop} {own : List (Capability × Int)}
  {calls : List HandleId} {p : Process H} {before failed : Process H → Prop} {host : Host H}

section
variable {placeholder : α} {body : Run (Process H) (Except DomainError α)}
  {after : Except DomainError α → Process H → Prop}

theorem leads_entered (runs : Leads before body after failed) :
    Leads before (host.library.callOrError (Entry.enter placeholder body)) after failed := by
  intro p holds
  have ended := runs p holds
  rcases Library.enter_cases host placeholder body p with
    ⟨came, -⟩ | ⟨a, q, ran, came, -⟩ | ⟨e, q, ran, came, -⟩ | ⟨f, g, q, ran, came, -⟩
  · rw [came]
    trivial
  all_goals
    rw [ran] at ended
    rw [came]
    exact ended

/-- A call that declares no errors ends in a fault when there is one. -/
theorem leads_called (runs : Leads before body after failed)
    (refused : ∀ e p, after (.error e) p → failed p) :
    Leads before (host.library.core.call (Entry.enter placeholder body)) (fun a => after (.ok a))
      failed := by
  intro p holds
  have ended := runs p holds
  rcases Library.enter_cases host placeholder body p with
    ⟨-, came⟩ | ⟨a, q, ran, -, came⟩ | ⟨e, q, ran, -, came⟩ | ⟨f, g, q, ran, -, came⟩
  · rw [came]
    trivial
  all_goals
    rw [ran] at ended
    rw [came]
  · exact ended
  · exact refused e q ended
  · exact ended

end

/-! ### The end of a call, and of a handle -/

theorem leads_freeObject (keeping : host.Keeping) (kind : Capability) (address : Nat) :
    Leads (Accounted past own calls (some address)) (host.library.freeObject kind address)
      (fun _ => Accounted past own calls none) (Accounted past own calls none) := by
  have freed : Leads (Accounted past own calls (some address))
      (do return .ok (← Resident.free host address) : Run (Process H) (Except DomainError Unit))
      (fun _ => Accounted past own calls none) (Accounted past own calls none) :=
    leads_bind (leads_free keeping address) fun _ => leads_pure fun _ kept => kept
  cases kind <;> exact leads_called freed fun _ _ kept => kept

section
variable {kind : Capability} {id : HandleId} {change : Handle → Handle.Release × Handle}
  {next : Handle.Release} {h : Handle} {calls' : List HandleId} {d : Int}

/-- A handle counts one call less, or is given up. Its object goes if the handle lets it go. -/
theorem leads_finish (keeping : host.Keeping) (accounted : Accounted past own calls none p)
    (known : id < p.handles.length) (changed : change (p.handle id) = (next, h))
    (shifted : (p.handle id).Shifted d h)
    (counts : ∀ other,
      (calls'.count other : Int) = calls.count other + if other = id then d else 0)
    (kept : next = .free h.address ∨
      next = .keep ∧ (0 ≤ (p.handle id).counter → 0 ≤ h.counter)) :
    Leads (· = p) ((host.library.place kind id).finish change)
      (fun _ => Accounted past own calls' none) (Accounted past own calls' none) := by
  intro q same
  have read : (host.library.place kind id).read p = p.handle id := rfl
  rw [same, Handle.Place.finish_eq, read, changed]
  rcases kept with rfl | ⟨rfl, low⟩
  · exact leads_freeObject keeping kind h.address _
      (accounted.set_handle known shifted counts (.inl rfl))
  · exact accounted.set_handle known shifted counts (.inr ⟨rfl, low⟩)

/-- There is no handle: nothing is there to be freed, which ends the process. -/
theorem leads_finish_of_unknown (keeping : host.Keeping)
    (accounted : Accounted past own calls none p) (unknown : p.handles.length ≤ id)
    (changed : (change default).1 = .free 0) :
    Leads (· = p) ((host.library.place kind id).finish change)
      (fun _ => Accounted past own calls none) (Accounted past own calls none) := by
  intro q same
  have read : (host.library.place kind id).read p = default := by
    simp [Library.place, List.getElem?_eq_none unknown]
  have untouched : (host.library.place kind id).write (change default).2 p = p := by
    simp [Library.place, List.set_eq_of_length_le unknown]
  rw [same, Handle.Place.finish_eq, read, changed]
  dsimp only
  rw [untouched]
  exact leads_freeObject keeping kind 0 _ accounted.loosen

theorem leads_release (keeping : host.Keeping) (kind : Capability) (id : HandleId) :
    Leads (Accounted past own (id :: calls) none) (host.library.place kind id).release
      (fun _ => Accounted past own calls none) (Accounted past own calls none) := by
  intro p accounted
  have known := accounted.known id (.head _)
  have flying := accounted.inFlight id known
  rw [List.count_cons_self] at flying
  have low : 0 ≤ (p.handle id).counter := Handle.counter_nonneg (by omega)
  have released : (p.handle id).release =
      (if (p.handle id).counter - 1 = Handle.released then .free (p.handle id).address
        else if (p.handle id).counter - 1 < Handle.released then .excess else .keep,
        { p.handle id with counter := (p.handle id).counter - 1 }) := rfl
  refine leads_finish keeping accounted known released (Handle.shifted_release _)
    (fun other => ?_) ?_ p rfl
  · by_cases same : other = id
    · rw [same, List.count_cons_self, if_pos rfl]
      omega
    · simp [same, Ne.symm same]
  · unfold Handle.released
    by_cases last : (p.handle id).counter - 1 = -1
    · left
      rw [if_pos last]
    · right
      rw [if_neg last, if_neg (by omega)]
      exact ⟨rfl, fun _ => by dsimp only; omega⟩

theorem keeps_destroy (keeping : host.Keeping) (kind : Capability) (id : HandleId) :
    Keeps (Accounted past own calls none) (host.library.destroy kind id) := by
  intro p accounted
  by_cases known : id < p.handles.length
  · cases given : (p.handle id).destroyed with
    | true =>
      rw [destroy_of_destroyed host.library kind known given]
      exact accounted
    | false =>
      have destroyed : (p.handle id).destroy =
          (if (p.handle id).counter - 1 = Handle.released then .free (p.handle id).address
            else .keep,
            { p.handle id with counter := (p.handle id).counter - 1, destroyed := true }) := by
        simp [Handle.destroy, given]
      have shifted := Handle.shifted_destroy (p.handle id)
      rw [destroyed] at shifted
      refine leads_finish keeping accounted known destroyed shifted (fun other => by simp) ?_ p rfl
      unfold Handle.released
      by_cases last : (p.handle id).counter - 1 = -1
      · left
        rw [if_pos last]
      · right
        rw [if_neg last]
        exact ⟨rfl, fun _ => by dsimp only; omega⟩
  · have freed : (Handle.destroy default).1 = .free 0 := rfl
    exact leads_finish_of_unknown keeping accounted (Nat.le_of_not_lt known) freed p rfl

end

/-! ### Methods -/

/-- A call on a handle. What is called must end the process if there is no object. -/
theorem keeps_during (keeping : host.Keeping) {kind : Capability} {id : HandleId}
    {body : Nat → Run (Process H) α}
    (works : ∀ address, Keeps (Accounted past own (id :: calls) none) (body address))
    (dead : ∀ p : Process H, p.objects.get? 0 = none →
      Leads (· = p) (body 0) (fun _ _ => False) (· = p)) :
    Keeps (Accounted past own calls none) ((host.library.place kind id).during body) := by
  intro p accounted
  have read : (host.library.place kind id).read p = p.handle id := rfl
  unfold Handle.Place.during
  rw [bind_eq, Handle.Place.acquire_eq, read]
  rcases acquired : (p.handle id).tryAcquire with f | _ | h
  · exact accounted
  · exact accounted
  · dsimp only
    obtain ⟨same, intact, low⟩ := Handle.tryAcquire_eq_some acquired
    by_cases known : id < p.handles.length
    · have started : Accounted past own (id :: calls) none
          ((host.library.place kind id).write h p) := by
        rw [same]
        exact accounted.counting known intact low
      exact leads_ensuring (works _) (fun _ => leads_release keeping kind id)
        (leads_release keeping kind id).values _ started
    -- What is read where there is no handle has the null address.
    · have unknown := Nat.le_of_not_lt known
      have default_eq : p.handle id = default := by
        simp [handle, List.getElem?_eq_none unknown]
      have null : h.address = 0 := by
        rw [same, default_eq]
        rfl
      have untouched : (host.library.place kind id).write h p = p := by
        simp [Library.place, List.set_eq_of_length_le unknown]
      have freed : (Handle.release default).1 = .free 0 := rfl
      have released : Leads (· = p) (host.library.place kind id).release
          (fun _ => Accounted past own calls none) (Accounted past own calls none) :=
        leads_finish_of_unknown keeping accounted unknown freed
      rw [untouched, null]
      exact leads_ensuring (dead p accounted.null) (fun _ _ never => never.elim) released.values
        p rfl

/-- A method: what its entry point leads to is finished, while the call lasts. -/
theorem keeps_method [Wire α] (keeping : host.Keeping) {kind : Capability} {id : HandleId}
    {placeholder : β} {body : Nat → Buffer → Run (Process H) (Except DomainError β)}
    {after : Except DomainError β → Process H → Prop} {finish : β → Run (Process H) γ}
    (runs : ∀ address b, Leads (Accounted past own (id :: calls) none) (body address b) after
      (Accounted past own (id :: calls) none))
    (refused : ∀ e p, after (.error e) p → Accounted past own (id :: calls) none p)
    (finishes : ∀ b, Leads (after (.ok b)) (finish b)
      (fun _ => Accounted past own (id :: calls) none) (Accounted past own (id :: calls) none))
    (dead : ∀ b p, p.objects.get? 0 = none → body 0 b p = .error .abort p) (argument : α) :
    Keeps (Accounted past own calls none)
      (host.library.method kind id (fun address b => Entry.enter placeholder (body address b))
        argument finish) := by
  refine keeps_during keeping (fun address => ?_) fun p gone => ?_
  · refine leads_bind ((still_lowerArgument host argument).keeps _) fun b => ?_
    refine leads_bind (leads_entered (runs address b)) fun answer => ?_
    cases answer with
    | error e => exact leads_pure (refused e)
    | ok answer => exact leads_bind (finishes answer) fun _ => leads_pure fun _ kept => kept
  · refine leads_bind ((still_lowerArgument host argument).keeps _) fun b => ?_
    have ends : Leads (· = p)
        (host.library.callOrError (Entry.enter placeholder (body 0 b))) (fun _ _ => False)
        (· = p) := by
      intro q same
      have ended : Entry.enter placeholder (body 0 b) p = .error .abort p := by
        rw [Entry.enter_eq, dead b p gone]
      rw [same, (Library.enter_abort ended).1]
      trivial
    exact leads_bind ends fun _ _ never => never.elim

section
variable (keeping : host.Keeping)
include keeping

theorem keeps_sign (id : HandleId) (payload : Bytes) :
    Keeps (Accounted past own calls none) (host.library.sign id payload) := by
  refine keeps_method keeping (keeps_signBody keeping) (fun _ _ kept => kept)
    (fun b => (still_liftResult host b).keeps _) (fun b p gone => ?_) payload
  unfold Resident.signBody Resident.signerAt
  rw [bind_eq, bind_get, gone]
  rfl

omit keeping in
theorem keyManagerAt_of_none {address : Nat} (gone : p.objects.get? address = none) :
    Resident.keyManagerAt address p = .error .abort p := by
  unfold Resident.keyManagerAt
  rw [bind_get, gone]
  rfl

theorem keeps_importKey (id : HandleId) (key : Jwk) :
    Keeps (Accounted past own calls none) (host.library.importKey id key) := by
  refine keeps_method keeping (keeps_importBody keeping) (fun _ _ kept => kept)
    (fun b => (still_liftResult host b).keeps _) (fun b p gone => ?_) key
  unfold Resident.importBody
  rw [bind_eq, keyManagerAt_of_none gone]

omit keeping in
theorem leads_adopt (kind : Capability) (address : Nat) :
    Leads (Accounted past own calls (some address))
      (adopt kind ⟨kind, address⟩ : Run (Process H) HandleId)
      (fun _ => Accounted past own calls none) (Accounted past own calls none) := by
  intro p accounted
  unfold adopt
  by_cases null : address = 0
  · subst null
    rw [Handle.ofRaw_null]
    exact accounted.of_null
  · rw [Handle.ofRaw_of_ne kind null]
    exact accounted.adopt kind

theorem keeps_signerFor (id : HandleId) (key : Jwk) :
    Keeps (Accounted past own calls none) (host.library.signerFor id key) := by
  refine keeps_method keeping (leads_signerBody keeping) (fun _ _ kept => kept)
    (leads_adopt .signer) (fun b p gone => ?_) key
  unfold Resident.signerBody
  rw [bind_eq, keyManagerAt_of_none gone]

/-! ### New objects -/

omit keeping in
theorem keeps_newKeyManager :
    Keeps (Accounted past own calls none) host.library.newKeyManager := by
  intro p accounted
  rw [newKeyManager_eq]
  exact accounted.making (fun t same => by cases same) nofun .keyManager

theorem keeps_fromHost (kind : Capability) (ref : CallbackRef) :
    Keeps (Accounted past own calls none) (host.library.fromHost host kind ref) := by
  have made (n : Int) : Leads (Grown past own calls kind (some n))
      (host.library.construct kind
        (Entry.enter 0 do return .ok (← Resident.add (.foreign kind n))))
      (fun _ => Accounted past own calls none) fun _ => False := by
    rintro p ⟨accounted, fresh⟩
    rw [construct_making]
    have numbers := ResidentObject.numbers_foreign kind n
    refine Accounted.making ?_ ?_ ?_ kind
    · rwa [numbers]
    · cases kind with
      | signer => nofun
      | keyManager =>
        rintro t same
        cases same
        rfl
    · rw [numbers]
      intro c mem
      rw [List.mem_singleton.1 mem]
      exact fresh
  unfold Library.fromHost
  rw [fromHostEntry_eq]
  refine leads_bind (leads_register keeping kind ref) fun answer => ?_
  cases answer with
  | error e => exact leads_pure fun _ kept => kept
  | ok n =>
    refine leads_bind (leads_onFault (made n) ?_) fun _ => leads_pure fun _ kept => kept
    exact fun _ never => never.elim

section
variable {lib : Library (Process H)} {kind : Capability}

/-- A library without the entry point lets the callback go. -/
theorem keeps_fromHost_of_none (missing : lib.fromHostEntry kind = none) (ref : CallbackRef) :
    Keeps (Accounted past own calls none) (lib.fromHost host kind ref) := by
  unfold Library.fromHost
  rw [missing]
  exact leads_bind (keeps_letGo keeping ref) fun _ => leads_pure fun _ kept => kept

omit keeping in
/-- Whatever such an entry point reports, no handle comes of it. -/
theorem leads_construct_of_failing (resident : lib.core = Core.resident)
    {entry : Run (Process H) (Reply Nat)} (tries : Keeps (Accounted past own calls none) entry)
    (fails : ∀ p reply q, entry p = .ok reply q → reply.status.code ≠ 0 ∨ reply.value = 0) :
    Leads (Accounted past own calls none) (lib.construct kind entry) (fun _ _ => False)
      (Accounted past own calls none) := by
  have called : Leads (Accounted past own calls none) (lib.core.call entry)
      (fun address p => address = 0 ∧ Accounted past own calls none p)
      (Accounted past own calls none) := by
    rw [resident]
    have reports := tries.knowing fun p reply q _ ran => fails p reply q ran
    refine leads_bind reports fun reply => leads_given fun failed => ?_
    have settles : Leads (Accounted past own calls none)
        (Core.settle Core.resident.release reply.status : Run (Process H) Unit)
        (fun _ p => reply.value = 0 ∧ Accounted past own calls none p)
        (Accounted past own calls none) := by
      refine ((still_settle reply.status).keeps _).knowing fun p _ q _ ran => ?_
      rcases failed with failed | null
      · exact absurd ran (Core.settle_stops _ failed p _ q)
      · exact null
    exact leads_bind settles fun _ => leads_pure fun _ both => both
  refine leads_bind called fun address => ?_
  rintro p ⟨rfl, accounted⟩
  unfold adopt
  rw [Handle.ofRaw_null]
  exact accounted

/-- A library whose entry point takes nothing and fails, or gives no object. -/
theorem keeps_fromHost_of_failing (resident : lib.core = Core.resident)
    {make : Int → Run (Process H) (Reply Nat)} (entry : lib.fromHostEntry kind = some make)
    (tries : ∀ n own, Keeps (Accounted past own calls none) (make n))
    (fails : ∀ n p reply q, make n p = .ok reply q → reply.status.code ≠ 0 ∨ reply.value = 0)
    (ref : CallbackRef) : Keeps (Accounted past own calls none) (lib.fromHost host kind ref) := by
  unfold Library.fromHost
  rw [entry]
  refine leads_bind (leads_register keeping kind ref) fun answer => ?_
  cases answer with
  | error e => exact leads_pure fun _ kept => kept
  | ok n =>
    have fruitless : Leads (Accounted past ((kind, n) :: own) calls none)
        (lib.construct kind (make n)) (fun _ _ => False)
        (Accounted past ((kind, n) :: own) calls none) :=
      leads_construct_of_failing resident (tries n _) (fails n)
    have cleaned := leads_onFault fruitless (leads_exportedFree keeping kind n)
    refine leads_bind (cleaned.imp (fun _ grown => grown.1) (fun _ _ never => never.elim)
      fun _ kept => kept) fun _ => leads_pure fun _ kept => kept

end

end

end
end Boundary
