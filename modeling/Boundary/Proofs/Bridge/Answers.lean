import Boundary.Proofs.Bridge.Made
/-!
What methods of objects with callbacks behind them come to, from what the callbacks come to.
-/
namespace Boundary
open Run Process
variable {H α β : Type} {host : Host H} {kind : Capability} {n : Int} {ref : CallbackRef}
  {id : HandleId} {p q : Process H} {r : Registry CallbackRef}

theorem Process.Behind.ended (still : Behind kind n ref id q) (busy : 0 < (q.handle id).counter) :
    Behind kind n ref id (q.ended ref id) := by
  have kept : Fronts kind n id (q.lettingGo ref) := still.toFronts.congr rfl rfl
  exact ⟨kept.counting_less busy, still.registered⟩

/-- The callback has left the handle and its own registration alone. -/
theorem closing_of_behind (host : Host H) (still : Behind kind n ref id q)
    (busy : 0 < (q.handle id).counter) :
    host.closing kind ref id q = .ok () (q.ended ref id) := by
  unfold Host.closing
  rw [bind_eq, host.letGo_of_registered still.registered]
  exact Library.release_eq (q := q.lettingGo ref) host.library busy

theorem during_of_ok {use : Run (Process H) α} {finish : α → Run (Process H) β} {a : α}
    {t : Process H} (lib : Library (Process H)) (fronts : Fronts kind n id p)
    (done : use (p.begun ref id) = .ok a q) (letting : host.letGo ref q = .ok () t) :
    (lib.place kind id).during (fun _ => host.lent ref use >>= finish) p =
      ensuring (finish a) (lib.place kind id).release t := by
  rw [Library.during_eq fronts]
  refine ensuring_congr ?_ _
  rw [bind_eq, host.lent_of_ok done letting]

theorem delivered_of_sendable {σ : Type} [Wire α] {tooLong : Fault → Stop}
    {answer : Except DomainError α}
    (sendable : ∀ a, answer = .ok a → ∃ made, Buffer.encoding a = .ok made) (s : σ) :
    delivered kind tooLong answer s = .ok (answer.mapError fun _ => .unavailable kind) s := by
  cases answer with
  | error e => rfl
  | ok a =>
    obtain ⟨made, encoded⟩ := sendable a rfl
    unfold delivered
    dsimp only
    rw [encoded]
    rfl

/-- Such a method gives what the callback gave. -/
theorem during_delivered [Wire α] {tooLong : Fault → Stop} {answer : Except DomainError α}
    {use : Run (Process H) (Except DomainError α)} {t : Process H}
    (fronts : Fronts kind n id p) (done : use (p.begun ref id) = .ok answer q)
    (closed : host.closing kind ref id q = .ok () t)
    (sendable : ∀ a, answer = .ok a → ∃ made, Buffer.encoding a = .ok made) :
    (host.library.place kind id).during (fun _ => host.lent ref use >>= delivered kind tooLong) p =
      .ok (answer.mapError fun _ => .unavailable kind) t := by
  obtain ⟨⟨⟩, s, letting, released⟩ := exists_of_bind closed
  rw [during_of_ok _ fronts done letting]
  exact ensuring_of_ok (delivered_of_sendable sendable s) released

/-- Whatever the callback does, nothing comes back from such a method but its answer. -/
theorem answer_of_during [Wire α] {tooLong : Fault → Stop} {result : Except DomainError α}
    {use : Run (Process H) (Except DomainError α)} {t : Process H} (lib : Library (Process H))
    (fronts : Fronts kind n id p)
    (done : (lib.place kind id).during (fun _ => host.lent ref use >>= delivered kind tooLong) p =
      .ok result t) :
    ∃ answer q, use (p.begun ref id) = .ok answer q ∧
      result = answer.mapError fun _ => .unavailable kind := by
  rw [Library.during_eq fronts] at done
  obtain ⟨u, delivering⟩ := exists_of_ensuring done
  obtain ⟨answer, v, lent, delivering⟩ := exists_of_bind delivering
  obtain ⟨q, used⟩ := host.exists_of_lent lent
  refine ⟨answer, q, used, ?_⟩
  cases answer with
  | error e =>
    cases delivering
    rfl
  | ok a =>
    unfold delivered at delivering
    dsimp only at delivering
    cases encoded : Buffer.encoding a with
    | error f =>
      rw [encoded] at delivering
      cases delivering
    | ok made =>
      rw [encoded] at delivering
      cases delivering
      rfl

/-! ### Signers of a key manager -/

theorem signerNumber_of_room {key : Jwk} {signer : CallbackRef} {m : Int}
    (given : host.signerFor ref key p = .ok (.ok signer) q)
    (room : (q.current.registry .signer).register signer = .ok (.ok (m, r))) :
    host.signerNumber ref key p = .ok (some m) (q.registering .signer r signer) := by
  unfold Host.signerNumber
  rw [bind_eq, given]
  dsimp only
  rw [bind_eq, register_eq host room]
  rfl

theorem signerNumber_of_error {key : Jwk} {e : DomainError}
    (given : host.signerFor ref key p = .ok (.error e) q) :
    host.signerNumber ref key p = .ok none q := by
  unfold Host.signerNumber
  rw [bind_eq, given]
  rfl

/-- A number stands for a signer that was given and registered. -/
theorem registrable_of_signerNumber {key : Jwk} {m : Int} {t : Process H}
    (numbered : host.signerNumber ref key p = .ok (some m) t) :
    ∃ signer q, host.signerFor ref key p = .ok (.ok signer) q ∧
      Registrable .signer signer q := by
  unfold Host.signerNumber at numbered
  obtain ⟨answer, q, given, numbered⟩ := exists_of_bind numbered
  cases answer with
  | error e => cases numbered
  | ok signer =>
    dsimp only at numbered
    obtain ⟨number, s, registered, numbered⟩ := exists_of_bind numbered
    cases number with
    | error e => cases numbered
    | ok m => exact ⟨signer, q, given, registrable_of_register registered⟩

variable {key : Jwk}

theorem signerFor_of_registrable {signer : CallbackRef} (behind : Behind .keyManager n ref id p)
    (crosses : Wire.Crosses key)
    (given : host.signerFor ref key (p.begun ref id) = .ok (.ok signer) q)
    (still : Behind .keyManager n ref id q) (busy : 0 < (q.handle id).counter)
    (registrable : Registrable .signer signer q) :
    ∃ m sid t, host.library.signerFor id key p = .ok (.ok sid) t ∧
      Behind .signer m signer sid t ∧ Behind .keyManager n ref id t ∧ t.host = q.host := by
  obtain ⟨m, r, room⟩ := registrable
  have numbered := signerNumber_of_room given room
  have registering : Behind .keyManager n ref id (q.registering .signer r signer) :=
    ⟨still.toFronts.congr rfl rfl, still.registered.of_ne (by decide) rfl⟩
  let s := (q.registering .signer r signer).lettingGo ref
  have fronts : Fronts .keyManager n id s := registering.toFronts.congr rfl rfl
  have issuing : Library.issued (some m) s =
      .ok (.ok s.handles.length) (s.making .signer (.foreign .signer m)) := rfl
  have handle : (s.making .signer (.foreign .signer m)).handle id = q.handle id :=
    handle_making_of_lt .signer _ fronts.owned
  have during : 0 < ((s.making .signer (.foreign .signer m)).handle id).counter := by
    rw [handle]
    exact busy
  refine ⟨m, s.handles.length, (s.making .signer (.foreign .signer m)).counting id (-1), ?_, ?_, ?_,
    rfl⟩
  · rw [Library.signerFor_eq host behind crosses, during_of_ok _ behind.toFronts numbered
      (host.letGo_of_registered registering.registered)]
    exact ensuring_of_ok issuing (Library.release_eq _ during)
  · have apart : id ≠ s.handles.length := Nat.ne_of_lt fronts.owned
    exact ⟨(fronts_making .signer m s).set_of_ne apart _, registered_registering room⟩
  · exact ⟨(fronts.making _ _).counting_less during, registering.registered⟩

theorem signerFor_of_error {e : DomainError} {t : Process H}
    (behind : Behind .keyManager n ref id p) (crosses : Wire.Crosses key)
    (given : host.signerFor ref key (p.begun ref id) = .ok (.error e) q)
    (closed : host.closing .keyManager ref id q = .ok () t) :
    host.library.signerFor id key p = .ok (.error (.unavailable .keyManager)) t := by
  obtain ⟨⟨⟩, s, letting, released⟩ := exists_of_bind closed
  have issuing : Library.issued none s = .ok (.error (.unavailable .keyManager)) s := rfl
  rw [Library.signerFor_eq host behind crosses,
    during_of_ok _ behind.toFronts (signerNumber_of_error given) letting]
  exact ensuring_of_ok issuing released

/-- There is a signer only if the callback gave one, and there was a number for it. -/
theorem registrable_of_signerFor {sid : HandleId} {t : Process H}
    (behind : Behind .keyManager n ref id p) (crosses : Wire.Crosses key)
    (done : host.library.signerFor id key p = .ok (.ok sid) t) :
    ∃ signer q, host.signerFor ref key (p.begun ref id) = .ok (.ok signer) q ∧
      Registrable .signer signer q := by
  rw [Library.signerFor_eq host behind crosses, Library.during_eq behind.toFronts] at done
  obtain ⟨u, issuing⟩ := exists_of_ensuring done
  obtain ⟨number, v, lent, issuing⟩ := exists_of_bind issuing
  obtain ⟨s, numbered⟩ := host.exists_of_lent lent
  cases number with
  | none => cases issuing
  | some m => exact registrable_of_signerNumber numbered

end Boundary
