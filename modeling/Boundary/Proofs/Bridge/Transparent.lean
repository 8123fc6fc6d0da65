import Boundary.Proofs.Bridge.Answers
import Boundary.Proofs.Bridge.Withdrawn
/-!
A callback behind a native object can be told from the callback itself only by its errors. Making
the object registers the callback and runs nothing of it; a call on the object runs it once, on what
was handed in, and hands back what it gave; and once its number is withdrawn, a call leaves the
process as it was.
-/
namespace Boundary
open Run Process
variable {H : Type}

/-- Objects with callbacks behind them stand for the callbacks, whatever these do. -/
structure Transparent (host : Host H) : Prop where
  made : ∀ {kind : Capability} {ref : CallbackRef} {p : Process H}, Registrable kind ref p →
    ∃ n id q, host.library.fromHost host kind ref p = .ok (.ok id) q ∧
      Behind kind n ref id q ∧ q.host = p.host
  signs : ∀ {n : Int} {ref : CallbackRef} {id : HandleId} {p : Process H} {payload : Bytes},
    Behind .signer n ref id p → Wire.Crosses payload →
    host.library.sign id payload p =
        ((host.library.place .signer id).during fun _ =>
          host.lent ref (host.sign ref payload) >>=
            delivered .signer fun f => (Stop.fault f).seen) p ∧
      (∀ result t, host.library.sign id payload p = .ok result t →
        ∃ answer q, host.sign ref payload (p.begun ref id) = .ok answer q ∧
          result = answer.mapError fun _ => .unavailable .signer) ∧
      ∀ answer q t, host.sign ref payload (p.begun ref id) = .ok answer q →
        host.closing .signer ref id q = .ok () t →
        (∀ signature, answer = .ok signature → signature.length ≤ maxLength) →
        host.library.sign id payload p = .ok (answer.mapError fun _ => .unavailable .signer) t
  imports : ∀ {n : Int} {ref : CallbackRef} {id : HandleId} {p : Process H} {key : Jwk},
    Behind .keyManager n ref id p → Wire.Crosses key →
    host.library.importKey id key p =
        ((host.library.place .keyManager id).during fun _ =>
          host.lent ref (host.importKey ref key) >>= delivered .keyManager fun _ => .abort) p ∧
      (∀ result t, host.library.importKey id key p = .ok result t →
        ∃ answer q, host.importKey ref key (p.begun ref id) = .ok answer q ∧
          result = answer.mapError fun _ => .unavailable .keyManager) ∧
      ∀ answer q t, host.importKey ref key (p.begun ref id) = .ok answer q →
        host.closing .keyManager ref id q = .ok () t →
        (∀ shown, answer = .ok shown → ∃ made, Buffer.encoding shown = .ok made) →
        host.library.importKey id key p =
          .ok (answer.mapError fun _ => .unavailable .keyManager) t
  gives : ∀ {n : Int} {ref : CallbackRef} {id : HandleId} {p : Process H} {key : Jwk},
    Behind .keyManager n ref id p → Wire.Crosses key →
    host.library.signerFor id key p =
        ((host.library.place .keyManager id).during fun _ =>
          host.lent ref (host.signerNumber ref key) >>= Library.issued) p ∧
      (∀ sid t, host.library.signerFor id key p = .ok (.ok sid) t →
        ∃ signer q, host.signerFor ref key (p.begun ref id) = .ok (.ok signer) q ∧
          Registrable .signer signer q) ∧
      (∀ e q t, host.signerFor ref key (p.begun ref id) = .ok (.error e) q →
        host.closing .keyManager ref id q = .ok () t →
        host.library.signerFor id key p = .ok (.error (.unavailable .keyManager)) t) ∧
      ∀ signer q, host.signerFor ref key (p.begun ref id) = .ok (.ok signer) q →
        Registrable .signer signer q → Behind .keyManager n ref id q →
        0 < (q.handle id).counter → ∃ m sid t,
          host.library.signerFor id key p = .ok (.ok sid) t ∧ Behind .signer m signer sid t ∧
            Behind .keyManager n ref id t ∧ t.host = q.host
  /-- A callback that has left its registration and the handle alone. -/
  closes : ∀ {kind : Capability} {n : Int} {ref : CallbackRef} {id : HandleId} {q : Process H},
    Behind kind n ref id q → 0 < (q.handle id).counter →
    host.closing kind ref id q = .ok () (q.ended ref id) ∧ Behind kind n ref id (q.ended ref id)
  outlives : ∀ {n m : Int} {ref signer : CallbackRef} {id sid : HandleId} {p : Process H},
    Behind .keyManager n ref id p → Behind .signer m signer sid p →
    (∀ q : Process H, Behind .signer m signer sid q →
      Behind .signer m signer sid (left (host.dropped ref) q)) →
    Behind .signer m signer sid (left (host.library.destroy .keyManager id) p)
  /-- An argument that cannot be lent gets to no callback. -/
  unlent : ∀ {kind : Capability} {n : Int} {id : HandleId} {p : Process H}, Fronts kind n id p →
    (kind = .signer → ∀ payload : Bytes, ¬ Wire.Crosses payload →
      ∃ f, host.library.sign id payload p = .error (.fault f) p) ∧
    (kind = .keyManager → ∀ key : Jwk, ¬ Wire.Crosses key →
      (∃ f, host.library.importKey id key p = .error (.fault f) p) ∧
        ∃ f, host.library.signerFor id key p = .error (.fault f) p)
  /-- Whatever has been registered and unregistered since. -/
  withdrawn : ∀ {kind : Capability} {n : Int} {ref : CallbackRef} {id : HandleId} {p : Process H}
    {c : Callbacks} {r r' : Registry CallbackRef} {ops : List (History.Op CallbackRef)},
    r.unregister n = some (ref, r') → p.callbacks = some c →
    c.registry kind = (History.run r' ops).2 → Fronts kind n id p →
    (kind = .signer → ∀ payload : Bytes, Wire.Crosses payload →
      host.library.sign id payload p = .ok (.error (.unavailable .signer)) p) ∧
    (kind = .keyManager → ∀ key : Jwk, Wire.Crosses key →
      host.library.importKey id key p = .ok (.error (.unavailable .keyManager)) p ∧
        host.library.signerFor id key p = .ok (.error (.unavailable .keyManager)) p)

/-- Native objects stand for the callbacks behind them. -/
theorem callbacks_transparent (host : Host H) : Transparent host where
  made := by
    rintro kind ref p ⟨n, r, room⟩
    have behind : Behind kind n ref _ ((p.registering kind r ref).making kind (.foreign kind n)) :=
      ⟨fronts_making kind n _, registered_registering room⟩
    exact ⟨n, _, _, fromHost_eq host room, behind, rfl⟩
  signs := by
    intro n ref id p payload behind crosses
    have method := Library.sign_eq host behind crosses
    refine ⟨method, fun result t done => ?_, fun answer q t done closed fits => ?_⟩
    · rw [method] at done
      exact answer_of_during _ behind.toFronts done
    · rw [method]
      exact during_delivered behind.toFronts done closed fun s given =>
        exists_encoding_of_le (fits s given)
  imports := by
    intro n ref id p key behind crosses
    have method := Library.importKey_eq host behind crosses
    refine ⟨method, fun result t done => ?_, fun answer q t done closed sendable => ?_⟩
    · rw [method] at done
      exact answer_of_during _ behind.toFronts done
    · rw [method]
      exact during_delivered behind.toFronts done closed sendable
  gives := by
    intro n ref id p key behind crosses
    refine ⟨Library.signerFor_eq host behind crosses, fun sid t => ?_, fun e q t => ?_, ?_⟩
    · exact registrable_of_signerFor behind crosses
    · exact signerFor_of_error behind crosses
    · intro signer q given registrable still busy
      exact signerFor_of_registrable behind crosses given still busy registrable
  closes := fun still busy => ⟨closing_of_behind host still busy, still.ended busy⟩
  outlives := behind_of_destroy
  unlent := by
    intro kind n id p fronts
    constructor
    · rintro rfl payload large
      exact method_of_not_crosses large fronts.callable _ _
    · rintro rfl key large
      exact ⟨method_of_not_crosses large fronts.callable _ _,
        method_of_not_crosses large fronts.callable _ _⟩
  withdrawn := by
    intro kind n ref id p c r r' ops gone installed later fronts
    have missing := (withdrawn_run (withdrawn_of_unregister gone) ops).2
    rw [← later] at missing
    have unregistered : Unregistered kind n p := ⟨c, installed, missing⟩
    constructor
    · rintro rfl payload crosses
      exact sign_of_unregistered fronts unregistered crosses
    · rintro rfl key crosses
      exact ⟨importKey_of_unregistered fronts unregistered crosses,
        signerFor_of_unregistered fronts unregistered crosses⟩

/-- Host code that turns around what it signs, and keeps what that was. -/
def mirror : Host (List Bytes) where
  sign _ payload := do
    Process.setHost (· ++ [payload])
    return .ok payload.reverse
  importKey _ key := return .ok key.toPublic
  signerFor _ _ := do
    Process.hold 2
    return .ok 2
  dropped _ := return ()

/-- A process with an object that has a mirror behind it. -/
def mirrored (kind : Capability) : Process (List Bytes) :=
  left (mirror.library.fromHost mirror kind 1) { Process.start [] with held := [1] }

/-- The mirror is gone, and the object is still there. -/
def unmirrored : Process (List Bytes) := left (mirror.unregister .signer 1) (mirrored .signer)

theorem behind_mirrored (kind : Capability) : Behind kind 1 1 0 (mirrored kind) := by
  cases kind
  all_goals exact ⟨⟨by decide, rfl, by decide, by decide, rfl⟩, ⟨_, rfl, rfl⟩⟩

theorem callbacks_transparent_mirror :
    mirror.library.sign 0 [1, 2] (mirrored .signer) =
        .ok (.ok [2, 1]) { mirrored .signer with host := [[1, 2]] } ∧
      (∃ n id t, mirror.library.signerFor 0 default (mirrored .keyManager) = .ok (.ok id) t ∧
        Behind .signer n 2 id (left (mirror.library.destroy .keyManager 0) t)) ∧
      mirror.library.sign 0 [1, 2] unmirrored = .ok (.error (.unavailable .signer)) unmirrored := by
  have transparent := callbacks_transparent mirror
  have payload : Wire.Crosses ([1, 2] : Bytes) := ⟨_, rfl, by decide⟩
  have key : Wire.Crosses (default : Jwk) := ⟨_, rfl, by decide⟩
  refine ⟨?_, ?_, ?_⟩
  · obtain ⟨-, -, signs⟩ := transparent.signs (behind_mirrored .signer) payload
    let q : Process (List Bytes) := { (mirrored .signer).begun 1 0 with host := [[1, 2]] }
    have still : Behind .signer 1 1 0 q :=
      ⟨⟨by decide, rfl, by decide, by decide, rfl⟩, (behind_mirrored .signer).registered⟩
    have closed := (transparent.closes still (by decide)).1
    exact signs (.ok [2, 1]) q _ rfl closed fun s given => by
      cases given
      decide
  · obtain ⟨-, -, -, gives⟩ := transparent.gives (behind_mirrored .keyManager) key
    let q : Process (List Bytes) := ((mirrored .keyManager).begun 1 0).holding 2
    have still : Behind .keyManager 1 1 0 q :=
      ⟨⟨by decide, rfl, by decide, by decide, rfl⟩, (behind_mirrored .keyManager).registered⟩
    obtain ⟨n, id, t, given, behind, manager, -⟩ :=
      gives 2 q rfl ⟨_, _, rfl⟩ still (by decide)
    exact ⟨n, id, t, given, transparent.outlives manager behind fun _ kept => kept⟩
  · have gone : ((mirrored .signer).current.registry .signer).unregister 1 =
        some (1, unmirrored.current.registry .signer) := rfl
    have later : unmirrored.current.registry .signer =
        (History.run (unmirrored.current.registry .signer) []).2 := rfl
    have fronts : Fronts .signer 1 0 unmirrored := ⟨by decide, rfl, by decide, by decide, rfl⟩
    exact (transparent.withdrawn gone rfl later fronts).1 rfl _ payload

/-- The mirror would answer, but nobody asks it. -/
theorem overlong_key_is_not_imported :
    let key := Jwk.overlong (some "s")
    let mirrored := mirrored .keyManager
    (∃ q, mirror.importKey 1 key mirrored = .ok (.ok key.toPublic) q) ∧
      ∃ f, mirror.library.importKey 0 key mirrored = .error (.fault f) mirrored := by
  intro key mirrored
  have callable := (behind_mirrored .keyManager).callable
  exact ⟨⟨mirrored, rfl⟩, method_of_not_crosses (not_crosses_overlong _) callable _ _⟩

end Boundary
