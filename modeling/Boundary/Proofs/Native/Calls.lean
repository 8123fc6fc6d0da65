import Boundary.Native.Core
import Boundary.Proofs.Unwinding
/-!
What can come out of a call to the native core: only faults that speak of the call itself, and no
value after a status that is not success.
-/
namespace Boundary

/-- The faults of a call: they tell what was wrong with its status. -/
inductive Fault.OfCall : Fault → Prop
  | unknown (code : Int) : OfCall (.unknownStatusCode code)
  | unexpected : OfCall .unexpectedError
  | panic (text : String) : OfCall (.nativePanic text)
  | panicTwice : OfCall .panicWhilePanicking
  | unreadable (typeName : String) (cause : CodecError) : OfCall (.lift typeName cause)

namespace Core
open Run
variable {σ α : Type}

theorem settle_raises {release : Buffer → Run σ Unit}
    (payloads : ∀ b, RaisesOnly Fault.OfCall (release b)) (status : Status) :
    RaisesOnly Fault.OfCall (settle release status) := by
  unfold settle
  split
  · exact raises_only_raise (.unknown _)
  · exact payloads _
  · exact raises_only_bind (payloads _) fun _ => raises_only_raise .unexpected
  · split
    · exact raises_only_bind (payloads _) fun _ => raises_only_raise .panicTwice
    · split
      · exact raises_only_bind (payloads _) fun _ => raises_only_raise (.panic _)
      · exact raises_only_onFault _ (raises_only_raise (.unreadable _ _))

theorem freeWithin_raises (core : Core σ) (fuel : Nat) (b : Buffer) :
    RaisesOnly Fault.OfCall (core.freeWithin fuel b) := by
  induction fuel generalizing b with
  | zero => exact raises_only_bind (raises_only_change _) fun _ => raises_only_pure _
  | succ fuel ih =>
    refine raises_only_bind (raises_only_change _) fun status => ?_
    refine settle_raises (fun p => ?_) status
    split
    · exact raises_only_pure _
    · exact ih p

theorem release_raises (core : Core σ) (b : Buffer) :
    RaisesOnly Fault.OfCall (core.release b) := by
  unfold release
  split
  · exact raises_only_pure _
  · intro s
    exact freeWithin_raises core _ b s

theorem call_raises (core : Core σ) {entry : Run σ (Reply α)}
    (foreign : RaisesOnly Fault.OfCall entry) : RaisesOnly Fault.OfCall (core.call entry) := by
  refine raises_only_bind foreign fun reply => ?_
  refine raises_only_bind (settle_raises core.release_raises _) fun _ => ?_
  exact raises_only_pure _

theorem settle_stops (release : Buffer → Run σ Unit) {status : Status} (failed : status.code ≠ 0) :
    Stops (settle release status) := by
  unfold settle
  split
  · exact stops_raise _
  next success =>
    exfalso
    unfold Status.code? StatusCode.ofRaw? at success
    rw [if_neg failed] at success
    split at success
    · cases success
    · split at success <;> cases success
  · exact stops_bind fun _ => stops_raise _
  · split
    · exact stops_bind fun _ => stops_raise _
    · split
      · exact stops_bind fun _ => stops_raise _
      · exact stops_onFault _ (stops_raise _)

/-- A call whose entry point reports a failure gives no value. -/
theorem call_ne_ok (core : Core σ) {entry : Run σ (Reply α)} {s s' : σ} {reply : Reply α}
    (reported : entry s = .ok reply s') (failed : reply.status.code ≠ 0) (a : α) (t : σ) :
    core.call entry s ≠ .ok a t := by
  intro h
  unfold call at h
  rw [bind_eq, reported] at h
  dsimp only at h
  rw [bind_eq] at h
  cases settled : settle core.release reply.status s' with
  | ok done t' => exact settle_stops core.release failed s' done t' settled
  | error stop t' =>
    rw [settled] at h
    cases h

end Core
end Boundary
