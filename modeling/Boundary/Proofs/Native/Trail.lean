import Boundary.Proofs.Native.Faults
import Boundary.Proofs.Unwinding
import Boundary.Session.Script
/-!
What giving back a payload brings up: that is a call too, whose status may carry another payload,
which is given back in turn. The trail of a status lists the buffers that go back and what is
reported for each. The state of the core goes along with it, so that a core that notes what comes
back has noted the buffers of the trail, in their order, and nothing else.
-/
namespace Boundary

namespace Run
variable {σ α β : Type}

/-- The end of a run with this answer, in this state. -/
def ending (answer : Except Stop α) (s : σ) : EStateM.Result Stop σ α :=
  match answer with
  | .ok a => .ok a s
  | .error stop => .error stop s

theorem bind_of_ok {x : Run σ α} {s t : σ} {a : α} (h : x s = ending (.ok a) t)
    (next : α → Run σ β) : (x >>= next) s = next a t := by
  rw [bind_eq, h]
  rfl

theorem bind_of_error {x : Run σ α} {s t : σ} {stop : Stop} (h : x s = ending (.error stop) t)
    (next : α → Run σ β) : (x >>= next) s = ending (.error stop) t := by
  rw [bind_eq, h]
  rfl

theorem left_of_ending {x : Run σ α} {s t : σ} {answer : Except Stop α}
    (h : x s = ending answer t) : left x s = t := by
  unfold left
  rw [h]
  cases answer <;> rfl

theorem answer_of_ending {x : Run σ α} {s t : σ} {a : Except Stop α} (h : x s = ending a t) :
    answer x s = a := by
  unfold answer
  rw [h]
  cases a <;> rfl

theorem map_of_ending {x : Run σ α} {s t : σ} {answer : Except Stop α} (h : x s = ending answer t)
    (f : α → β) : (do return f (← x) : Run σ β) s = ending (answer.map f) t := by
  cases answer with
  | ok a => exact bind_of_ok h _
  | error stop => exact bind_of_error h _

end Run

namespace Core
open Run
variable {σ α β : Type} {core : Core σ}

/-- What is given back after `status`, with the status that is reported for it, until no payload is
left that has to be given back. -/
inductive Trail (core : Core σ) : Status → σ → List (Buffer × Status) → σ → Prop
  | done {status : Status} {s : σ} (nothing : status.due = none) : Trail core status s [] s
  | next {status : Status} {s after : σ} {b : Buffer} {trail : List (Buffer × Status)}
      (due : status.due = some b)
      (later : Trail core (core.reclaim b s).1 (core.reclaim b s).2 trail after) :
      Trail core status s ((b, (core.reclaim b s).1) :: trail) after

/-- Whatever it is given, the core reports these statuses next, and then success. -/
def Reports (core : Core σ) : List Status → σ → Prop
  | [], s => ∀ b, (core.reclaim b s).1 = Status.initial
  | status :: script, s => ∀ b, (core.reclaim b s).1 = status ∧
      Reports core script (core.reclaim b s).2

/-- The trail of a status when these are reported, and then success. -/
def chain (status : Status) (script : List Status) : List (Buffer × Status) :=
  match status.due, script with
  | none, _ => []
  | some b, [] => [(b, Status.initial)]
  | some b, next :: script => (b, next) :: chain next script

/-! ### Giving back -/

section
variable {release : Buffer → Run σ Unit} {b : Buffer} {s t : σ} {released : Except Stop Unit}

theorem value_after_release (given : release b s = ending released t) (a : β) :
    (do release b; return a) s = ending (supersede (.ok a) released) t := by
  cases released with
  | ok done => exact bind_of_ok given _
  | error stop => exact bind_of_error given _

theorem raise_after_release (given : release b s = ending released t) {f : Fault}
    (free : f.holdsPayload = false) :
    (do release b; raise f : Run σ β) s = ending (supersede (.error f) released) t := by
  cases released with
  | ok done => exact bind_of_ok given _
  | error stop =>
    have kept : supersede (.error f : Except Fault β) (.error stop) = .error stop := by
      simp [supersede, faultOf?, free]
    rw [kept]
    exact bind_of_error given _

theorem onFault_raise_eq (f : Fault) (cleanup : Run σ Unit) (s : σ) :
    onFault (raise f : Run σ β) cleanup s = match cleanup s with
      | .ok _ t => .error (.fault f) t
      | .error _ t => .error .abort t := rfl

theorem raise_around_release (given : release b s = ending released t) {f : Fault}
    (holds : f.holdsPayload = true) :
    onFault (raise f : Run σ β) (release b) s = ending (supersede (.error f) released) t := by
  rw [onFault_raise_eq, given]
  cases released with
  | ok done => rfl
  | error stop => simp [supersede, faultOf?, holds, ending]

/-- Of all that could be given back, only the payload of the status is. -/
theorem settle_congr {other : Buffer → Run σ Unit} {status : Status}
    (same : release status.payload s = other status.payload s) :
    settle release status s = settle other status s := by
  unfold settle
  rcases status.code? with _ | _ | _ | _ <;> dsimp only
  · exact same
  · rw [bind_eq, bind_eq, same]
  · split
    · rw [bind_eq, bind_eq, same]
    · cases textOf status.payload with
      | ok text =>
        dsimp only
        rw [bind_eq, bind_eq, same]
      | error e =>
        dsimp only
        rw [onFault_raise_eq, onFault_raise_eq, same]

theorem settle_eq {status : Status} (known : status.code? ≠ none)
    (given : release status.payload s = ending released t) :
    settle release status s = ending (supersede (Reply.plain ⟨status, ()⟩) released) t := by
  unfold settle Reply.plain Status.fault?
  rcases code : status.code? with _ | _ | _ | _ <;> dsimp only
  case none => exact absurd code known
  case some.success =>
    rw [given]
    cases released <;> rfl
  case some.error => exact raise_after_release given rfl
  case some.panic =>
    split
    · exact raise_after_release given rfl
    · cases textOf status.payload with
      | ok text => exact raise_after_release given rfl
      | error e => exact raise_around_release given rfl

end

theorem freeWithin_succ_eq (core : Core σ) (fuel : Nat) (b : Buffer) (s : σ) :
    core.freeWithin (fuel + 1) b s =
      settle (fun p => if p.isNull then return () else core.freeWithin fuel p)
        (core.reclaim b s).1 (core.reclaim b s).2 := rfl

/-- Any fuel beyond the backlog will do. -/
theorem freeWithin_eq {fuel other : Nat} {b : Buffer} {s : σ} (enough : core.backlog s < fuel)
    (also : core.backlog s < other) : core.freeWithin fuel b s = core.freeWithin other b s := by
  induction fuel generalizing other b s with
  | zero => cases enough
  | succ fuel ih =>
    cases other with
    | zero => cases also
    | succ other =>
      rw [freeWithin_succ_eq, freeWithin_succ_eq]
      refine settle_congr ?_
      by_cases empty : (core.reclaim b s).1.payload = .null
      · rw [empty]
        rfl
      · have less := core.backlog_reclaim b s empty
        split
        · rfl
        · exact ih (by omega) (by omega)

/-- Giving a buffer back is a call that declares no error. -/
theorem freeBuffer_eq (core : Core σ) (b : Buffer) (s : σ) :
    core.freeBuffer b s = settle core.release (core.reclaim b s).1 (core.reclaim b s).2 := by
  unfold freeBuffer
  rw [freeWithin_succ_eq]
  refine settle_congr ?_
  unfold release
  by_cases empty : (core.reclaim b s).1.payload = .null
  · rw [empty]
    rfl
  · have less := core.backlog_reclaim b s empty
    split
    · rfl
    · exact freeWithin_eq (by omega) (by omega)

theorem release_null (core : Core σ) (s : σ) : core.release .null s = .ok () s := rfl

theorem release_of_ne_null {b : Buffer} (owned : b ≠ .null) (s : σ) :
    core.release b s = settle core.release (core.reclaim b s).1 (core.reclaim b s).2 := by
  cases b with
  | null => exact absurd rfl owned
  | region content fits => exact freeBuffer_eq core (.region content fits) s

theorem trail_of_backlog (core : Core σ) {n : Nat} {b : Buffer} {s : σ}
    (less : core.backlog s < n) :
    ∃ trail after, Trail core (core.reclaim b s).1 (core.reclaim b s).2 trail after := by
  induction n generalizing b s with
  | zero => cases less
  | succ n ih =>
    cases due : (core.reclaim b s).1.due with
    | none => exact ⟨[], _, .done due⟩
    | some next =>
      have carried : (core.reclaim b s).1.payload ≠ .null := by
        unfold Status.due at due
        split at due
        next both => exact both.2
        next => cases due
      have fewer := core.backlog_reclaim b s carried
      have left : core.backlog (core.reclaim b s).2 < n := by omega
      obtain ⟨trail, after, later⟩ := ih (b := next) left
      exact ⟨_, after, .next due later⟩

/-- Every trail comes to an end. -/
theorem exists_trail (core : Core σ) (status : Status) (s : σ) :
    ∃ trail after, Trail core status s trail after := by
  cases due : status.due with
  | none => exact ⟨[], s, .done due⟩
  | some b =>
    obtain ⟨trail, after, later⟩ :=
      trail_of_backlog core (b := b) (Nat.lt_succ_self (core.backlog s))
    exact ⟨_, after, .next due later⟩

theorem Trail.eq_chain {status : Status} {s after : σ} {trail : List (Buffer × Status)}
    {script : List Status} (along : Trail core status s trail after)
    (reports : Reports core script s) : trail = chain status script := by
  induction along generalizing script with
  | done nothing =>
    unfold chain
    rw [nothing]
  | @next status s after b trail due later ih =>
    cases script with
    | nil =>
      have silent : (core.reclaim b s).1 = Status.initial := reports b
      rw [silent] at later ⊢
      unfold chain
      rw [due]
      cases later with
      | done nothing => rfl
      | next owed => cases owed
    | cons next script =>
      obtain ⟨reported, rest⟩ := reports b
      rw [reported] at ih ⊢
      rw [ih rest]
      conv => rhs; unfold chain
      rw [due]

theorem settle_of_unknown {release : Buffer → Run σ Unit} {status : Status}
    (unknown : status.code? = none) (s : σ) :
    settle release status s = ending (conclude (Reply.plain ⟨status, ()⟩) []) s := by
  rw [conclude_nil]
  unfold settle Reply.plain Status.fault?
  rw [unknown]
  rfl

/-- The payload goes back along the trail, and the last fault of the trail supersedes the others. -/
theorem release_of_trail {status : Status} {s after : σ} {trail : List (Buffer × Status)}
    (along : Trail core status s trail after) (known : status.code? ≠ none) :
    core.release status.payload s = ending (afterwards (trail.map (·.2))) after := by
  induction along with
  | done nothing =>
    rw [Status.due_of_known known] at nothing
    split at nothing
    next empty =>
      rw [empty]
      rfl
    next => cases nothing
  | @next status s after b trail due later ih =>
    rw [Status.due_of_known known] at due
    split at due
    next => cases due
    next owned =>
      cases due
      rw [release_of_ne_null owned]
      change _ = ending (conclude _ (trail.map (·.2))) after
      by_cases unknown : (core.reclaim status.payload s).1.code? = none
      · -- What a status with an unknown code carries does not go back.
        rw [settle_of_unknown unknown]
        cases later with
        | done => rfl
        | next owed =>
          rw [Status.due_of_unknown unknown] at owed
          cases owed
      · rw [settle_eq unknown (ih unknown), conclude_eq_supersede]

theorem settle_of_trail {status : Status} {s after : σ} {trail : List (Buffer × Status)}
    (along : Trail core status s trail after) :
    settle core.release status s =
      ending (conclude (Reply.plain ⟨status, ()⟩) (trail.map (·.2))) after := by
  by_cases unknown : status.code? = none
  · cases along with
    | done => exact settle_of_unknown unknown s
    | next owed =>
      rw [Status.due_of_unknown unknown] at owed
      cases owed
  · rw [settle_eq unknown (release_of_trail along unknown), conclude_eq_supersede]

theorem call_of_trail {entry : Run σ (Reply α)} {before started after : σ} {reply : Reply α}
    {trail : List (Buffer × Status)} (reported : entry before = .ok reply started)
    (along : Trail core reply.status started trail after) :
    core.call entry before = ending (conclude reply.plain (trail.map (·.2))) after := by
  unfold call
  rw [bind_eq, reported, plain_eq_map, conclude_map]
  exact map_of_ending (settle_of_trail along) _

theorem lift_eq {s : Shape} {b : Buffer} {before after : σ} {released : Except Stop Unit}
    (given : core.release b before = ending released after) :
    core.lift s b before = ending (supersede (lifted s b) released) after := by
  unfold lift lifted
  cases s.lift b.content with
  | ok v => exact value_after_release given v
  | error e => exact raise_around_release given rfl

theorem callOr_of_trail (s : Shape) {entry : Run σ (Reply α)} {before started after : σ}
    {reply : Reply α} {trail : List (Buffer × Status)}
    (reported : entry before = .ok reply started)
    (along : Trail core reply.status started trail after) :
    core.callOr s entry before = ending (conclude (reply.declared s) (trail.map (·.2))) after := by
  by_cases error : reply.status.code? = some .error
  · have known : reply.status.code? ≠ none := by
      rw [error]
      exact Option.some_ne_none _
    rw [declared_of_error s error, conclude_map, conclude_eq_supersede]
    unfold callOr
    rw [bind_eq, reported]
    dsimp only
    rw [error]
    exact map_of_ending (lift_eq (release_of_trail along known)) _
  · have settled := map_of_ending (settle_of_trail along) fun _ =>
      (.ok reply.value : Except Value α)
    rw [declared_of_ne_error s error, conclude_map, ← settled]
    unfold callOr
    rw [bind_eq, reported]
    rcases code : reply.status.code? with _ | _ | _ | _
    case some.error => exact absurd code error
    all_goals
      dsimp only
      rw [code]

/-- A call gives back its payload, then what that brings up, and so on, and comes to the last fault
on the way, or else to what its own status says. -/
theorem calls_conclude (core : Core σ) (s : Shape) {entry : Run σ (Reply α)} {before started : σ}
    {reply : Reply α} (reported : entry before = .ok reply started) :
    ∃ trail after, Trail core reply.status started trail after ∧
      core.call entry before = ending (conclude reply.plain (trail.map (·.2))) after ∧
      core.callOr s entry before =
        ending (conclude (reply.declared s) (trail.map (·.2))) after ∧
      ∀ script, Reports core script started → trail = chain reply.status script := by
  obtain ⟨trail, after, along⟩ := exists_trail core reply.status started
  exact ⟨trail, after, along, call_of_trail reported along, callOr_of_trail s reported along,
    fun _ reports => along.eq_chain reports⟩

/-- An error whose payload is given back with two failures: the first one has an empty payload, and
the second one an unknown code, so that its payload stays. -/
def failingTwice : Script := ⟨[], [⟨2, .region []⟩, ⟨7, .region [9]⟩], 0, 0, []⟩

theorem calls_conclude_failingTwice :
    let core := scripted .standard
    let reply : Reply Nat := ⟨⟨1, .region [1]⟩, 5⟩
    let entry : Run Script (Reply Nat) := pure reply
    ∃ trail after, Trail core reply.status failingTwice trail after ∧
      core.call entry failingTwice = .error (.fault (.unknownStatusCode 7)) after ∧
      core.callOr .bool entry failingTwice = .error (.fault (.unknownStatusCode 7)) after ∧
      trail.map (·.1) = [.region [1], .region []] ∧ after.freed = [[1], []] := by
  intro core reply entry
  have reported : entry failingTwice = .ok reply failingTwice := rfl
  obtain ⟨trail, after, along, plain, declared, listed⟩ := calls_conclude core .bool reported
  have reports : Reports core failingTwice.reclaims failingTwice :=
    fun _ => ⟨rfl, fun _ => ⟨rfl, fun _ => rfl⟩⟩
  have chained : trail = [(.region [1], ⟨2, .region []⟩), (.region [], ⟨7, .region [9]⟩)] :=
    listed _ reports
  subst chained
  have last : (⟨7, .region [9]⟩ : Status).fault? = some (.unknownStatusCode 7) := rfl
  rw [conclude_of_failure (by decide) rfl last] at plain declared
  have ended : core.call entry failingTwice =
      .error (.fault (.unknownStatusCode 7)) ⟨[], [], 0, 2, [[1], []]⟩ := rfl
  rw [ended] at plain
  cases plain
  exact ⟨_, _, along, ended, declared, rfl, rfl⟩

end Core
end Boundary
