import Boundary.Native.Core
/-!
What a call comes to, by the status of its own and by those that are reported for what it gives
back.

The payload of a status goes back before the status itself ends the call in a fault, and giving
back is a call, too. So a fault that arises there supersedes the one of the status. Only where the
payload does not decode the fault of the status comes first, and then none may follow. Main
statement: of the faults of all statuses the last one counts.
-/
namespace Boundary

namespace Status

/-- The buffer that the receiver of a status gives back. A status with an unknown code says
nothing, and its payload is left alone. -/
def due (status : Status) : Option Buffer :=
  if (status.code = 0 ∨ status.code = 1 ∨ status.code = 2) ∧ status.payload ≠ .null then
    some status.payload
  else none

/-- The fault of a call that declares no error. -/
def fault? (status : Status) : Option Fault :=
  match status.code? with
  | none => some (.unknownStatusCode status.code)
  | some .success => none
  | some .error => some .unexpectedError
  | some .panic =>
    if status.payload.isEmpty then some .panicWhilePanicking
    else
      match Core.textOf status.payload with
      | .ok text => some (.nativePanic text)
      | .error e => some (.lift (Wire.shape String).fullName e)

theorem code?_eq_none_iff {status : Status} :
    status.code? = none ↔ status.code ≠ 0 ∧ status.code ≠ 1 ∧ status.code ≠ 2 := by
  unfold code? StatusCode.ofRaw?
  split
  · simp [*]
  · split
    · simp [*]
    · split <;> simp [*]

theorem code?_eq_some_iff {status : Status} {code : StatusCode} :
    status.code? = some code ↔ status.code = code.raw := by
  unfold code? StatusCode.ofRaw?
  split
  · cases code <;> simp [*, StatusCode.raw]
  · split
    · cases code <;> simp [*, StatusCode.raw]
    · split
      · cases code <;> simp [*, StatusCode.raw]
      · cases code <;> simp [*, StatusCode.raw]

theorem known_of (code : StatusCode) {status : Status} (reported : status.code = code.raw) :
    status.code? ≠ none := by
  rw [code?_eq_some_iff.2 reported]
  exact Option.some_ne_none code

theorem fault?_eq_none_iff {status : Status} : status.fault? = none ↔ status.code = 0 := by
  have success : status.code? = some .success ↔ status.code = 0 := code?_eq_some_iff
  rw [← success]
  unfold fault?
  rcases status.code? with _ | _ | _ | _
  case some.panic =>
    dsimp only
    split
    · simp
    · split <;> simp
  all_goals simp

theorem due_of_unknown {status : Status} (unknown : status.code? = none) : status.due = none := by
  rw [code?_eq_none_iff] at unknown
  unfold due
  simp [unknown]

theorem due_of_known {status : Status} (known : status.code? ≠ none) :
    status.due = if status.payload = .null then none else some status.payload := by
  rw [Ne, code?_eq_none_iff] at known
  have listed : status.code = 0 ∨ status.code = 1 ∨ status.code = 2 := by omega
  unfold due
  by_cases empty : status.payload = .null
  · simp [empty]
  · simp [empty, listed]

end Status

namespace Reply
variable {α : Type}

/-- What a reply says in a call that declares no error. -/
def plain (reply : Reply α) : Except Fault α :=
  match reply.status.fault? with
  | none => .ok reply.value
  | some f => .error f

/-- What a reply says in a call that declares errors of shape `s`. -/
def declared (s : Shape) (reply : Reply α) : Except Fault (Except Value α) :=
  if reply.status.code = 1 then
    match s.lift reply.status.payload.content with
    | .ok v => .ok (.error v)
    | .error e => .error (.lift s.fullName e)
  else reply.plain.map .ok

end Reply

/-- The fault is raised while the payload is still owned, which goes back as the fault unwinds. -/
def Fault.holdsPayload : Fault → Bool
  | .lift .. => true
  | _ => false

namespace Core
variable {α β : Type}

/-- None of the faults is followed by another one while it unwinds. -/
def Orderly (faults : List (Option Fault)) : Prop :=
  faults.Pairwise fun earlier later => earlier.any Fault.holdsPayload = true → later = none

instance (faults : List (Option Fault)) : Decidable (Orderly faults) :=
  inferInstanceAs (Decidable (faults.Pairwise _))

def lastFailure? (reported : List Status) : Option Status :=
  (reported.filter (·.code ≠ 0)).getLast?

def faultOf? : Except Fault β → Option Fault
  | .ok _ => none
  | .error f => some f

/-- What a call comes to that says `own` itself, when these are reported for what is given back. -/
def conclude (own : Except Fault β) (reported : List Status) : Except Stop β :=
  if Orderly (faultOf? own :: reported.map Status.fault?) then
    match (lastFailure? reported).bind Status.fault? with
    | some f => .error (.fault f)
    | none => own.mapError .fault
  else .error .abort

/-! ### The end of a trail supersedes what comes before -/

theorem orderly_cons (fault : Option Fault) (reported : List Status) :
    Orderly (fault :: reported.map Status.fault?) ↔
      (fault.any Fault.holdsPayload = true → ∀ status ∈ reported, status.code = 0) ∧
        Orderly (reported.map Status.fault?) := by
  unfold Orderly
  rw [List.pairwise_cons]
  simp only [List.forall_mem_map, Status.fault?_eq_none_iff]
  constructor
  · rintro ⟨first, rest⟩
    exact ⟨fun holds status mem => first status mem holds, rest⟩
  · rintro ⟨first, rest⟩
    exact ⟨fun status mem holds => first holds status mem, rest⟩

theorem lastFailure?_eq_none_iff {reported : List Status} :
    lastFailure? reported = none ↔ ∀ status ∈ reported, status.code = 0 := by
  unfold lastFailure?
  rw [List.getLast?_eq_none_iff, List.filter_eq_nil_iff]
  simp

theorem lastFailure?_cons (status : Status) (reported : List Status) :
    lastFailure? (status :: reported) =
      (lastFailure? reported).or (if status.code = 0 then none else some status) := by
  unfold lastFailure?
  by_cases failed : status.code = 0
  · simp [failed]
  · simp [failed, List.getLast?_cons]

theorem code_of_lastFailure? {reported : List Status} {last : Status}
    (found : lastFailure? reported = some last) : last.code ≠ 0 := by
  have mem := List.mem_of_getLast? found
  simpa using (List.mem_filter.1 mem).2

theorem faultOf?_plain (reply : Reply α) : faultOf? reply.plain = reply.status.fault? := by
  unfold Reply.plain
  cases reply.status.fault? <;> rfl

/-- What a call comes to that says `own` itself, by what giving back the payload comes to. -/
def supersede (own : Except Fault β) : Except Stop Unit → Except Stop β
  | .ok _ => own.mapError .fault
  | .error stop =>
    if (faultOf? own).any Fault.holdsPayload = true then .error .abort else .error stop

theorem conclude_of_disorder {own : Except Fault β} {reported : List Status}
    (disorder : ¬ Orderly (faultOf? own :: reported.map Status.fault?)) :
    conclude own reported = .error .abort := by
  unfold conclude
  rw [if_neg disorder]

theorem conclude_of_failure {own : Except Fault β} {reported : List Status} {last : Status}
    {f : Fault} (orderly : Orderly (faultOf? own :: reported.map Status.fault?))
    (found : lastFailure? reported = some last) (fault : last.fault? = some f) :
    conclude own reported = .error (.fault f) := by
  unfold conclude
  rw [if_pos orderly, found, Option.bind_some, fault]

theorem conclude_of_success {own : Except Fault β} {reported : List Status}
    (orderly : Orderly (faultOf? own :: reported.map Status.fault?))
    (fine : lastFailure? reported = none) : conclude own reported = own.mapError .fault := by
  unfold conclude
  rw [if_pos orderly, fine, Option.bind_none]

/-- As long as everything goes back, a call comes to what its own status says. -/
theorem conclude_of_all_success {own : Except Fault β} {reported : List Status}
    (fine : ∀ status ∈ reported, status.code = 0) :
    conclude own reported = own.mapError .fault := by
  refine conclude_of_success ?_ (lastFailure?_eq_none_iff.2 fine)
  refine (orderly_cons _ _).2 ⟨fun _ => fine, ?_⟩
  refine List.pairwise_map.2 (List.pairwise_of_forall_mem_list ?_)
  intro _ _ status mem _
  exact Status.fault?_eq_none_iff.2 (fine status mem)

theorem conclude_nil (own : Except Fault β) : conclude own [] = supersede own (.ok ()) :=
  conclude_of_success (List.pairwise_singleton ..) rfl

theorem exists_fault {status : Status} (failed : status.code ≠ 0) :
    ∃ f, status.fault? = some f :=
  Option.ne_none_iff_exists'.1 (mt Status.fault?_eq_none_iff.1 failed)

/-- Some of the reported statuses fails, so that its fault supersedes `own` or meets it. -/
theorem conclude_eq_supersede_of_failure {own : Except Fault β} {reported : List Status}
    {last : Status} {f : Fault} (found : lastFailure? reported = some last)
    (fault : last.fault? = some f) (orderly : Orderly (reported.map Status.fault?)) :
    conclude own reported = supersede own (.error (.fault f)) := by
  have failing : ¬ ∀ status ∈ reported, status.code = 0 := by
    rw [← lastFailure?_eq_none_iff, found]
    simp
  by_cases holds : (faultOf? own).any Fault.holdsPayload = true
  · rw [supersede, if_pos holds, conclude_of_disorder]
    rw [orderly_cons]
    exact fun both => failing (both.1 holds)
  · rw [supersede, if_neg holds, conclude_of_failure _ found fault]
    exact (orderly_cons _ _).2 ⟨fun h => absurd h holds, orderly⟩

/-- What the first of the reported statuses comes to, by those after it, is what giving back the
payload comes to. -/
theorem conclude_cons (own : Except Fault β) (status : Status) (reported : List Status) :
    conclude own (status :: reported) =
      supersede own (conclude (Reply.plain ⟨status, ()⟩) reported) := by
  have first : faultOf? (Reply.plain ⟨status, ()⟩) = status.fault? := faultOf?_plain _
  by_cases orderly : Orderly ((status :: reported).map Status.fault?)
  · have inner : Orderly (faultOf? (Reply.plain ⟨status, ()⟩) :: reported.map Status.fault?) := by
      rw [first]
      exact orderly
    have chosen := lastFailure?_cons status reported
    cases later : lastFailure? reported with
    | some last =>
      obtain ⟨f, fault⟩ := exists_fault (code_of_lastFailure? later)
      rw [later, Option.some_or] at chosen
      rw [conclude_of_failure inner later fault,
        conclude_eq_supersede_of_failure chosen fault orderly]
    | none =>
      rw [later, Option.none_or] at chosen
      rw [conclude_of_success inner later, Reply.plain]
      by_cases fine : status.code = 0
      · rw [if_pos fine] at chosen
        rw [Status.fault?_eq_none_iff.2 fine]
        refine conclude_of_success ?_ chosen
        exact (orderly_cons _ _).2 ⟨fun _ => lastFailure?_eq_none_iff.1 chosen, orderly⟩
      · rw [if_neg fine] at chosen
        obtain ⟨f, fault⟩ := exists_fault fine
        rw [conclude_eq_supersede_of_failure chosen fault orderly, fault]
        rfl
  · have inner : ¬ Orderly (faultOf? (Reply.plain ⟨status, ()⟩) :: reported.map Status.fault?) := by
      rw [first]
      exact orderly
    rw [conclude_of_disorder fun whole => orderly ((orderly_cons _ _).1 whole).2,
      conclude_of_disorder inner, supersede, ite_self]

/-- What giving back the payload of a status comes to, by what is reported on the trail. -/
def afterwards : List Status → Except Stop Unit
  | [] => .ok ()
  | status :: reported => conclude (Reply.plain ⟨status, ()⟩) reported

theorem conclude_eq_supersede (own : Except Fault β) (reported : List Status) :
    conclude own reported = supersede own (afterwards reported) := by
  cases reported with
  | nil => exact conclude_nil own
  | cons status reported => exact conclude_cons own status reported

theorem supersede_map {γ : Type} (own : Except Fault β) (f : β → γ) (released : Except Stop Unit) :
    supersede (own.map f) released = (supersede own released).map f := by
  have fault : faultOf? (own.map f) = faultOf? own := by cases own <;> rfl
  cases released with
  | ok done => cases own <;> rfl
  | error stop =>
    simp only [supersede, fault]
    split <;> rfl

theorem conclude_map {γ : Type} (own : Except Fault β) (f : β → γ) (reported : List Status) :
    conclude (own.map f) reported = (conclude own reported).map f := by
  rw [conclude_eq_supersede, supersede_map, conclude_eq_supersede]

theorem plain_eq_map (reply : Reply α) :
    reply.plain = (Reply.plain ⟨reply.status, ()⟩).map fun _ => reply.value := by
  unfold Reply.plain
  cases reply.status.fault? <;> rfl

/-- What a buffer says that should hold a value of the shape. -/
def lifted (s : Shape) (b : Buffer) : Except Fault Value :=
  (s.lift b.content).mapError (.lift s.fullName)

theorem declared_of_error (s : Shape) {reply : Reply α} (error : reply.status.code? = some .error) :
    reply.declared s = (lifted s reply.status.payload).map .error := by
  have code : reply.status.code = 1 := Status.code?_eq_some_iff.1 error
  unfold Reply.declared lifted
  rw [if_pos code]
  cases s.lift reply.status.payload.content <;> rfl

theorem declared_of_ne_error (s : Shape) {reply : Reply α}
    (other : reply.status.code? ≠ some .error) :
    reply.declared s = (Reply.plain ⟨reply.status, ()⟩).map fun _ => .ok reply.value := by
  have code : reply.status.code ≠ 1 := fun error => other (Status.code?_eq_some_iff.2 error)
  unfold Reply.declared
  rw [if_neg code, plain_eq_map]
  cases (Reply.plain ⟨reply.status, ()⟩ : Except Fault Unit) <;> rfl

end Core
end Boundary
