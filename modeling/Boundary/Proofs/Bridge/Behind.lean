import Boundary.Proofs.Bridge.Foreign
/-!
Handles of objects with a callback behind them. A method starts a call on the handle, runs the
callback while it is held, and ends the call; if the callback has left the handle and its own
registration alone, nothing else remains of the method.
-/
namespace Boundary
open Run
variable {H α β γ : Type}

theorem Handle.ofRaw_of_ne (kind : Capability) {address : Nat} (some : address ≠ 0) :
    Handle.ofRaw kind ⟨kind, address⟩ = .ok ⟨kind, address, 0, false⟩ := by
  simp [Handle.ofRaw, RawObject.isNull, some]

theorem Handle.ofRaw_null (kind : Capability) :
    Handle.ofRaw kind ⟨kind, 0⟩ = .error (.nullObject kind.objectName) := by
  simp [Handle.ofRaw, RawObject.isNull]

/-- A handle with a call in flight has not let its object go. -/
theorem Handle.counter_nonneg {h : Handle} (busy : 0 < h.inFlight) : 0 ≤ h.counter := by
  unfold Handle.inFlight at busy
  split at busy <;> omega

namespace Process

def handle (id : HandleId) (p : Process H) : Handle := p.handles.getD id default

/-- The handle counts `d` more calls. -/
def counting (id : HandleId) (d : Int) (p : Process H) : Process H :=
  { p with
    handles := p.handles.set id { p.handle id with counter := (p.handle id).counter + d } }

theorem handle_set {id : HandleId} {p : Process H} (owned : id < p.handles.length) (h : Handle) :
    ({ p with handles := p.handles.set id h } : Process H).handle id = h := by
  simp [handle, owned]

theorem handle_set_of_ne {id other : HandleId} (apart : other ≠ id) (h : Handle) (p : Process H) :
    ({ p with handles := p.handles.set id h } : Process H).handle other = p.handle other := by
  simp [handle, Ne.symm apart]

theorem handle_append (h : Handle) (p : Process H) :
    ({ p with handles := p.handles ++ [h] } : Process H).handle p.handles.length = h := by
  simp [handle]

theorem handle_append_of_lt {id : HandleId} {p : Process H} (owned : id < p.handles.length)
    (h : Handle) :
    ({ p with handles := p.handles ++ [h] } : Process H).handle id = p.handle id := by
  simp [handle, List.getElem?_append_left owned]

theorem handle_counting {id : HandleId} {p : Process H} (owned : id < p.handles.length) (d : Int) :
    (p.counting id d).handle id = { p.handle id with counter := (p.handle id).counter + d } :=
  handle_set owned _

theorem set_handle {id : HandleId} {p : Process H} (owned : id < p.handles.length) :
    p.handles.set id (p.handle id) = p.handles := by
  refine List.ext_getElem? fun i => ?_
  by_cases here : id = i
  · subst here
    simp [handle, owned]
  · simp [here]

theorem counting_counting {id : HandleId} {p : Process H} (owned : id < p.handles.length)
    (d : Int) : (p.counting id d).counting id (-d) = p := by
  have back : (p.handle id).counter + d + -d = (p.handle id).counter := by omega
  unfold counting
  rw [handle_set owned]
  dsimp only
  rw [back, List.set_set, set_handle owned]

/-- A call can start: the handle is not given up, and there is room in its counter. -/
structure Callable (id : HandleId) (p : Process H) : Prop where
  owned : id < p.handles.length
  intact : (p.handle id).destroyed = false
  counted : 0 ≤ (p.handle id).counter ∧ (p.handle id).counter < Handle.maxCounter

/-- The handle is in use, and its object asks for the callback under the number. -/
structure Fronts (kind : Capability) (n : Int) (id : HandleId) (p : Process H) : Prop where
  owned : id < p.handles.length
  intact : (p.handle id).destroyed = false
  counted : 0 ≤ (p.handle id).counter ∧ (p.handle id).counter < Handle.maxCounter
  made : (p.handle id).address ≤ p.objects.lastAddress
  object : p.objects.get? (p.handle id).address = some (.foreign kind n)

theorem Fronts.callable {kind : Capability} {n : Int} {id : HandleId} {p : Process H}
    (fronts : Fronts kind n id p) : Callable id p :=
  ⟨fronts.owned, fronts.intact, fronts.counted⟩

/-- The callback stands behind the object of the handle. -/
structure Behind (kind : Capability) (n : Int) (ref : CallbackRef) (id : HandleId)
    (p : Process H) : Prop extends Fronts kind n id p where
  registered : Registered kind n ref p

/-- A new object, and a handle for it. -/
def making (kind : Capability) (o : ResidentObject) (p : Process H) : Process H :=
  { p with
    objects := (p.objects.add o).2
    handles := p.handles ++ [⟨kind, p.objects.lastAddress + 1, 0, false⟩] }

theorem handle_making (kind : Capability) (o : ResidentObject) (p : Process H) :
    (p.making kind o).handle p.handles.length = ⟨kind, p.objects.lastAddress + 1, 0, false⟩ :=
  handle_append _ p

theorem handle_making_of_lt (kind : Capability) (o : ResidentObject) {id : HandleId}
    {p : Process H} (owned : id < p.handles.length) : (p.making kind o).handle id = p.handle id :=
  handle_append_of_lt owned _

theorem Fronts.congr {kind : Capability} {n : Int} {id : HandleId} {p q : Process H}
    (fronts : Fronts kind n id p) (handles : q.handles = p.handles)
    (objects : q.objects = p.objects) : Fronts kind n id q := by
  have handle : q.handle id = p.handle id := by
    unfold Process.handle
    rw [handles]
  refine ⟨?_, ?_, ?_, ?_, ?_⟩
  · rw [handles]
    exact fronts.owned
  all_goals rw [handle]
  · exact fronts.intact
  · exact fronts.counted
  · rw [objects]
    exact fronts.made
  · rw [objects]
    exact fronts.object

theorem fronts_making (kind : Capability) (n : Int) (p : Process H) :
    Fronts kind n p.handles.length (p.making kind (.foreign kind n)) := by
  have handle := handle_making kind (.foreign kind n) p
  refine ⟨by simp [making], ?_, ?_, ?_, ?_⟩
  all_goals rw [handle]
  · change (0 : Int) ≤ 0 ∧ (0 : Int) < Handle.maxCounter
    decide
  · exact Nat.le_refl _
  · simp [making, ResidentObjects.add, ResidentObjects.get?]

theorem Fronts.making {kind : Capability} {n : Int} {id : HandleId} {p : Process H}
    (fronts : Fronts kind n id p) (other : Capability) (o : ResidentObject) :
    Fronts kind n id (p.making other o) := by
  have handle := handle_making_of_lt other o fronts.owned
  have made := fronts.made
  refine ⟨?_, ?_, ?_, ?_, ?_⟩
  · unfold Process.making
    rw [List.length_append]
    exact Nat.lt_add_right _ fronts.owned
  all_goals rw [handle]
  · exact fronts.intact
  · exact fronts.counted
  · exact Nat.le_succ_of_le made
  · have older : (p.handle id).address ≠ p.objects.lastAddress + 1 := by omega
    have object := fronts.object
    unfold ResidentObjects.get? at object ⊢
    simp only [Process.making, ResidentObjects.add, Keyed.get?_put]
    rw [if_neg older]
    exact object

/-- What happens to one handle is nothing to the others. -/
theorem Fronts.set_of_ne {kind : Capability} {n : Int} {id other : HandleId} {p : Process H}
    (fronts : Fronts kind n other p) (apart : id ≠ other) (h : Handle) :
    Fronts kind n other { p with handles := p.handles.set id h } := by
  have handle := handle_set_of_ne (Ne.symm apart) h p
  refine ⟨?_, ?_, ?_, ?_, ?_⟩
  · rw [List.length_set]
    exact fronts.owned
  all_goals rw [handle]
  · exact fronts.intact
  · exact fronts.counted
  · exact fronts.made
  · exact fronts.object

/-- The end of a call that was under way. -/
theorem Fronts.counting_less {kind : Capability} {n : Int} {id : HandleId} {p : Process H}
    (fronts : Fronts kind n id p) (busy : 0 < (p.handle id).counter) :
    Fronts kind n id (p.counting id (-1)) := by
  have handle := handle_counting fronts.owned (-1)
  have counted := fronts.counted
  refine ⟨?_, ?_, ?_, ?_, ?_⟩
  · unfold counting
    rw [List.length_set]
    exact fronts.owned
  all_goals rw [handle]
  · exact fronts.intact
  · dsimp only
    omega
  · exact fronts.made
  · exact fronts.object

/-- As the callback is called, and after it was called. -/
def begun (ref : CallbackRef) (id : HandleId) (p : Process H) : Process H :=
  (p.counting id 1).holding ref

def ended (ref : CallbackRef) (id : HandleId) (p : Process H) : Process H :=
  (p.lettingGo ref).counting id (-1)

end Process

/-- What is still to be done once the callback behind the object of a handle has answered. -/
def Host.closing (host : Host H) (kind : Capability) (ref : CallbackRef) (id : HandleId) :
    Run (Process H) Unit := do
  host.letGo ref
  (host.library.place kind id).release

namespace Library
open Process
variable {host : Host H} {kind : Capability} {n : Int} {ref : CallbackRef} {id : HandleId}
  {p q : Process H}

theorem acquire_of_callable (callable : Callable id p) (lib : Library (Process H)) :
    (lib.place kind id).acquire p = .ok (p.handle id).address (p.counting id 1) := by
  have acquired : (p.handle id).tryAcquire =
      .ok (some { p.handle id with counter := (p.handle id).counter + 1 }) := by
    have counted := callable.counted
    have below : ¬ ((p.handle id).destroyed = true ∨ (p.handle id).counter ≤ Handle.released) := by
      rw [callable.intact]
      simp only [Bool.false_eq_true, false_or, Handle.released]
      omega
    unfold Handle.tryAcquire
    rw [if_neg below, if_neg (Int.ne_of_lt counted.2)]
  have read : (lib.place kind id).read p = p.handle id := rfl
  rw [Handle.Place.acquire_eq, read, acquired]
  rfl

/-- A call on a handle that is not given up. -/
theorem during_of_callable (callable : Callable id p) (lib : Library (Process H))
    (body : Nat → Run (Process H) α) :
    (lib.place kind id).during body p =
      ensuring (body (p.handle id).address) (lib.place kind id).release (p.counting id 1) := by
  unfold Handle.Place.during
  rw [bind_eq, acquire_of_callable callable]

theorem during_of_destroyed (lib : Library (Process H)) (kind : Capability)
    (body : Nat → Run (Process H) α) (given : (p.handle id).destroyed = true) :
    (lib.place kind id).during body p =
      .error (.fault (.useAfterDestroy (p.handle id).kind.objectName)) p := by
  have read : (lib.place kind id).read p = p.handle id := rfl
  have refused : (p.handle id).tryAcquire = .ok none := by
    unfold Handle.tryAcquire
    rw [if_pos (.inl given)]
  unfold Handle.Place.during
  rw [bind_eq, Handle.Place.acquire_eq, read, refused]

theorem during_eq {asked : Capability} (fronts : Fronts asked n id p) (lib : Library (Process H))
    (body : Nat → Run (Process H) α) :
    (lib.place kind id).during body p =
      ensuring (body (p.handle id).address) (lib.place kind id).release (p.counting id 1) :=
  during_of_callable fronts.callable lib body

theorem release_eq (lib : Library (Process H)) (busy : 0 < (q.handle id).counter) :
    (lib.place kind id).release q = .ok () (q.counting id (-1)) := by
  have read : (lib.place kind id).read q = q.handle id := rfl
  have kept : (q.handle id).release.1 = .keep := by
    unfold Handle.release Handle.released
    dsimp only
    rw [if_neg (by omega), if_neg (by omega)]
  unfold Handle.Place.release
  rw [Handle.Place.finish_eq, read, kept]
  rfl

theorem method_of_callable [Wire α] (host : Host H) (kind : Capability)
    (faithful : Wire.Faithful α) {a : α} (crosses : Wire.Crosses a) (callable : Callable id p)
    (entry : Nat → Buffer → Run (Process H) (Reply β)) (finish : β → Run (Process H) γ) :
    ∃ buffer, Wire.lift α buffer.content = .ok a ∧
      host.library.method kind id entry a finish p =
        ensuring (host.library.respond (entry (p.handle id).address buffer) finish)
          (host.library.place kind id).release (p.counting id 1) := by
  obtain ⟨buffer, lowered, readable⟩ := lowerArgument_eq host faithful crosses (p.counting id 1)
  refine ⟨buffer, readable, ?_⟩
  unfold method
  rw [during_of_callable callable]
  refine ensuring_congr ?_ _
  rw [bind_eq, lowered]
  rfl

theorem method_eq [Wire α] (host : Host H) (kind : Capability) (faithful : Wire.Faithful α) {a : α}
    (crosses : Wire.Crosses a) {asked : Capability} (fronts : Fronts asked n id p)
    (entry : Nat → Buffer → Run (Process H) (Reply β)) (finish : β → Run (Process H) γ) :
    ∃ buffer, Wire.lift α buffer.content = .ok a ∧
      host.library.method kind id entry a finish p =
        ensuring (host.library.respond (entry (p.handle id).address buffer) finish)
          (host.library.place kind id).release (p.counting id 1) :=
  method_of_callable host kind faithful crosses fronts.callable entry finish

theorem told_of_encoding [Wire α] (a : α) (g f : Fault) (large : Buffer.encoding a = .error g)
    (same : Stop.fault g = .fault f) : f.message ≠ "" := by
  cases same
  have texts : ∀ s : String, s ++ " is too large to fit into i32" ≠ "" ∧
      s ++ " bytes is too large to cross the boundary" ≠ "" := by
    intro s
    constructor <;> exact fun silent => absurd (String.append_eq_empty_iff.1 silent).2 (by decide)
  unfold Buffer.encoding Buffer.ofVec at large
  split at large
  · split at large
    · cases large
    · cases large
      exact (texts _).2
  · cases large
    exact (texts _).1

/-- Signing by a callback is the callback itself, in a call on the handle. -/
theorem sign_eq (host : Host H) (behind : Behind .signer n ref id p) {payload : Bytes}
    (crosses : Wire.Crosses payload) :
    host.library.sign id payload p =
      ((host.library.place .signer id).during fun _ =>
        host.lent ref (host.sign ref payload) >>= delivered .signer fun f => (Stop.fault f).seen)
        p := by
  obtain ⟨buffer, readable, method⟩ := method_eq host .signer Wire.faithful_bytes crosses
    behind.toFronts host.library.signer.sign (host.library.liftResult Bytes)
  have answered := respond_answered host Wire.faithful_bytes told_of_encoding
    (Resident.signBody_of_registered host (p := p.counting id 1) behind.object behind.registered
      readable) fun _ _ => stop_of_noUnwind
  rw [during_eq behind.toFronts]
  exact method.trans (ensuring_congr answered _)

theorem importKey_eq (host : Host H) (behind : Behind .keyManager n ref id p) {key : Jwk}
    (crosses : Wire.Crosses key) :
    host.library.importKey id key p =
      ((host.library.place .keyManager id).during fun _ =>
        host.lent ref (host.importKey ref key) >>= delivered .keyManager fun _ => .abort) p := by
  obtain ⟨buffer, readable, method⟩ := method_eq host .keyManager Wire.faithful_jwk crosses
    behind.toFronts host.library.keyManager.importKey (host.library.liftResult Jwk)
  have told (a : Jwk) (g f : Fault) (_ : Buffer.encoding a = .error g)
      (ends : Stop.abort = .fault f) : f.message ≠ "" := by
    cases ends
  have answered := respond_answered host Wire.faithful_jwk told
    (Resident.importBody_of_registered host (p := p.counting id 1) behind.object behind.registered
      readable crosses) fun _ _ => stop_of_noUnwind
  rw [during_eq behind.toFronts]
  exact method.trans (ensuring_congr answered _)

theorem add_eq (o : ResidentObject) (p : Process H) :
    Resident.add o p = .ok (p.objects.lastAddress + 1) { p with objects := (p.objects.add o).2 } :=
  rfl

theorem adopt_making (kind : Capability) (o : ResidentObject) (p : Process H) :
    Process.adopt kind ⟨kind, p.objects.lastAddress + 1⟩ { p with objects := (p.objects.add o).2 } =
      .ok p.handles.length (p.making kind o) := by
  unfold Process.adopt
  rw [Handle.ofRaw_of_ne kind (Nat.succ_ne_zero _)]
  rfl

/-- A signer of the host gets an object and a handle. -/
def issued : Option Int → Run (Process H) (Except DomainError HandleId)
  | none => return .error (.unavailable .keyManager)
  | some n => Run.change fun p => (.ok p.handles.length, p.making .signer (.foreign .signer n))

theorem signerFor_eq (host : Host H) (behind : Behind .keyManager n ref id p) {key : Jwk}
    (crosses : Wire.Crosses key) :
    host.library.signerFor id key p =
      ((host.library.place .keyManager id).during fun _ =>
        host.lent ref (host.signerNumber ref key) >>= issued) p := by
  obtain ⟨buffer, readable, method⟩ := method_eq host .keyManager Wire.faithful_jwk crosses
    behind.toFronts host.library.keyManager.signerFor fun address =>
      Process.adopt .signer ⟨.signer, address⟩
  obtain ⟨view, lent, visible⟩ := Resident.lend_eq crosses (p.counting id 1)
  have registered : Registered .keyManager n ref (p.counting id 1) := behind.registered
  have body := Resident.signerBody_eq host (p := p.counting id 1) behind.object readable lent
  rw [bind_eq, host.exportedSignerFor_of_registered registered visible] at body
  rw [during_eq behind.toFronts]
  refine method.trans (ensuring_congr ?_ _)
  rw [Resident.signerFor_eq_enter, bind_eq]
  rcases given : host.lent ref (host.signerNumber ref key) (p.counting id 1) with
    ⟨_ | m, q⟩ | ⟨stop, q⟩
  · rw [given] at body
    obtain ⟨made, encoded⟩ := encoding_unavailable .keyManager
    exact respond_error host _ body encoded
  · rw [given] at body
    dsimp only at body
    rw [bind_eq, add_eq] at body
    rw [respond_ok host _ body, bind_eq, adopt_making]
    rfl
  · rw [given] at body
    cases stop_of_noUnwind given
    exact respond_abort host _ body

end Library
end Boundary
