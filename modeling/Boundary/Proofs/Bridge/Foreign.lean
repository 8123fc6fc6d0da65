import Boundary.Proofs.Bridge.Lent
import Boundary.Proofs.Native.Envelope
import Boundary.Proofs.Native.Lifetime
/-!
Methods of objects that have a callback of the host behind them. The argument crosses over into the
native core and from there back to the host, and the answer takes the same way in the other
direction. What is shown here for each method is that nothing is left of the crossing: the method
comes to the same as the callback itself, but for the errors of the host, which all look alike.
-/
namespace Boundary
open Run Process
variable {H α β γ : Type}

/-- An object with the callback under the number behind it. -/
def ResidentObject.foreign : Capability → Int → ResidentObject
  | .signer, n => .signer (.foreign n)
  | .keyManager, n => .keyManager (.foreign ⟨n, none⟩)

/-- The encoding fits the lengths of the boundary. -/
def Wire.Crosses [Wire α] (a : α) : Prop := ∃ b, Wire.lower a = .ok b ∧ b.length ≤ maxLength

theorem not_crosses_overlong (d : Option String) : ¬ Wire.Crosses (Jwk.overlong d) := by
  rintro ⟨b, written, -⟩
  obtain ⟨e, large⟩ := Jwk.lower_overlong d
  rw [large] at written
  cases written

/-- There is a buffer for the encoding of every byte string whose length can be written down. -/
theorem exists_encoding_of_le {b : Bytes} (fits : b.length ≤ maxLength) :
    ∃ made, Buffer.encoding b = .ok made := by
  have written : Wire.lower b = .ok (lengthPrefix b.length ++ b) :=
    Value.write_of_fits (Value.tooLong?_eq_none_iff.2 fits)
  have room : Wire.room b ≤ max 16 (4 + b.length) := Value.room_bytes_le b
  have most : max 16 (4 + b.length) ≤ maxRegion := by
    unfold maxLength at fits
    unfold maxRegion
    omega
  have whole : (lengthPrefix b.length ++ b).length ≤ Wire.room b := (Value.room_bounds written).1
  exact ⟨_, Buffer.encoding_of_le written ((whole.trans room).trans most) (room.trans most)⟩

/-- An answer of the host, as it arrives on the other side of the boundary, or what comes of it if
there is no buffer for it. -/
def delivered {σ : Type} [Wire α] (kind : Capability) (tooLong : Fault → Stop) :
    Except DomainError α → Run σ (Except DomainError α)
  | .error _ => return .error (.unavailable kind)
  | .ok a =>
    match Buffer.encoding a with
    | .ok _ => return .ok a
    | .error f => throw (tooLong f)

/-- The answer on its way. -/
def answered {σ : Type} [Wire α] (kind : Capability) (tooLong : Fault → Stop) :
    Except DomainError α → Run σ (Except DomainError Buffer)
  | .error _ => return .error (.unavailable kind)
  | .ok a =>
    match Buffer.encoding a with
    | .ok made => return .ok made
    | .error f => throw (tooLong f)

/-- What the other side sees of the end of an entry point. -/
def Stop.seen : Stop → Stop
  | .fault f =>
    if (Bytes.ofText f.message).length ≤ maxRegion then .fault (.nativePanic f.message) else .abort
  | .abort => .abort

theorem still_argument [Wire α] (b : Buffer) :
    Still (Entry.argument α b : Run (Process H) α) := by
  unfold Entry.argument
  split
  · exact still_pure _
  · exact still_raise _

theorem still_result [Wire α] (a : α) : Still (Entry.result a : Run (Process H) Buffer) :=
  still_give _

theorem still_lend (key : Jwk) : Still (Resident.lend key : Run (Process H) View) := by
  unfold Resident.lend
  split
  · exact still_raise _
  · split
    · exact still_raise _
    · exact still_pure _

theorem encoding_unavailable (kind : Capability) :
    ∃ made, Buffer.encoding (DomainError.unavailable kind) = .ok made := by
  cases kind <;> exact ⟨_, Buffer.encoding_of_short rfl (by decide)⟩

namespace Library
variable (host : Host H)

/-- A call to an entry point, and what is made of what comes back. -/
def respond (lib : Library (Process H)) (entry : Run (Process H) (Reply β))
    (finish : β → Run (Process H) γ) : Run (Process H) (Except DomainError γ) := do
  match ← lib.callOrError entry with
  | .error e => return .error e
  | .ok answer => return .ok (← finish answer)

theorem quiet_library : host.library.core.Quiet := Core.quiet_resident

/-- What a call to an entry point of the process comes to. The state is what the body has left. -/
theorem enter_cases (placeholder : α) (body : Run (Process H) (Except DomainError α))
    (p : Process H) :
    (host.library.callOrError (Entry.enter placeholder body) p = .error .abort (left body p) ∧
      host.library.core.call (Entry.enter placeholder body) p = .error .abort (left body p)) ∨
    (∃ a q, body p = .ok (.ok a) q ∧
      host.library.callOrError (Entry.enter placeholder body) p = .ok (.ok a) q ∧
      host.library.core.call (Entry.enter placeholder body) p = .ok a q) ∨
    (∃ e q, body p = .ok (.error e) q ∧
      host.library.callOrError (Entry.enter placeholder body) p = .ok (.error e) q ∧
      host.library.core.call (Entry.enter placeholder body) p =
        .error (.fault .unexpectedError) q) ∨
    ∃ f g q, body p = .error (.fault f) q ∧
      host.library.callOrError (Entry.enter placeholder body) p = .error (.fault g) q ∧
      host.library.core.call (Entry.enter placeholder body) p = .error (.fault g) q := by
  have quiet := quiet_library host
  rcases ran : body p with ⟨e | a, q⟩ | ⟨f | _, q⟩
  · cases encoded : Buffer.encoding e with
    | ok made => exact .inr (.inr (.inl ⟨e, q, rfl, enter_error quiet placeholder ran encoded⟩))
    | error f =>
      rw [left_of_ok ran]
      exact .inl (enter_error_without ran encoded)
  · exact .inr (.inl ⟨a, q, rfl, enter_ok quiet placeholder ran⟩)
  · by_cases told : f.message = ""
    · have silent := Entry.faultPayload_of_silent told
      exact .inr (.inr (.inr ⟨f, _, q, rfl, enter_fault quiet placeholder ran silent⟩))
    · by_cases fits : (Bytes.ofText f.message).length ≤ maxRegion
      · exact .inr (.inr (.inr ⟨f, _, q, rfl, enter_panic quiet placeholder ran told fits⟩))
      · rw [left_of_error ran]
        exact .inl (enter_panic_without ran (Nat.lt_of_not_le fits))
  · rw [left_of_error ran]
    refine .inl (enter_abort ?_)
    rw [Entry.enter_eq, ran]

theorem lowerArgument_eq [Wire α] (faithful : Wire.Faithful α) {a : α} (crosses : Wire.Crosses a)
    (p : Process H) : ∃ buffer, host.library.lowerArgument a p = .ok buffer p ∧
      Wire.lift α buffer.content = .ok a := by
  obtain ⟨b, written, fits⟩ := crosses
  obtain ⟨view, viewed, content⟩ := View.ofBytes_of_le fits
  have written : (Wire.toValue a).lower = .ok b := written
  have lowered : host.library.lowerArgument a p = host.library.core.lowerBytes b p := by
    unfold lowerArgument Core.lower
    rw [written]
  rw [lowered]
  unfold Core.lowerBytes
  split
  next empty =>
    rw [List.isEmpty_iff.1 empty] at written
    exact ⟨.null, rfl, faithful.lift_of_lower written⟩
  next =>
    have room : view.bytes.length ≤ maxRegion := by
      rw [content]
      exact fits.trans (by decide)
    refine ⟨.region view.bytes room, ?_, ?_⟩
    · rw [viewed, ← Buffer.copyOf_of_le room]
      rfl
    · rw [Buffer.content, content]
      exact faithful.lift_of_lower written

theorem lowerArgument_of_not_crosses [Wire α] {a : α} (large : ¬ Wire.Crosses a)
    (p : Process H) :
    ∃ f, host.library.lowerArgument a p = .error (.fault f) p := by
  unfold lowerArgument Core.lower
  cases written : (Wire.toValue a).lower with
  | error e => exact ⟨_, rfl⟩
  | ok b =>
    have long : ¬ b.length ≤ maxLength := fun fits => large ⟨b, written, fits⟩
    dsimp only
    rw [Core.lowerBytes_of_lt (Nat.lt_of_not_le long)]
    exact ⟨_, rfl⟩

section
variable {placeholder : β} {body : Run (Process H) (Except DomainError β)} {p q : Process H}
  (finish : β → Run (Process H) γ)

theorem respond_ok {b : β} (done : body p = .ok (.ok b) q) :
    host.library.respond (Entry.enter placeholder body) finish p =
      (finish b >>= fun c => pure (.ok c) : Run (Process H) (Except DomainError γ)) q := by
  unfold respond
  rw [bind_eq, (enter_ok (quiet_library host) placeholder done).1]

theorem respond_error {e : DomainError} {made : Buffer} (refused : body p = .ok (.error e) q)
    (encoded : Buffer.encoding e = .ok made) :
    host.library.respond (Entry.enter placeholder body) finish p = .ok (.error e) q := by
  unfold respond
  rw [bind_eq, (enter_error (quiet_library host) placeholder refused encoded).1]
  rfl

theorem respond_fault {f : Fault} (failed : body p = .error (.fault f) q) (told : f.message ≠ "") :
    host.library.respond (Entry.enter placeholder body) finish p =
      .error (Stop.fault f).seen q := by
  unfold respond
  by_cases fits : (Bytes.ofText f.message).length ≤ maxRegion
  · have seen : (Stop.fault f).seen = .fault (.nativePanic f.message) := if_pos fits
    rw [bind_eq, (enter_panic (quiet_library host) placeholder failed told fits).1, seen]
    rfl
  · have seen : (Stop.fault f).seen = .abort := if_neg fits
    rw [bind_eq, (enter_panic_without failed (Nat.lt_of_not_le fits)).1, seen]

theorem respond_abort (ended : body p = .error .abort q) :
    host.library.respond (Entry.enter placeholder body) finish p = .error .abort q := by
  have entered : Entry.enter placeholder body p = .error .abort q := by
    rw [Entry.enter_eq, ended]
  unfold respond
  rw [bind_eq, (enter_abort entered).1]

theorem liftResult_eq [Wire α] (faithful : Wire.Faithful α) {a : α} {made : Buffer}
    (encoded : Buffer.encoding a = .ok made) (p : Process H) :
    host.library.liftResult α made p = .ok a p := by
  have lifted : host.library.core.lift (Wire.shape α) made p = .ok (Wire.toValue a) p := by
    unfold Core.lift
    rw [faithful.lift_of_encoding encoded]
    cases made <;> rfl
  unfold liftResult
  rw [bind_eq, lifted]
  dsimp only
  rw [faithful.ofValue_toValue]
  rfl

/-- An answer that was sent off is delivered. -/
theorem respond_answered [Wire α] (faithful : Wire.Faithful α) {kind : Capability}
    {tooLong : Fault → Stop}
    (told : ∀ (a : α) g f, Buffer.encoding a = .error g → tooLong g = .fault f → f.message ≠ "")
    {body : Run (Process H) (Except DomainError Buffer)}
    {answers : Run (Process H) (Except DomainError α)} {p : Process H}
    (same : body p = (answers >>= answered kind tooLong) p)
    (lastly : ∀ q stop, answers p = .error stop q → stop = .abort) :
    host.library.respond (Entry.enter .null body) (host.library.liftResult α) p =
      (answers >>= delivered kind fun f => (tooLong f).seen) p := by
  rw [bind_eq] at same ⊢
  rcases given : answers p with ⟨e | a, q⟩ | ⟨stop, q⟩
  · rw [given] at same
    obtain ⟨made, encoded⟩ := encoding_unavailable kind
    exact respond_error host _ same encoded
  · rw [given] at same
    dsimp only [answered, delivered] at same ⊢
    cases encoded : Buffer.encoding a with
    | ok made =>
      rw [encoded] at same
      rw [respond_ok host _ same, bind_eq, liftResult_eq host faithful encoded]
    | error g =>
      rw [encoded] at same
      change body p = .error (tooLong g) q at same
      dsimp only
      cases ends : tooLong g with
      | fault f =>
        rw [ends] at same
        exact respond_fault host _ same (told a g f encoded ends)
      | abort =>
        rw [ends] at same
        exact respond_abort host _ same
  · rw [given] at same
    cases lastly q stop given
    exact respond_abort host _ same

end

end Library

namespace Resident
variable (host : Host H)

def signBody (address : Nat) (payload : Buffer) : Run (Process H) (Except DomainError Buffer) := do
  let signer ← signerAt address
  match ← sign host (← Entry.argument Bytes payload) signer with
  | .error e => return .error e
  | .ok signature => return .ok (← Entry.result signature)

def importBody (address : Nat) (key : Buffer) : Run (Process H) (Except DomainError Buffer) := do
  let manager ← keyManagerAt address
  match ← importKey host address (← Entry.argument Jwk key) manager with
  | .error e => return .error e
  | .ok shown => return .ok (← Entry.result shown)

def signerBody (address : Nat) (key : Buffer) : Run (Process H) (Except DomainError Nat) := do
  let manager ← keyManagerAt address
  match ← signerFor host (← Entry.argument Jwk key) manager with
  | .error e => return .error e
  | .ok signer => return .ok (← add (.signer signer))

theorem sign_eq_enter (address : Nat) (payload : Buffer) :
    host.library.signer.sign address payload =
      Entry.enter .null (signBody host address payload) := rfl

theorem importKey_eq_enter (address : Nat) (key : Buffer) :
    host.library.keyManager.importKey address key =
      Entry.enter .null (importBody host address key) := rfl

theorem signerFor_eq_enter (address : Nat) (key : Buffer) :
    host.library.keyManager.signerFor address key =
      Entry.enter 0 (signerBody host address key) := rfl

section
variable {address : Nat} {n : Int} {p q : Process H} {buffer : Buffer} {payload : Bytes}

theorem signerAt_eq {signer : ResidentSigner}
    (object : p.objects.get? address = some (.signer signer)) :
    signerAt address p = .ok signer p := by
  unfold signerAt
  rw [bind_get, object]
  rfl

theorem keyManagerAt_eq {manager : ResidentKeyManager}
    (object : p.objects.get? address = some (.keyManager manager)) :
    keyManagerAt address p = .ok manager p := by
  unfold keyManagerAt
  rw [bind_get, object]
  rfl

theorem argument_eq [Wire α] {a : α} (readable : Wire.lift α buffer.content = .ok a)
    (p : Process H) : Entry.argument α buffer p = .ok a p := by
  unfold Entry.argument
  rw [readable]
  rfl

theorem signBody_eq (object : p.objects.get? address = some (.foreign .signer n))
    (readable : Wire.lift Bytes buffer.content = .ok payload) :
    signBody host address buffer p =
      match host.exportedSign n (some payload) true p with
      | .ok outcome q =>
        match outcome.signature with
        | none => .ok (.error (.unavailable .signer)) q
        | some signature =>
          match Buffer.encoding signature with
          | .ok made => .ok (.ok made) q
          | .error f => .error (.fault f) q
      | .error stop q => .error stop q := by
  unfold signBody
  rw [bind_eq, signerAt_eq object]
  dsimp only
  rw [bind_eq, argument_eq readable]
  dsimp only [sign, foreignSign]
  rw [bind_eq, bind_eq]
  rcases host.exportedSign n (some payload) true p with ⟨⟨_ | signature, length⟩, q⟩ | ⟨stop, q⟩
  · rfl
  · dsimp only [pure, EStateM.pure]
    unfold Entry.result
    rw [bind_eq]
    cases Buffer.encoding signature <;> rfl
  · rfl

theorem signBody_of_registered {ref : CallbackRef}
    (object : p.objects.get? address = some (.foreign .signer n))
    (registered : Registered .signer n ref p)
    (readable : Wire.lift Bytes buffer.content = .ok payload) :
    signBody host address buffer p =
      (host.lent ref (host.sign ref payload) >>= answered .signer .fault) p := by
  rw [signBody_eq host object readable, host.exportedSign_of_registered registered]
  rw [bind_eq, bind_eq]
  rcases host.lent ref (host.sign ref payload) p with ⟨e | signature, q⟩ | ⟨stop, q⟩
  · rfl
  · dsimp only [answered, Except.toOption, SignOutcome.ofSignature, pure, EStateM.pure]
    cases Buffer.encoding signature <;> rfl
  · rfl

theorem signBody_of_unregistered (object : p.objects.get? address = some (.foreign .signer n))
    (unregistered : Unregistered .signer n p)
    (readable : Wire.lift Bytes buffer.content = .ok payload) :
    signBody host address buffer p = .ok (.error (.unavailable .signer)) p := by
  rw [signBody_eq host object readable, host.exportedSign_of_unregistered unregistered]
  rfl

variable {key : Jwk}

theorem lend_eq (crosses : Wire.Crosses key) (p : Process H) :
    ∃ view, lend key p = .ok view p ∧ Wire.lift Jwk view.bytes = .ok key := by
  obtain ⟨b, written, fits⟩ := crosses
  obtain ⟨view, viewed, content⟩ := View.ofBytes_of_le fits
  refine ⟨view, ?_, ?_⟩
  · unfold lend
    rw [written]
    dsimp only
    rw [viewed]
    rfl
  · rw [content]
    exact Wire.faithful_jwk.lift_of_lower written

theorem importBody_eq (object : p.objects.get? address = some (.foreign .keyManager n))
    (readable : Wire.lift Jwk buffer.content = .ok key) {view : View}
    (lent : lend key p = .ok view p) :
    importBody host address buffer p =
      (host.exportedImport n view >>= fun answer =>
        if answer.isNull then return .error (.unavailable .keyManager)
        else
          match Wire.lift Jwk answer.content with
          | .ok shown => do return .ok (← Entry.result shown)
          | .error e => return .error (.host "InvalidResult" e.message) :
        Run (Process H) (Except DomainError Buffer)) p := by
  unfold importBody
  rw [bind_eq, keyManagerAt_eq object]
  dsimp only
  rw [bind_eq, argument_eq readable]
  dsimp only [importKey, foreignImport]
  rw [bind_eq, bind_eq, lent]
  dsimp only
  rw [bind_eq, bind_eq]
  rcases host.exportedImport n view p with ⟨answer, q⟩ | ⟨stop, q⟩
  · cases answer with
    | null => rfl
    | region b fits =>
      dsimp only [Buffer.isNull, Buffer.content]
      cases Wire.lift Jwk b <;> rfl
  · rfl

theorem importBody_of_registered {ref : CallbackRef}
    (object : p.objects.get? address = some (.foreign .keyManager n))
    (registered : Registered .keyManager n ref p)
    (readable : Wire.lift Jwk buffer.content = .ok key) (crosses : Wire.Crosses key) :
    importBody host address buffer p =
      (host.lent ref (host.importKey ref key) >>= answered .keyManager fun _ => .abort) p := by
  obtain ⟨view, lent, visible⟩ := lend_eq crosses p
  rw [importBody_eq host object readable lent, bind_eq, bind_eq,
    host.exportedImport_of_registered registered visible, bind_eq]
  rcases host.lent ref (host.importKey ref key) p with ⟨e | shown, q⟩ | ⟨stop, q⟩
  · rfl
  · dsimp only [answered, Except.toOption, Host.keyBuffer]
    cases encoded : Buffer.encoding shown with
    | ok made =>
      obtain ⟨_, same, written⟩ := Buffer.lower_of_encoding encoded
      have full : ¬ made.isNull = true := by
        rw [same]
        exact Bool.false_ne_true
      dsimp only [pure, EStateM.pure]
      rw [if_neg full, Wire.faithful_jwk.lift_of_lower written]
      dsimp only [Entry.result]
      rw [encoded]
      rfl
    | error f => rfl
  · rfl

theorem importBody_of_unregistered
    (object : p.objects.get? address = some (.foreign .keyManager n))
    (unregistered : Unregistered .keyManager n p)
    (readable : Wire.lift Jwk buffer.content = .ok key) (crosses : Wire.Crosses key) :
    importBody host address buffer p = .ok (.error (.unavailable .keyManager)) p := by
  obtain ⟨view, lent, visible⟩ := lend_eq crosses p
  rw [importBody_eq host object readable lent, bind_eq,
    host.exportedImport_of_unregistered unregistered visible]
  rfl

theorem signerBody_eq (object : p.objects.get? address = some (.foreign .keyManager n))
    (readable : Wire.lift Jwk buffer.content = .ok key) {view : View}
    (lent : lend key p = .ok view p) :
    signerBody host address buffer p =
      (host.exportedSignerFor n view >>= fun
        | none => return .error (.unavailable .keyManager)
        | some id => do return .ok (← add (.foreign .signer id)) :
        Run (Process H) (Except DomainError Nat)) p := by
  unfold signerBody
  rw [bind_eq, keyManagerAt_eq object]
  dsimp only
  rw [bind_eq, argument_eq readable]
  dsimp only [signerFor, foreignSignerFor]
  rw [bind_eq, bind_eq, lent]
  dsimp only
  rw [bind_eq, bind_eq]
  rcases host.exportedSignerFor n view p with ⟨_ | id, q⟩ | ⟨stop, q⟩ <;> rfl

theorem signerBody_of_unregistered
    (object : p.objects.get? address = some (.foreign .keyManager n))
    (unregistered : Unregistered .keyManager n p)
    (readable : Wire.lift Jwk buffer.content = .ok key) (crosses : Wire.Crosses key) :
    signerBody host address buffer p = .ok (.error (.unavailable .keyManager)) p := by
  obtain ⟨view, lent, visible⟩ := lend_eq crosses p
  rw [signerBody_eq host object readable lent, bind_eq,
    host.exportedSignerFor_of_unregistered unregistered visible]
  rfl

end
end Resident
end Boundary
