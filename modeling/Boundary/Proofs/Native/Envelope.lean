import Boundary.Bridge.Resident
import Boundary.Bridge.Wrapper
import Boundary.Proofs.Native.Trail
import Boundary.Proofs.Text.ByteLength
import Boundary.Proofs.Wire.Typed
/-!
Both sides of a call: what the body of an entry point comes to, the entry point puts into a status
and a payload, and the caller takes it out of them again. The caller gives back the payload, once,
and never looks at the value of an entry point that has failed. Where there is no buffer for the
payload, the process ends.
-/
namespace Boundary

theorem Wire.Faithful.lift_of_encoding [Wire α] (faithful : Wire.Faithful α) {a : α} {made : Buffer}
    (encoded : Buffer.encoding a = .ok made) :
    (Wire.shape α).lift made.content = .ok (Wire.toValue a) := by
  obtain ⟨-, -, written⟩ := Buffer.lower_of_encoding encoded
  exact faithful.lift_eq written

theorem View.ofBytes_of_le {b : Bytes} (fits : b.length ≤ maxLength) :
    ∃ view, View.ofBytes b = .ok view ∧ view.bytes = b := by
  refine ⟨⟨b.length, some b⟩, ?_, ?_⟩
  · unfold View.ofBytes View.length?
    rw [if_pos fits]
    rfl
  · simp [View.bytes]

theorem View.ofBytes_of_lt {b : Bytes} (long : maxLength < b.length) :
    View.ofBytes b = .error (.bufferTooLarge b.length) := by
  unfold View.ofBytes View.length?
  rw [if_neg (Nat.not_le_of_lt long)]
  rfl

namespace Core
open Run
variable {σ α : Type} {core : Core σ}

theorem lowerBytes_of_lt {bytes : Bytes} (long : maxLength < bytes.length) (p : σ) :
    core.lowerBytes bytes p = .error (.fault (.bufferTooLarge bytes.length)) p := by
  have some : ¬ bytes.isEmpty = true := by
    rw [List.isEmpty_iff]
    rintro rfl
    cases long
  unfold lowerBytes
  rw [if_neg some, View.ofBytes_of_lt long]
  rfl

/-- Buffers go back, and bring nothing up. -/
def Quiet (core : Core σ) : Prop := ∀ b s, (core.reclaim b s).1 = Status.initial

/-- The state after the payload has gone back. -/
def settled (core : Core σ) (status : Status) (s : σ) : σ :=
  match status.due with
  | none => s
  | some b => (core.reclaim b s).2

theorem Quiet.exists_trail (quiet : Quiet core) (status : Status) (s : σ) :
    ∃ trail, Trail core status s trail (core.settled status s) ∧
      ∀ reported ∈ trail.map (·.2), reported.code = 0 := by
  unfold settled
  cases due : status.due with
  | none => exact ⟨[], .done due, nofun⟩
  | some b =>
    have silent := quiet b s
    have last : Trail core (core.reclaim b s).1 (core.reclaim b s).2 [] (core.reclaim b s).2 := by
      rw [silent]
      exact .done rfl
    refine ⟨_, .next due last, ?_⟩
    rw [silent]
    simp [Status.initial]

theorem Quiet.call_eq (quiet : Quiet core) {entry : Run σ (Reply α)} {before started : σ}
    {reply : Reply α} (reported : entry before = .ok reply started) :
    core.call entry before =
      ending (reply.plain.mapError .fault) (core.settled reply.status started) := by
  obtain ⟨trail, along, fine⟩ := quiet.exists_trail reply.status started
  rw [call_of_trail reported along, conclude_of_all_success fine]

theorem Quiet.callOr_eq (quiet : Quiet core) (s : Shape) {entry : Run σ (Reply α)}
    {before started : σ} {reply : Reply α} (reported : entry before = .ok reply started) :
    core.callOr s entry before =
      ending ((reply.declared s).mapError .fault) (core.settled reply.status started) := by
  obtain ⟨trail, along, fine⟩ := quiet.exists_trail reply.status started
  rw [callOr_of_trail s reported along, conclude_of_all_success fine]

theorem quiet_resident : Quiet (resident : Core σ) := fun _ _ => rfl

end Core

namespace Entry
variable {σ α : Type}

theorem enter_eq (placeholder : α) (body : Run σ (Except DomainError α)) (s : σ) :
    enter placeholder body s = match body s with
      | .ok (.ok a) t => .ok (.success a) t
      | .ok (.error e) t =>
        match Buffer.encoding e with
        | .ok b => .ok ⟨Status.initial.setError b, placeholder⟩ t
        | .error _ => .error .abort t
      | .error (.fault f) t =>
        match faultPayload f with
        | .ok b => .ok ⟨Status.initial.setPanic b, placeholder⟩ t
        | .error _ => .error .abort t
      | .error .abort t => .error .abort t := by
  unfold enter
  rw [Run.bind_eq]
  unfold Run.attempt
  rcases body s with ⟨e | a, t⟩ | ⟨f | _, t⟩
  · dsimp only
    cases Buffer.encoding e <;> rfl
  · rfl
  · dsimp only
    cases faultPayload f <;> rfl
  · rfl

theorem faultPayload_of_silent {f : Fault} (silent : f.message = "") :
    faultPayload f = .ok .null := by
  unfold faultPayload
  rw [silent]
  rfl

theorem ofText_ne_nil {text : String} (some : text ≠ "") : Bytes.ofText text ≠ [] := by
  intro none
  have read := Bytes.toText?_ofText text
  rw [none] at read
  cases read
  exact some rfl

theorem faultPayload_of_text {f : Fault} (told : f.message ≠ "") :
    faultPayload f = Buffer.ofBytes (Bytes.ofText f.message) := by
  unfold faultPayload Buffer.ofContent
  rw [if_neg]
  simpa using ofText_ne_nil told

theorem plain_of_text {text : String} (told : text ≠ "")
    (fits : (Bytes.ofText text).length ≤ maxRegion) (placeholder : α) :
    (Reply.mk (Status.initial.setPanic (.region (Bytes.ofText text) fits)) placeholder).plain =
      .error (.nativePanic text) := by
  have read : Core.textOf (.region (Bytes.ofText text) fits) = .ok text :=
    Wire.faithful_text.lift_of_lower rfl
  have fault : (Status.initial.setPanic (.region (Bytes.ofText text) fits)).fault? =
      some (.nativePanic text) := by
    have some := ofText_ne_nil told
    simp [Status.fault?, Status.code?, StatusCode.ofRaw?, Status.setPanic, Buffer.isEmpty,
      Buffer.content, some, read]
  unfold Reply.plain
  rw [fault]

/-- With errors of its own, a call comes to the same, unless the status is an error. -/
theorem declared_eq_plain (s : Shape) {reply : Reply α} (other : reply.status.code ≠ 1) :
    reply.declared s = reply.plain.map .ok := if_neg other

theorem declared_error {e : DomainError} {made : Buffer} (encoded : Buffer.encoding e = .ok made)
    (placeholder : α) :
    (Reply.mk (Status.initial.setError made) placeholder).declared (Wire.shape DomainError) =
      .ok (.error (Wire.toValue e)) := by
  have error : (Status.initial.setError made).code? = some .error := rfl
  rw [Core.declared_of_error _ error]
  have read : Core.lifted (Wire.shape DomainError) made = .ok (Wire.toValue e) := by
    unfold Core.lifted
    rw [Wire.faithful_domainError.lift_of_encoding encoded]
    rfl
  exact congrArg (Except.map Except.error) read

theorem lower_of_short {e : DomainError}
    (short : ∀ text ∈ [e.type, e.variant, e.msg], (Bytes.ofText text).length ≤ maxLength) :
    ∃ b, Wire.lower e = .ok b := by
  have portable : (Wire.toValue e).Portable := by
    refine (Value.portable_cases _).2 ?_
    have each : ∀ v ∈ [e.type, e.variant, e.msg].map Value.text, v.Portable := by
      intro v mem
      obtain ⟨text, listed, rfl⟩ := List.mem_map.1 mem
      exact (Value.portable_cases _).2 (short text listed)
    exact each
  obtain ⟨b, written, -⟩ := Shape.lift_lower (Wire.faithful_domainError.formed 0 0)
    (Wire.faithful_domainError.holds [] e) portable
  exact ⟨b, written⟩

theorem length_of_lower {e : DomainError} {b : Bytes} (written : Wire.lower e = .ok b) :
    b.length = (Bytes.ofText e.type).length + (Bytes.ofText e.variant).length +
      (Bytes.ofText e.msg).length + 16 := by
  have plain : (Wire.toValue e).write = .ok b := written
  rw [Value.write_of_fits (Value.fits_of_write plain)] at plain
  cases plain
  simp only [Wire.toValue, Value.encode, Value.encodeAll, tagBytes, lengthPrefix,
    List.length_append, Bytes.length_ofNat, Bytes.length_ofInt, List.length_nil]
  omega

end Entry

namespace Library
open Run
variable {H α : Type} {lib : Library (Process H)}

theorem callOrError_eq (quiet : lib.core.Quiet) {entry : Run (Process H) (Reply α)}
    {before started : Process H} {reply : Reply α} (reported : entry before = .ok reply started) :
    lib.callOrError entry before =
      ending (((reply.declared (Wire.shape DomainError)).mapError .fault).map
        (·.mapError Wire.ofValue)) (lib.core.settled reply.status started) :=
  map_of_ending (quiet.callOr_eq _ reported) _

/-- A body that succeeds: nothing has to go back. -/
theorem enter_ok (quiet : lib.core.Quiet) (placeholder : α)
    {body : Run (Process H) (Except DomainError α)} {p q : Process H} {a : α}
    (done : body p = .ok (.ok a) q) :
    lib.callOrError (Entry.enter placeholder body) p = .ok (.ok a) q ∧
      lib.core.call (Entry.enter placeholder body) p = .ok a q := by
  have reported : Entry.enter placeholder body p = .ok (.success a) q := by
    rw [Entry.enter_eq, done]
  exact ⟨callOrError_eq quiet reported, quiet.call_eq reported⟩

theorem enter_error (quiet : lib.core.Quiet) (placeholder : α)
    {body : Run (Process H) (Except DomainError α)} {p q : Process H} {e : DomainError}
    {made : Buffer} (refused : body p = .ok (.error e) q) (encoded : Buffer.encoding e = .ok made) :
    lib.callOrError (Entry.enter placeholder body) p =
        .ok (.error e) (lib.core.reclaim made q).2 ∧
      lib.core.call (Entry.enter placeholder body) p =
        .error (.fault .unexpectedError) (lib.core.reclaim made q).2 := by
  have reported : Entry.enter placeholder body p =
      .ok ⟨Status.initial.setError made, placeholder⟩ q := by
    rw [Entry.enter_eq, refused]
    dsimp only
    rw [encoded]
  have settled : lib.core.settled (Status.initial.setError made) q =
      (lib.core.reclaim made q).2 := by
    obtain ⟨_, same, -⟩ := Buffer.lower_of_encoding encoded
    rw [same]
    rfl
  rw [callOrError_eq quiet reported, quiet.call_eq reported, Entry.declared_error encoded, settled]
  exact ⟨rfl, rfl⟩

/-- An entry point that ends the process. -/
theorem enter_abort {entry : Run (Process H) (Reply α)} {p q : Process H}
    (ended : entry p = .error .abort q) :
    lib.callOrError entry p = .error .abort q ∧ lib.core.call entry p = .error .abort q := by
  constructor
  · unfold callOrError Core.callOr
    rw [bind_eq, bind_eq, ended]
  · unfold Core.call
    rw [bind_eq, ended]

/-- An error that there is no buffer for. -/
theorem enter_error_without {placeholder : α} {body : Run (Process H) (Except DomainError α)}
    {p q : Process H} {e : DomainError} {f : Fault} (refused : body p = .ok (.error e) q)
    (large : Buffer.encoding e = .error f) :
    lib.callOrError (Entry.enter placeholder body) p = .error .abort q ∧
      lib.core.call (Entry.enter placeholder body) p = .error .abort q := by
  refine enter_abort ?_
  rw [Entry.enter_eq, refused]
  dsimp only
  rw [large]

/-- A fault, which has a text to be told by or not. -/
theorem enter_fault (quiet : lib.core.Quiet) (placeholder : α)
    {body : Run (Process H) (Except DomainError α)} {p q : Process H} {f : Fault} {made : Buffer}
    (failed : body p = .error (.fault f) q) (encoded : Entry.faultPayload f = .ok made) :
    let reply : Reply α := ⟨Status.initial.setPanic made, placeholder⟩
    lib.callOrError (Entry.enter placeholder body) p =
        ending ((reply.plain.mapError .fault).map .ok) (lib.core.settled reply.status q) ∧
      lib.core.call (Entry.enter placeholder body) p =
        ending (reply.plain.mapError .fault) (lib.core.settled reply.status q) := by
  intro reply
  have reported : Entry.enter placeholder body p = .ok reply q := by
    rw [Entry.enter_eq, failed]
    dsimp only
    rw [encoded]
  refine ⟨?_, quiet.call_eq reported⟩
  rw [callOrError_eq quiet reported, Entry.declared_eq_plain]
  · cases reply.plain <;> rfl
  · change (2 : Int) ≠ 1
    decide

theorem enter_panic (quiet : lib.core.Quiet) (placeholder : α)
    {body : Run (Process H) (Except DomainError α)} {p q : Process H} {f : Fault}
    (failed : body p = .error (.fault f) q) (told : f.message ≠ "")
    (fits : (Bytes.ofText f.message).length ≤ maxRegion) :
    let after := (lib.core.reclaim (.region (Bytes.ofText f.message) fits) q).2
    lib.callOrError (Entry.enter placeholder body) p =
        .error (.fault (.nativePanic f.message)) after ∧
      lib.core.call (Entry.enter placeholder body) p =
        .error (.fault (.nativePanic f.message)) after := by
  have encoded : Entry.faultPayload f = .ok (.region (Bytes.ofText f.message) fits) := by
    rw [Entry.faultPayload_of_text told, Buffer.ofBytes_of_le fits]
  have both := enter_fault quiet placeholder failed encoded
  dsimp only at both
  rw [Entry.plain_of_text told] at both
  exact both

/-- A text that there is no buffer for. -/
theorem enter_panic_without {placeholder : α} {body : Run (Process H) (Except DomainError α)}
    {p q : Process H} {f : Fault} (failed : body p = .error (.fault f) q)
    (long : maxRegion < (Bytes.ofText f.message).length) :
    lib.callOrError (Entry.enter placeholder body) p = .error .abort q ∧
      lib.core.call (Entry.enter placeholder body) p = .error .abort q := by
  have told : f.message ≠ "" := by
    intro silent
    rw [silent] at long
    cases long
  refine enter_abort ?_
  rw [Entry.enter_eq, failed]
  dsimp only
  rw [Entry.faultPayload_of_text told, Buffer.ofBytes_of_lt long]

/-- What a body comes to arrives at the caller as it is, be it a value, an error or what was said in
a panic. A payload goes back once, and the placeholder is never looked at. The process ends if there
is no buffer for the room that the encoding of the error or the text of the panic takes. -/
theorem envelope_agrees (quiet : lib.core.Quiet) (placeholder : α)
    (body : Run (Process H) (Except DomainError α)) (p q : Process H) :
    let entry := Entry.enter placeholder body
    (∀ a, body p = .ok (.ok a) q →
      lib.callOrError entry p = .ok (.ok a) q ∧ lib.core.call entry p = .ok a q) ∧
    (∀ e, body p = .ok (.error e) q →
      (∀ text ∈ [e.type, e.variant, e.msg], (Bytes.ofText text).length ≤ maxLength) →
      ∃ payload, Wire.lower e = .ok payload ∧ payload.length ≤ Wire.room e ∧
        Wire.room e ≤ max 8 (2 * payload.length) ∧
        (∀ fits : payload.length ≤ maxRegion, Wire.room e ≤ maxRegion →
          lib.callOrError entry p = .ok (.error e) (lib.core.reclaim (.region payload fits) q).2 ∧
          lib.core.call entry p =
            .error (.fault .unexpectedError) (lib.core.reclaim (.region payload fits) q).2) ∧
        (maxRegion < Wire.room e →
          lib.callOrError entry p = .error .abort q ∧ lib.core.call entry p = .error .abort q)) ∧
    (∀ f, body p = .error (.fault f) q → f.message ≠ "" →
      let payload := Bytes.ofText f.message
      let stop := Stop.fault (.nativePanic f.message)
      (∀ fits : payload.length ≤ maxRegion,
        lib.callOrError entry p = .error stop (lib.core.reclaim (.region payload fits) q).2 ∧
        lib.core.call entry p = .error stop (lib.core.reclaim (.region payload fits) q).2) ∧
      (maxRegion < payload.length →
        lib.callOrError entry p = .error .abort q ∧ lib.core.call entry p = .error .abort q)) ∧
    ∀ f, body p = .error (.fault f) q → f.message = "" →
      lib.callOrError entry p = .error (.fault .panicWhilePanicking) q ∧
        lib.core.call entry p = .error (.fault .panicWhilePanicking) q := by
  refine ⟨fun a done => enter_ok quiet placeholder done, ?_, ?_, ?_⟩
  · intro e refused short
    obtain ⟨payload, written⟩ := Entry.lower_of_short short
    obtain ⟨least, most⟩ := Value.room_bounds written
    refine ⟨payload, written, least, most, fun fits room => ?_, fun large => ?_⟩
    · exact enter_error quiet placeholder refused (Buffer.encoding_of_le written fits room)
    · exact enter_error_without refused (Buffer.encoding_of_lt written large)
  · intro f failed told
    exact ⟨enter_panic quiet placeholder failed told, enter_panic_without failed⟩
  · intro f failed silent
    exact enter_fault quiet placeholder failed (Entry.faultPayload_of_silent silent)

/-- A library whose core notes what comes back. -/
def noting : Library (Process (List Buffer)) :=
  let host : Host (List Buffer) :=
    ⟨fun _ payload => return .ok payload, fun _ key => return .ok key, fun ref _ => return .ok ref,
      fun _ => return ()⟩
  { host.library with
    core := { Core.resident with
      reclaim := fun b p => (Status.initial, { p with host := p.host ++ [b] })
      backlog_reclaim := fun _ _ carried => absurd rfl carried } }

theorem envelope_agrees_noting :
    let gone : DomainError := .host "Unavailable" "gone"
    let call (body : Run (Process (List Buffer)) (Except DomainError Nat)) :=
      noting.callOrError (Entry.enter 0 body) (.start [])
    let after (returned : List Buffer) : Process (List Buffer) := .start returned
    call (return .ok 7) = .ok (.ok 7) (after []) ∧
      (∃ payload fits, Wire.lower gone = .ok payload ∧
        call (return .error gone) = .ok (.error gone) (after [.region payload fits])) ∧
      call (raise (.panicked "lost")) =
        .error (.fault (.nativePanic "lost")) (after [.region (Bytes.ofText "lost")]) ∧
      call (raise .panickedWithoutText) = .error (.fault .panicWhilePanicking) (after []) := by
  intro gone call after
  have quiet : noting.core.Quiet := fun _ _ => rfl
  have agrees (body : Run (Process (List Buffer)) (Except DomainError Nat)) :=
    envelope_agrees quiet 0 body (.start []) (.start [])
  obtain ⟨succeeds, -⟩ := agrees (return .ok 7)
  obtain ⟨-, refuses, -⟩ := agrees (return .error gone)
  obtain ⟨-, -, panics, -⟩ := agrees (raise (.panicked "lost"))
  obtain ⟨-, -, -, mute⟩ := agrees (raise .panickedWithoutText)
  obtain ⟨payload, written, -, -, arrives, -⟩ := refuses gone rfl (by decide)
  have fits : payload.length ≤ maxRegion := by
    cases written
    decide
  exact ⟨(succeeds 7 rfl).1, ⟨payload, fits, written, (arrives fits (by decide)).1⟩,
    ((panics _ rfl (by decide)).1 (by decide)).1, (mute _ rfl rfl).1⟩

/-- Each text of the error has a length that can be written down, but the three of them together are
too long for a buffer. -/
theorem long_error_ends_process :
    let text := String.ofList (List.replicate 2147483647 'a')
    let e : DomainError := ⟨text, text, text⟩
    (∀ text ∈ [e.type, e.variant, e.msg], (Bytes.ofText text).length ≤ maxLength) ∧
      noting.callOrError (Entry.enter 0 (return .error e)) (.start []) =
        .error .abort (.start []) ∧
      noting.core.call (Entry.enter 0 (return .error e)) (.start []) =
        .error .abort (.start []) := by
  intro text e
  have length : (Bytes.ofText text).length = 2147483647 :=
    Bytes.length_ofText_replicate _ (by decide)
  have short : ∀ text ∈ [e.type, e.variant, e.msg], (Bytes.ofText text).length ≤ maxLength := by
    simp [e, length, maxLength]
  obtain ⟨payload, written⟩ := Entry.lower_of_short short
  have long : maxRegion < payload.length := by
    rw [Entry.length_of_lower written, length]
    decide
  have large : maxRegion < Wire.room e := Nat.lt_of_lt_of_le long (Value.room_bounds written).1
  exact ⟨short, enter_error_without rfl (Buffer.encoding_of_lt written large)⟩

end Library
end Boundary
