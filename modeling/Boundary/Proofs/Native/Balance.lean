import Boundary.Keyed
import Boundary.Proofs.Native.Trail
import Mathlib.Data.List.Perm.Basic
/-!
Where the buffers are. The host makes buffers, hands them on, reads them, calls entry points and
gives buffers back, in any order; the account notes each buffer that comes to it and each that it
gives back. As long as the core takes back what it is given and no status code is unknown, the two
sides of the account differ by what the host still holds, after every step.

A program conserves buffers if it passes on all that it has in hand: to the core, to the account, or
to what comes after it. A fault leaves nothing in hand.
-/
namespace Boundary

/-- The buffer, unless it is null and needs no giving back. -/
def Buffer.counted (b : Buffer) : List Buffer := if b.isNull then [] else [b]

@[simp] theorem Buffer.counted_null : Buffer.null.counted = [] := rfl

/-- What a host has, and what has gone to and fro; `world` is the state of the core. -/
structure Account (ω : Type) where
  world : ω
  obtained : List Buffer
  returned : List Buffer
  /-- Each goes back when its owner is dropped. -/
  owned : List Buffer
  bare : List Buffer

namespace Account
open Run Boundary.Core
variable {ω α β : Type}

def opened (world : ω) : Account ω := ⟨world, [], [], [], []⟩

def held (a : Account ω) : List Buffer := (a.owned ++ a.bare).flatMap Buffer.counted

def note (world : ω) (gained spent : List Buffer) (a : Account ω) : Account ω :=
  { a with world, obtained := a.obtained ++ gained, returned := a.returned ++ spent }

/-- Nothing is missing and nothing is there twice, where `pending` is in nobody's hands yet. -/
def Balanced (pending : List Buffer) (a : Account ω) : Prop :=
  a.obtained.Perm (a.returned ++ (pending ++ a.held))

/-- An entry point, whose payload is noted. -/
def entered (entry : ω → Reply α × ω) : Account ω → Reply α × Account ω := fun a =>
  let (reply, world) := entry a.world
  (reply, a.note world reply.status.payload.counted [])

/-- The core, with notes of the buffers that come from it and go to it. -/
def watched (core : Core ω) : Core (Account ω) where
  space := core.space
  allocate bytes a :=
    let (reply, world) := core.allocate bytes a.world
    (reply, a.note world (reply.status.payload.counted ++ reply.value.counted) [])
  reclaim b a :=
    let (status, world) := core.reclaim b a.world
    (status, a.note world status.payload.counted b.counted)
  version := entered core.version
  checksums := core.checksums.map fun (name, entry) => (name, entered entry)
  backlog a := core.backlog a.world
  backlog_reclaim b a := core.backlog_reclaim b a.world

inductive Step (ω α : Type) where
  | lower (v : Value)
  | lowerBytes (bytes : Bytes)
  /-- Makes an owner for a bare buffer. -/
  | wrap (i : Nat)
  | intoBare (i : Nat)
  | drop (i : Nat)
  | fromBytes (bytes : Bytes)
  | lift (i : Nat) (s : Shape)
  | free (i : Nat)
  | freeNull
  | call (entry : ω → Reply α × ω)
  | callOr (s : Shape) (entry : ω → Reply α × ω)
  | version
  | checksum (name : String)
  | verify (contract : Contract)

def keep (b : Buffer) : Run (Account ω) Unit := modify fun a => { a with owned := a.owned ++ [b] }

def keepBare (b : Buffer) : Run (Account ω) Unit := modify fun a => { a with bare := a.bare ++ [b] }

/-- Does nothing if there are not so many. -/
def takeOwned (i : Nat) (use : Buffer → Run (Account ω) Unit) : Run (Account ω) Unit := fun a =>
  match a.owned[i]? with
  | some b => use b { a with owned := a.owned.eraseIdx i }
  | none => .ok () a

def takeBare (i : Nat) (use : Buffer → Run (Account ω) Unit) : Run (Account ω) Unit := fun a =>
  match a.bare[i]? with
  | some b => use b { a with bare := a.bare.eraseIdx i }
  | none => .ok () a

def perform (core : Core ω) : Step ω α → Run (Account ω) Unit
  | .lower v => do keep (← (watched core).lower v)
  | .lowerBytes bytes => do keep (← (watched core).lowerBytes bytes)
  | .wrap i => takeBare i keep
  | .intoBare i => takeOwned i keepBare
  | .drop i => takeOwned i (watched core).release
  | .fromBytes bytes => do
    let made ← give (Buffer.ofBytes bytes)
    modify fun a => a.note a.world made.counted []
    keepBare made
  | .lift i s => takeBare i fun b => do let _ ← (watched core).lift s b
  | .free i => takeBare i (watched core).freeBuffer
  | .freeNull => (watched core).freeBuffer .null
  | .call entry => do let _ ← (watched core).call (Run.change (entered entry))
  | .callOr s entry => do let _ ← (watched core).callOr s (Run.change (entered entry))
  | .version => do let _ ← (watched core).contractVersion
  | .checksum name => do let _ ← (watched core).checksum name
  | .verify contract => (watched core).verify contract

/-- The steps one after the other, also after a fault. -/
def after (core : Core ω) (steps : List (Step ω α)) (a : Account ω) : Account ω :=
  steps.foldl (fun a step => left (perform core step) a) a

/-- Whatever its state, the entry point reports one of the codes of the envelope. -/
def Known (entry : ω → Reply α × ω) : Prop := ∀ world, (entry world).1.status.code? ≠ none

/-- What the core promises about buffers and codes. -/
structure Lawful (core : Core ω) : Prop where
  taken_back : ∀ b world, (core.reclaim b world).1.code = 0
  null_on_failure : ∀ bytes world, (core.allocate bytes world).1.status.code ≠ 0 →
    (core.allocate bytes world).1.value = .null
  allocate_known : ∀ bytes, Known (core.allocate bytes)
  version_known : Known core.version
  checksum_known : ∀ e ∈ core.checksums, Known e.2

namespace Step

/-- The entry points that the host calls itself report known codes. -/
def Known : Step ω α → Prop
  | .call entry => Account.Known entry
  | .callOr _ entry => Account.Known entry
  | _ => True

end Step

/-! ### The account -/

section
variable {pending rest gained spent : List Buffer} {a : Account ω} {b : Buffer} {i : Nat}

theorem balanced_note (balanced : Balanced (spent ++ rest) a) (world : ω) :
    Balanced (gained ++ rest) (a.note world gained spent) := by
  refine List.perm_iff_count.2 fun x => ?_
  have before := balanced.count_eq x
  simp only [note, held, List.count_append] at before ⊢
  omega

theorem balanced_gained (balanced : Balanced pending a) (world : ω) :
    Balanced (gained ++ pending) (a.note world gained []) :=
  balanced_note (show Balanced ([] ++ pending) a from balanced) world

/-- Buffers go from hand to hand. -/
theorem Balanced.moved {owned bare : List Buffer} (balanced : Balanced pending a)
    (moved : ∀ x, pending.count x + a.held.count x =
      rest.count x + ((owned ++ bare).flatMap Buffer.counted).count x) :
    Balanced rest { a with owned, bare } := by
  refine List.perm_iff_count.2 fun x => ?_
  have before := balanced.count_eq x
  have same := moved x
  simp only [held, List.count_append] at before same ⊢
  omega

theorem count_held (a : Account ω) (x : Buffer) : a.held.count x =
    (a.owned.flatMap Buffer.counted).count x + (a.bare.flatMap Buffer.counted).count x := by
  unfold held
  rw [List.flatMap_append, List.count_append]

theorem count_of_taken {buffers : List Buffer} (found : buffers[i]? = some b) (x : Buffer) :
    (buffers.flatMap Buffer.counted).count x =
      b.counted.count x + ((buffers.eraseIdx i).flatMap Buffer.counted).count x := by
  obtain ⟨bound, rfl⟩ := List.getElem?_eq_some_iff.1 found
  have perm := (List.getElem_cons_eraseIdx_perm bound).flatMap_right Buffer.counted
  rw [← perm.count_eq, List.flatMap_cons, List.count_append]

theorem balanced_keep (balanced : Balanced b.counted a) :
    Balanced [] { a with owned := a.owned ++ [b] } := by
  refine balanced.moved fun x => ?_
  rw [count_held]
  simp only [List.flatMap_append, List.flatMap_singleton, List.count_append, List.count_nil]
  omega

theorem balanced_keepBare (balanced : Balanced b.counted a) :
    Balanced [] { a with bare := a.bare ++ [b] } := by
  refine balanced.moved fun x => ?_
  rw [count_held]
  simp only [List.flatMap_append, List.flatMap_singleton, List.count_append, List.count_nil]
  omega

theorem balanced_takeOwned (balanced : Balanced [] a) (found : a.owned[i]? = some b) :
    Balanced b.counted { a with owned := a.owned.eraseIdx i } := by
  refine balanced.moved fun x => ?_
  rw [count_held, count_of_taken found, List.flatMap_append, List.count_append, List.count_nil]
  omega

theorem balanced_takeBare (balanced : Balanced [] a) (found : a.bare[i]? = some b) :
    Balanced b.counted { a with bare := a.bare.eraseIdx i } := by
  refine balanced.moved fun x => ?_
  rw [count_held, count_of_taken found, List.flatMap_append, List.count_append, List.count_nil]
  omega

end

/-! ### Programs -/

/-- With `given` in hand, `x` has `kept` in hand when it comes to a value, and nothing after a
fault; the process does not end. -/
def Conserves (given : List Buffer) (x : Run (Account ω) α) (kept : α → List Buffer) : Prop :=
  ∀ a, Balanced given a → (∃ v t, x a = .ok v t ∧ Balanced (kept v) t) ∨
    ∃ f t, x a = .error (.fault f) t ∧ Balanced [] t

section
variable {given : List Buffer} {kept : α → List Buffer}

theorem conserves_pure {v : α} (same : kept v = given) :
    Conserves given (pure v : Run (Account ω) α) kept := by
  intro a balanced
  rw [← same] at balanced
  exact .inl ⟨v, a, rfl, balanced⟩

theorem conserves_raise (f : Fault) : Conserves [] (raise f : Run (Account ω) α) kept :=
  fun a balanced => .inr ⟨f, a, rfl, balanced⟩

theorem conserves_raise_bind (f : Fault) (next : β → Run (Account ω) α) :
    Conserves [] (raise f >>= next) kept :=
  fun a balanced => .inr ⟨f, a, rfl, balanced⟩

theorem conserves_give (x : Except Fault α) :
    Conserves [] (give x : Run (Account ω) α) fun _ => [] := by
  cases x with
  | ok v => exact conserves_pure rfl
  | error f => exact conserves_raise f

theorem conserves_bind {x : Run (Account ω) α} {next : α → Run (Account ω) β}
    {last : β → List Buffer} (first : Conserves given x kept)
    (rest : ∀ v, Conserves (kept v) (next v) last) : Conserves given (x >>= next) last := by
  intro a balanced
  rcases first a balanced with ⟨v, t, done, between⟩ | ⟨f, t, failed, unwound⟩
  · rw [bind_of_ok done]
    exact rest v t between
  · rw [bind_of_error failed]
    exact .inr ⟨f, t, rfl, unwound⟩

theorem conserves_of_ending {x : Run (Account ω) α} {a t : Account ω} {own : Except Fault α}
    (ended : x a = ending (own.mapError .fault) t) (value : ∀ v, own = .ok v → Balanced (kept v) t)
    (fault : ∀ f, own = .error f → Balanced [] t) :
    (∃ v t, x a = .ok v t ∧ Balanced (kept v) t) ∨
      ∃ f t, x a = .error (.fault f) t ∧ Balanced [] t := by
  cases own with
  | ok v => exact .inl ⟨v, t, ended, value v rfl⟩
  | error f => exact .inr ⟨f, t, ended, fault f rfl⟩

theorem conserves_keep (b : Buffer) :
    Conserves b.counted (keep b : Run (Account ω) Unit) fun _ => [] :=
  fun _ balanced => .inl ⟨(), _, rfl, balanced_keep balanced⟩

theorem conserves_keepBare (b : Buffer) :
    Conserves b.counted (keepBare b : Run (Account ω) Unit) fun _ => [] :=
  fun _ balanced => .inl ⟨(), _, rfl, balanced_keepBare balanced⟩

theorem conserves_takeOwned (i : Nat) {use : Buffer → Run (Account ω) Unit}
    (used : ∀ b, Conserves b.counted (use b) fun _ => []) :
    Conserves [] (takeOwned i use) fun _ => [] := by
  intro a balanced
  unfold takeOwned
  cases found : a.owned[i]? with
  | none => exact .inl ⟨(), a, rfl, balanced⟩
  | some b => exact used b _ (balanced_takeOwned balanced found)

theorem conserves_takeBare (i : Nat) {use : Buffer → Run (Account ω) Unit}
    (used : ∀ b, Conserves b.counted (use b) fun _ => []) :
    Conserves [] (takeBare i use) fun _ => [] := by
  intro a balanced
  unfold takeBare
  cases found : a.bare[i]? with
  | none => exact .inl ⟨(), a, rfl, balanced⟩
  | some b => exact used b _ (balanced_takeBare balanced found)

end

/-! ### Calls -/

section
variable {core : Core ω} {rest : List Buffer} {a t : Account ω}

/-- Nothing that goes back along a trail is lost. -/
theorem balanced_along {status : Status} {trail : List (Buffer × Status)} (lawful : Lawful core)
    (along : Trail (watched core) status a trail t) (known : status.code? ≠ none)
    (balanced : Balanced (status.payload.counted ++ rest) a) :
    Balanced rest t ∧ ∀ reported ∈ trail.map (·.2), reported.code = 0 := by
  induction along with
  | @done status a nothing =>
    rw [Status.due_of_known known] at nothing
    split at nothing
    next empty =>
      rw [empty] at balanced
      exact ⟨balanced, by simp⟩
    next => cases nothing
  | @next status a t b trail due later ih =>
    rw [Status.due_of_known known] at due
    split at due
    next => cases due
    next owned =>
      cases due
      have success := lawful.taken_back status.payload a.world
      obtain ⟨after, fine⟩ := ih (Status.known_of .success success) (balanced_note balanced _)
      refine ⟨after, ?_⟩
      rw [List.map_cons, List.forall_mem_cons]
      exact ⟨success, fine⟩

/-- Giving back a buffer leaves nothing of it, nor of what it brings up. -/
theorem freeBuffer_balanced (lawful : Lawful core) {b : Buffer}
    (balanced : Balanced (b.counted ++ rest) a) :
    ∃ t, (watched core).freeBuffer b a = .ok () t ∧ Balanced rest t := by
  have success : ((watched core).reclaim b a).1.code = 0 := lawful.taken_back b a.world
  have known := Status.known_of .success success
  obtain ⟨trail, t, along⟩ := exists_trail (watched core) _ ((watched core).reclaim b a).2
  obtain ⟨after, fine⟩ := balanced_along lawful along known (balanced_note balanced _)
  refine ⟨t, ?_, after⟩
  rw [freeBuffer_eq, settle_of_trail along, conclude_of_all_success fine, Reply.plain,
    Status.fault?_eq_none_iff.2 success]
  rfl

theorem release_balanced (lawful : Lawful core) {b : Buffer}
    (balanced : Balanced (b.counted ++ rest) a) :
    ∃ t, (watched core).release b a = .ok () t ∧ Balanced rest t := by
  cases b with
  | null => exact ⟨a, release_null _ a, balanced⟩
  | region content => exact freeBuffer_balanced lawful balanced

theorem conserves_freeBuffer (lawful : Lawful core) (b : Buffer) :
    Conserves b.counted ((watched core).freeBuffer b) fun _ => [] := by
  intro a balanced
  rw [← List.append_nil b.counted] at balanced
  obtain ⟨t, freed, after⟩ := freeBuffer_balanced lawful balanced
  exact .inl ⟨(), t, freed, after⟩

theorem conserves_release (lawful : Lawful core) (b : Buffer) :
    Conserves b.counted ((watched core).release b) fun _ => [] := by
  intro a balanced
  rw [← List.append_nil b.counted] at balanced
  obtain ⟨t, released, after⟩ := release_balanced lawful balanced
  exact .inl ⟨(), t, released, after⟩

theorem conserves_lift (lawful : Lawful core) (s : Shape) (b : Buffer) :
    Conserves b.counted ((watched core).lift s b) fun _ => [] := by
  intro a balanced
  rw [← List.append_nil b.counted] at balanced
  obtain ⟨t, released, after⟩ := release_balanced lawful balanced
  have lifting : (watched core).lift s b a = ending ((lifted s b).mapError .fault) t :=
    lift_eq (show _ = ending (.ok ()) t from released)
  exact conserves_of_ending lifting (fun _ _ => after) fun _ _ => after

/-- An entry point leaves a payload and maybe a buffer in its value, but not after a failure. -/
theorem conserves_call (lawful : Lawful core) {entry : Account ω → Reply α × Account ω}
    {kept : α → List Buffer} (known : ∀ a, (entry a).1.status.code? ≠ none)
    (nothing : ∀ a, (entry a).1.status.code ≠ 0 → kept (entry a).1.value = [])
    (noted : ∀ a, Balanced [] a →
      Balanced ((entry a).1.status.payload.counted ++ kept (entry a).1.value) (entry a).2) :
    Conserves [] ((watched core).call (Run.change entry)) kept := by
  intro a balanced
  obtain ⟨trail, t, along⟩ := exists_trail (watched core) (entry a).1.status (entry a).2
  obtain ⟨after, fine⟩ := balanced_along lawful along (known a) (noted a balanced)
  have reported : Run.change entry a = .ok (entry a).1 (entry a).2 := rfl
  have called := call_of_trail reported along
  rw [conclude_of_all_success fine] at called
  refine conserves_of_ending called (fun v value => ?_) fun f fault => ?_
  · unfold Reply.plain at value
    split at value
    · cases value
      exact after
    · cases value
  · unfold Reply.plain at fault
    split at fault
    · cases fault
    next found =>
      have failed : (entry a).1.status.code ≠ 0 := by
        rw [Ne, ← Status.fault?_eq_none_iff, found]
        exact Option.some_ne_none _
      rw [nothing a failed] at after
      exact after

theorem conserves_call_entered (lawful : Lawful core) {entry : ω → Reply α × ω}
    (known : Known entry) :
    Conserves [] ((watched core).call (Run.change (entered entry))) fun _ => [] := by
  refine conserves_call lawful (fun a => known a.world) (fun _ _ => rfl) fun a balanced => ?_
  exact balanced_note balanced _

theorem conserves_callOr (lawful : Lawful core) (s : Shape) {entry : ω → Reply α × ω}
    (known : Known entry) :
    Conserves [] ((watched core).callOr s (Run.change (entered entry))) fun _ => [] := by
  intro a balanced
  obtain ⟨trail, t, along⟩ :=
    exists_trail (watched core) (entered entry a).1.status (entered entry a).2
  obtain ⟨after, fine⟩ :=
    balanced_along lawful along (known a.world) (balanced_note balanced (entry a.world).2)
  have reported : Run.change (entered entry) a = .ok (entered entry a).1 (entered entry a).2 := rfl
  have called := callOr_of_trail s reported along
  rw [conclude_of_all_success fine] at called
  exact conserves_of_ending called (fun _ _ => after) fun _ _ => after

theorem conserves_lowerBytes (lawful : Lawful core) (bytes : Bytes) :
    Conserves [] ((watched core).lowerBytes bytes) Buffer.counted := by
  unfold lowerBytes
  split
  · exact conserves_pure rfl
  · split
    · exact conserves_raise _
    next view _ =>
      refine conserves_call lawful (fun a => lawful.allocate_known view.bytes a.world) ?_ ?_
      · intro a failed
        have null := lawful.null_on_failure view.bytes a.world failed
        change Buffer.counted (core.allocate view.bytes a.world).1.value = []
        rw [null, Buffer.counted_null]
      · intro a balanced
        have noted : Balanced (_ ++ []) ((watched core).allocate view.bytes a).2 :=
          balanced_gained balanced _
        rw [List.append_nil] at noted
        exact noted

theorem conserves_lower (lawful : Lawful core) (v : Value) :
    Conserves [] ((watched core).lower v) Buffer.counted := by
  unfold Core.lower
  split
  · exact conserves_raise _
  · exact conserves_lowerBytes lawful _

theorem conserves_contractVersion (lawful : Lawful core) :
    Conserves [] (watched core).contractVersion fun _ => [] :=
  conserves_call_entered lawful lawful.version_known

theorem conserves_checksum (lawful : Lawful core) (name : String) :
    Conserves [] ((watched core).checksum name) fun _ => [] := by
  unfold Core.checksum
  split
  · exact conserves_pure rfl
  next entry found =>
    have mem := List.mem_reverse.1 (Keyed.mem_of_get? found)
    obtain ⟨e, exported, same⟩ := List.mem_map.1 mem
    cases same
    refine conserves_bind (conserves_call_entered lawful (lawful.checksum_known e exported)) ?_
    intro actual
    exact conserves_pure rfl

theorem conserves_verifyChecksum (lawful : Lawful core) (name : String) (expected : Nat) :
    Conserves [] ((watched core).verifyChecksum name expected) fun _ => [] := by
  refine conserves_bind (conserves_checksum lawful name) fun actual => ?_
  cases actual with
  | none => exact conserves_raise _
  | some actual =>
    dsimp only
    split
    · exact conserves_pure rfl
    · exact conserves_raise _

theorem conserves_forM {items : List β} {each : β → Run (Account ω) Unit}
    (conserves : ∀ item, Conserves [] (each item) fun _ => []) :
    Conserves [] (items.forM each) fun _ => [] := by
  induction items with
  | nil => exact conserves_pure rfl
  | cons item items ih => exact conserves_bind (conserves item) fun _ => ih

theorem conserves_verify (lawful : Lawful core) (contract : Contract) :
    Conserves [] ((watched core).verify contract) fun _ => [] := by
  unfold verify
  dsimp only
  split
  · exact conserves_raise_bind _ _
  · refine conserves_bind (conserves_contractVersion lawful) fun actual => ?_
    split
    · exact conserves_raise_bind _ _
    · exact conserves_forM fun (name, expected) => conserves_verifyChecksum lawful name expected

/-- Each step passes on what it takes in hand, whether it succeeds or not. -/
theorem conserves_perform (lawful : Lawful core) {step : Step ω α} (known : step.Known) :
    Conserves [] (perform core step) fun _ => [] := by
  cases step with
  | lower v => exact conserves_bind (conserves_lower lawful v) conserves_keep
  | lowerBytes bytes => exact conserves_bind (conserves_lowerBytes lawful bytes) conserves_keep
  | wrap i => exact conserves_takeBare i conserves_keep
  | intoBare i => exact conserves_takeOwned i conserves_keepBare
  | drop i => exact conserves_takeOwned i (conserves_release lawful)
  | fromBytes bytes =>
    refine conserves_bind (conserves_give _) fun made => ?_
    refine conserves_bind (fun a balanced => ?_) fun _ => conserves_keepBare made
    have noted : Balanced (made.counted ++ []) (a.note a.world made.counted []) :=
      balanced_gained balanced a.world
    rw [List.append_nil] at noted
    exact .inl ⟨(), _, rfl, noted⟩
  | lift i s =>
    refine conserves_takeBare i fun b => ?_
    exact conserves_bind (conserves_lift lawful s b) fun _ => conserves_pure rfl
  | free i => exact conserves_takeBare i (conserves_freeBuffer lawful)
  | freeNull => exact conserves_freeBuffer lawful .null
  | call entry =>
    exact conserves_bind (conserves_call_entered lawful known) fun _ => conserves_pure rfl
  | callOr s entry =>
    exact conserves_bind (conserves_callOr lawful s known) fun _ => conserves_pure rfl
  | version => exact conserves_bind (conserves_contractVersion lawful) fun _ => conserves_pure rfl
  | checksum name =>
    exact conserves_bind (conserves_checksum lawful name) fun _ => conserves_pure rfl
  | verify contract => exact conserves_verify lawful contract

theorem balanced_left {x : Run (Account ω) β} (conserves : Conserves [] x fun _ => [])
    (balanced : Balanced [] a) : Balanced [] (left x a) := by
  rcases conserves a balanced with ⟨v, t, done, after⟩ | ⟨f, t, failed, after⟩
  · rw [left_of_ok done]
    exact after
  · unfold left
    rw [failed]
    exact after

theorem balanced_after (lawful : Lawful core) {steps : List (Step ω α)}
    (known : ∀ step ∈ steps, step.Known) (balanced : Balanced [] a) :
    Balanced [] (after core steps a) := by
  induction steps generalizing a with
  | nil => exact balanced
  | cons step steps ih =>
    rw [List.forall_mem_cons] at known
    exact ih known.2 (balanced_left (conserves_perform lawful known.1) balanced)

/-- After any steps, each buffer that came up has gone back or is still held, and no step ends the
process. -/
theorem buffers_conserved (lawful : Lawful core) (world : ω) {steps : List (Step ω α)}
    (known : ∀ step ∈ steps, step.Known) :
    let a := after core steps (opened world)
    a.obtained.length = a.returned.length + a.held.length ∧ a.obtained.Perm (a.returned ++ a.held) ∧
      ∀ next : Step ω α, next.Known → answer (perform core next) a ≠ .error .abort := by
  intro a
  have balanced : Balanced [] a := balanced_after lawful known (List.Perm.refl [])
  have length := List.Perm.length_eq balanced
  rw [List.length_append, List.nil_append] at length
  refine ⟨length, balanced, fun next fits => ?_⟩
  rcases conserves_perform lawful fits a balanced with ⟨v, t, done, -⟩ | ⟨f, t, failed, -⟩
  · rw [answer_of_ok done]
    nofun
  · unfold answer
    rw [failed]
    nofun

end

/-- A core that brings up `n` payloads as buffers go back. It takes three bytes at most, and its
version cannot be told. -/
def pedantic : Core Nat where
  space := "web5"
  allocate bytes n :=
    if bytes.length ≤ 3 then (⟨⟨0, .copyOf []⟩, .copyOf bytes⟩, n)
    else (⟨⟨2, .copyOf [33]⟩, .null⟩, n)
  reclaim _ n := (⟨0, if n = 0 then .null else .copyOf [1]⟩, n - 1)
  version n := (⟨⟨1, .copyOf [9]⟩, 0⟩, n)
  checksums := [("f", fun n => (⟨⟨0, .copyOf [5]⟩, 7⟩, n))]
  backlog n := n
  backlog_reclaim := by
    intro b n carried
    cases n with
    | zero => exact absurd rfl carried
    | succ n => exact Nat.lt_succ_self n

theorem lawful_pedantic : Lawful pedantic where
  taken_back _ _ := rfl
  null_on_failure bytes n failed := by
    unfold pedantic at failed ⊢
    dsimp only at failed ⊢
    split at failed
    · exact absurd rfl failed
    next long => rw [if_neg long]
  allocate_known bytes n := by
    unfold pedantic
    dsimp only
    split
    · exact Status.known_of .success rfl
    · exact Status.known_of .panic rfl
  version_known _ := Status.known_of .error rfl
  checksum_known e mem _ := by
    rw [List.mem_singleton.1 mem]
    exact Status.known_of .success rfl

/-- Buffers that go to and fro in each of the ways. -/
def errands : List (Step Nat Unit) :=
  [.lowerBytes [1, 2], .lowerBytes [], .lowerBytes [1, 2, 3, 4], .fromBytes [], .intoBare 0,
    .wrap 0, .lift 0 .bool, .lower (.bool true), .drop 1, .version, .checksum "f",
    .verify Contract.current, .callOr .bool fun n => (⟨⟨1, .region [2]⟩, ()⟩, n + 1),
    .fromBytes [3], .freeNull]

theorem buffers_conserved_errands :
    let a := after pedantic errands (opened 2)
    a.obtained.length = a.returned.length + 2 ∧ a.held = [.region [1], .region [3]] := by
  intro a
  have held : a.held = [.region [1], .region [3]] := by decide +kernel
  have known : ∀ step ∈ errands, step.Known := by
    simp [errands, Step.Known, Account.Known, Status.code?, StatusCode.ofRaw?]
  obtain ⟨length, -, -⟩ := buffers_conserved lawful_pedantic 2 known
  change a.obtained.length = a.returned.length + a.held.length at length
  rw [held] at length
  exact ⟨length, held⟩

end Account
end Boundary
