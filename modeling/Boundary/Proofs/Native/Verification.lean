import Boundary.Proofs.Native.Faults
import Boundary.Proofs.Text.ByteOrder
import Boundary.Proofs.Unwinding

/-!
Verifying a contract. It comes to nothing only if namespace, version and every checksum agree, and
otherwise to the first disagreement: the namespace, the version, then the names in the order of
their bytes. Each entry point is asked in the state that the calls before it have left.
-/
namespace Boundary
namespace Core
open Run
variable {σ α : Type} {core : Core σ}

/-- A call in this state reports success, and a payload it has is taken back without a fault. -/
def Succeeds (core : Core σ) (entry : σ → Reply α × σ) (s : σ) : Prop :=
  (entry s).1.status.code = 0 ∧
    ∃ t, core.release (entry s).1.status.payload (entry s).2 = .ok () t

/-- The entry points for the contract always succeed. -/
structure Candid (core : Core σ) : Prop where
  version : ∀ s, core.Succeeds core.version s
  checksum : ∀ e ∈ core.checksums, ∀ s, core.Succeeds e.2 s

/-- The entry point is the last one under its name. -/
def Exported (core : Core σ) (name : String) (entry : σ → Reply Nat × σ) : Prop :=
  ∃ before after, core.checksums = before ++ (name, entry) :: after ∧ ∀ e ∈ after, e.1 ≠ name

/-- What a core says to a checksum of the contract. -/
structure Finding where
  name : String
  expected : Nat
  /-- The checksum that the core reports, if it exports one under the name. -/
  reported : Option Nat

def Finding.Agrees (f : Finding) : Prop := f.reported = some f.expected

instance (f : Finding) : Decidable f.Agrees := inferInstanceAs (Decidable (_ = _))

def Finding.fault (f : Finding) : Fault :=
  match f.reported with
  | none => .missingChecksum f.name
  | some actual => .checksumMismatch f.name f.expected actual

/-- The core is asked for one checksum after the other, each time in the state that was left. -/
inductive Surveyed (core : Core σ) : σ → List (String × Nat) → List Finding → Prop
  | done (s : σ) : Surveyed core s [] []
  | missing {s : σ} {name : String} {expected : Nat} {rest : List (String × Nat)}
      {findings : List Finding} (absent : ∀ e ∈ core.checksums, e.1 ≠ name)
      (later : Surveyed core s rest findings) :
      Surveyed core s ((name, expected) :: rest) (⟨name, expected, none⟩ :: findings)
  | reported {s : σ} {name : String} {expected : Nat} {rest : List (String × Nat)}
      {findings : List Finding} {entry : σ → Reply Nat × σ} (exported : core.Exported name entry)
      (later : Surveyed core (left (core.call (Run.change entry)) s) rest findings) :
      Surveyed core s ((name, expected) :: rest)
        (⟨name, expected, some (entry s).1.value⟩ :: findings)

theorem settle_of_success (release : Buffer → Run σ Unit) {status : Status}
    (success : status.code = 0) : settle release status = release status.payload := by
  have code : status.code? = some .success := Status.code?_eq_some_iff.2 success
  unfold settle
  rw [code]

theorem call_of_succeeds {entry : σ → Reply α × σ} {s : σ} (succeeds : core.Succeeds entry s) :
    core.call (Run.change entry) s =
      .ok (entry s).1.value (left (core.call (Run.change entry)) s) := by
  obtain ⟨success, t, released⟩ := succeeds
  have called : core.call (Run.change entry) s = .ok (entry s).1.value t := by
    unfold call
    rw [bind_eq, Run.change]
    dsimp only
    rw [bind_eq, settle_of_success _ success, released]
    rfl
  rw [called, left_of_ok called]

theorem lookup_eq_none_of_absent {name : String} (absent : ∀ e ∈ core.checksums, e.1 ≠ name) :
    core.checksums.reverse.lookup name = none := by
  rw [List.lookup_eq_none_iff]
  intro e member
  have other := absent e (List.mem_reverse.1 member)
  simpa using Ne.symm other

theorem lookup_eq_some_of_exported {name : String} {entry : σ → Reply Nat × σ}
    (exported : core.Exported name entry) :
    core.checksums.reverse.lookup name = some entry := by
  obtain ⟨before, after, split, others⟩ := exported
  rw [List.lookup_eq_some_iff]
  refine ⟨after.reverse, before.reverse, ?_, ?_⟩
  · simp [split]
  · intro e member
    have other := others e (List.mem_reverse.1 member)
    simpa using Ne.symm other

theorem absent_or_exported (core : Core σ) (name : String) :
    (∀ e ∈ core.checksums, e.1 ≠ name) ∨ ∃ entry, core.Exported name entry := by
  cases found : core.checksums.reverse.lookup name with
  | none =>
    left
    intro e member same
    have other := List.lookup_eq_none_iff.1 found e (List.mem_reverse.2 member)
    simp [same] at other
  | some entry =>
    right
    obtain ⟨after, before, split, others⟩ := List.lookup_eq_some_iff.1 found
    refine ⟨entry, before.reverse, after.reverse, ?_, ?_⟩
    · rw [← List.reverse_reverse core.checksums, split]
      simp
    · intro e member same
      have other := others e (List.mem_reverse.1 member)
      simp [same] at other

theorem mem_of_exported {name : String} {entry : σ → Reply Nat × σ}
    (exported : core.Exported name entry) : (name, entry) ∈ core.checksums := by
  obtain ⟨before, after, split, -⟩ := exported
  simp [split]

theorem exists_survey (core : Core σ) (entries : List (String × Nat)) (s : σ) :
    ∃ findings, core.Surveyed s entries findings := by
  induction entries generalizing s with
  | nil => exact ⟨[], .done s⟩
  | cons e rest ih =>
    obtain ⟨name, expected⟩ := e
    rcases core.absent_or_exported name with absent | ⟨entry, exported⟩
    · obtain ⟨findings, later⟩ := ih s
      exact ⟨_, .missing absent later⟩
    · obtain ⟨findings, later⟩ := ih (left (core.call (Run.change entry)) s)
      exact ⟨_, .reported exported later⟩

/-- The findings are about the names of the contract, in its order. -/
theorem Surveyed.names_eq {s : σ} {entries : List (String × Nat)} {findings : List Finding}
    (surveyed : core.Surveyed s entries findings) :
    findings.map (·.name) = entries.map (·.1) := by
  induction surveyed with
  | done => rfl
  | missing _ _ ih => simp [ih]
  | reported _ _ ih => simp [ih]

theorem Surveyed.unique {s : σ} {entries : List (String × Nat)} {findings others : List Finding}
    (surveyed : core.Surveyed s entries findings) (again : core.Surveyed s entries others) :
    others = findings := by
  induction surveyed generalizing others with
  | done =>
    cases again
    rfl
  | missing absent _ ih =>
    cases again with
    | missing _ later => rw [ih later]
    | reported exported later => exact absurd rfl (absent _ (mem_of_exported exported))
  | @reported s name expected rest findings entry exported _ ih =>
    cases again with
    | missing absent later => exact absurd rfl (absent _ (mem_of_exported exported))
    | @reported _ _ _ _ _ other exported' later =>
      have found := lookup_eq_some_of_exported exported
      rw [lookup_eq_some_of_exported exported'] at found
      cases found
      rw [ih later]

/-- What checking comes to, by what the core says. -/
def verdict : List Finding → Except Stop Unit
  | [] => .ok ()
  | f :: rest => if f.Agrees then verdict rest else .error (.fault f.fault)

theorem verdict_eq_ok_iff {findings : List Finding} :
    verdict findings = .ok () ↔ ∀ f ∈ findings, f.Agrees := by
  induction findings with
  | nil => simp [verdict]
  | cons f rest ih =>
    rw [verdict, List.forall_mem_cons, ← ih]
    split <;> simp [*]

/-- The first disagreement counts. Names in order come after it. -/
theorem verdict_of_disagreement {findings : List Finding}
    (sorted : findings.Pairwise fun f g => f.name < g.name)
    (disagrees : ∃ f ∈ findings, ¬ f.Agrees) :
    ∃ f ∈ findings, ¬ f.Agrees ∧ verdict findings = .error (.fault f.fault) ∧
      ∀ g ∈ findings, ¬ g.Agrees → g = f ∨ f.name < g.name := by
  induction findings with
  | nil =>
    obtain ⟨f, member, -⟩ := disagrees
    cases member
  | cons d rest ih =>
    obtain ⟨first, sorted⟩ := List.pairwise_cons.1 sorted
    by_cases agrees : d.Agrees
    · have later : ∃ f ∈ rest, ¬ f.Agrees := by
        obtain ⟨f, member, other⟩ := disagrees
        rcases List.mem_cons.1 member with rfl | member
        · exact absurd agrees other
        · exact ⟨f, member, other⟩
      obtain ⟨f, member, other, outcome, least⟩ := ih sorted later
      refine ⟨f, List.mem_cons_of_mem d member, other, ?_, ?_⟩
      · rw [verdict, if_pos agrees, outcome]
      · intro g found differs
        rcases List.mem_cons.1 found with rfl | found
        · exact absurd agrees differs
        · exact least g found differs
    · refine ⟨d, List.mem_cons_self, agrees, ?_, ?_⟩
      · rw [verdict, if_neg agrees]
      · intro g found _
        rcases List.mem_cons.1 found with rfl | found
        · exact .inl rfl
        · exact .inr (first g found)

theorem verifyChecksum_of_absent {name : String} (absent : ∀ e ∈ core.checksums, e.1 ≠ name)
    (expected : Nat) (s : σ) :
    core.verifyChecksum name expected s = .error (.fault (.missingChecksum name)) s := by
  unfold verifyChecksum checksum
  rw [lookup_eq_none_of_absent absent, bind_eq]
  rfl

theorem verifyChecksum_of_exported (candid : core.Candid) {name : String}
    {entry : σ → Reply Nat × σ} (exported : core.Exported name entry) (expected : Nat) (s : σ) :
    core.verifyChecksum name expected s =
      if (entry s).1.value = expected then .ok () (left (core.call (Run.change entry)) s)
      else .error (.fault (.checksumMismatch name expected (entry s).1.value))
        (left (core.call (Run.change entry)) s) := by
  have called := call_of_succeeds (candid.checksum _ (mem_of_exported exported) s)
  unfold verifyChecksum checksum
  rw [lookup_eq_some_of_exported exported, bind_eq]
  dsimp only
  rw [bind_eq, called]
  dsimp only [pure, EStateM.pure]
  split <;> rfl

/-- Checking the entries of a contract one by one comes to the verdict on what the core says. -/
theorem answer_forM_verifyChecksum (candid : core.Candid) {s : σ} {entries : List (String × Nat)}
    {findings : List Finding} (surveyed : core.Surveyed s entries findings) :
    answer (entries.forM fun e => core.verifyChecksum e.1 e.2) s = verdict findings := by
  induction surveyed with
  | done s => rfl
  | @missing s name expected rest findings absent later ih =>
    exact answer_bind_of_error (verifyChecksum_of_absent absent expected s) _
  | @reported s name expected rest findings entry exported later ih =>
    have checked := verifyChecksum_of_exported candid exported expected s
    rw [verdict]
    split
    next agrees =>
      rw [if_pos (Option.some.inj agrees)] at checked
      rw [← ih]
      exact answer_bind_of_ok checked _
    next differs =>
      rw [if_neg fun same => differs (congrArg some same)] at checked
      exact answer_bind_of_error checked _

/-- The checks in their order. -/
theorem answer_verify (candid : core.Candid) (contract : Contract) {s : σ}
    {findings : List Finding}
    (surveyed : core.Surveyed (left core.contractVersion s) contract.checksums.entries findings) :
    answer (core.verify contract) s =
      if core.space ≠ contract.space then
        .error (.fault (.namespaceMismatch contract.space core.space))
      else if (core.version s).1.value ≠ contract.version then
        .error (.fault (.versionMismatch contract.version (core.version s).1.value))
      else verdict findings := by
  have called : core.contractVersion s =
      .ok (core.version s).1.value (left core.contractVersion s) :=
    call_of_succeeds (candid.version s)
  unfold verify
  dsimp only
  split
  · rfl
  · rw [answer_bind_of_ok called]
    split
    · rfl
    · exact answer_forM_verifyChecksum candid surveyed

/-- Verifying ends well exactly if namespace, version and all checksums of the contract agree with
what the core says, whatever else it exports. If not, the fault tells of the namespace, else of the
version, else of the name that comes first by its bytes among those that are missing or differ. -/
theorem verification_exact (core : Core σ) (candid : core.Candid) (contract : Contract) (s : σ) :
    ∃ findings, core.Surveyed (left core.contractVersion s) contract.checksums.entries findings ∧
      (∀ others, core.Surveyed (left core.contractVersion s) contract.checksums.entries others →
        others = findings) ∧
      ((∃ t, core.verify contract s = .ok () t) ↔ core.space = contract.space ∧
        (core.version s).1.value = contract.version ∧
        ∀ f ∈ findings, f.reported = some f.expected) ∧
      (core.space ≠ contract.space → answer (core.verify contract) s =
        .error (.fault (.namespaceMismatch contract.space core.space))) ∧
      (core.space = contract.space → (core.version s).1.value ≠ contract.version →
        answer (core.verify contract) s =
          .error (.fault (.versionMismatch contract.version (core.version s).1.value))) ∧
      (core.space = contract.space → (core.version s).1.value = contract.version →
        (∃ f ∈ findings, f.reported ≠ some f.expected) →
        ∃ f ∈ findings, f.reported ≠ some f.expected ∧
          answer (core.verify contract) s = .error (.fault f.fault) ∧
          ∀ g ∈ findings, g.reported ≠ some g.expected → g ≠ f →
            Bytes.ofText f.name < Bytes.ofText g.name) := by
  obtain ⟨findings, surveyed⟩ :=
    core.exists_survey contract.checksums.entries (left core.contractVersion s)
  have outcome := answer_verify candid contract surveyed
  refine ⟨findings, surveyed, fun others again => surveyed.unique again, ?_, ?_, ?_, ?_⟩
  · constructor
    · rintro ⟨t, ended⟩
      rw [answer_of_ok ended] at outcome
      split at outcome
      · cases outcome
      next space =>
        split at outcome
        · cases outcome
        next version =>
          exact ⟨Classical.not_not.1 space, Classical.not_not.1 version,
            verdict_eq_ok_iff.1 outcome.symm⟩
    · rintro ⟨space, version, agree⟩
      apply eq_ok_of_answer
      rw [outcome, if_neg (not_not_intro space), if_neg (not_not_intro version)]
      exact verdict_eq_ok_iff.2 agree
  · intro space
    rw [outcome, if_pos space]
  · intro space version
    rw [outcome, if_neg (not_not_intro space), if_pos version]
  · intro space version disagrees
    have sorted : findings.Pairwise fun f g => f.name < g.name := by
      have names := List.pairwise_map.2 contract.checksums.sorted
      rw [← surveyed.names_eq] at names
      exact List.pairwise_map.1 names
    obtain ⟨f, member, differs, failed, least⟩ := verdict_of_disagreement sorted disagrees
    refine ⟨f, member, differs, ?_, ?_⟩
    · rw [outcome, if_neg (not_not_intro space), if_neg (not_not_intro version), failed]
    · intro g found other distinct
      rcases least g found other with same | later
      · exact absurd same distinct
      · exact Bytes.ofText_lt_iff.2 later

/-- Reports `sum` with a payload. -/
def reporting (sum : Nat) (s : Unit) : Reply Nat × Unit := (⟨⟨0, .region [6]⟩, sum⟩, s)

/-- A core that always reports the same and takes every payload back. -/
def steady (space : String) (version : Nat) (checksums : List (String × Nat)) : Core Unit where
  space := space
  allocate b s := (.success (.copyOf b), s)
  reclaim _ s := (Status.initial, s)
  version := reporting version
  checksums := checksums.map fun e => (e.1, reporting e.2)
  backlog _ := 0
  backlog_reclaim _ _ payload := absurd rfl payload

theorem candid_steady (space : String) (version : Nat) (checksums : List (String × Nat)) :
    (steady space version checksums).Candid := by
  constructor
  · intro s
    exact ⟨rfl, (), rfl⟩
  · intro e member s
    obtain ⟨d, -, rfl⟩ := List.mem_map.1 member
    exact ⟨rfl, (), rfl⟩

/-- Of the checksums under one name the last counts, and those that the contract does not have are
passed over. The name that differs comes before the one that is missing. -/
theorem verification_exact_steady :
    let core := steady "web5" 24 [("sign", 1), ("own", 5), ("sign", 2)]
    let kept : Contract := ⟨"web5", 24, .ofPairs [("sign", 2)]⟩
    let broken : Contract := ⟨"web5", 24, .ofPairs [("verify", 4), ("sign", 3)]⟩
    core.Candid ∧ (∃ t, core.verify kept () = .ok () t) ∧
      answer (core.verify broken) () = .error (.fault (.checksumMismatch "sign" 3 2)) := by
  intro core kept broken
  have candid : core.Candid := candid_steady ..
  have sign : core.Exported "sign" (reporting 2) :=
    ⟨[("sign", reporting 1), ("own", reporting 5)], [], rfl, nofun⟩
  have verify : ∀ e ∈ core.checksums, e.1 ≠ "verify" := by
    have names : ∀ name ∈ core.checksums.map (·.1), name ≠ "verify" := by decide
    intro e member
    exact names e.1 (List.mem_map_of_mem member)
  refine ⟨candid, ?_, ?_⟩
  · obtain ⟨findings, -, unique, exact, -⟩ := verification_exact core candid kept ()
    cases unique _ (.reported sign (.done _))
    exact exact.2 ⟨rfl, rfl, by simp [reporting]⟩
  · obtain ⟨findings, -, unique, -, -, -, first⟩ := verification_exact core candid broken ()
    cases unique _ (.reported sign (.missing verify (.done _)))
    obtain ⟨f, member, differs, failed, least⟩ := first rfl rfl (by simp)
    rcases List.mem_cons.1 member with rfl | member
    · exact failed
    · cases List.mem_singleton.1 member
      have later := least _ List.mem_cons_self (by simp [reporting]) (by simp)
      exact absurd (Bytes.ofText_lt_iff.1 later) (by decide)

/-- The same core, except that it does not take a payload back. -/
def grudging (space : String) (version : Nat) (checksums : List (String × Nat)) : Core Unit :=
  { steady space version checksums with
    reclaim := fun _ s => (⟨1, .null⟩, s)
    backlog_reclaim := fun _ _ payload => absurd rfl payload }

/-- Success is not enough: where the payload that comes with it is not taken back, verifying faults
although everything agrees. -/
theorem agreement_lost_with_payload :
    let core := grudging "web5" 24 [("sign", 2)]
    let contract : Contract := ⟨"web5", 24, .ofPairs [("sign", 2)]⟩
    (∀ s, (core.version s).1.status.code = 0) ∧
      (∀ e ∈ core.checksums, ∀ s, (e.2 s).1.status.code = 0) ∧ core.space = contract.space ∧
      (core.version ()).1.value = contract.version ∧
      core.Exported "sign" (reporting 2) ∧ contract.checksums.entries = [("sign", 2)] ∧
      (reporting 2 ()).1.value = 2 ∧
      core.verify contract () = .error (.fault .unexpectedError) () := by
  refine ⟨fun _ => rfl, ?_, rfl, rfl, ⟨[], [], rfl, nofun⟩, rfl, rfl, rfl⟩
  intro e member s
  cases List.mem_singleton.1 member
  rfl

end Core
end Boundary
