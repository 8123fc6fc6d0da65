import Boundary.Proofs.Unwinding
/-!
What holds after a run, said apart for a value and for a fault, with one rule for each way to put
runs together. Of a process that has ended nothing is said.
-/
namespace Boundary.Run
variable {σ α β : Type} {before failed : σ → Prop} {after : α → σ → Prop} {x : Run σ α}

/-- From states in `before`, a value of `x` comes with a state in `after` and a fault with one in
`failed`. -/
def Leads (before : σ → Prop) (x : Run σ α) (after : α → σ → Prop) (failed : σ → Prop) : Prop :=
  ∀ s, before s → match x s with
    | .ok a t => after a t
    | .error (.fault _) t => failed t
    | .error .abort _ => True

/-- What holds before `x` holds after it. -/
abbrev Keeps (kept : σ → Prop) (x : Run σ α) : Prop := Leads kept x (fun _ => kept) kept

theorem Leads.of_ok (leads : Leads before x after failed) {s t : σ} {a : α} (holds : before s)
    (done : x s = .ok a t) : after a t := by
  have ended := leads s holds
  rwa [done] at ended

theorem Leads.of_fault (leads : Leads before x after failed) {s t : σ} {f : Fault}
    (holds : before s) (stopped : x s = .error (.fault f) t) : failed t := by
  have ended := leads s holds
  rwa [stopped] at ended

theorem Keeps.of_ends {kept : σ → Prop} (keeps : Keeps kept x) {s t : σ} (holds : kept s)
    (ended : Ends x s t) : kept t := by
  rcases exists_of_ends ended with ⟨a, done⟩ | ⟨f, stopped⟩
  · exact keeps.of_ok holds done
  · exact keeps.of_fault holds stopped

theorem keeps_of_ends {kept : σ → Prop} (each : ∀ s t, kept s → Ends x s t → kept t) :
    Keeps kept x := by
  intro s holds
  rcases ran : x s with ⟨a, t⟩ | ⟨f | _, t⟩
  · exact each s t holds (ends_of_ok ran)
  · exact each s t holds (ends_of_fault ran)
  · trivial

theorem Leads.imp {before' failed' : σ → Prop} {after' : α → σ → Prop}
    (leads : Leads before x after failed) (first : ∀ s, before' s → before s)
    (value : ∀ a s, after a s → after' a s) (fault : ∀ s, failed s → failed' s) :
    Leads before' x after' failed' := by
  intro s holds
  have ended := leads s (first s holds)
  revert ended
  rcases x s with ⟨a, t⟩ | ⟨f | _, t⟩ <;> intro ended
  · exact value a t ended
  · exact fault t ended
  · trivial

theorem leads_pure {a : α} (holds : ∀ s, before s → after a s) :
    Leads before (pure a) after failed := holds

theorem leads_raise {f : Fault} (holds : ∀ s, before s → failed s) :
    Leads before (Run.raise f) after failed := holds

theorem leads_abort : Leads before (Run.abort : Run σ α) after failed := fun _ _ => trivial

theorem leads_bind {middle : α → σ → Prop} {after : β → σ → Prop} {next : α → Run σ β}
    (first : Leads before x middle failed) (rest : ∀ a, Leads (middle a) (next a) after failed) :
    Leads before (x >>= next) after failed := by
  intro s holds
  have ended := first s holds
  rw [bind_eq]
  revert ended
  rcases x s with ⟨a, t⟩ | ⟨f | _, t⟩ <;> intro ended
  · exact rest a t ended
  · exact ended
  · trivial

/-- What is known of every value. -/
theorem Leads.knowing {known : α → Prop} (leads : Leads before x after failed)
    (values : ∀ s a t, before s → x s = .ok a t → known a) :
    Leads before x (fun a t => known a ∧ after a t) failed := by
  intro s holds
  have ended := leads s holds
  revert ended
  rcases ran : x s with ⟨a, t⟩ | ⟨f | _, t⟩ <;> intro ended
  · exact ⟨values s a t holds ran, ended⟩
  · exact ended
  · trivial

/-- What does not depend on the state can be taken for granted. -/
theorem leads_given {known : Prop} (leads : known → Leads before x after failed) :
    Leads (fun s => known ∧ before s) x after failed :=
  fun s both => leads both.1 s both.2

/-- From this one state. -/
theorem Leads.only (leads : Leads before x after failed) {s : σ} (holds : before s) :
    Leads (· = s) x after failed := by
  rintro _ rfl
  exact leads _ holds

/-- Starting from one state at a time. -/
theorem leads_get_bind {after : β → σ → Prop} {next : σ → Run σ β}
    (rest : ∀ s, before s → Leads (· = s) (next s) after failed) :
    Leads before (get >>= next) after failed := by
  intro s holds
  exact rest s holds s rfl

theorem keeps_attempt {kept : σ → Prop} (keeps : Keeps kept x) : Keeps kept (attempt x) := by
  intro s holds
  have ended := keeps s holds
  unfold attempt
  revert ended
  rcases x s with ⟨a, t⟩ | ⟨f | _, t⟩ <;> exact id

/-- A fault of the cleanup would end the process. -/
theorem leads_onFault {cleanup : Run σ Unit} {middle : σ → Prop}
    (tried : Leads before x after middle)
    (cleans : Leads middle cleanup (fun _ => failed) fun _ => True) :
    Leads before (onFault x cleanup) after failed := by
  intro s holds
  have ended := tried s holds
  unfold onFault
  revert ended
  rcases x s with ⟨a, t⟩ | ⟨f | _, t⟩ <;> intro ended
  · exact ended
  · have cleaned := cleans t ended
    dsimp only
    revert cleaned
    rcases cleanup t with ⟨a, u⟩ | ⟨stop, u⟩ <;> intro cleaned
    · exact cleaned
    · trivial
  · trivial

theorem leads_ensuring {cleanup : Run σ Unit} {middle : α → σ → Prop} {stopped : σ → Prop}
    (tried : Leads before x middle stopped)
    (finishes : ∀ a, Leads (middle a) cleanup (fun _ => after a) failed)
    (cleans : Leads stopped cleanup (fun _ => failed) fun _ => True) :
    Leads before (ensuring x cleanup) after failed := by
  refine leads_bind (leads_onFault tried cleans) fun a => leads_bind (finishes a) fun _ => ?_
  exact leads_pure fun _ holds => holds

/-- Faults aside. -/
theorem Leads.values (leads : Leads before x after failed) :
    Leads before x after fun _ => True :=
  leads.imp (fun _ holds => holds) (fun _ _ holds => holds) fun _ _ => trivial

theorem leads_anywhere : Leads before x (fun _ _ => True) fun _ => True := by
  intro s _
  rcases x s with ⟨a, t⟩ | ⟨f | _, t⟩ <;> trivial

theorem leads_noUnwind (inner : Leads before x after fun _ => True) :
    Leads before (noUnwind x) after failed := by
  intro s holds
  have ended := inner s holds
  unfold noUnwind
  revert ended
  rcases x s with ⟨a, t⟩ | ⟨stop, t⟩ <;> intro ended
  · exact ended
  · trivial

theorem Still.keeps (still : Still x) (kept : σ → Prop) : Keeps kept x := by
  refine keeps_of_ends fun s t holds ended => ?_
  obtain ⟨rfl, -⟩ := ended
  rwa [still]

end Boundary.Run
