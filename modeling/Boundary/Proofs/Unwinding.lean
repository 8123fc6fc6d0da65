import Boundary.Run
/-!
What leaves a run: the faults that it may end in, and runs that end in no value at all.
-/
namespace Boundary.Run
variable {σ α β : Type}

/-- What `x` comes to. -/
def answer (x : Run σ α) (s : σ) : Except Stop α :=
  match x s with
  | .ok a _ => .ok a
  | .error stop _ => .error stop

/-- The state that `x` leaves, also when it ends without a value. -/
def left (x : Run σ α) (s : σ) : σ :=
  match x s with
  | .ok _ s => s
  | .error _ s => s

def RaisesOnly (faults : Fault → Prop) (x : Run σ α) : Prop :=
  ∀ s f s', x s = .error (.fault f) s' → faults f

/-- Only a fault or an abort can come of `x`. -/
def Stops (x : Run σ α) : Prop := ∀ s a s', x s ≠ .ok a s'

theorem answer_congr {x y : Run σ α} {s t : σ} (h : x s = y t) : answer x s = answer y t := by
  unfold answer
  rw [h]

theorem left_congr {x y : Run σ α} {s t : σ} (h : x s = y t) : left x s = left y t := by
  unfold left
  rw [h]

theorem answer_of_ok {x : Run σ α} {a : α} {s t : σ} (h : x s = .ok a t) :
    answer x s = .ok a := by
  unfold answer
  rw [h]

theorem left_of_ok {x : Run σ α} {a : α} {s t : σ} (h : x s = .ok a t) : left x s = t := by
  unfold left
  rw [h]

theorem left_of_error {x : Run σ α} {stop : Stop} {s t : σ} (h : x s = .error stop t) :
    left x s = t := by
  unfold left
  rw [h]

theorem eq_error_of_answer {x : Run σ α} {s : σ} {stop : Stop} (h : answer x s = .error stop) :
    ∃ s', x s = .error stop s' := by
  unfold answer at h
  split at h
  · cases h
  next s' hx =>
    cases h
    exact ⟨s', hx⟩

theorem eq_ok_of_answer {x : Run σ α} {s : σ} {a : α} (h : answer x s = .ok a) :
    ∃ s', x s = .ok a s' := by
  unfold answer at h
  split at h
  next s' hx =>
    cases h
    exact ⟨s', hx⟩
  · cases h

theorem bind_eq (x : Run σ α) (next : α → Run σ β) (s : σ) :
    (x >>= next) s = match x s with
      | .ok a s => next a s
      | .error stop s => .error stop s := by
  change EStateM.bind x next s = _
  unfold EStateM.bind
  cases x s <;> rfl

theorem answer_bind_of_ok {x : Run σ α} {a : α} {s t : σ} (h : x s = .ok a t)
    (next : α → Run σ β) : answer (x >>= next) s = answer (next a) t := by
  unfold answer
  rw [bind_eq, h]

theorem answer_bind_of_error {x : Run σ α} {stop : Stop} {s t : σ} (h : x s = .error stop t)
    (next : α → Run σ β) : answer (x >>= next) s = .error stop := by
  unfold answer
  rw [bind_eq, h]

theorem bind_get (next : σ → Run σ β) (s : σ) : ((get : Run σ σ) >>= next) s = next s s := rfl

theorem ensuring_eq (x : Run σ α) (cleanup : Run σ Unit) (s : σ) : ensuring x cleanup s =
    match x s with
    | .ok a t =>
      match cleanup t with
      | .ok _ u => .ok a u
      | .error stop u => .error stop u
    | .error (.fault f) t =>
      match cleanup t with
      | .ok _ u => .error (.fault f) u
      | .error _ u => .error .abort u
    | .error .abort t => .error .abort t := by
  unfold ensuring
  rw [bind_eq]
  unfold onFault
  rcases x s with ⟨a, t⟩ | ⟨f | _, t⟩
  · dsimp only
    rw [bind_eq]
    cases cleanup t <;> rfl
  · dsimp only
    cases cleanup t <;> rfl
  · rfl

theorem ensuring_of_ok {x : Run σ α} {cleanup : Run σ Unit} {s t u : σ} {a : α}
    (done : x s = .ok a t) (cleaned : cleanup t = .ok () u) : ensuring x cleanup s = .ok a u := by
  rw [ensuring_eq, done]
  dsimp only
  rw [cleaned]

theorem left_map (x : Run σ α) (f : α → β) (s : σ) :
    left (do return f (← x) : Run σ β) s = left x s := by
  unfold left
  rw [bind_eq]
  cases x s <;> rfl

theorem left_noUnwind (x : Run σ α) (s : σ) : left (noUnwind x) s = left x s := by
  unfold left noUnwind
  cases x s <;> rfl

theorem exists_of_ensuring {x : Run σ α} {cleanup : Run σ Unit} {s t : σ} {a : α}
    (done : ensuring x cleanup s = .ok a t) : ∃ u, x s = .ok a u := by
  rw [ensuring_eq] at done
  split at done
  next b u hx =>
    split at done
    · cases done
      exact ⟨u, hx⟩
    · cases done
  next => split at done <;> cases done
  next => cases done

theorem exists_of_bind {x : Run σ α} {next : α → Run σ β} {s t : σ} {b : β}
    (done : (x >>= next) s = .ok b t) : ∃ a u, x s = .ok a u ∧ next a u = .ok b t := by
  rw [bind_eq] at done
  split at done
  next a u hx => exact ⟨a, u, hx, done⟩
  next => cases done

theorem ensuring_congr {x y : Run σ α} {s t : σ} (same : x s = y t) (cleanup : Run σ Unit) :
    ensuring x cleanup s = ensuring y cleanup t := by
  rw [ensuring_eq, ensuring_eq, same]

theorem noUnwind_congr {x y : Run σ α} {s t : σ} (same : x s = y t) :
    noUnwind x s = noUnwind y t := by
  unfold noUnwind
  rw [same]

theorem noUnwind_bind (x : Run σ α) (next : α → Run σ β) :
    noUnwind (x >>= next) = noUnwind x >>= fun a => noUnwind (next a) := by
  funext s
  rw [bind_eq]
  unfold noUnwind
  rw [bind_eq]
  cases x s <;> rfl

theorem noUnwind_eq (x : Run σ α) (s : σ) : noUnwind x s =
    match x s with
    | .ok a t => .ok a t
    | .error _ t => .error .abort t := by
  unfold noUnwind
  cases x s <;> rfl

/-- What ends there ends the process. -/
theorem stop_of_noUnwind {x : Run σ α} {s t : σ} {stop : Stop}
    (ended : noUnwind x s = .error stop t) : stop = .abort := by
  unfold noUnwind at ended
  split at ended
  · cases ended
    rfl
  next other => exact absurd ended (other _ _)

section RaisesOnly
variable {faults : Fault → Prop}

theorem RaisesOnly.mono {more : Fault → Prop} {x : Run σ α} (h : RaisesOnly faults x)
    (sub : ∀ f, faults f → more f) : RaisesOnly more x := by
  intro s f s' hx
  exact sub f (h s f s' hx)

theorem raises_only_pure (a : α) : RaisesOnly faults (pure a : Run σ α) := by
  intro s f s' h
  cases h

theorem raises_only_change (change : σ → α × σ) : RaisesOnly faults (Run.change change) := by
  intro s f s' h
  cases h

theorem raises_only_raise {f : Fault} (holds : faults f) :
    RaisesOnly faults (Run.raise f : Run σ α) := by
  intro s g s' h
  cases h
  exact holds

theorem raises_only_bind {x : Run σ α} {next : α → Run σ β} (first : RaisesOnly faults x)
    (rest : ∀ a, RaisesOnly faults (next a)) : RaisesOnly faults (x >>= next) := by
  intro s f s' h
  rw [bind_eq] at h
  cases hx : x s with
  | ok a t =>
    rw [hx] at h
    exact rest a t f s' h
  | error stop t =>
    rw [hx] at h
    cases h
    exact first s f _ hx

/-- A fault of the cleanup ends the process, so that only the fault of `x` gets out. -/
theorem raises_only_onFault {x : Run σ α} (cleanup : Run σ Unit) (first : RaisesOnly faults x) :
    RaisesOnly faults (onFault x cleanup) := by
  intro s f s' h
  unfold onFault at h
  split at h
  next g t hx =>
    split at h
    · cases h
      exact first s f t hx
    · cases h
  next => exact first s f s' h

end RaisesOnly

theorem stops_raise (f : Fault) : Stops (Run.raise f : Run σ α) := by
  intro s a s' h
  cases h

theorem stops_bind {x : Run σ α} {next : α → Run σ β} (rest : ∀ a, Stops (next a)) :
    Stops (x >>= next) := by
  intro s b s' h
  rw [bind_eq] at h
  cases hx : x s with
  | ok a t =>
    rw [hx] at h
    exact rest a t b s' h
  | error stop t =>
    rw [hx] at h
    cases h

theorem stops_onFault {x : Run σ α} (cleanup : Run σ Unit) (first : Stops x) :
    Stops (onFault x cleanup) := by
  intro s a s' h
  unfold onFault at h
  split at h
  · split at h <;> cases h
  · exact first s a s' h

/-! ### Runs that do not end the process -/

/-- `x` leads from `s` to `t`, with a value or with a fault that unwinds. -/
def Ends (x : Run σ α) (s t : σ) : Prop := left x s = t ∧ answer x s ≠ .error .abort

section Ends
variable {x : Run σ α} {s t : σ}

theorem ends_of_ok {a : α} (done : x s = .ok a t) : Ends x s t := by
  refine ⟨left_of_ok done, ?_⟩
  rw [answer_of_ok done]
  nofun

theorem ends_of_fault {f : Fault} (failed : x s = .error (.fault f) t) : Ends x s t := by
  refine ⟨left_of_error failed, ?_⟩
  unfold answer
  rw [failed]
  nofun

theorem ends_left {a : α} (done : answer x s = .ok a) : Ends x s (left x s) := by
  refine ⟨rfl, ?_⟩
  rw [done]
  nofun

theorem exists_of_ends (ended : Ends x s t) :
    (∃ a, x s = .ok a t) ∨ ∃ f, x s = .error (.fault f) t := by
  unfold Ends left answer at ended
  rcases first : x s with ⟨a, u⟩ | ⟨f | _, u⟩
  all_goals
    rw [first] at ended
    obtain ⟨rfl, alive⟩ := ended
  · exact .inl ⟨a, rfl⟩
  · exact .inr ⟨f, rfl⟩
  · exact absurd rfl alive

theorem ends_congr {y : Run σ α} {u : σ} (same : x s = y u) (ended : Ends x s t) :
    Ends y u t := by
  unfold Ends at ended ⊢
  rwa [← left_congr same, ← answer_congr same]

theorem ends_bind {next : α → Run σ β} (ended : Ends (x >>= next) s t) :
    (∃ a u, x s = .ok a u ∧ Ends (next a) u t) ∨ ∃ f, x s = .error (.fault f) t := by
  unfold Ends left answer at ended
  rw [bind_eq] at ended
  rcases first : x s with ⟨a, u⟩ | ⟨f | _, u⟩
  all_goals rw [first] at ended
  · exact .inl ⟨a, u, rfl, ended⟩
  · obtain ⟨rfl, -⟩ := ended
    exact .inr ⟨f, rfl⟩
  · exact absurd rfl ended.2

theorem ends_attempt (ended : Ends (attempt x) s t) : Ends x s t := by
  unfold Ends left answer attempt at ended
  rcases first : x s with ⟨a, u⟩ | ⟨f | _, u⟩
  all_goals
    rw [first] at ended
    obtain ⟨rfl, alive⟩ := ended
  · exact ends_of_ok first
  · exact ends_of_fault first
  · exact absurd rfl alive

theorem ends_onFault {cleanup : Run σ Unit} (ended : Ends (onFault x cleanup) s t) :
    (∃ a, x s = .ok a t) ∨ ∃ f u, x s = .error (.fault f) u ∧ cleanup u = .ok () t := by
  unfold Ends left answer onFault at ended
  rcases first : x s with ⟨a, u⟩ | ⟨f | _, u⟩
  all_goals
    rw [first] at ended
    dsimp only at ended
  · obtain ⟨rfl, -⟩ := ended
    exact .inl ⟨a, rfl⟩
  · cases cleaned : cleanup u with
    | ok _ v =>
      rw [cleaned] at ended
      obtain ⟨rfl, -⟩ := ended
      exact .inr ⟨f, u, rfl, cleaned⟩
    | error stop v =>
      rw [cleaned] at ended
      exact absurd rfl ended.2
  · exact absurd rfl ended.2

theorem ends_noUnwind (ended : Ends (noUnwind x) s t) : ∃ a, x s = .ok a t := by
  rcases exists_of_ends ended with ⟨a, done⟩ | ⟨f, failed⟩
  · unfold noUnwind at done
    cases first : x s with
    | ok b u =>
      rw [first] at done
      cases done
      exact ⟨a, rfl⟩
    | error stop u =>
      rw [first] at done
      cases done
  · cases stop_of_noUnwind failed

theorem ends_ensuring {cleanup : Run σ Unit} (ended : Ends (ensuring x cleanup) s t) :
    ∃ u, Ends x s u ∧ Ends cleanup u t := by
  unfold Ends left answer at ended
  rw [ensuring_eq] at ended
  rcases first : x s with ⟨a, u⟩ | ⟨f | _, u⟩
  all_goals
    rw [first] at ended
    dsimp only at ended
  · refine ⟨u, ends_of_ok first, ?_⟩
    cases cleaned : cleanup u with
    | ok _ v =>
      rw [cleaned] at ended
      obtain ⟨rfl, -⟩ := ended
      exact ends_of_ok cleaned
    | error stop v =>
      rw [cleaned] at ended
      obtain ⟨rfl, alive⟩ := ended
      refine ⟨left_of_error cleaned, ?_⟩
      unfold answer
      rw [cleaned]
      simpa using alive
  · refine ⟨u, ends_of_fault first, ?_⟩
    cases cleaned : cleanup u with
    | ok _ v =>
      rw [cleaned] at ended
      obtain ⟨rfl, -⟩ := ended
      exact ends_of_ok cleaned
    | error stop v =>
      rw [cleaned] at ended
      exact absurd rfl ended.2
  · exact absurd rfl ended.2

theorem left_ensuring_of_ends {cleanup : Run σ Unit} (ended : Ends x s t) :
    left (ensuring x cleanup) s = left cleanup t := by
  unfold left
  rw [ensuring_eq]
  rcases exists_of_ends ended with ⟨a, done⟩ | ⟨f, failed⟩
  · rw [done]
    dsimp only
    cases cleanup t <;> rfl
  · rw [failed]
    dsimp only
    cases cleanup t <;> rfl

theorem answer_ensuring_of_ends {cleanup : Run σ Unit} {u : σ} (ended : Ends x s t)
    (cleaned : cleanup t = .ok () u) : answer (ensuring x cleanup) s = answer x s := by
  unfold answer
  rw [ensuring_eq]
  rcases exists_of_ends ended with ⟨a, done⟩ | ⟨f, failed⟩
  · rw [done]
    dsimp only
    rw [cleaned]
  · rw [failed]
    dsimp only
    rw [cleaned]

end Ends

/-! ### Runs that leave a part of the state alone -/

section Retains
variable {γ : Type} {view : σ → γ} {x : Run σ α}

/-- What is seen of the state stays the same, also when `x` ends without a value. -/
def Retains (view : σ → γ) (x : Run σ α) : Prop := ∀ s, view (left x s) = view s

theorem Retains.of_ok (retains : Retains view x) {s t : σ} {a : α} (done : x s = .ok a t) :
    view t = view s := by
  have same := retains s
  rwa [left_of_ok done] at same

theorem Retains.of_error (retains : Retains view x) {s t : σ} {stop : Stop}
    (ended : x s = .error stop t) : view t = view s := by
  have same := retains s
  rwa [left_of_error ended] at same

theorem retains_pure (a : α) : Retains view (pure a : Run σ α) := fun _ => rfl

theorem retains_raise (f : Fault) : Retains view (Run.raise f : Run σ α) := fun _ => rfl

theorem retains_bind {next : α → Run σ β} (first : Retains view x)
    (rest : ∀ a, Retains view (next a)) : Retains view (x >>= next) := by
  intro s
  unfold left
  rw [bind_eq]
  rcases ran : x s with ⟨a, t⟩ | ⟨stop, t⟩
  · exact (rest a t).trans (first.of_ok ran)
  · exact first.of_error ran

/-- Such a cleanup leaves what `x` has left. -/
theorem left_onFault {cleanup : Run σ Unit} (cleans : Retains view cleanup) (s : σ) :
    view (left (onFault x cleanup) s) = view (left x s) := by
  unfold left onFault
  rcases x s with ⟨a, t⟩ | ⟨f | _, t⟩
  · rfl
  · dsimp only
    rcases done : cleanup t with ⟨_, u⟩ | ⟨_, u⟩
    · exact cleans.of_ok done
    · exact cleans.of_error done
  · rfl

theorem left_ensuring {cleanup : Run σ Unit} (cleans : Retains view cleanup) (s : σ) :
    view (left (ensuring x cleanup) s) = view (left x s) := by
  refine Eq.trans ?_ (left_onFault cleans s)
  unfold ensuring left
  rw [bind_eq]
  rcases onFault x cleanup s with ⟨a, t⟩ | ⟨stop, t⟩
  · exact retains_bind cleans (fun _ => retains_pure a) t
  · rfl

theorem retains_onFault {cleanup : Run σ Unit} (tried : Retains view x)
    (cleans : Retains view cleanup) : Retains view (onFault x cleanup) :=
  fun s => (left_onFault cleans s).trans (tried s)

theorem retains_ensuring {cleanup : Run σ Unit} (tried : Retains view x)
    (cleans : Retains view cleanup) : Retains view (ensuring x cleanup) :=
  fun s => (left_ensuring cleans s).trans (tried s)

end Retains

/-! ### Runs that change nothing -/

section Still
variable {x : Run σ α}

def Still (x : Run σ α) : Prop := ∀ s, left x s = s

theorem Still.retains (still : Still x) {γ : Type} (view : σ → γ) : Retains view x :=
  fun s => congrArg view (still s)

theorem still_pure (a : α) : Still (pure a : Run σ α) := fun _ => rfl

theorem still_raise (f : Fault) : Still (Run.raise f : Run σ α) := fun _ => rfl

theorem still_give (result : Except Fault α) : Still (Run.give result : Run σ α) := by
  cases result with
  | ok a => exact still_pure a
  | error f => exact still_raise f

theorem still_bind {next : α → Run σ β} (first : Still x) (rest : ∀ a, Still (next a)) :
    Still (x >>= next) :=
  retains_bind (first.retains id) fun a => (rest a).retains id

theorem still_onFault {cleanup : Run σ Unit} (tried : Still x) (cleans : Still cleanup) :
    Still (onFault x cleanup) :=
  retains_onFault (tried.retains id) (cleans.retains id)

end Still

end Boundary.Run
