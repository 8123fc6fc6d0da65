import Boundary.Text.Scanner

/-!
What a scanner takes from the front of a text, and what it makes of it, whatever comes after that.

The rest is part of every statement: a scanner that takes all it can stops where it does because of
what comes next. What a scanner makes of any text at all is told without it.
-/
namespace Boundary
namespace Scanner
variable {α β : Type} {s : Scanner α} {f : α → Scanner β} {p : Char → Bool} {a : α} {b : β}
  {c : Char} {front back rest run text : List Char}

/-- Where `front` is followed by `rest`, `s` takes just `front` and gives `a`. -/
def Takes (s : Scanner α) (front rest : List Char) (a : α) : Prop :=
  s (front ++ rest) = Option.some (a, rest)

/-- The text does not go on with a character that satisfies `p`. -/
def Stops (p : Char → Bool) (rest : List Char) : Prop := ∀ c ∈ rest.head?, p c = false

theorem stops_nil : Stops p [] := nofun

theorem stops_cons (no : p c = false) : Stops p (c :: rest) := by
  intro d mem
  cases mem
  exact no

theorem stops_of_head? (head : rest.head? = Option.some c) (no : p c = false) : Stops p rest := by
  intro d mem
  rw [head] at mem
  cases mem
  exact no

theorem stops_of_head?_ne (other : rest.head? ≠ Option.some c) :
    Stops (fun d => decide (d = c)) rest := by
  intro d mem
  apply decide_eq_false
  rintro rfl
  exact other mem

theorem bind_apply (s : Scanner α) (f : α → Scanner β) (text : List Char) :
    (s >>= f) text = (s text).bind fun p => f p.1 p.2 := rfl

theorem takes_pure (a : α) (rest : List Char) : Takes (pure a) [] rest a := rfl

theorem Takes.bind (first : Takes s front (back ++ rest) a) (next : Takes (f a) back rest b) :
    Takes (s >>= f) (front ++ back) rest b := by
  rw [Takes, bind_apply, List.append_assoc, first]
  exact next

theorem Takes.cons (first : Takes s [c] (back ++ rest) a) (next : Takes (f a) back rest b) :
    Takes (s >>= f) (c :: back) rest b :=
  first.bind next

/-- What is looked at but not taken comes before what is taken. -/
theorem Takes.after (first : Takes s [] (back ++ rest) a) (next : Takes (f a) back rest b) :
    Takes (s >>= f) back rest b :=
  first.bind next

/-- What is looked at but not taken comes after what is taken. -/
theorem Takes.before (first : Takes s front rest a) (next : Takes (f a) [] rest b) :
    Takes (s >>= f) front rest b := by
  have both : Takes (s >>= f) (front ++ []) rest b := first.bind next
  rwa [List.append_nil] at both

theorem Takes.done (first : Takes s front rest a) (made : f a = pure b) :
    Takes (s >>= f) front rest b := by
  apply first.before
  rw [made]
  exact takes_pure b rest

theorem Takes.map (first : Takes s front rest a) (f : α → β) :
    Takes (f <$> s) front rest (f a) := by
  change (s (front ++ rest)).bind _ = _
  rw [first]
  rfl

theorem Takes.all (whole : Takes s text [] a) : all s text = Option.some a := by
  unfold Takes at whole
  rw [List.append_nil] at whole
  rw [Scanner.all, whole]

theorem takes_get (rest : List Char) : Takes (get : Scanner (List Char)) [] rest rest := rfl

theorem takes_peek (rest : List Char) : Takes peek [] rest rest.head? := rfl

theorem takes_ahead (start rest : List Char) :
    Takes (ahead start) [] rest (start.isPrefixOf rest) := rfl

theorem takes_one (good : p c = true) (rest : List Char) : Takes (one p) [c] rest c := by
  simp [Takes, one, good]

theorem takes_char (c : Char) (rest : List Char) : Takes (char c) [c] rest () :=
  (takes_one (decide_eq_true rfl) rest).done rfl

theorem takes_literal (text rest : List Char) : Takes (literal text) text rest () := by
  induction text with
  | nil => exact takes_pure () rest
  | cons c text ih => exact (takes_char c _).bind ih

theorem takeWhile_of_stops (inside : ∀ c ∈ run, p c = true) (stops : Stops p rest) :
    (run ++ rest).takeWhile p = run := by
  rw [List.takeWhile_append_of_pos inside]
  cases rest with
  | nil => simp
  | cons c rest => simp [stops c rfl]

theorem dropWhile_of_stops (inside : ∀ c ∈ run, p c = true) (stops : Stops p rest) :
    (run ++ rest).dropWhile p = rest := by
  rw [List.dropWhile_append_of_pos inside]
  cases rest with
  | nil => rfl
  | cons c rest => simp [stops c rfl]

theorem takes_many (inside : ∀ c ∈ run, p c = true) (stops : Stops p rest) :
    Takes (many p) run rest run := by
  rw [Takes, many, takeWhile_of_stops inside stops, dropWhile_of_stops inside stops]

theorem takes_skip (inside : ∀ c ∈ run, p c = true) (stops : Stops p rest) :
    Takes (skip p) run rest () :=
  (takes_many inside stops).done rfl

theorem takes_skip_nothing (stops : Stops p rest) : Takes (skip p) [] rest () :=
  takes_skip nofun stops

theorem takes_some (run_ne : run ≠ []) (inside : ∀ c ∈ run, p c = true) (stops : Stops p rest) :
    Takes (some p) run rest run := by
  cases run with
  | nil => exact absurd rfl run_ne
  | cons c run =>
    have more : ∀ d ∈ run, p d = true := fun d mem => inside d (List.mem_cons_of_mem c mem)
    exact (takes_one (inside c List.mem_cons_self) _).bind ((takes_many more stops).done rfl)

/-- A run ends where `most` is reached or the next character is no more of its kind. -/
theorem takes_upTo {most : Nat} (inside : ∀ c ∈ run, p c = true) (fits : run.length ≤ most)
    (ends : run.length = most ∨ Stops p rest) : Takes (upTo most p) run rest run := by
  have found : ((run ++ rest).take most).takeWhile p = run := by
    rw [List.take_append, List.take_of_length_le fits]
    apply takeWhile_of_stops inside
    intro c mem
    rw [List.head?_take] at mem
    split at mem
    · cases mem
    next room =>
      rcases ends with full | stops
      · omega
      · exact stops c mem
  rw [Takes, upTo]
  simp [found]

theorem takes_exactly (inside : ∀ c ∈ run, p c = true) :
    Takes (exactly run.length p) run rest run :=
  (takes_upTo inside (Nat.le_refl _) (.inl rfl)).done (if_pos rfl)

theorem Takes.attempt (taken : Takes s front rest a) :
    Takes (attempt s) front rest (Option.some a) := by
  rw [Takes, Scanner.attempt, taken]

theorem takes_attempt_of_none (fails : s rest = none) : Takes (attempt s) [] rest none := by
  simp [Takes, Scanner.attempt, fails]

theorem one_eq_none (stops : Stops p rest) : one p rest = none := by
  cases rest with
  | nil => rfl
  | cons c rest => simp [one, stops c rfl]

theorem char_eq_none (other : rest.head? ≠ Option.some c) : char c rest = none := by
  rw [char, bind_apply, one_eq_none (stops_of_head?_ne other)]
  rfl

theorem takes_separated_last {separator : Char} (fuel : Nat) (item : Takes s front rest a)
    (last : rest.head? ≠ Option.some separator) :
    Takes (separated separator s (fuel + 1)) front rest [a] := by
  rw [Takes, separated, bind_apply, item, Option.bind_some, bind_apply, Scanner.attempt,
    char_eq_none last]
  rfl

theorem takes_separated_more {separator : Char} {fuel : Nat} {items : List α}
    (item : Takes s front (separator :: (back ++ rest)) a)
    (more : Takes (separated separator s fuel) back rest items) :
    Takes (separated separator s (fuel + 1)) (front ++ separator :: back) rest (a :: items) := by
  have mark := (takes_char separator (back ++ rest)).attempt
  have next : Takes s front (separator :: back ++ rest) a := item
  exact next.bind (mark.bind (more.done rfl))

section
variable {P : α → Prop} {Q : β → Prop}

/-- Whatever `s` makes of a text satisfies `P`. -/
def Yields (s : Scanner α) (P : α → Prop) : Prop :=
  ∀ text a rest, s text = Option.some (a, rest) → P a

theorem yields_any (s : Scanner α) : Yields s fun _ => True := fun _ _ _ _ => trivial

theorem yields_fail : Yields fail P := nofun

theorem yields_pure {a : α} (holds : P a) : Yields (pure a) P := by
  intro text b rest made
  cases made
  exact holds

theorem Yields.bind (first : Yields s P) (next : ∀ a, P a → Yields (f a) Q) :
    Yields (s >>= f) Q := by
  intro text b rest made
  rw [bind_apply] at made
  obtain ⟨⟨a, left⟩, taken, made⟩ := Option.bind_eq_some_iff.1 made
  exact next a (first text a left taken) left b rest made

/-- What comes first does not matter. -/
theorem yields_bind (next : ∀ a, Yields (f a) Q) : Yields (s >>= f) Q :=
  (yields_any s).bind fun a _ => next a

theorem Yields.map (yields : Yields s P) {g : α → β} (holds : ∀ a, P a → Q (g a)) :
    Yields (g <$> s) Q :=
  yields.bind fun a good => yields_pure (holds a good)

theorem Yields.all (yields : Yields s P) {text : List Char} {a : α}
    (whole : s.all text = Option.some a) : P a := by
  unfold Scanner.all at whole
  split at whole
  next b taken =>
    cases whole
    exact yields text _ _ taken
  next => cases whole

end

end Scanner

/-- A list is read back where each of its items is. -/
theorem mapM_map_of_inverse {α β : Type} {f : α → β} {g : β → Option α} {as : List α}
    (inverse : ∀ a ∈ as, g (f a) = some a) : (as.map f).mapM g = some as := by
  induction as with
  | nil => rfl
  | cons a as ih =>
    rw [List.map_cons, List.mapM_cons, inverse a List.mem_cons_self,
      ih fun b mem => inverse b (List.mem_cons_of_mem a mem)]
    rfl

/-- What is read from a list tells the list where each item is told by what is read from it. -/
theorem eq_map_of_mapM {α β : Type} {f : α → β} {g : β → Option α} {P : α → Prop}
    (told : ∀ {b a}, g b = some a → b = f a ∧ P a) {as : List α} {bs : List β}
    (read : bs.mapM g = some as) : bs = as.map f ∧ ∀ a ∈ as, P a := by
  induction bs generalizing as with
  | nil =>
    cases read
    exact ⟨rfl, nofun⟩
  | cons b bs ih =>
    rw [List.mapM_cons] at read
    obtain ⟨a, first, read⟩ := Option.bind_eq_some_iff.1 read
    obtain ⟨rest, others, same⟩ := Option.bind_eq_some_iff.1 read
    cases same
    obtain ⟨rfl, good⟩ := told first
    obtain ⟨rfl, each⟩ := ih others
    exact ⟨rfl, List.forall_mem_cons.2 ⟨good, each⟩⟩

end Boundary
