import Boundary.Proofs.Text.Scans
import Boundary.Toml.Printer

/-!
A string is read back from the text it is written as, in each of the styles.

Quotes are what the styles differ in. Between two quotes none is bare. Between blocks of three a
run of at most two may be, also right before the closing ones, which then end a run of five.
-/
namespace Boundary
namespace Toml
open Scanner hiding some
variable {c quote : Char} {text content tail rest : List Char}

theorem hexDigits_of_lt : ∀ n < 128, isHexDigit (hexDigit (n / 16)) = true ∧
    isHexDigit (hexDigit (n % 16)) = true ∧
    numberOfChars 16 ['0', '0', hexDigit (n / 16), hexDigit (n % 16)] = n := by decide

theorem charOfNumber?_toNat (c : Char) : charOfNumber? c.toNat = some c := by
  have valid : c.toNat.isValidChar := c.valid
  rw [charOfNumber?, if_pos valid, Char.ofNat_toNat]

theorem takes_escaped_simple {e : Char} (simple : simpleEscape? e = some c) (rest : List Char) :
    Takes escaped [e] rest c := by
  apply (takes_one (p := fun _ => true) rfl rest).done
  simp only [simple]

theorem takes_escaped_number {digits : List Char} (four : digits.length = 4)
    (hexadecimal : ∀ d ∈ digits, isHexDigit d = true) (number : numberOfChars 16 digits = c.toNat)
    (rest : List Char) : Takes escaped ('u' :: digits) rest c := by
  apply (takes_one (p := fun _ => true) rfl _).bind
  have run : Takes (Scanner.exactly 4 isHexDigit) digits rest digits :=
    four ▸ takes_exactly hexadecimal
  apply run.done
  rw [number, charOfNumber?_toNat]

/-- A character that is told by an escape between double quotes; in a block newlines are not, and
not every quote is. -/
def needsBackslash (c : Char) : Bool := c = '"' || c = '\\' || isControl c || c = '\t'

theorem ne_of_bare (bare : needsBackslash c = false) :
    c ≠ '"' ∧ c ≠ '\\' ∧ isControl c = false := by
  simp only [needsBackslash, Bool.or_eq_false_iff, decide_eq_false_iff_not] at bare
  exact ⟨bare.1.1.1, bare.1.1.2, bare.1.2⟩

theorem takes_escape (needs : needsBackslash c = true) (rest : List Char) :
    ∃ code, escape c = '\\' :: code ∧ joinsLines (code ++ rest) = false ∧
      Takes escaped code rest c := by
  unfold escape
  split
  all_goals try exact ⟨_, rfl, rfl, takes_escaped_simple rfl rest⟩
  next _ _ tab _ _ _ quote backslash =>
    have control : isControl c = true := by
      simp only [needsBackslash, Bool.or_eq_true, decide_eq_true_eq] at needs
      exact (needs.resolve_right tab).resolve_left (not_or.2 ⟨quote, backslash⟩)
    have low : c.toNat < 128 := by
      simp only [isControl, Bool.or_eq_true, Bool.and_eq_true, decide_eq_true_eq] at control
      omega
    obtain ⟨high, last, number⟩ := hexDigits_of_lt c.toNat low
    refine ⟨_, rfl, rfl, takes_escaped_number rfl ?_ number rest⟩
    simp only [List.forall_mem_cons]
    exact ⟨by decide, by decide, high, last, nofun⟩

theorem escapeAll_inline (quotes : Nat) (c : Char) (text : List Char) :
    escapeAll false quotes (c :: text) =
      (if needsBackslash c then escape c else [c]) ++ escapeAll false 0 text := by
  rw [escapeAll]
  simp only [Bool.false_and, Bool.not_false, Bool.and_true, Bool.false_eq_true, if_false]
  change (if needsBackslash c = true then _ else _) = _
  split <;> rfl

theorem takes_basicRest (text : List Char) (quotes : Nat) {fuel : Nat} (rest : List Char)
    (enough : text.length < fuel) :
    Takes (basicRest fuel) (escapeAll false quotes text ++ ['"']) rest text := by
  induction text generalizing quotes fuel with
  | nil =>
    cases fuel with
    | zero => cases enough
    | succ fuel => exact (takes_one (by decide) rest).done rfl
  | cons c text ih =>
    cases fuel with
    | zero => cases enough
    | succ fuel =>
      have later := ih 0 (Nat.lt_of_succ_lt_succ enough)
      rw [escapeAll_inline, List.append_assoc]
      split
      next needs =>
        obtain ⟨code, written, -, told⟩ :=
          takes_escape needs (escapeAll false 0 text ++ ['"'] ++ rest)
        rw [written]
        exact (takes_one (c := '\\') (by decide) _).bind (told.bind (later.done rfl))
      next bare =>
        obtain ⟨quote, backslash, control⟩ := ne_of_bare (Bool.eq_false_iff.2 bare)
        apply (takes_one (p := fun c => !isControl c) (by simp [control]) _).bind
        simp only [if_neg quote, if_neg backslash]
        exact later.done rfl

theorem length_le_escapeAll (block : Bool) (quotes : Nat) (text : List Char) :
    text.length ≤ (escapeAll block quotes text).length := by
  induction text generalizing quotes with
  | nil => exact Nat.zero_le _
  | cons c text ih =>
    rw [escapeAll]
    split
    · exact Nat.succ_le_succ (ih _)
    split
    · have some : 0 < (escape c).length := by
        unfold escape
        split <;> exact Nat.succ_pos _
      have later := ih 0
      rw [List.length_append, List.length_cons]
      omega
    · exact Nat.succ_le_succ (ih 0)

theorem takes_bounded {α : Type} {s : Nat → Scanner α} {front : List Char} {a : α}
    (taken : Takes (s ((front ++ rest).length + 1)) front rest a) :
    Takes (bounded s) front rest a := taken

theorem takes_basic (text rest : List Char) :
    Takes inlineString ('"' :: escapeAll false 0 text ++ ['"']) rest (String.ofList text) := by
  refine (takes_one (c := '"') (by decide) _).bind (Takes.done (a := text) ?_ rfl)
  refine takes_bounded (takes_basicRest text 0 rest ?_)
  have longer := length_le_escapeAll false 0 text
  change text.length < (escapeAll false 0 text ++ ['"'] ++ rest).length + 1
  simp only [List.length_append]
  omega

theorem takes_literal_string (rest : List Char) (plain : ∀ c ∈ text, isControl c = false)
    (bare : '\'' ∉ text) :
    Takes inlineString ('\'' :: text ++ ['\'']) rest (String.ofList text) := by
  have inside : ∀ c ∈ text, (!isControl c && c ≠ '\'') = true := by
    intro c mem
    have other : c ≠ '\'' := fun same => bare (same ▸ mem)
    simp [plain c mem, other]
  have content : Takes literalRest (text ++ ['\'']) rest text :=
    (takes_many inside (stops_cons (by decide))).bind ((takes_char '\'' rest).done rfl)
  exact (takes_one (c := '\'') (by decide) _).bind (content.done rfl)

theorem takes_quotes {run : Nat} (most : run ≤ 5) (other : tail.head? ≠ some quote) :
    Takes (upTo 5 (· = quote)) (List.replicate run quote) tail (List.replicate run quote) := by
  refine takes_upTo ?_ (by simpa using most) (.inr (stops_of_head?_ne other))
  intro c mem
  exact decide_eq_true (List.eq_of_mem_replicate mem)

/-- Of a closing run the last three quotes close, and those before them belong to the string. -/
theorem takes_closing (more : Nat) (few : more ≤ 2) (other : rest.head? ≠ some quote) :
    Takes (closing? quote) (List.replicate (more + 3) quote) rest
      (some (List.replicate more quote)) := by
  apply (takes_quotes (Nat.add_le_add_right few 3) other).done
  rw [if_neg (by simp), List.drop_replicate, Nat.add_sub_cancel]

theorem takes_closing_none {run : Nat} (few : run ≤ 2) (other : tail.head? ≠ some quote) :
    Takes (closing? quote) [] (List.replicate run quote ++ tail) none := by
  have taken := takes_quotes (Nat.le_trans few (by decide)) other
  have short : (List.replicate run quote).length < 3 := by simpa using Nat.lt_succ_of_le few
  rw [Takes, closing?, List.nil_append, bind_apply, taken]
  simp only [Option.bind_some, if_pos short]
  rfl

theorem newline_eq_none (stops : Stops isControl text) : newline text = none := by
  unfold newline
  split
  · cases stops '\n' rfl
  · cases stops '\r' rfl
  · rfl

theorem escapeAll_quote {quotes : Nat} (few : quotes < 2) (text : List Char) :
    escapeAll true quotes ('"' :: text) = '"' :: escapeAll true (quotes + 1) text := by
  simp [escapeAll, few]

theorem escapeAll_newline (quotes : Nat) (text : List Char) :
    escapeAll true quotes ('\n' :: text) = '\n' :: escapeAll true 0 text := by
  rw [escapeAll, if_neg (by simp), if_neg (by decide)]

theorem escapeAll_escape {quotes : Nat} (needs : needsBackslash c = true) (line : c ≠ '\n')
    (quote : c = '"' → ¬ quotes < 2) (text : List Char) :
    escapeAll true quotes (c :: text) = escape c ++ escapeAll true 0 text := by
  rw [escapeAll, if_neg (by simpa using quote),
    if_pos (by simpa [needsBackslash, line] using needs)]

theorem escapeAll_bare {quotes : Nat} (bare : needsBackslash c = false) (text : List Char) :
    escapeAll true quotes (c :: text) = c :: escapeAll true 0 text := by
  simp only [needsBackslash, Bool.or_eq_false_iff, decide_eq_false_iff_not] at bare
  obtain ⟨⟨⟨quote, backslash⟩, control⟩, tab⟩ := bare
  rw [escapeAll, if_neg (by simp [quote]), if_neg (by simp [quote, backslash, control, tab])]

/-- How the first character of a block is written. -/
theorem escapeAll_cases (c : Char) (quotes : Nat) :
    (c = '"' ∧ quotes < 2) ∨ c = '\n' ∨
      (needsBackslash c = true ∧ c ≠ '\n' ∧ (c = '"' → ¬ quotes < 2)) ∨
      needsBackslash c = false := by
  cases needsBackslash c <;> grind

/-- Where a block goes on, it goes on with a run of quotes that is too short to close it, unless
these quotes are all that is left. -/
theorem exists_quotes_of_escapeAll (text : List Char) {quotes : Nat} (few : quotes ≤ 2) :
    ∃ run tail, escapeAll true quotes text = List.replicate run '"' ++ tail ∧ quotes + run ≤ 2 ∧
      tail.head? ≠ some '"' ∧ (tail = [] → text = List.replicate run '"') := by
  induction text generalizing quotes with
  | nil => exact ⟨0, [], rfl, few, nofun, fun _ => rfl⟩
  | cons c text ih =>
    rcases escapeAll_cases c quotes with ⟨rfl, room⟩ | rfl | ⟨needs, line, quote⟩ | bare
    · obtain ⟨run, tail, written, total, other, only⟩ := ih room
      refine ⟨run + 1, tail, ?_, by omega, other, ?_⟩
      · rw [escapeAll_quote room, written]
        rfl
      · intro none
        rw [only none]
        rfl
    · exact ⟨0, _, escapeAll_newline quotes text, few, nofun, nofun⟩
    · obtain ⟨code, written, -, -⟩ := takes_escape needs []
      refine ⟨0, _, escapeAll_escape needs line quote text, few, ?_, ?_⟩
      · rw [written]
        nofun
      · rw [written]
        nofun
    · refine ⟨0, _, escapeAll_bare bare text, few, ?_, nofun⟩
      rintro ⟨⟩
      cases bare

/-- The quotes that are left end a block, or there are too few of them before what comes next. -/
theorem closing_of_quotes {run : Nat} (few : run ≤ 2) (other : rest.head? ≠ some quote)
    (front : tail.head? ≠ some quote) :
    tail = [] ∧ Takes (closing? quote) (List.replicate run quote ++ tail ++ [quote, quote, quote])
      rest (some (List.replicate run quote)) ∨
    Takes (closing? quote) []
      (List.replicate run quote ++ tail ++ [quote, quote, quote] ++ rest) none := by
  cases tail with
  | nil =>
    refine .inl ⟨rfl, ?_⟩
    have joined : List.replicate run quote ++ [] ++ [quote, quote, quote] =
        List.replicate (run + 3) quote := by
      rw [List.append_nil]
      exact List.replicate_append_replicate (n := run) (m := 3)
    rw [joined]
    exact takes_closing run few other
  | cons d tail =>
    refine .inr ?_
    have ends : (d :: tail ++ ([quote, quote, quote] ++ rest)).head? ≠ some quote := front
    have none := takes_closing_none few ends
    simpa only [List.append_assoc] using none

theorem takes_newline (rest : List Char) :
    Takes (attempt newline) ['\n'] rest (some ['\n']) := rfl

theorem takes_no_newline (control : isControl c = false) (text : List Char) :
    Takes (attempt newline) [] (c :: text) none :=
  takes_attempt_of_none (newline_eq_none (stops_cons control))

/-- A character of a block, where the rest of the block does not begin with the closing quotes. -/
theorem takes_blockBasicRest_cons {quotes fuel : Nat}
    (goesOn : Takes (closing? '"') []
      (escapeAll true quotes (c :: text) ++ ['"', '"', '"'] ++ rest) none)
    (later : ∀ quotes ≤ 2, Takes (blockBasicRest fuel)
      (escapeAll true quotes text ++ ['"', '"', '"']) rest text) :
    Takes (blockBasicRest (fuel + 1)) (escapeAll true quotes (c :: text) ++ ['"', '"', '"']) rest
      (c :: text) := by
  apply goesOn.after
  rcases escapeAll_cases c quotes with ⟨rfl, space⟩ | rfl | ⟨needs, line, quote⟩ | bare
  · rw [escapeAll_quote space]
    apply (takes_no_newline (by decide) _).after
    exact (takes_one (c := '"') (by decide) _).bind ((later (quotes + 1) space).done rfl)
  · rw [escapeAll_newline]
    exact (takes_newline _).bind ((later 0 (by decide)).done rfl)
  · obtain ⟨code, spelled, apart, told⟩ :=
      takes_escape needs (escapeAll true 0 text ++ ['"', '"', '"'] ++ rest)
    rw [← List.append_assoc] at apart
    rw [escapeAll_escape needs line quote, spelled, List.append_assoc, List.cons_append]
    apply (takes_no_newline (by decide) _).after
    apply (takes_one (c := '\\') (by decide) _).cons
    apply (takes_get _).after
    rw [if_neg (Bool.eq_false_iff.1 apart)]
    exact told.bind ((later 0 (by decide)).done rfl)
  · obtain ⟨-, backslash, control⟩ := ne_of_bare bare
    rw [escapeAll_bare bare]
    apply (takes_no_newline control _).after
    apply (takes_one (p := fun c => !isControl c) (by simp [control]) _).bind
    simp only [if_neg backslash]
    exact (later 0 (by decide)).done rfl

theorem takes_blockBasicRest (text : List Char) {quotes fuel : Nat} (few : quotes ≤ 2)
    (enough : text.length < fuel) (other : rest.head? ≠ some '"') :
    Takes (blockBasicRest fuel) (escapeAll true quotes text ++ ['"', '"', '"']) rest text := by
  induction text generalizing quotes fuel with
  | nil =>
    cases fuel with
    | zero => cases enough
    | succ fuel => exact (takes_closing 0 (by decide) other).done rfl
  | cons c text ih =>
    cases fuel with
    | zero => cases enough
    | succ fuel =>
      have room := Nat.lt_of_succ_lt_succ enough
      obtain ⟨run, tail, written, total, front, only⟩ := exists_quotes_of_escapeAll (c :: text) few
      rcases closing_of_quotes (show run ≤ 2 by omega) other front with ⟨none, closes⟩ | goesOn
      · rw [← written] at closes
        apply closes.done
        rw [only none]
      · rw [← written] at goesOn
        exact takes_blockBasicRest_cons goesOn fun quotes few => ih few room

theorem longestRun_cons_le {run most : Nat} (fits : longestRun quote run (c :: text) ≤ most) :
    longestRun quote (if c = quote then run + 1 else 0) text ≤ most := by
  rw [longestRun] at fits
  split at fits
  next same => rwa [if_pos same]
  next other =>
    rw [if_neg other]
    omega

theorem exists_quotes_of_longestRun {run : Nat} (text : List Char)
    (few : longestRun quote run text ≤ 2) : ∃ more tail, text = List.replicate more quote ++ tail ∧
      run + more ≤ 2 ∧ tail.head? ≠ some quote := by
  induction text generalizing run with
  | nil => exact ⟨0, [], rfl, few, nofun⟩
  | cons c text ih =>
    by_cases same : c = quote
    · subst same
      obtain ⟨more, tail, rfl, total, other⟩ := ih (by simpa using longestRun_cons_le few)
      exact ⟨more + 1, tail, rfl, by omega, other⟩
    · rw [longestRun, if_neg same] at few
      exact ⟨0, c :: text, rfl, by omega, fun head => same (Option.some.inj head)⟩

theorem takes_blockLiteralRest (text : List Char) {run fuel : Nat}
    (plain : ∀ c ∈ text, needsEscape c = false) (few : longestRun '\'' run text ≤ 2)
    (enough : text.length < fuel) (other : rest.head? ≠ some '\'') :
    Takes (blockLiteralRest fuel) (text ++ ['\'', '\'', '\'']) rest text := by
  induction text generalizing run fuel with
  | nil =>
    cases fuel with
    | zero => cases enough
    | succ fuel => exact (takes_closing 0 (by decide) other).done rfl
  | cons c text ih =>
    cases fuel with
    | zero => cases enough
    | succ fuel =>
      obtain ⟨more, tail, written, total, front⟩ := exists_quotes_of_longestRun (c :: text) few
      rcases closing_of_quotes (show more ≤ 2 by omega) other front with ⟨none, closes⟩ | goesOn
      · rw [← written] at closes
        apply closes.done
        rw [written, none, List.append_nil]
      · rw [← written] at goesOn
        apply goesOn.after
        have later := ih (fun d mem => plain d (List.mem_cons_of_mem c mem))
          (longestRun_cons_le few) (Nat.lt_of_succ_lt_succ enough)
        by_cases line : c = '\n'
        · subst line
          exact (takes_newline _).bind (later.done rfl)
        · have control : isControl c = false := by
            simpa [needsEscape, line] using plain c List.mem_cons_self
          apply (takes_no_newline control _).after
          exact (takes_one (p := fun c => !isControl c) (by simp [control]) _).bind (later.done rfl)

theorem stops_control_escapeAll (lines : '\n' ∉ text) (quotes : Nat) :
    Stops isControl (escapeAll true quotes text) := by
  cases text with
  | nil => exact stops_nil
  | cons c text =>
    rcases escapeAll_cases c quotes with ⟨rfl, room⟩ | rfl | ⟨needs, line, quote⟩ | bare
    · rw [escapeAll_quote room]
      exact stops_cons (by decide)
    · exact absurd List.mem_cons_self lines
    · obtain ⟨code, written, -, -⟩ := takes_escape needs []
      rw [escapeAll_escape needs line quote, written]
      exact stops_cons (by decide)
    · rw [escapeAll_bare bare]
      exact stops_cons (ne_of_bare bare).2.2

theorem not_control_of_plain (lines : '\n' ∉ text) (plain : ∀ c ∈ text, needsEscape c = false) :
    ∀ c ∈ text, isControl c = false := by
  intro c mem
  have line : c ≠ '\n' := fun same => lines (same ▸ mem)
  simpa [needsEscape, line] using plain c mem

/-- A newline right behind the opening quotes is dropped; one is written wherever the text has
newlines, so that none of these is lost. -/
theorem takes_block {s : Nat → Scanner (List Char)} {feed : Bool}
    (own : feed = false → Stops isControl content) (visible : isControl quote = false)
    (longer : text.length ≤ content.length) (taken : ∀ fuel, text.length < fuel →
      Takes (s fuel) (content ++ [quote, quote, quote]) rest text) :
    Takes (block s) ((if feed then ['\n'] else []) ++ content ++ [quote, quote, quote]) rest
      (String.ofList text) := by
  have inner : Takes (bounded s) (content ++ [quote, quote, quote]) rest text := by
    refine takes_bounded (taken _ ?_)
    simp only [List.length_append]
    omega
  cases feed with
  | true => exact (takes_newline _).bind (inner.done rfl)
  | false =>
    have stops : Stops isControl (content ++ [quote, quote, quote] ++ rest) := by
      cases content with
      | nil => exact stops_cons visible
      | cons c content => exact own rfl
    exact (takes_attempt_of_none (newline_eq_none stops)).after (inner.done rfl)

theorem le_longestRun (quote : Char) (run : Nat) (text : List Char) :
    run ≤ longestRun quote run text := by
  induction text generalizing run with
  | nil => exact Nat.le_refl run
  | cons c text ih =>
    rw [longestRun]
    split
    · exact Nat.le_of_succ_le (ih (run + 1))
    · exact Nat.le_max_left _ _

theorem not_mem_of_longestRun {run : Nat} (none : longestRun quote run text = 0) :
    quote ∉ text := by
  induction text generalizing run with
  | nil => nofun
  | cons c text ih =>
    rw [longestRun] at none
    split at none
    · have some := le_longestRun quote (run + 1) text
      omega
    next other =>
      have later := ih (show longestRun quote 0 text = 0 by omega)
      rw [List.mem_cons, not_or]
      exact ⟨Ne.symm other, later⟩

theorem styleOf_literal (style : styleOf text = .literal) :
    (∀ c ∈ text, needsEscape c = false) ∧ longestRun '\'' 0 text = 0 ∧ '\n' ∉ text := by
  unfold styleOf at style
  grind

theorem styleOf_blockLiteral (style : styleOf text = .blockLiteral) :
    (∀ c ∈ text, needsEscape c = false) ∧ longestRun '\'' 0 text ≤ 2 := by
  unfold styleOf at style
  grind

theorem head?_escapeAll_inline (text : List Char) :
    (escapeAll false 0 text).head? ≠ some '"' := by
  cases text with
  | nil => nofun
  | cons c text =>
    rw [escapeAll_inline]
    split
    next needs =>
      obtain ⟨code, written, -, -⟩ := takes_escape needs []
      rw [written]
      nofun
    next bare =>
      intro same
      exact (ne_of_bare (Bool.eq_false_iff.2 bare)).1 (Option.some.inj same)

/-- A quote, its text and the closing quote do not look like the three quotes of a block. -/
theorem isPrefixOf_quotes (front : content.head? ≠ some quote) (other : rest.head? ≠ some quote) :
    [quote, quote, quote].isPrefixOf (quote :: content ++ [quote] ++ rest) = false := by
  cases content with
  | nil =>
    cases rest with
    | nil => simp [List.isPrefixOf]
    | cons d rest =>
      have apart : quote ≠ d := fun same => other (same ▸ rfl)
      simp [List.isPrefixOf, apart]
  | cons d content =>
    have apart : quote ≠ d := fun same => front (same ▸ rfl)
    simp [List.isPrefixOf, apart]

theorem takes_quoted_inline {s : String} (mark : quote = '"' ∨ quote = '\'')
    (front : content.head? ≠ some quote) (other : rest.head? ≠ some quote)
    (taken : Takes inlineString (quote :: content ++ [quote]) rest s) :
    Takes quoted (quote :: content ++ [quote]) rest s := by
  have short := isPrefixOf_quotes front other
  apply (takes_ahead _ _).after
  rcases mark with rfl | rfl
  · rw [short]
    apply (takes_ahead _ _).after
    exact taken
  · apply (takes_ahead _ _).after
    rw [short]
    exact taken

theorem takes_quoted_blockBasic {body : List Char} {s : String}
    (taken : Takes (block blockBasicRest) body rest s) :
    Takes quoted (['"', '"', '"'] ++ body) rest s :=
  (takes_ahead _ _).after ((takes_literal _ _).bind taken)

theorem takes_quoted_blockLiteral {body : List Char} {s : String}
    (taken : Takes (block blockLiteralRest) body rest s) :
    Takes quoted (['\'', '\'', '\''] ++ body) rest s :=
  (takes_ahead _ _).after ((takes_ahead _ _).after ((takes_literal _ _).bind taken))

/-- A string is read back from its text, in whatever style that is. -/
theorem takes_quoted (s : String) (double : rest.head? ≠ some '"')
    (single : rest.head? ≠ some '\'') : Takes quoted (stringText s) rest s := by
  unfold stringText
  simp only
  cases style : styleOf s.toList with
  | basic =>
    have taken := takes_basic s.toList rest
    rw [String.ofList_toList] at taken
    exact takes_quoted_inline (.inl rfl) (head?_escapeAll_inline s.toList) double taken
  | literal =>
    obtain ⟨plain, none, lines⟩ := styleOf_literal style
    have bare := not_mem_of_longestRun none
    have front : s.toList.head? ≠ some '\'' := fun head => bare (List.mem_of_mem_head? head)
    have taken := takes_literal_string rest (not_control_of_plain lines plain) bare
    rw [String.ofList_toList] at taken
    exact takes_quoted_inline (.inr rfl) front single taken
  | blockBasic =>
    have lines : s.toList.contains '\n' = false → Stops isControl (escapeAll true 0 s.toList) :=
      fun none => stops_control_escapeAll (by simpa using none) 0
    have taken := takes_block lines (by decide) (length_le_escapeAll true 0 s.toList)
      fun fuel enough => takes_blockBasicRest s.toList (Nat.zero_le 2) enough double
    rw [String.ofList_toList] at taken
    simpa only [blockText, List.append_assoc] using takes_quoted_blockBasic taken
  | blockLiteral =>
    obtain ⟨plain, few⟩ := styleOf_blockLiteral style
    have lines : s.toList.contains '\n' = false → Stops isControl s.toList := by
      intro none c mem
      exact not_control_of_plain (by simpa using none) plain c (List.mem_of_mem_head? mem)
    have taken := takes_block lines (by decide) (Nat.le_refl _) fun fuel enough =>
      takes_blockLiteralRest s.toList plain few enough single
    rw [String.ofList_toList] at taken
    simpa only [blockText, List.append_assoc] using takes_quoted_blockLiteral taken

theorem head?_stringText (s : String) (rest : List Char) :
    (stringText s ++ rest).head? = some '"' ∨ (stringText s ++ rest).head? = some '\'' := by
  unfold stringText
  simp only
  cases styleOf s.toList with
  | basic | blockBasic => exact .inl rfl
  | literal | blockLiteral => exact .inr rfl

end Toml
end Boundary
