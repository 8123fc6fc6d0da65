import Boundary.Proofs.Toml.Numbers
import Boundary.Proofs.Toml.Strings

/-!
Written lines are read back, one statement from each: keys of any text, and strings and numbers
as their values.
-/
namespace Boundary
namespace Toml
open Scanner hiding some
variable {c : Char} {front back rest text : List Char} {key : String} {v : Toml}

/-- A key is written bare, between double quotes or, if nothing in it is in the way, between single
ones. -/
theorem keyText_cases (key : String) :
    (key.toList ≠ [] ∧ (∀ c ∈ key.toList, isBareKey c = true) ∧ keyText key = key.toList) ∨
    keyText key = '"' :: escapeAll false 0 key.toList ++ ['"'] ∨
    ((∀ c ∈ key.toList, isControl c = false) ∧ '\'' ∉ key.toList ∧
      keyText key = '\'' :: key.toList ++ ['\'']) := by
  unfold keyText
  simp only
  split
  next bare =>
    simp only [Bool.and_eq_true, Bool.not_eq_true', List.all_eq_true,
      List.isEmpty_eq_false_iff] at bare
    exact .inl ⟨bare.1, bare.2, rfl⟩
  split
  · exact .inr (.inl rfl)
  split
  next apart =>
    simp only [Bool.and_eq_true, Bool.not_eq_true', List.any_eq_false, Bool.not_eq_true] at apart
    exact .inr (.inr ⟨apart.1, by simpa using apart.2, rfl⟩)
  · exact .inr (.inl rfl)

/-- A character that a line can begin with if it assigns a value. -/
def BeginsKey (c : Char) : Prop := isSpace c = false ∧ c ∉ ['#', '\n', '\r', '[']

theorem beginsKey_of_bare (bare : isBareKey c = true) : BeginsKey c := by
  constructor
  · apply Bool.eq_false_iff.2
    intro space
    simp only [isSpace, Bool.or_eq_true, decide_eq_true_eq] at space
    rcases space with rfl | rfl <;> cases bare
  · intro mem
    simp only [List.mem_cons, List.not_mem_nil, or_false] at mem
    rcases mem with rfl | rfl | rfl | rfl <;> cases bare

theorem beginsKey_keyText (key : String) (rest : List Char) :
    ∃ c, (keyText key ++ rest).head? = some c ∧ BeginsKey c := by
  rcases keyText_cases key with ⟨key_ne, bare, written⟩ | written | ⟨-, -, written⟩
  · rw [written]
    cases text : key.toList with
    | nil => exact absurd text key_ne
    | cons c cs =>
      rw [text] at bare
      exact ⟨c, rfl, beginsKey_of_bare (bare c List.mem_cons_self)⟩
  · rw [written]
    exact ⟨'"', rfl, rfl, by decide⟩
  · rw [written]
    exact ⟨'\'', rfl, rfl, by decide⟩

theorem takes_simpleKey (key : String) (stops : Stops isBareKey rest) :
    Takes simpleKey (keyText key) rest key := by
  apply (takes_peek _).after
  rcases keyText_cases key with ⟨key_ne, bare, written⟩ | written | ⟨visible, apart, written⟩
  · have run := takes_some key_ne bare stops
    have first : ∀ c ∈ (key.toList ++ rest).head?, isBareKey c = true := by
      intro c head
      rw [List.head?_append, Option.or_of_isSome (List.isSome_head?.2 key_ne)] at head
      exact bare c (List.mem_of_mem_head? head)
    rw [written]
    split
    next mark => cases first _ mark
    next mark => cases first _ mark
    · exact run.done (congrArg pure String.ofList_toList)
  · rw [written]
    have taken := takes_basic key.toList rest
    rwa [String.ofList_toList] at taken
  · rw [written]
    have taken := takes_literal_string rest visible apart
    rwa [String.ofList_toList] at taken

/-- One of the keys between points, with the spaces around it. -/
def spacedKey : Scanner String := do
  spaces
  let key ← simpleKey
  spaces
  return key

theorem stops_space_keyText (key : String) (rest : List Char) :
    Stops isSpace (keyText key ++ rest) := by
  obtain ⟨c, head, first⟩ := beginsKey_keyText key rest
  exact stops_of_head? head first.1

theorem takes_spacedKey (key : String) {after : List Char} (gap : ∀ c ∈ after, isSpace c = true)
    (stops : Stops isSpace rest) (ends : Stops isBareKey (after ++ rest)) :
    Takes spacedKey (keyText key ++ after) rest key := by
  have start : Stops isSpace (keyText key ++ after ++ rest) := by
    rw [List.append_assoc]
    exact stops_space_keyText key _
  apply (takes_skip_nothing start).after
  exact (takes_simpleKey key ends).bind ((takes_skip gap stops).done rfl)

theorem takes_spacedKey_bare (key : String) (stops : Stops isSpace rest)
    (ends : Stops isBareKey rest) : Takes spacedKey (keyText key) rest key := by
  have taken : Takes spacedKey (keyText key ++ []) rest key :=
    takes_spacedKey key nofun stops ends
  rwa [List.append_nil] at taken

/-- A key that has no others before it. -/
theorem takes_dottedKey_one (key : String) {after : List Char}
    (gap : ∀ c ∈ after, isSpace c = true) (stops : Stops isSpace rest)
    (ends : Stops isBareKey (after ++ rest)) (last : rest.head? ≠ some '.') :
    Takes dottedKey (keyText key ++ after) rest ([], key) := by
  have taken := takes_separated_last (keyText key ++ after ++ rest).length
    (takes_spacedKey key gap stops ends) last
  exact (takes_bounded taken).done rfl

theorem takes_dottedKey_two (outer inner : String) (stops : Stops isSpace rest)
    (ends : Stops isBareKey rest) (last : rest.head? ≠ some '.') :
    Takes dottedKey (keyText outer ++ '.' :: keyText inner) rest ([outer], inner) := by
  have first : Takes spacedKey (keyText outer) ('.' :: (keyText inner ++ rest)) outer :=
    takes_spacedKey_bare outer (stops_cons (by decide)) (stops_cons (by decide))
  have second := takes_spacedKey_bare inner stops ends
  have taken := takes_separated_more first (takes_separated_last
    (keyText outer ++ keyText inner ++ rest).length second last)
  refine Takes.done (a := [outer, inner]) (takes_bounded ?_) rfl
  have length : (keyText outer ++ '.' :: keyText inner ++ rest).length =
      (keyText outer ++ keyText inner ++ rest).length + 1 := by
    simp only [List.length_append, List.length_cons]
    omega
  rw [length]
  exact taken

/-- A key, the sign behind it and a value, with a space on either side of the sign. -/
theorem takes_assignment {value : Scanner Toml} (key : String)
    (stops : Stops isSpace (text ++ rest)) (taken : Takes value text rest v) :
    Takes (assignment spaces value) (keyText key ++ " = ".toList ++ text) rest ([], key, v) := by
  have space : ∀ c ∈ [' '], isSpace c = true := List.forall_mem_singleton.2 rfl
  have dotted : Takes dottedKey (keyText key ++ [' ']) ('=' :: ' ' :: text ++ rest) ([], key) :=
    takes_dottedKey_one key space (stops_cons (by decide)) (stops_cons (by decide)) nofun
  have written : keyText key ++ " = ".toList ++ text =
      keyText key ++ [' '] ++ (['='] ++ ([' '] ++ text)) := by simp
  rw [written]
  apply dotted.bind
  apply (takes_skip_nothing (stops_cons (by decide))).after
  apply (takes_char '=' _).bind
  apply (takes_skip space stops).bind
  exact taken.done rfl

/-- Without an opening bracket there is a string or a word. -/
theorem takes_value_flat (bracket : (text ++ rest).head? ≠ some '[')
    (brace : (text ++ rest).head? ≠ some '\x7b') (taken : Takes flatValue text rest v) :
    Takes (value maxDepth) text rest v := by
  rw [maxDepth, value]
  apply (takes_peek _).after
  split
  next mark => exact absurd mark bracket
  next mark => exact absurd mark brace
  · exact taken

theorem takes_value_string (s : String) (rest : List Char) :
    Takes (value maxDepth) (stringText s) ('\n' :: rest) (.string s) := by
  have whole : Takes quoted (stringText s) ('\n' :: rest) s := takes_quoted s nofun nofun
  have taken : Takes (do return Toml.string (← quoted)) (stringText s) ('\n' :: rest)
      (Toml.string s) := whole.done rfl
  have flat : Takes flatValue (stringText s) ('\n' :: rest) (.string s) := by
    apply (takes_peek _).after
    rcases head?_stringText s ('\n' :: rest) with mark | mark
    · rw [mark]
      exact taken
    · rw [mark]
      exact taken
  rcases head?_stringText s ('\n' :: rest) with mark | mark
  · exact takes_value_flat (by rw [mark]; decide) (by rw [mark]; decide) flat
  · exact takes_value_flat (by rw [mark]; decide) (by rw [mark]; decide) flat

theorem takes_value_number {n : Nat} (fits : n < Nat.pow 2 128) (rest : List Char) :
    Takes (value maxDepth) (numberText n) ('\n' :: rest) (.integer n) := by
  obtain ⟨c, digit, head⟩ := head?_decimalText 1 n ('\n' :: rest)
  have flat : Takes flatValue (numberText n) ('\n' :: rest) (.integer n) := by
    apply (takes_peek _).after
    rw [numberText, head]
    split
    next mark => cases mark; cases digit
    next mark => cases mark; cases digit
    · exact takes_scalar_number fits (stops_cons (by decide))
  refine takes_value_flat ?_ ?_ flat
  · rw [numberText, head]
    rintro ⟨⟩
    cases digit
  · rw [numberText, head]
    rintro ⟨⟩
    cases digit

theorem takes_comment_none (other : rest.head? ≠ some '#') : Takes comment [] rest () := by
  apply (takes_peek _).after
  split
  next mark => exact absurd mark other
  · exact takes_pure () rest

/-- Nothing comes behind the statement of a line. -/
theorem takes_lineEnd (found : Option Statement) (stops : Stops isSpace rest)
    (other : rest.head? ≠ some '#') :
    Takes (do spaces; comment; return found) [] rest found :=
  (takes_skip_nothing stops).after ((takes_comment_none other).after (takes_pure found rest))

theorem takes_statement_blank (rest : List Char) : Takes statement [] ('\n' :: rest) none := rfl

theorem takes_header {path : List String} {name : String}
    (taken : Takes dottedKey text (']' :: rest) (path, name))
    (start : (text ++ ']' :: rest).head? ≠ some '[') :
    Takes header ('[' :: (text ++ [']'])) rest (.header path name) := by
  have closed := taken.bind (f := fun p => do
    char ']'
    return Statement.header p.1 p.2) ((takes_char ']' rest).done rfl)
  refine (takes_char '[' _).cons ((takes_peek _).after ?_)
  have single : (text ++ [']'] ++ rest).head? ≠ some '[' := by
    rwa [List.append_assoc]
  rw [if_neg single]
  exact closed

theorem takes_statement_header {path : List String} {name : String}
    (taken : Takes dottedKey text (']' :: '\n' :: rest) (path, name))
    (start : (text ++ ']' :: '\n' :: rest).head? ≠ some '[') :
    Takes statement ('[' :: (text ++ [']'])) ('\n' :: rest) (some (.header path name)) := by
  refine (takes_skip_nothing (stops_cons (by decide))).after ((takes_peek _).after ?_)
  have headed := (takes_header taken start).map some
  exact headed.before (takes_lineEnd _ (stops_cons (by decide)) nofun)

theorem takes_statement_assign (key : String) (stops : Stops isSpace (text ++ '\n' :: rest))
    (taken : Takes (value maxDepth) text ('\n' :: rest) v) :
    Takes statement (keyText key ++ " = ".toList ++ text) ('\n' :: rest)
      (some (.assign [] key v)) := by
  obtain ⟨c, head, first⟩ := beginsKey_keyText key (" = ".toList ++ text ++ '\n' :: rest)
  have start := stops_space_keyText key (" = ".toList ++ text ++ '\n' :: rest)
  simp only [← List.append_assoc] at head start
  apply (takes_skip_nothing start).after
  apply (takes_peek _).after
  rw [head]
  have assigned := takes_assignment key stops taken
  have ends : Takes _ [] ('\n' :: rest) _ :=
    takes_lineEnd (some (.assign [] key v)) (stops_cons (by decide)) nofun
  split
  next none => cases none
  next mark => cases mark; exact absurd (by decide) first.2
  next mark => cases mark; exact absurd (by decide) first.2
  next mark => cases mark; exact absurd (by decide) first.2
  next mark => cases mark; exact absurd (by decide) first.2
  · exact assigned.before ends

theorem not_bracket_keyText (key : String) (rest : List Char) :
    (keyText key ++ rest).head? ≠ some '[' := by
  obtain ⟨c, head, first⟩ := beginsKey_keyText key rest
  rw [head]
  rintro ⟨⟩
  exact first.2 (by decide)

/-- The header of a table in the root table. -/
theorem takes_outer_header (name : String) (rest : List Char) :
    Takes statement ('[' :: (keyText name ++ [']'])) ('\n' :: rest) (some (.header [] name)) := by
  have dotted : Takes dottedKey (keyText name ++ []) (']' :: '\n' :: rest) ([], name) :=
    takes_dottedKey_one name nofun (stops_cons (by decide)) (stops_cons (by decide)) nofun
  rw [List.append_nil] at dotted
  exact takes_statement_header dotted (not_bracket_keyText name _)

/-- The header of a table in a table of the root table. -/
theorem takes_inner_header (outer name : String) (rest : List Char) :
    Takes statement ('[' :: (keyText outer ++ '.' :: keyText name ++ [']'])) ('\n' :: rest)
      (some (.header [outer] name)) := by
  refine takes_statement_header ?_ ?_
  · exact takes_dottedKey_two outer name (stops_cons (by decide)) (stops_cons (by decide)) nofun
  · rw [List.append_assoc]
    exact not_bracket_keyText outer _

theorem takes_assigned_string (key s : String) (rest : List Char) :
    Takes statement (keyText key ++ " = ".toList ++ stringText s) ('\n' :: rest)
      (some (.assign [] key (.string s))) := by
  have stops : Stops isSpace (stringText s ++ '\n' :: rest) := by
    rcases head?_stringText s ('\n' :: rest) with mark | mark
    · exact stops_of_head? mark (by decide)
    · exact stops_of_head? mark (by decide)
  exact takes_statement_assign key stops (takes_value_string s rest)

theorem isSpace_of_isDigit (digit : c.isDigit = true) : isSpace c = false := by
  have space := ne_of_isDigit (d := ' ') digit (by decide)
  have tab := ne_of_isDigit (d := '\t') digit (by decide)
  simp [isSpace, space, tab]

theorem takes_assigned_number (key : String) {n : Nat} (fits : n < Nat.pow 2 128)
    (rest : List Char) :
    Takes statement (keyText key ++ " = ".toList ++ numberText n) ('\n' :: rest)
      (some (.assign [] key (.integer n))) := by
  obtain ⟨c, digit, head⟩ := head?_decimalText 1 n ('\n' :: rest)
  exact takes_statement_assign key (stops_of_head? head (isSpace_of_isDigit digit))
    (takes_value_number fits rest)

theorem takes_lines_end (fuel : Nat) : Takes (lines (fuel + 1)) [] [] [] := rfl

theorem takes_lines_cons {fuel : Nat} {found : Option Statement} {statements : List Statement}
    (first : Takes statement front ('\n' :: back) found)
    (later : Takes (lines fuel) back [] statements) :
    Takes (lines (fuel + 1)) (front ++ '\n' :: back) [] (found.toList ++ statements) := by
  have line : Takes newline ['\n'] (back ++ []) ['\n'] := rfl
  have stated : Takes statement front ('\n' :: back ++ []) found := by rwa [List.append_nil]
  apply stated.bind
  apply (takes_get _).after
  exact line.bind (later.done rfl)

/-- Written lines, each with the statement that is in it. -/
theorem takes_lines (written : List (List Char × Option Statement)) {fuel : Nat}
    (enough : written.length < fuel)
    (each : ∀ w ∈ written, ∀ rest, Takes statement w.1 ('\n' :: rest) w.2) :
    Takes (lines fuel) (written.flatMap fun w => w.1 ++ ['\n']) []
      (written.flatMap fun w => w.2.toList) := by
  induction written generalizing fuel with
  | nil =>
    cases fuel with
    | zero => cases enough
    | succ fuel => exact takes_lines_end fuel
  | cons w written ih =>
    cases fuel with
    | zero => cases enough
    | succ fuel =>
      have later := ih (Nat.lt_of_succ_lt_succ enough)
        fun u mem => each u (List.mem_cons_of_mem w mem)
      have first := takes_lines_cons (each w List.mem_cons_self _) later
      simpa only [List.flatMap_cons, List.append_assoc, List.singleton_append] using first

theorem length_le_written (written : List (List Char × Option Statement)) :
    written.length ≤ (written.flatMap fun w => w.1 ++ ['\n']).length := by
  induction written with
  | nil => exact Nat.zero_le _
  | cons w written ih =>
    simp only [List.flatMap_cons, List.length_append, List.length_cons, List.length_nil]
    omega

/-- A text of lines is read to its end. -/
theorem all_lines (written : List (List Char × Option Statement))
    (each : ∀ w ∈ written, ∀ rest, Takes statement w.1 ('\n' :: rest) w.2) :
    (bounded lines).all (written.flatMap fun w => w.1 ++ ['\n']) =
      some (written.flatMap fun w => w.2.toList) := by
  have enough := length_le_written written
  refine (takes_bounded (takes_lines written ?_ each)).all
  rw [List.append_nil]
  omega

/-- The document of a text of lines is that of their statements. -/
theorem parse?_written {text : String} (written : List (List Char × Option Statement))
    (shown : text.toList = written.flatMap fun w => w.1 ++ ['\n'])
    (each : ∀ w ∈ written, ∀ rest, Takes statement w.1 ('\n' :: rest) w.2)
    (bare : text.toList.head? ≠ some byteOrderMark) :
    parse? text = ofStatements? (written.flatMap fun w => w.2.toList) := by
  rw [parse?, if_neg bare, shown]
  change ((bounded lines).all _).bind _ = _
  rw [all_lines written each, Option.bind_some]

end Toml
end Boundary
