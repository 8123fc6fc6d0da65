import Boundary.Proofs.Settings
import Boundary.Proofs.Toml.DistinctKeys

/-!
A configuration file lies over the standard settings. Each of the four settings is that of the
document where the document has it, and the standard one where it does not, whatever the other three
are; a table of checksums is taken as it is, with none of the standard ones. Nothing else in the
document counts.
-/
namespace Boundary

namespace Checksums
variable {name : String} {sum : Nat} {entries pairs : List (String × Nat)} {c d : Checksums}
  {e : String × Nat}

theorem mem_insertEntry_of_fresh (fresh : name ∉ entries.map (·.1)) :
    e ∈ insertEntry name sum entries ↔ e = (name, sum) ∨ e ∈ entries := by
  refine ⟨mem_insertEntry, ?_⟩
  induction entries with
  | nil => simp [insertEntry]
  | cons d rest ih =>
    rw [List.map_cons, List.mem_cons, not_or] at fresh
    rw [insertEntry, if_neg fresh.1]
    split
    · exact List.mem_cons.2
    · rintro (new | mem)
      · exact .tail _ (ih fresh.2 (.inl new))
      · rcases List.mem_cons.1 mem with rfl | mem
        · exact .head _
        · exact .tail _ (ih fresh.2 (.inr mem))

theorem mem_foldl_insert (distinct : (c.entries.map (·.1) ++ pairs.map (·.1)).Nodup) :
    e ∈ (pairs.foldl (fun c e => c.insert e.1 e.2) c).entries ↔ e ∈ c.entries ∨ e ∈ pairs := by
  induction pairs generalizing c with
  | nil => simp
  | cons p pairs ih =>
    obtain ⟨before, after, apart⟩ := List.nodup_append.1 distinct
    obtain ⟨once, after⟩ := List.nodup_cons.1 after
    -- The name is new where it is put in, and those that follow are still new after that.
    have fresh : p.1 ∉ c.entries.map (·.1) := fun mem => apart _ mem _ (.head _) rfl
    have inserted : ∀ {f}, f ∈ (c.insert p.1 p.2).entries ↔ f = p ∨ f ∈ c.entries :=
      mem_insertEntry_of_fresh fresh
    have later : ((c.insert p.1 p.2).entries.map (·.1) ++ pairs.map (·.1)).Nodup := by
      refine List.nodup_append.2 ⟨?_, after, ?_⟩
      · exact (c.insert p.1 p.2).nodup_names
      · rintro a here b there rfl
        obtain ⟨f, mem, rfl⟩ := List.mem_map.1 here
        rcases inserted.1 mem with rfl | mem
        · exact once there
        · exact apart _ (List.mem_map_of_mem mem) _ (.tail _ there) rfl
    rw [List.foldl_cons, ih later, inserted, List.mem_cons]
    tauto

/-- Of pairs with different names none is lost. -/
theorem mem_ofPairs (distinct : (pairs.map (·.1)).Nodup) :
    e ∈ (ofPairs pairs).entries ↔ e ∈ pairs := by
  rw [ofPairs, mem_foldl_insert (by simpa [empty] using distinct)]
  simp [empty]

/-- Checksums are told by what is among their entries, for these are in order. -/
theorem ext_of_mem (same : ∀ e, e ∈ c.entries ↔ e ∈ d.entries) : c = d := by
  have permuted := (List.perm_ext_iff_of_nodup c.nodup_names.of_map d.nodup_names.of_map).2
    fun e => same e
  have ordered : c.entries = d.entries :=
    permuted.eq_of_pairwise (fun _ _ _ _ before after => absurd after (String.lt_asymm before))
      c.sorted d.sorted
  cases c
  cases d
  cases ordered
  rfl

end Checksums

namespace Toml
/-- The statements of `text` make up `document`, and each number in it is one that something can
hold. -/
structure Parses (text : String) (document : List (String × Toml)) : Prop where
  parsed : parse? text = some document
  readable : readableEntries document = true

end Toml

namespace Settings
open Toml

/-! ### What a document says -/

/-- The sections that are there are tables. -/
def Sectioned (document : List (String × Toml)) : Prop :=
  ∀ part ∈ ["contract", "callbacks"], ∀ v ∈ document.lookup part, ∃ entries, v = .table entries

/-- What the document has for a key of a section. -/
def entryOf (document : List (String × Toml)) (part key : String) : Option Toml :=
  match document.lookup part with
  | some (.table entries) => entries.lookup key
  | _ => none

def IsText (v : Toml) (s : String) : Prop := v = .string s

def IsNumber (bound : Nat) (v : Toml) (n : Nat) : Prop := v = .integer n ∧ n < bound

/-- A table of numbers of 16 bits by name. -/
def IsTableOf (v : Toml) (pairs : List (String × Nat)) : Prop :=
  v = .table (pairs.map fun e => (e.1, .integer e.2)) ∧ ∀ e ∈ pairs, e.2 < 65536

/-- The checksums are those in the table, and no others. -/
def IsTable (v : Toml) (c : Checksums) : Prop :=
  ∃ pairs, IsTableOf v pairs ∧ ∀ e, e ∈ c.entries ↔ e ∈ pairs

/-- The value that is found, or the standard one if there is none. -/
def Overlaid {α : Type} (found : Option Toml) (Is : Toml → α → Prop) (standard a : α) : Prop :=
  match found with
  | none => a = standard
  | some v => Is v a

/-- The settings are those of the document, with the standard ones for what it does not set. -/
structure Overlays (document : List (String × Toml)) (s : Settings) : Prop where
  space : Overlaid (entryOf document "contract" "namespace") IsText
    standard.contract.space s.contract.space
  version : Overlaid (entryOf document "contract" "version") (IsNumber 4294967296)
    standard.contract.version s.contract.version
  checksums : Overlaid (entryOf document "contract" "checksums") IsTable
    standard.contract.checksums s.contract.checksums
  maxRegistered : Overlaid (entryOf document "callbacks" "max_registered")
    (IsNumber 18446744073709551616) standard.maxRegistered s.maxRegistered

/-- Each setting that the document has is of its form. -/
structure Formed (document : List (String × Toml)) : Prop where
  space : ∀ v ∈ entryOf document "contract" "namespace", ∃ s, IsText v s
  version : ∀ v ∈ entryOf document "contract" "version", ∃ n, IsNumber 4294967296 v n
  checksums : ∀ v ∈ entryOf document "contract" "checksums", ∃ pairs, IsTableOf v pairs
  maxRegistered : ∀ v ∈ entryOf document "callbacks" "max_registered",
    ∃ n, IsNumber 18446744073709551616 v n

variable {v : Toml} {text : String} {document : List (String × Toml)} {s : Settings}

/-! ### How each setting is read -/

theorem textOf?_eq_some_iff {s : String} : textOf? v = some s ↔ IsText v s := by
  cases v with
  | string t => simp [textOf?, IsText]
  | _ => simp [textOf?, IsText]

theorem numberBelow?_eq_some_iff {bound n : Nat} :
    numberBelow? bound v = some n ↔ IsNumber bound v n := by
  constructor
  · intro read
    cases v with
    | integer i =>
      rw [numberBelow?] at read
      split at read
      next within =>
        cases read
        have same : ((i.toNat : Nat) : Int) = i := Int.toNat_of_nonneg within.1
        exact ⟨congrArg _ same.symm, Int.ofNat_lt.1 (same ▸ within.2)⟩
      next => cases read
    | _ => cases read
  · rintro ⟨rfl, fits⟩
    exact numberBelow?_of_lt fits

theorem checksumsOf?_eq_some_iff {c : Checksums} :
    checksumsOf? v = some c ↔ ∃ pairs, IsTableOf v pairs ∧ Checksums.ofPairs pairs = c := by
  constructor
  · intro read
    cases v with
    | table entries =>
      obtain ⟨pairs, each, same⟩ := Option.bind_eq_some_iff.1 read
      have told : ∀ {b : String × Toml} {a : String × Nat},
          (do return (b.1, ← numberBelow? 65536 b.2) : Option (String × Nat)) = some a →
            b = (a.1, .integer a.2) ∧ a.2 < 65536 := by
        intro b a read
        obtain ⟨n, number, same⟩ := Option.bind_eq_some_iff.1 read
        cases same
        obtain ⟨same, fits⟩ := numberBelow?_eq_some_iff.1 number
        exact ⟨Prod.ext rfl same, fits⟩
      obtain ⟨rfl, fits⟩ := eq_map_of_mapM told each
      exact ⟨pairs, ⟨rfl, fits⟩, Option.some.inj same⟩
    | _ => cases read
  · rintro ⟨pairs, ⟨rfl, fits⟩, rfl⟩
    exact checksumsOf?_of_pairs fits

/-- The checksums of a table in which no name stands twice: none of its pairs replaces another. -/
theorem isTable_iff {c : Checksums} (distinct : v.Distinct) :
    IsTable v c ↔ ∃ pairs, IsTableOf v pairs ∧ Checksums.ofPairs pairs = c := by
  have names : ∀ {pairs}, IsTableOf v pairs → (pairs.map (·.1)).Nodup := by
    rintro pairs ⟨rfl, -⟩
    cases distinct with
    | table keys => rwa [List.map_map] at keys
  constructor
  · rintro ⟨pairs, table, same⟩
    refine ⟨pairs, table, Checksums.ext_of_mem fun e => ?_⟩
    rw [Checksums.mem_ofPairs (names table), same]
  · rintro ⟨pairs, table, rfl⟩
    exact ⟨pairs, table, fun e => Checksums.mem_ofPairs (names table)⟩

section
variable {α : Type} {found : Option Toml} {Is : Toml → α → Prop} {standard a : α}

theorem setting_eq_some_iff {read : Toml → Option α}
    (reads : ∀ v ∈ found, ∀ {a}, read v = some a ↔ Is v a) :
    setting found read standard = some a ↔ Overlaid found Is standard a := by
  cases found with
  | none => exact ⟨fun same => (Option.some.inj same).symm, fun same => congrArg _ same.symm⟩
  | some v => exact reads v rfl

theorem exists_overlaid_iff :
    (∃ a, Overlaid found Is standard a) ↔ ∀ v ∈ found, ∃ a, Is v a := by
  cases found with
  | none => exact ⟨nofun, fun _ => ⟨standard, rfl⟩⟩
  | some v => exact ⟨fun there u same => Option.some.inj same ▸ there, fun each => each v rfl⟩

end

/-! ### Sections -/

theorem distinct_of_entryOf {part key : String} (distinct : Distinct (.table document))
    (found : entryOf document part key = some v) : v.Distinct := by
  unfold entryOf at found
  split at found
  next there => exact (distinct.of_lookup there).of_lookup found
  next => cases found

/-- A section is absent or a table that can be read all through. -/
theorem section_cases (readable : readableEntries document = true)
    (sectioned : Sectioned document) (part : String) (known : part ∈ ["contract", "callbacks"]) :
    (document.lookup part = none ∧ entryOf document part = fun _ => none) ∨
      ∃ entries, document.lookup part = some (.table entries) ∧
        readableEntries entries = true ∧ entryOf document part = fun key => entries.lookup key := by
  cases found : document.lookup part with
  | none => exact .inl ⟨rfl, by funext key; rw [entryOf, found]⟩
  | some v =>
    obtain ⟨entries, rfl⟩ := sectioned part known v found
    have inner := readable_of_mem readable _ (Keyed.mem_of_get? found)
    exact .inr ⟨entries, rfl, inner, by funext key; rw [entryOf, found]⟩

theorem contract_of_entries (readable : readableEntries document = true)
    (sectioned : Sectioned document) :
    setting (document.lookup "contract") contractOf? standard.contract = (do
      let space ← setting (entryOf document "contract" "namespace") textOf? standard.contract.space
      let version ← setting (entryOf document "contract" "version") (numberBelow? 4294967296)
        standard.contract.version
      let checksums ← setting (entryOf document "contract" "checksums") checksumsOf?
        standard.contract.checksums
      return ⟨space, version, checksums⟩) := by
  rcases section_cases readable sectioned "contract" (by decide) with
    ⟨none, entries⟩ | ⟨entries, some, inner, same⟩
  · rw [none, entries]
    rfl
  · rw [some, same, setting, contractOf?, find_in_table inner]
    rfl

theorem limit_of_entries (readable : readableEntries document = true)
    (sectioned : Sectioned document) :
    setting (document.lookup "callbacks") limitOf? standard.maxRegistered =
      setting (entryOf document "callbacks" "max_registered") (numberBelow? 18446744073709551616)
        standard.maxRegistered := by
  rcases section_cases readable sectioned "callbacks" (by decide) with
    ⟨none, entries⟩ | ⟨entries, some, inner, same⟩
  · rw [none, entries]
    rfl
  · rw [some, same, setting, limitOf?, find_in_table inner]
    rfl

/-- The settings of a document are read one by one. -/
theorem ofToml?_of_entries (readable : readableEntries document = true)
    (sectioned : Sectioned document) :
    ofToml? document = (do
      let space ← setting (entryOf document "contract" "namespace") textOf? standard.contract.space
      let version ← setting (entryOf document "contract" "version") (numberBelow? 4294967296)
        standard.contract.version
      let checksums ← setting (entryOf document "contract" "checksums") checksumsOf?
        standard.contract.checksums
      let limit ← setting (entryOf document "callbacks" "max_registered")
        (numberBelow? 18446744073709551616) standard.maxRegistered
      return ⟨⟨space, version, checksums⟩, limit⟩) := by
  have others : readableEntries
      (document.filter fun e => e.1 ≠ "contract" && e.1 ≠ "callbacks") = true :=
    readableEntries_of_mem fun e mem => readable_of_mem readable e (List.mem_filter.1 mem).1
  rw [ofToml?, if_pos others, contract_of_entries readable sectioned,
    limit_of_entries readable sectioned]
  simp only [Option.bind_eq_bind, Option.bind_assoc, Option.pure_def, Option.bind_some]

theorem ofToml?_eq_some_iff (distinct : Distinct (.table document))
    (readable : readableEntries document = true) (sectioned : Sectioned document) :
    ofToml? document = some s ↔ Overlays document s := by
  have sums : ∀ v ∈ entryOf document "contract" "checksums", ∀ {c},
      checksumsOf? v = some c ↔ IsTable v c := fun v mem c =>
    checksumsOf?_eq_some_iff.trans (isTable_iff (distinct_of_entryOf distinct mem)).symm
  rw [ofToml?_of_entries readable sectioned]
  simp only [Option.bind_eq_bind, Option.bind_eq_some_iff, Option.pure_def, Option.some.injEq,
    setting_eq_some_iff fun _ _ => textOf?_eq_some_iff,
    setting_eq_some_iff fun _ _ => numberBelow?_eq_some_iff, setting_eq_some_iff sums]
  constructor
  · rintro ⟨space, isSpace, version, isVersion, checksums, isChecksums, limit, isLimit, rfl⟩
    exact ⟨isSpace, isVersion, isChecksums, isLimit⟩
  · rintro ⟨space, version, checksums, limit⟩
    exact ⟨_, space, _, version, _, checksums, _, limit, rfl⟩

/-- The settings do not stand in each other's way: there are some as soon as each has its form. -/
theorem exists_overlays_iff (distinct : Distinct (.table document)) :
    (∃ s, Overlays document s) ↔ Formed document := by
  have sums : ∀ v ∈ entryOf document "contract" "checksums",
      (∃ c, IsTable v c) ↔ ∃ pairs, IsTableOf v pairs := fun v mem => by
    simp only [isTable_iff (distinct_of_entryOf distinct mem)]
    exact ⟨fun ⟨_, pairs, sum, _⟩ => ⟨pairs, sum⟩, fun ⟨pairs, sum⟩ => ⟨_, pairs, sum, rfl⟩⟩
  constructor
  · rintro ⟨s, space, version, checksums, limit⟩
    exact ⟨exists_overlaid_iff.1 ⟨_, space⟩, exists_overlaid_iff.1 ⟨_, version⟩,
      fun v mem => (sums v mem).1 (exists_overlaid_iff.1 ⟨_, checksums⟩ v mem),
      exists_overlaid_iff.1 ⟨_, limit⟩⟩
  · rintro ⟨spaces, versions, tables, limits⟩
    obtain ⟨space, isSpace⟩ := exists_overlaid_iff.2 spaces
    obtain ⟨version, isVersion⟩ := exists_overlaid_iff.2 versions
    obtain ⟨checksums, isChecksums⟩ :=
      exists_overlaid_iff.2 fun v mem => (sums v mem).2 (tables v mem)
    obtain ⟨limit, isLimit⟩ := exists_overlaid_iff.2 limits
    exact ⟨⟨⟨space, version, checksums⟩, limit⟩, isSpace, isVersion, isChecksums, isLimit⟩

/-- A value that nothing can hold is an error wherever it stands in a document of tables. -/
theorem readable_of_ofToml? (distinct : Distinct (.table document)) (sectioned : Sectioned document)
    (read : ofToml? document = some s) : readableEntries document = true := by
  have inner : ∀ {entries find}, section? (.table entries) = some find →
      readableEntries entries = true := by
    intro entries find found
    by_contra unreadable
    rw [section?, if_neg unreadable] at found
    cases found
  rw [ofToml?] at read
  split at read
  next others =>
    obtain ⟨contract, isContract, read⟩ := Option.bind_eq_some_iff.1 read
    obtain ⟨limit, isLimit, -⟩ := Option.bind_eq_some_iff.1 read
    cases distinct with
    | table keys each =>
      apply readableEntries_of_mem
      intro e mem
      by_cases known : e.1 ∈ ["contract", "callbacks"]
      · -- A section stands in the document once, so this is the one that was looked at.
        have found := lookup_of_mem keys mem
        obtain ⟨entries, same⟩ := sectioned e.1 known e.2 found
        rw [same] at found ⊢
        rcases List.mem_pair.1 known with name | name
        · rw [← name, found] at isContract
          obtain ⟨find, there, -⟩ := Option.bind_eq_some_iff.1 isContract
          exact inner there
        · rw [← name, found] at isLimit
          obtain ⟨find, there, -⟩ := Option.bind_eq_some_iff.1 isLimit
          exact inner there
      · apply readable_of_mem others e
        rw [List.mem_pair, not_or] at known
        simpa [known] using mem
  next => cases read

/-! ### Loading -/

theorem load_text_of_some (read : ofText? text = some s) :
    load (.content (Bytes.ofText text)) = .ok s := by
  rw [load]
  simp only [Bytes.toText?_ofText, read]

theorem load_text_of_none (none : ofText? text = none) :
    load (.content (Bytes.ofText text)) =
      .error (.configuration "Failed to parse config file") := by
  rw [load]
  simp only [Bytes.toText?_ofText, none]

theorem load_text_eq_ok_iff :
    load (.content (Bytes.ofText text)) = .ok s ↔ ofText? text = some s := by
  cases read : ofText? text with
  | none => simp [load_text_of_none read]
  | some t => simp [load_text_of_some read]

/-- Nothing but the settings that are read from a text counts. -/
theorem load_text_congr {other : String} (same : ofText? text = ofText? other) :
    load (.content (Bytes.ofText text)) = load (.content (Bytes.ofText other)) := by
  cases read : ofText? other with
  | none => rw [load_text_of_none read, load_text_of_none (same.trans read)]
  | some s => rw [load_text_of_some read, load_text_of_some (same.trans read)]

theorem ofText?_of_parses (parses : Parses text document) : ofText? text = ofToml? document := by
  rw [ofText?, parses.parsed]
  rfl

theorem ofText?_of_unread
    (unread : ∀ document ∈ parse? text, Sectioned document ∧ readableEntries document = false) :
    ofText? text = none := by
  cases parsed : parse? text with
  | none =>
    rw [ofText?, parsed]
    rfl
  | some document =>
    obtain ⟨sectioned, unreadable⟩ := unread document parsed
    have unset : ofToml? document = none := by
      cases read : ofToml? document with
      | none => rfl
      | some s =>
        have readable := readable_of_ofToml? (distinct_parse? parsed) sectioned read
        rw [unreadable] at readable
        cases readable
    rw [ofText?, parsed]
    exact unset

/-- Loading a document whose sections are tables succeeds exactly if each setting that it has is of
its form, and then each setting is that of the document, or the standard one if it has none.
Otherwise it is an error in the configuration. Documents that differ in other keys are loaded alike;
texts that are not documents are refused; and an empty document does what no file does. -/
theorem load_of_document :
    (∀ text document, Parses text document → Sectioned document →
      (∀ s, load (.content (Bytes.ofText text)) = .ok s ↔ Overlays document s) ∧
      ((∃ s, load (.content (Bytes.ofText text)) = .ok s) ↔ Formed document) ∧
      (¬ Formed document →
        ∃ reason, load (.content (Bytes.ofText text)) = .error (.configuration reason))) ∧
    (∀ text document other others, Parses text document → Sectioned document →
      Parses other others → Sectioned others →
      (∀ e ∈ [("contract", "namespace"), ("contract", "version"), ("contract", "checksums"),
        ("callbacks", "max_registered")], entryOf document e.1 e.2 = entryOf others e.1 e.2) →
      load (.content (Bytes.ofText text)) = load (.content (Bytes.ofText other))) ∧
    (∀ text, (∀ document ∈ parse? text, Sectioned document ∧ readableEntries document = false) →
      ∃ reason, load (.content (Bytes.ofText text)) = .error (.configuration reason)) ∧
    (∀ text, Parses text [] → load (.content (Bytes.ofText text)) = load .nothing) ∧
    Parses "" [] ∧ load .nothing = .ok standard := by
  refine ⟨?_, ?_, fun text unread => ⟨_, load_text_of_none (ofText?_of_unread unread)⟩, ?_, ?_, rfl⟩
  · intro text document parses sectioned
    have distinct := distinct_parse? parses.parsed
    have told : ∀ s, load (.content (Bytes.ofText text)) = .ok s ↔ Overlays document s := by
      intro s
      rw [load_text_eq_ok_iff, ofText?_of_parses parses]
      exact ofToml?_eq_some_iff distinct parses.readable sectioned
    have formed : (∃ s, load (.content (Bytes.ofText text)) = .ok s) ↔ Formed document := by
      simp only [told, exists_overlays_iff distinct]
    refine ⟨told, formed, fun unformed => ⟨_, load_text_of_none ?_⟩⟩
    cases read : ofText? text with
    | none => rfl
    | some s => exact absurd (formed.1 ⟨s, load_text_eq_ok_iff.2 read⟩) unformed
  · intro text document other others parses sectioned parses' sectioned' same
    simp only [List.forall_mem_cons] at same
    obtain ⟨space, version, checksums, limit, -⟩ := same
    apply load_text_congr
    rw [ofText?_of_parses parses, ofText?_of_parses parses',
      ofToml?_of_entries parses.readable sectioned,
      ofToml?_of_entries parses'.readable sectioned', space, version, checksums, limit]
  · intro text parses
    exact load_text_of_some (ofText?_of_parses parses)
  · exact ⟨parse?_written [] rfl nofun nofun, rfl⟩

/-- The lines of a contract with numbers and no checksums. -/
def numberLines (pairs : List (String × Nat)) : List (List Char × Option Statement) :=
  [("[contract]".toList, some (.header [] "contract"))]
  ++ pairs.map (fun e =>
    (keyText e.1 ++ " = ".toList ++ numberText e.2, some (.assign [] e.1 (.integer e.2))))
  ++ [([], none), ("[contract.checksums]".toList, some (.header ["contract"] "checksums"))]

theorem parses_numberLines (pairs : List (String × Nat))
    (shown : text.toList = (numberLines pairs).flatMap fun w => w.1 ++ ['\n'])
    (fits : ∀ e ∈ pairs, e.2 < Nat.pow 2 128)
    (made : ofStatements? ((numberLines pairs).flatMap fun w => w.2.toList) = some document)
    (readable : readableEntries document = true) : Parses text document := by
  have each : ∀ w ∈ numberLines pairs, ∀ rest,
      Scanner.Takes statement w.1 ('\n' :: rest) w.2 := by
    simp only [numberLines, List.forall_mem_append, List.forall_mem_cons, List.forall_mem_map]
    exact ⟨⟨⟨takes_outer_header "contract", nofun⟩,
      fun e mem => takes_assigned_number e.1 (fits e mem)⟩,
      takes_statement_blank, takes_inner_header "contract" "checksums", nofun⟩
  have bare : text.toList.head? ≠ some byteOrderMark := by
    rw [shown]
    change some '[' ≠ _
    decide
  exact ⟨(parse?_written _ shown each bare).trans made, readable⟩

/-- A version that is set and checksums that are none beside a key that nobody knows, the same
without that key, a version that is too large, a header without an end, and nothing at all. -/
theorem load_of_document_in_part :
    let note := "[contract]\nversion = 25\nnote = 1\n\n[contract.checksums]\n"
    let plain := "[contract]\nversion = 25\n\n[contract.checksums]\n"
    let excess := "[contract]\nversion = 4294967296\n\n[contract.checksums]\n"
    load (.content (Bytes.ofText note)) = .ok ⟨⟨"web5", 25, .empty⟩, 0⟩ ∧
      load (.content (Bytes.ofText note)) = load (.content (Bytes.ofText plain)) ∧
      (∃ reason, load (.content (Bytes.ofText excess)) = .error (.configuration reason)) ∧
      (∃ reason, load (.content (Bytes.ofText "[contract")) = .error (.configuration reason)) ∧
      load (.content (Bytes.ofText "")) = load .nothing := by
  intro note plain excess
  obtain ⟨told, alike, refused, absent, empty, -⟩ := load_of_document
  have noted : Parses note [("contract", .table
      [("version", .integer 25), ("note", .integer 1), ("checksums", .table [])])] :=
    parses_numberLines [("version", 25), ("note", 1)] (by decide +kernel) (by decide) rfl rfl
  have bare : Parses plain [("contract", .table
      [("version", .integer 25), ("checksums", .table [])])] :=
    parses_numberLines [("version", 25)] (by decide +kernel) (by decide) rfl rfl
  have exceeding : Parses excess [("contract", .table
      [("version", .integer 4294967296), ("checksums", .table [])])] :=
    parses_numberLines [("version", 4294967296)] (by decide +kernel) (by decide) rfl rfl
  have sectioned : ∀ entries, Sectioned [("contract", .table entries)] := by
    intro entries part known v found
    rcases List.mem_pair.1 known with rfl | rfl
    · exact ⟨entries, (Option.some.inj found).symm⟩
    · cases found
  have unformed : ¬ Formed [("contract", .table
      [("version", .integer 4294967296), ("checksums", .table [])])] := by
    intro formed
    obtain ⟨n, same, fits⟩ := formed.version _ rfl
    have value := Toml.integer.inj same
    omega
  have cut : parse? "[contract" = none := Option.isNone_iff_eq_none.1 (by decide +kernel)
  refine ⟨((told note _ noted (sectioned _)).1 _).2 ?_, ?_, ?_, ?_, absent "" empty⟩
  · exact ⟨rfl, ⟨rfl, by decide⟩, ⟨[], ⟨rfl, nofun⟩, fun e => Iff.rfl⟩, rfl⟩
  · refine alike note _ plain _ noted (sectioned _) bare (sectioned _) ?_
    simp only [List.forall_mem_cons]
    exact ⟨rfl, rfl, rfl, rfl, nofun⟩
  · exact (told excess _ exceeding (sectioned _)).2.2 unformed
  · exact refused "[contract" (by simp [cut])

end Settings
end Boundary
