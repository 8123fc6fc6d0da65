import Boundary.Proofs.Toml.Lines
import Boundary.Proofs.Toml.Tables
import Boundary.Settings

/-!
Settings that were saved are loaded as they were. No setting is left out when it is written, so
that none comes back as the standard one.
-/
namespace Boundary

namespace Checksums

theorem insertEntry_of_last {name : String} {sum : Nat} {entries : List (String × Nat)}
    (last : ∀ e ∈ entries, e.1 < name) :
    insertEntry name sum entries = entries ++ [(name, sum)] := by
  induction entries with
  | nil => rfl
  | cons e rest ih =>
    have before := last e List.mem_cons_self
    rw [insertEntry, if_neg (String.lt_asymm before), if_neg (Ne.symm (String.ne_of_lt before)),
      ih fun f mem => last f (List.mem_cons_of_mem e mem), List.cons_append]

theorem entries_foldl_insert {pairs : List (String × Nat)} {c : Checksums}
    (sorted : (c.entries ++ pairs).Pairwise fun a b => a.1 < b.1) :
    (pairs.foldl (fun c e => c.insert e.1 e.2) c).entries = c.entries ++ pairs := by
  induction pairs generalizing c with
  | nil => simp
  | cons e pairs ih =>
    have last : ∀ f ∈ c.entries, f.1 < e.1 := fun f mem =>
      (List.pairwise_append.1 sorted).2.2 f mem e List.mem_cons_self
    have inserted : (c.insert e.1 e.2).entries = c.entries ++ [e] := insertEntry_of_last last
    have later := ih (c := c.insert e.1 e.2) (by simpa [inserted] using sorted)
    rw [List.foldl_cons, later, inserted, List.append_assoc, List.singleton_append]

theorem nodup_names (c : Checksums) : (c.entries.map (·.1)).Nodup :=
  List.pairwise_map.2 (c.sorted.imp String.ne_of_lt)

/-- Checksums are told by their entries. -/
theorem ofPairs_entries (c : Checksums) : ofPairs c.entries = c := by
  have same : (ofPairs c.entries).entries = c.entries := entries_foldl_insert (c := empty) c.sorted
  cases c
  cases read : ofPairs _
  rw [read] at same
  cases same
  rfl

end Checksums

namespace Settings
open Toml

variable (s : Settings)

/-- The numbers are in the range of their types. -/
structure Representable : Prop where
  version : s.contract.version < 4294967296
  checksums : ∀ e ∈ s.contract.checksums.entries, e.2 < 65536
  maxRegistered : s.maxRegistered < 18446744073709551616

def checksumPairs : List (String × Toml) :=
  s.contract.checksums.entries.map fun e => (e.1, .integer e.2)

/-- The lines that are written, each with its statement. -/
def writtenLines : List (List Char × Option Statement) :=
  [("[contract]".toList, some (.header [] "contract")),
    (keyText "namespace" ++ " = ".toList ++ stringText s.contract.space,
      some (.assign [] "namespace" (.string s.contract.space))),
    (keyText "version" ++ " = ".toList ++ numberText s.contract.version,
      some (.assign [] "version" (.integer s.contract.version))),
    ([], none),
    ("[contract.checksums]".toList, some (.header ["contract"] "checksums"))]
  ++ s.contract.checksums.entries.map (fun e =>
    (keyText e.1 ++ " = ".toList ++ numberText e.2, some (.assign [] e.1 (.integer e.2))))
  ++ [([], none),
    ("[callbacks]".toList, some (.header [] "callbacks")),
    (keyText "max_registered" ++ " = ".toList ++ numberText s.maxRegistered,
      some (.assign [] "max_registered" (.integer s.maxRegistered)))]

theorem toChars_eq_writtenLines :
    s.toChars = s.writtenLines.flatMap fun w => w.1 ++ ['\n'] := by
  have contract : "[contract]\n".toList = "[contract]".toList ++ ['\n'] := rfl
  have checksums : "\n[contract.checksums]\n".toList =
      '\n' :: "[contract.checksums]".toList ++ ['\n'] := rfl
  have callbacks : "\n[callbacks]\n".toList = '\n' :: "[callbacks]".toList ++ ['\n'] := rfl
  unfold toChars
  rw [contract, checksums, callbacks]
  simp only [writtenLines, Toml.line, List.flatMap_append, List.flatMap_cons, List.flatMap_nil,
    List.flatMap_map, List.append_assoc, List.nil_append, List.append_nil, List.cons_append]

def statements : List Statement :=
  [.header [] "contract", .assign [] "namespace" (.string s.contract.space),
    .assign [] "version" (.integer s.contract.version), .header ["contract"] "checksums"]
  ++ assignments s.checksumPairs
  ++ [.header [] "callbacks", .assign [] "max_registered" (.integer s.maxRegistered)]

theorem statements_eq_writtenLines :
    s.writtenLines.flatMap (fun w => w.2.toList) = s.statements := by
  simp only [statements, writtenLines, checksumPairs, assignments, List.flatMap_append,
    List.flatMap_cons, List.flatMap_nil, List.flatMap_map, List.map_map, Option.toList_some,
    Option.toList_none, List.append_nil, List.nil_append, List.cons_append]
  rw [← List.map_eq_flatMap]
  rfl

def document : List (String × Toml) :=
  [("contract", .table [("namespace", .string s.contract.space),
      ("version", .integer s.contract.version), ("checksums", .table s.checksumPairs)]),
    ("callbacks", .table [("max_registered", .integer s.maxRegistered)])]

/-- The table of the contract without its checksums. -/
def contractEntries : Entries :=
  [("namespace", .value (.string s.contract.space)),
    ("version", .value (.integer s.contract.version))]

theorem foldlM_before_checksums :
    [.header [] "contract", .assign [] "namespace" (.string s.contract.space),
      .assign [] "version" (.integer s.contract.version),
      .header ["contract"] "checksums"].foldlM Draft.add? Draft.start =
      some ⟨[("contract", .table false false s.contractEntries)],
        .header ["contract"] "checksums", []⟩ := rfl

theorem foldlM_after_checksums (sums : Entries) :
    ([.header [] "callbacks", .assign [] "max_registered" (.integer s.maxRegistered)].foldlM
      Draft.add? ⟨[("contract", .table false false s.contractEntries)],
        .header ["contract"] "checksums", sums⟩).bind Draft.close? =
      some [("contract", .table false false
          (s.contractEntries ++ [("checksums", .table false false sums)])),
        ("callbacks", .table false false
          [("max_registered", .value (.integer s.maxRegistered))])] := rfl

theorem nodup_checksumPairs : (s.checksumPairs.map (·.1)).Nodup := by
  have keys : s.checksumPairs.map (·.1) = s.contract.checksums.entries.map (·.1) := by
    rw [checksumPairs, List.map_map]
    rfl
  rw [keys]
  exact s.contract.checksums.nodup_names

/-- The statements make up the document of the settings. -/
theorem ofStatements?_statements : ofStatements? s.statements = some s.document := by
  have middle := foldlM_assignments
    ⟨[("contract", .table false false s.contractEntries)], .header ["contract"] "checksums", []⟩
    s.nodup_checksumPairs
  have drafted : s.statements.foldlM Draft.add? Draft.start =
      [.header [] "callbacks", .assign [] "max_registered" (.integer s.maxRegistered)].foldlM
        Draft.add? ⟨[("contract", .table false false s.contractEntries)],
          .header ["contract"] "checksums", values s.checksumPairs⟩ := by
    rw [statements, List.foldlM_append, List.foldlM_append, foldlM_before_checksums]
    change (List.foldlM Draft.add? _ (assignments s.checksumPairs)).bind _ = _
    rw [middle]
    rfl
  have closed := s.foldlM_after_checksums (values s.checksumPairs)
  have pairs := entriesToToml_values s.checksumPairs
  rw [ofStatements?, drafted]
  change Option.bind _ (fun d =>
    (Draft.close? d).bind fun entries => some (entriesToToml entries)) = _
  rw [← Option.bind_assoc, closed, Option.bind_some]
  simp only [entriesToToml, Node.toToml, contractEntries, List.cons_append, List.nil_append, pairs,
    document]

variable {s}

theorem numberBelow?_of_lt {bound n : Nat} (fits : n < bound) :
    numberBelow? bound (.integer n) = some n := by
  rw [numberBelow?, if_pos ⟨Int.natCast_nonneg n, Int.ofNat_lt.2 fits⟩, Int.toNat_natCast]

theorem checksumsOf?_of_pairs {pairs : List (String × Nat)} (fits : ∀ e ∈ pairs, e.2 < 65536) :
    checksumsOf? (.table (pairs.map fun e => (e.1, .integer e.2))) = some (.ofPairs pairs) := by
  have each : (pairs.map fun e => (e.1, Toml.integer e.2)).mapM
      (fun e => do return (e.1, ← numberBelow? 65536 e.2)) = some pairs := by
    apply mapM_map_of_inverse
    intro e mem
    rw [numberBelow?_of_lt (fits e mem)]
    rfl
  exact Option.bind_eq_some_iff.2 ⟨pairs, each, rfl⟩

theorem checksumsOf?_checksumPairs (fits : ∀ e ∈ s.contract.checksums.entries, e.2 < 65536) :
    checksumsOf? (.table s.checksumPairs) = some s.contract.checksums := by
  rw [checksumPairs, checksumsOf?_of_pairs fits, Checksums.ofPairs_entries]

theorem readable_checksumPairs : readableEntries s.checksumPairs = true := by
  apply readableEntries_of_mem
  intro e mem
  obtain ⟨f, -, rfl⟩ := List.mem_map.1 mem
  rfl

theorem find_in_table {entries : List (String × Toml)} (readable : readableEntries entries = true) :
    Settings.section? (.table entries) = some fun key _ => entries.lookup key := by
  rw [section?, if_pos readable]

theorem setting_of_found {α : Type} {found : Option Toml} {read : Toml → Option α}
    {standard a : α} {v : Toml} (there : found = some v) (reads : read v = some a) :
    setting found read standard = some a := by
  rw [there, setting, reads]

theorem contractOf?_document (representable : s.Representable) :
    contractOf? (.table [("namespace", .string s.contract.space),
      ("version", .integer s.contract.version), ("checksums", .table s.checksumPairs)]) =
      some s.contract := by
  generalize table : [("namespace", Toml.string s.contract.space),
    ("version", .integer s.contract.version), ("checksums", .table s.checksumPairs)] = entries
  have readable : readableEntries entries = true := by
    simp [← table, readableEntries, readable, readable_checksumPairs]
  have space : setting (entries.lookup "namespace") textOf? Contract.current.space =
      some s.contract.space := setting_of_found (by rw [← table]; rfl) rfl
  have version : setting (entries.lookup "version") (numberBelow? 4294967296)
      Contract.current.version = some s.contract.version :=
    setting_of_found (by rw [← table]; rfl) (numberBelow?_of_lt representable.version)
  have checksums : setting (entries.lookup "checksums") checksumsOf? Contract.current.checksums =
      some s.contract.checksums :=
    setting_of_found (by rw [← table]; rfl) (checksumsOf?_checksumPairs representable.checksums)
  rw [contractOf?, find_in_table readable, Option.bind_eq_bind, Option.bind_some]
  change (do
    let space ← setting (entries.lookup "namespace") textOf? Contract.current.space
    let version ← setting (entries.lookup "version") (numberBelow? 4294967296)
      Contract.current.version
    let checksums ← setting (entries.lookup "checksums") checksumsOf? Contract.current.checksums
    return ⟨space, version, checksums⟩ : Option Contract) = _
  rw [space, version, checksums]
  rfl

theorem limitOf?_document (representable : s.Representable) :
    limitOf? (.table [("max_registered", .integer s.maxRegistered)]) = some s.maxRegistered := by
  have found : List.lookup "max_registered" [("max_registered", Toml.integer s.maxRegistered)] =
      some (.integer s.maxRegistered) := rfl
  have limit : setting _ _ standard.maxRegistered = _ :=
    setting_of_found found (numberBelow?_of_lt representable.maxRegistered)
  rw [limitOf?, find_in_table rfl, Option.bind_eq_bind, Option.bind_some]
  exact limit

/-- The settings that a document tells are those that made it. -/
theorem ofToml?_document (representable : s.Representable) : ofToml? s.document = some s := by
  have contract : setting (s.document.lookup "contract") contractOf? standard.contract =
      some s.contract := setting_of_found rfl (contractOf?_document representable)
  have limit : setting (s.document.lookup "callbacks") limitOf? standard.maxRegistered =
      some s.maxRegistered := setting_of_found rfl (limitOf?_document representable)
  have others : s.document.filter (fun e => e.1 ≠ "contract" && e.1 ≠ "callbacks") = [] := rfl
  simp only [ofToml?, others]
  rw [contract, limit]
  rfl

/-- Each line that is written holds its statement, whatever lines come behind it. -/
theorem takes_writtenLines (representable : s.Representable) :
    ∀ w ∈ s.writtenLines, ∀ rest, Scanner.Takes statement w.1 ('\n' :: rest) w.2 := by
  have version : s.contract.version < Nat.pow 2 128 :=
    Nat.lt_trans representable.version (by decide)
  have limit : s.maxRegistered < Nat.pow 2 128 :=
    Nat.lt_trans representable.maxRegistered (by decide)
  have sums : ∀ e ∈ s.contract.checksums.entries, e.2 < Nat.pow 2 128 := fun e mem =>
    Nat.lt_trans (representable.checksums e mem) (by decide)
  simp only [writtenLines, List.forall_mem_append, List.forall_mem_cons, List.forall_mem_map]
  exact ⟨⟨⟨takes_outer_header "contract", takes_assigned_string _ _,
    takes_assigned_number _ version, takes_statement_blank,
    takes_inner_header "contract" "checksums", nofun⟩,
    fun e mem => takes_assigned_number e.1 (sums e mem)⟩,
    takes_statement_blank, takes_outer_header "callbacks", takes_assigned_number _ limit, nofun⟩

theorem parse?_toChars (representable : s.Representable) :
    parse? (String.ofList s.toChars) = some s.document := by
  have shown :
      (String.ofList s.toChars).toList = s.writtenLines.flatMap fun w => w.1 ++ ['\n'] := by
    rw [String.toList_ofList, toChars_eq_writtenLines]
  have bare : (String.ofList s.toChars).toList.head? ≠ some byteOrderMark := by
    rw [shown]
    change some '[' ≠ _
    decide
  rw [parse?_written _ shown (takes_writtenLines representable) bare, statements_eq_writtenLines]
  exact ofStatements?_statements s

/-- Settings that are saved are loaded as they were, and they are saved wherever there is a place
for them. So an empty name, the version 0 and checksums that are none come back as such, and not as
the standard ones. -/
theorem load_of_save (representable : s.Representable) :
    (∀ writable b, s.save writable = .ok b → load (.content b) = .ok s) ∧
      ∃ b, s.save true = .ok b := by
  refine ⟨?_, _, rfl⟩
  intro writable b saved
  have written : b = Bytes.ofText (String.ofList s.toChars) := by
    cases writable with
    | false => cases saved
    | true => exact (Except.ok.inj saved).symm
  have read : ofText? (String.ofList s.toChars) = some s := by
    rw [ofText?, parse?_toChars representable]
    exact ofToml?_document representable
  rw [load, written]
  simp only [Bytes.toText?_ofText, read]

/-- Empty texts, zeros and no checksums at all; and texts that no single style of quoting holds. -/
theorem load_of_save_of_odd_texts :
    let bare : Settings := ⟨⟨"", 0, .empty⟩, 0⟩
    let odd : Settings := ⟨⟨"\"\"\"'''\\\t\n", 4294967295,
      .ofPairs [("", 0), ("a.b", 65535), ("\"'", 1), ("\x00", 2)]⟩, 18446744073709551615⟩
    (bare.Representable ∧ (∀ writable b, bare.save writable = .ok b →
      load (.content b) = .ok bare) ∧ ∃ b, bare.save true = .ok b) ∧
    odd.Representable ∧ (∀ writable b, odd.save writable = .ok b →
      load (.content b) = .ok odd) ∧ ∃ b, odd.save true = .ok b := by
  intro bare odd
  have small : bare.Representable := ⟨by decide, nofun, by decide⟩
  have large : odd.Representable := ⟨by decide, by decide, by decide⟩
  exact ⟨⟨small, load_of_save small⟩, large, load_of_save large⟩

end Settings
end Boundary
