import Boundary.Proofs.Wire.Typed
import Mathlib.Data.List.Dedup

/-!
Maps as they are read. The pairs may stand in any order and a key may have several of them: the map
has each key once, with the value of its last pair, and the pairs before it are read all the same.
Such a map comes back from what is written for it, in whatever order it is visited then.
-/
namespace Boundary
namespace Value

/-- The pair is among them, and no later one has its key. -/
def LastOf (pairs : List (Value × Value)) (e : Value × Value) : Prop :=
  ∃ before after, pairs = before ++ e :: after ∧ e.1 ∉ after.map (·.1)

theorem LastOf.mem {pairs : List (Value × Value)} {e : Value × Value} (last : LastOf pairs e) :
    e ∈ pairs := by
  obtain ⟨before, after, rfl, -⟩ := last
  simp

theorem lastOf_snoc {pairs : List (Value × Value)} {d e : Value × Value} :
    LastOf (pairs ++ [d]) e ↔ e = d ∨ (e.1 ≠ d.1 ∧ LastOf pairs e) := by
  constructor
  · rintro ⟨before, after, split, fresh⟩
    rcases List.eq_nil_or_concat after with rfl | ⟨between, last, rfl⟩
    · obtain ⟨-, same⟩ := List.append_inj' split rfl
      exact .inl (List.singleton_inj.1 same).symm
    · rw [List.concat_eq_append, ← List.cons_append, ← List.append_assoc] at split
      obtain ⟨front, same⟩ := List.append_inj' split rfl
      obtain rfl := List.singleton_inj.1 same
      simp only [List.concat_eq_append, List.map_append, List.map_cons, List.map_nil,
        List.mem_append, List.mem_singleton, not_or] at fresh
      exact .inr ⟨fresh.2, before, between, front, fresh.1⟩
  · rintro (rfl | ⟨other, before, after, rfl, fresh⟩)
    · exact ⟨pairs, [], rfl, by simp⟩
    · refine ⟨before, after ++ [d], by simp, ?_⟩
      simp only [List.map_append, List.map_cons, List.map_nil, List.mem_append,
        List.mem_singleton, not_or]
      exact ⟨fresh, other⟩

/-- The entries of the map that the pairs make up. -/
def gather (pairs : List (Value × Value)) : List (Value × Value) :=
  pairs.foldl (fun entries e => insertEntry e.1 e.2 entries) []

theorem gather_snoc (pairs : List (Value × Value)) (e : Value × Value) :
    gather (pairs ++ [e]) = insertEntry e.1 e.2 (gather pairs) := by
  simp [gather]

theorem keys_insertEntry (key value : Value) (entries : List (Value × Value)) :
    (insertEntry key value entries).map (·.1) =
      if key ∈ entries.map (·.1) then entries.map (·.1) else entries.map (·.1) ++ [key] := by
  induction entries with
  | nil => simp [insertEntry]
  | cons e rest ih =>
    by_cases here : e.1 = key
    · simp [insertEntry, here]
    · rw [insertEntry, if_neg here, List.map_cons, ih]
      simp only [List.map_cons, List.mem_cons, Ne.symm here, false_or]
      split <;> rfl

theorem mem_keys_insertEntry_iff {key other value : Value} {entries : List (Value × Value)} :
    other ∈ (insertEntry key value entries).map (·.1) ↔
      other ∈ entries.map (·.1) ∨ other = key := by
  rw [keys_insertEntry]
  split
  next known =>
    constructor
    · exact .inl
    · rintro (member | rfl)
      · exact member
      · exact known
  next => rw [List.mem_append, List.mem_singleton]

theorem mem_insertEntry_iff {key value : Value} {entries : List (Value × Value)}
    (distinct : (entries.map (·.1)).Nodup) {e : Value × Value} :
    e ∈ insertEntry key value entries ↔ e = (key, value) ∨ (e.1 ≠ key ∧ e ∈ entries) := by
  induction entries with
  | nil => simp [insertEntry]
  | cons d rest ih =>
    obtain ⟨fresh, distinct⟩ : d.1 ∉ rest.map (·.1) ∧ (rest.map (·.1)).Nodup :=
      List.nodup_cons.1 distinct
    by_cases here : d.1 = key
    · have apart : e ∈ rest → e.1 ≠ key := by
        intro member same
        apply fresh
        rw [here, ← same]
        exact List.mem_map_of_mem member
      rw [insertEntry, if_pos here]
      simp only [List.mem_cons]
      constructor
      · rintro (rfl | member)
        · exact .inl rfl
        · exact .inr ⟨apart member, .inr member⟩
      · rintro (rfl | ⟨other, rfl | member⟩)
        · exact .inl rfl
        · exact absurd here other
        · exact .inr member
    · rw [insertEntry, if_neg here]
      simp only [List.mem_cons, ih distinct]
      constructor
      · rintro (rfl | rfl | ⟨other, member⟩)
        · exact .inr ⟨here, .inl rfl⟩
        · exact .inl rfl
        · exact .inr ⟨other, .inr member⟩
      · rintro (rfl | ⟨other, rfl | member⟩)
        · exact .inr (.inl rfl)
        · exact .inl rfl
        · exact .inr (.inr ⟨other, member⟩)

theorem nodup_keys_gather (pairs : List (Value × Value)) : ((gather pairs).map (·.1)).Nodup := by
  induction pairs using List.reverseRecOn with
  | nil => simp [gather]
  | append_singleton pairs e ih =>
    rw [gather_snoc, keys_insertEntry]
    split
    · exact ih
    next fresh =>
      rw [← List.concat_eq_append]
      exact ih.concat fresh

/-- A later pair takes the place of the earlier ones with its key. -/
theorem mem_gather_iff {pairs : List (Value × Value)} {e : Value × Value} :
    e ∈ gather pairs ↔ LastOf pairs e := by
  induction pairs using List.reverseRecOn with
  | nil => simp [gather, LastOf]
  | append_singleton pairs d ih =>
    rw [gather_snoc, mem_insertEntry_iff (nodup_keys_gather pairs), ih, lastOf_snoc]

theorem mem_keys_gather_iff {pairs : List (Value × Value)} {key : Value} :
    key ∈ (gather pairs).map (·.1) ↔ key ∈ pairs.map (·.1) := by
  induction pairs using List.reverseRecOn with
  | nil => simp [gather]
  | append_singleton pairs d ih =>
    rw [gather_snoc, mem_keys_insertEntry_iff, ih, List.map_append, List.mem_append,
      List.map_singleton, List.mem_singleton]

theorem length_gather (pairs : List (Value × Value)) :
    (gather pairs).length = (pairs.map (·.1)).dedup.length := by
  have perm : ((gather pairs).map (·.1)).Perm (pairs.map (·.1)).dedup := by
    rw [List.perm_ext_iff_of_nodup (nodup_keys_gather pairs) (List.nodup_dedup _)]
    intro key
    rw [mem_keys_gather_iff, List.mem_dedup]
  rw [← perm.length_eq, List.length_map]

theorem length_gather_le (pairs : List (Value × Value)) :
    (gather pairs).length ≤ pairs.length := by
  rw [length_gather, ← pairs.length_map (f := (·.1))]
  exact (List.dedup_sublist _).length_le

/-! ### Writing entries -/

/-- A count, and the encodings of that many pairs in their order. -/
def encodePairs (pairs : List (Value × Value)) : Bytes :=
  lengthPrefix pairs.length ++ pairs.flatMap fun e => e.1.encode ++ e.2.encode

theorem encode_map (entries : List (Value × Value)) :
    (map entries).encode = encodePairs entries := by
  rw [encode, encodeEntries_eq_flatMap, encodePairs]

theorem write_map {entries : List (Value × Value)} (count : entries.length ≤ maxLength)
    (each : ∀ e ∈ entries, e.1.oversize? = none ∧ e.2.oversize? = none) :
    (map entries).write = .ok (encodePairs entries) := by
  rw [← encode_map]
  apply write_of_fits
  rw [oversize?, tooLong?_eq_none_iff.2 count, anyEntryOversize?_eq_none_iff.2 each]
  rfl

end Value

namespace Shape
open Reader Value

/-- The value is read again from what is written for it. -/
def ReadsBack (s : Shape) (v : Value) : Prop :=
  v.write = .ok v.encode ∧ ∀ rest, s.read (v.encode ++ rest) = .ok v rest

/-- The same in whatever order the maps in the value are visited. -/
def ComesBack (s : Shape) (v : Value) : Prop := ∀ w, v.Reordered w → s.ReadsBack w

theorem ComesBack.readsBack {s : Shape} {v : Value} (back : s.ComesBack v) : s.ReadsBack v :=
  back v (reordered_self v)

theorem ReadsBack.fits {s : Shape} {v : Value} (back : s.ReadsBack v) : v.oversize? = none :=
  fits_of_write back.1

/-- So do all values that can be written without loss. -/
theorem comesBack_of_holds {s : Shape} {v : Value} (formed : s.WellFormed 0 0)
    (holds : Holds [] s v) (portable : v.Portable) : s.ComesBack v := by
  intro w orders
  have portable := portable.reordered orders
  exact ⟨write_of_portable portable, read_encode formed (holds.reordered orders) portable⟩

variable {k s : Shape} {pairs : List (Value × Value)}

theorem read_pairs (count : pairs.length ≤ maxLength)
    (each : ∀ e ∈ pairs, k.ReadsBack e.1 ∧ s.ReadsBack e.2) (rest : Bytes) :
    (Shape.map k s).read (encodePairs pairs ++ rest) = .ok (.map (gather pairs)) rest := by
  have entry : ∀ bound, ∀ e ∈ pairs, ReadsBelow bound
      (do return (← k.reader [], ← s.reader [])) (e.1.encode ++ e.2.encode) e := by
    intro bound e member
    have key : Reads (k.reader []) e.1.encode e.1 := fun _ rest _ => (each e member).1.2 rest
    have value : Reads (s.reader []) e.2.encode e.2 := fun _ rest _ => (each e member).2.2 rest
    exact (key bound).bind ((value bound).map (Prod.mk e.1))
  have items : Reads _ _ pairs := fun bound => readsBelow_times _ (entry bound)
  exact ((reads_length count).bind (items.map Value.ofPairs)).exact rest

/-- A map without repeated keys is read as it was written. -/
theorem readsBack_map {entries : List (Value × Value)} (count : entries.length ≤ maxLength)
    (distinct : (entries.map (·.1)).Nodup)
    (each : ∀ e ∈ entries, k.ReadsBack e.1 ∧ s.ReadsBack e.2) :
    (Shape.map k s).ReadsBack (.map entries) := by
  have whole : Value.map (gather entries) = .map entries := ofPairs_of_nodup distinct
  constructor
  · rw [encode_map]
    exact write_map count fun e member => ⟨(each e member).1.fits, (each e member).2.fits⟩
  · intro rest
    rw [encode_map, read_pairs count each, whole]

theorem comesBack_map {entries : List (Value × Value)} (count : entries.length ≤ maxLength)
    (distinct : (entries.map (·.1)).Nodup)
    (each : ∀ e ∈ entries, k.ComesBack e.1 ∧ s.ComesBack e.2) :
    (Shape.map k s).ComesBack (.map entries) := by
  intro w orders
  obtain ⟨others, rfl, keys, values⟩ := exists_of_reordered_map orders
  have size : others.length = entries.length := by
    simpa using keys.length_eq.symm
  refine readsBack_map (size ▸ count) (keys.nodup_iff.1 distinct) ?_
  intro d member
  obtain ⟨e, found, same, order⟩ := values d member
  exact ⟨same ▸ (each e found).1.readsBack, (each e found).2 d.2 order⟩

/-- From pairs in any order, with any repetitions, a map is read that has each key with the value of
its last pair. In whatever order it is visited, as many entries are written as there are different
keys, and the map is read again. The order of pairs with different keys does not matter. -/
theorem maps_gathered_from_pairs (count : pairs.length ≤ maxLength)
    (each : ∀ e ∈ pairs, k.ComesBack e.1 ∧ s.ComesBack e.2) :
    (∃ entries,
      (∀ rest, (Shape.map k s).read (encodePairs pairs ++ rest) = .ok (.map entries) rest) ∧
      (entries.map (·.1)).Nodup ∧ (∀ e, e ∈ entries ↔ LastOf pairs e) ∧
      ∀ w, (Value.map entries).Reordered w → ∃ body,
        w.write = .ok (lengthPrefix (pairs.map (·.1)).dedup.length ++ body) ∧
        ∀ rest, (Shape.map k s).read
          (lengthPrefix (pairs.map (·.1)).dedup.length ++ body ++ rest) = .ok w rest) ∧
    ∀ others, (pairs.map (·.1)).Nodup → pairs.Perm others → ∃ v w,
      (∀ rest, (Shape.map k s).read (encodePairs pairs ++ rest) = .ok v rest) ∧
      (∀ rest, (Shape.map k s).read (encodePairs others ++ rest) = .ok w rest) ∧
      v.Reordered w := by
  have back : ∀ e ∈ pairs, k.ReadsBack e.1 ∧ s.ReadsBack e.2 := fun e member =>
    ⟨(each e member).1.readsBack, (each e member).2.readsBack⟩
  constructor
  · refine ⟨gather pairs, read_pairs count back, nodup_keys_gather pairs,
      fun e => mem_gather_iff, ?_⟩
    intro w orders
    have gathered : (Shape.map k s).ComesBack (.map (gather pairs)) :=
      comesBack_map (Nat.le_trans (length_gather_le pairs) count) (nodup_keys_gather pairs)
        fun e member => each e (mem_gather_iff.1 member).mem
    obtain ⟨write, read⟩ := gathered w orders
    obtain ⟨others, rfl, keys, -⟩ := exists_of_reordered_map orders
    have size : others.length = (pairs.map (·.1)).dedup.length := by
      rw [← length_gather]
      simpa using keys.length_eq.symm
    rw [encode_map, encodePairs, size] at write read
    exact ⟨_, write, read⟩
  · intro others distinct perm
    have same : gather pairs = pairs := Value.map.inj (ofPairs_of_nodup distinct)
    have other : gather others = others :=
      Value.map.inj (ofPairs_of_nodup ((perm.map (·.1)).nodup_iff.1 distinct))
    refine ⟨.map pairs, .map others, ?_, ?_, reordered_of_perm perm⟩
    · intro rest
      rw [read_pairs count back, same]
    · intro rest
      rw [read_pairs (perm.length_eq ▸ count) fun e member => back e (perm.mem_iff.2 member),
        other]

/-- Maps behind text keys: the first one for a key is read, and gone. -/
theorem maps_gathered_from_pairs_repeated :
    let inner (n : Int) : Value := .map [(.int .u8 n, .bool true), (.int .u8 0, .bool false)]
    let shape : Shape := .map .text (.map (.int .u8) .bool)
    let one : Value × Value := (.text "a", inner 1)
    let two : Value × Value := (.text "b", inner 2)
    let three : Value × Value := (.text "a", inner 3)
    (∃ entries,
      (∀ rest, shape.read (encodePairs [one, two, three] ++ rest) = .ok (.map entries) rest) ∧
      one ∉ entries ∧ two ∈ entries ∧ three ∈ entries) ∧
    ∃ v w, (∀ rest, shape.read (encodePairs [two, three] ++ rest) = .ok v rest) ∧
      (∀ rest, shape.read (encodePairs [three, two] ++ rest) = .ok w rest) ∧ v.Reordered w := by
  intro inner shape one two three
  have text : ∀ t, (Bytes.ofText t).length ≤ maxLength → Shape.text.ComesBack (.text t) :=
    fun t short => comesBack_of_holds trivial (.text t) ((Value.portable_cases _).2 short)
  have number : ∀ n, IntType.u8.Holds n → (Shape.int .u8).ComesBack (.int .u8 n) :=
    fun n holds => comesBack_of_holds trivial (.int holds) ((Value.portable_cases _).2 trivial)
  have flag : ∀ b, Shape.bool.ComesBack (.bool b) :=
    fun b => comesBack_of_holds trivial (.bool b) ((Value.portable_cases _).2 trivial)
  have nested : ∀ n, IntType.u8.Holds n → n ≠ 0 →
      (Shape.map (.int .u8) .bool).ComesBack (inner n) := by
    intro n holds other
    have count : 2 ≤ maxLength := by decide
    refine comesBack_map count (by simpa using other) ?_
    simp only [List.forall_mem_cons]
    exact ⟨⟨number n holds, flag true⟩, ⟨number 0 (by decide), flag false⟩, nofun⟩
  have each : ∀ e ∈ [one, two, three],
      Shape.text.ComesBack e.1 ∧ (Shape.map (.int .u8) .bool).ComesBack e.2 := by
    simp only [List.forall_mem_cons]
    exact ⟨⟨text "a" (by decide), nested 1 (by decide) (by decide)⟩,
      ⟨text "b" (by decide), nested 2 (by decide) (by decide)⟩,
      ⟨text "a" (by decide), nested 3 (by decide) (by decide)⟩, nofun⟩
  obtain ⟨⟨entries, read, -, last, -⟩, -⟩ := maps_gathered_from_pairs (by decide) each
  have listed : ∀ e, e ∈ entries ↔ e ∈ gather [one, two, three] :=
    fun e => (last e).trans mem_gather_iff.symm
  refine ⟨⟨entries, read, ?_, ?_, ?_⟩, ?_⟩
  · rw [listed]
    decide
  · rw [listed]
    decide
  · rw [listed]
    decide
  · have swap : [two, three].Perm [three, two] := .swap ..
    exact (maps_gathered_from_pairs (by decide) fun e member =>
      each e (List.mem_cons_of_mem _ member)).2 _ (by decide) swap

end Shape
end Boundary
