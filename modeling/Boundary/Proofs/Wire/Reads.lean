import Boundary.Proofs.Wire.Words
import Boundary.Wire.Decode

/-!
Readers that find what they look for: on a front followed by anything, they give its value and
leave exactly what follows.
-/
namespace Boundary
namespace Reader
variable {α β : Type}

/-- `r` reads `a` from `front` at the start of every input shorter than `bound`. -/
def ReadsBelow (bound : Nat) (r : Reader α) (front : Bytes) (a : α) : Prop :=
  ∀ rest : Bytes, (front ++ rest).length < bound → r (front ++ rest) = .ok a rest

/-- The same without a bound. -/
def Reads (r : Reader α) (front : Bytes) (a : α) : Prop := ∀ bound, ReadsBelow bound r front a

theorem bind_ok {r : Reader α} {next : α → Reader β} {b rest : Bytes} {a : α}
    (h : r b = .ok a rest) : (r >>= next) b = next a rest := by
  simp only [bind, EStateM.bind, h]

theorem bind_error {r : Reader α} {next : α → Reader β} {b rest : Bytes} {e : CodecError}
    (h : r b = .error e rest) : (r >>= next) b = .error e rest := by
  simp only [bind, EStateM.bind, h]

theorem Reads.exact {r : Reader α} {front : Bytes} {a : α} (h : Reads r front a) (rest : Bytes) :
    r (front ++ rest) = .ok a rest :=
  h _ rest (Nat.lt_succ_self _)

theorem ReadsBelow.mono {m n : Nat} {r : Reader α} {front : Bytes} {a : α}
    (h : ReadsBelow n r front a) (le : m ≤ n) : ReadsBelow m r front a :=
  fun rest short => h rest (Nat.lt_of_lt_of_le short le)

theorem reads_pure (a : α) : Reads (pure a) [] a := fun _ _ _ => rfl

theorem ReadsBelow.map {bound : Nat} {r : Reader α} {front : Bytes} {a : α} (g : α → β)
    (h : ReadsBelow bound r front a) : ReadsBelow bound (do return g (← r)) front (g a) := by
  intro rest short
  exact bind_ok (h rest short)

/-- What comes after a front of known length may be read below a smaller bound. -/
theorem ReadsBelow.bind_sub {bound : Nat} {r : Reader α} {next : α → Reader β} {front back : Bytes}
    {a : α} {c : β} (first : ReadsBelow bound r front a)
    (second : ReadsBelow (bound - front.length) (next a) back c) :
    ReadsBelow bound (r >>= next) (front ++ back) c := by
  intro rest short
  rw [List.append_assoc] at short ⊢
  rw [bind_ok (first (back ++ rest) short)]
  apply second
  rw [List.length_append] at short
  omega

theorem ReadsBelow.bind {bound : Nat} {r : Reader α} {next : α → Reader β} {front back : Bytes}
    {a : α} {c : β} (first : ReadsBelow bound r front a)
    (second : ReadsBelow bound (next a) back c) :
    ReadsBelow bound (r >>= next) (front ++ back) c :=
  first.bind_sub (second.mono (Nat.sub_le _ _))

theorem Reads.map {r : Reader α} {front : Bytes} {a : α} (g : α → β) (h : Reads r front a) :
    Reads (do return g (← r)) front (g a) :=
  fun bound => (h bound).map g

theorem Reads.bind {r : Reader α} {next : α → Reader β} {front back : Bytes} {a : α} {c : β}
    (first : Reads r front a) (second : Reads (next a) back c) :
    Reads (r >>= next) (front ++ back) c :=
  fun bound => (first bound).bind (second bound)

theorem Reads.bind_pure {r : Reader α} {next : α → Reader β} {front : Bytes} {a : α} {c : β}
    (first : Reads r front a) (second : next a = pure c) : Reads (r >>= next) front c := by
  rw [← List.append_nil front]
  exact first.bind (second ▸ reads_pure c)

theorem take_of_le {n : Nat} {b : Bytes} (enough : n ≤ b.length) :
    take n b = .ok (b.take n) (b.drop n) := by
  simp only [take, List.splitAt_eq, List.length_take_of_le enough, ↓reduceIte]

theorem take_of_lt {n : Nat} {b : Bytes} (short : b.length < n) :
    take n b = .error (.truncated n b.length) b := by
  have fewer : ¬ (b.take n).length = n := by
    rw [List.length_take]
    omega
  simp only [take, List.splitAt_eq, fewer, ↓reduceIte]

theorem reads_take {b : Bytes} {n : Nat} (size : b.length = n) : Reads (take n) b b := by
  intro bound rest _
  simp [take, ← size]

theorem reads_byte (d : UInt8) : Reads byte [d] d := (reads_take rfl).map _

theorem reads_unsigned {width n : Nat} (bound : n < Bytes.span width) :
    Reads (unsigned width) (Bytes.ofNat width n) n := by
  have read := (reads_take (Bytes.length_ofNat width n)).map Bytes.toNat
  rwa [Bytes.toNat_ofNat_of_lt bound] at read

theorem reads_int {t : IntType} {n : Int} (holds : t.Holds n) :
    Reads (int t) (Bytes.ofInt t.width n) n := by
  refine (reads_take (Bytes.length_ofInt t.width n)).bind_pure ?_
  cases sign : t.signed with
  | false =>
    obtain ⟨low, high⟩ := IntType.unsigned_bounds sign holds
    simp [Bytes.toNat_ofInt_of_lt low high]
  | true =>
    obtain ⟨low, high⟩ := IntType.signed_bounds sign holds
    simp [Bytes.toInt_ofInt_of_lt low high]

theorem reads_length {n : Nat} (fits : n ≤ maxLength) : Reads length (lengthPrefix n) n := by
  have holds : IntType.i32.Holds n := by
    rw [IntType.i32_holds_iff]
    simp only [maxLength] at fits
    omega
  refine (reads_int holds).bind_pure ?_
  rw [if_neg (Int.not_lt.mpr (Int.natCast_nonneg n)), Int.toNat_natCast]

theorem reads_bool (b : Bool) : Reads bool [if b then 1 else 0] b := by
  cases b with
  | false => exact (reads_byte 0).bind_pure rfl
  | true => exact (reads_byte 1).bind_pure rfl

theorem reads_text {s : String} (fits : (Bytes.ofText s).length ≤ maxLength) :
    Reads text (lengthPrefix (Bytes.ofText s).length ++ Bytes.ofText s) s := by
  refine (reads_length fits).bind ((reads_take rfl).bind_pure ?_)
  rw [Bytes.toText?_ofText]

theorem reads_instant {t : Instant} (valid : t.Valid) (leapless : ¬ t.IsLeap) :
    Reads instant (Bytes.ofInt 8 t.fold.seconds ++ Bytes.ofNat 4 t.fold.nanos) t := by
  obtain ⟨range, -⟩ := valid
  have small : t.nanos < Instant.nanosPerSecond := Nat.lt_of_not_le leapless
  have same : t.fold = t := by
    unfold Instant.fold
    congr
    omega
  have seconds : IntType.i64.Holds t.seconds := by
    obtain ⟨low, high⟩ := range
    rw [IntType.i64_holds_iff]
    simp only [Instant.earliest, Instant.latest] at low high
    omega
  have nanos : t.nanos < Bytes.span 4 := Nat.lt_trans small (by decide)
  have whole : Instant.after? t.seconds t.nanos = some t := by
    simp [Instant.after?, Nat.div_eq_of_lt small, Nat.mod_eq_of_lt small, range]
  rw [same]
  refine (reads_int seconds).bind ((reads_unsigned nanos).bind_pure ?_)
  rw [whole]

theorem reads_tag {head : RecordHead} (tagged : ∀ tag ∈ head.tag, tag < Bytes.span 4) :
    Reads (tag head) (tagBytes head.tag) () := by
  unfold tag
  cases found : head.tag with
  | none => exact reads_pure ()
  | some expected => exact (reads_unsigned (tagged expected found)).bind_pure (if_pos rfl)

theorem reads_variant {head : EnumHead} {v : Variant} (member : v ∈ head.variants)
    (holds : IntType.i32.Holds v.number) :
    Reads (variant head) (Bytes.ofInt 4 v.number) v.number := by
  have known : head.variants.any (·.number = v.number) = true :=
    List.any_eq_true.mpr ⟨v, member, decide_eq_true rfl⟩
  exact (reads_int holds).bind_pure (if_pos known)

theorem readsBelow_times {bound : Nat} {r : Reader α} (code : α → Bytes) {items : List α}
    (each : ∀ a ∈ items, ReadsBelow bound r (code a) a) :
    ReadsBelow bound (r.times items.length) (items.flatMap code) items := by
  induction items with
  | nil => exact reads_pure [] bound
  | cons a items ih =>
    rw [List.flatMap_cons]
    have later := ih fun c member => each c (List.mem_cons_of_mem a member)
    exact (each a List.mem_cons_self).bind (later.map (a :: ·))

/-- A reader that is defined in terms of itself reads below a bound what its body reads, if each
step may rely on itself below one bound less. -/
theorem readsBelow_unroll {bound : Nat} {body : Reader α → Reader α} (Good : α → Prop)
    (code : α → Bytes)
    (step : ∀ k < bound, ∀ this, (∀ a, Good a → ReadsBelow k this (code a) a) →
      ∀ a, Good a → ReadsBelow (k + 1) (body this) (code a) a) :
    ∀ k ≤ bound, ∀ a, Good a → ReadsBelow k (unroll body k) (code a) a := by
  intro k
  induction k with
  | zero =>
    intro _ a _ rest short
    exact absurd short (Nat.not_lt_zero _)
  | succ k ih =>
    intro le a good
    exact step k le (unroll body k) (ih (Nat.le_of_succ_le le)) a good

theorem readsBelow_fix {bound : Nat} {body : Reader α → Reader α} (Good : α → Prop)
    (code : α → Bytes)
    (step : ∀ k < bound, ∀ this, (∀ a, Good a → ReadsBelow k this (code a) a) →
      ∀ a, Good a → ReadsBelow (k + 1) (body this) (code a) a)
    {a : α} (good : Good a) : ReadsBelow bound (fix body) (code a) a := by
  intro rest short
  exact readsBelow_unroll Good code step _ short a good rest (Nat.lt_succ_self _)

end Reader
end Boundary
