import Boundary.Proofs.Wire.Truncation
import Boundary.Proofs.Wire.Typed

/-!
Bytes that are accepted are the bytes that would have been written. Each reader takes a number, a
flag or a count in one spelling only, so nothing is lost when its answer is written again. Maps and
instants are the exceptions: their readers accept what no writer writes.
-/
namespace Boundary

namespace Shape

/-- There is neither a map nor an instant in the shape. -/
def Rigid : Shape → Prop
  | .map .. | .instant => False
  | .option s | .list s => s.Rigid
  | .record _ fields => eachRigid fields
  | _ => True
where
  eachRigid : List Shape → Prop
    | [] => True
    | s :: rest => s.Rigid ∧ eachRigid rest

end Shape

namespace Reader
variable {α β : Type}

/-- Whatever `r` gives is good, and `r` found the code of it at the front. -/
def Exact (r : Reader α) (code : α → Bytes) (Good : α → Prop) : Prop :=
  ∀ b a rest, r b = .ok a rest → b = code a ++ rest ∧ Good a

theorem exists_of_bind_ok {r : Reader α} {next : α → Reader β} {b rest : Bytes} {c : β}
    (read : (r >>= next) b = .ok c rest) :
    ∃ a later, r b = .ok a later ∧ next a later = .ok c rest := by
  cases first : r b with
  | ok a later =>
    rw [bind_ok first] at read
    exact ⟨a, later, rfl, read⟩
  | error e later =>
    rw [bind_error first] at read
    cases read

theorem exists_of_map_ok {r : Reader α} {g : α → β} {b rest : Bytes} {c : β}
    (read : (do return g (← r) : Reader β) b = .ok c rest) : ∃ a, r b = .ok a rest ∧ g a = c := by
  obtain ⟨a, later, first, last⟩ := exists_of_bind_ok read
  cases last
  exact ⟨a, first, rfl⟩

/-- The same answers under another name, with a code and a property to match. -/
theorem Exact.map {r : Reader α} {code : α → Bytes} {Good : α → Prop} (exact : Exact r code Good)
    {g : α → β} {code' : β → Bytes} {Good' : β → Prop}
    (same : ∀ a, Good a → code' (g a) = code a ∧ Good' (g a)) :
    Exact (do return g (← r)) code' Good' := by
  intro b c rest read
  obtain ⟨a, first, rfl⟩ := exists_of_map_ok read
  obtain ⟨split, good⟩ := exact b a rest first
  obtain ⟨coded, good'⟩ := same a good
  exact ⟨coded ▸ split, good'⟩

theorem exact_stuck {code : α → Bytes} {Good : α → Prop} : Exact stuck code Good := by
  intro b a rest read
  cases read

theorem exact_take (n : Nat) : Exact (take n) id (·.length = n) := by
  intro b front rest read
  simp only [take, List.splitAt_eq] at read
  split at read
  next size =>
    cases read
    exact ⟨(List.take_append_drop n b).symm, size⟩
  next => cases read

theorem exact_byte : Exact byte (fun d => [d]) fun _ => True := by
  refine (exact_take 1).map ?_
  intro b size
  obtain ⟨d, rfl⟩ := List.length_eq_one_iff.mp size
  exact ⟨rfl, trivial⟩

theorem exact_unsigned (width : Nat) :
    Exact (unsigned width) (Bytes.ofNat width) (· < Bytes.span width) := by
  refine (exact_take width).map ?_
  rintro b rfl
  exact ⟨Bytes.ofNat_toNat b, Bytes.toNat_lt b⟩

theorem exact_int (t : IntType) : Exact (int t) (Bytes.ofInt t.width) t.Holds := by
  refine (exact_take t.width).map ?_
  intro b size
  refine ⟨?_, t.holds_of_word size⟩
  rw [← size]
  cases t.signed with
  | true => exact Bytes.ofInt_toInt b
  | false => exact Bytes.ofInt_toNat b

theorem exact_length : Exact length lengthPrefix (· ≤ maxLength) := by
  intro b n rest read
  obtain ⟨m, later, first, last⟩ := exists_of_bind_ok read
  obtain ⟨split, -, below⟩ := exact_int .i32 b m later first
  split at last
  next => cases last
  next natural =>
    cases last
    have whole : (m.toNat : Int) = m := Int.toNat_of_nonneg (Int.not_lt.mp natural)
    refine ⟨?_, ?_⟩
    · rw [split, lengthPrefix, whole]
      rfl
    · have bound : m < 2147483648 := below
      simp only [maxLength]
      omega

theorem flag_cases (d : UInt8) : d = 0 ∨ d = 1 ∨ ∃ n, d.toNat = n + 2 := by
  by_cases zero : d.toNat = 0
  · exact .inl (UInt8.toNat_inj.mp zero)
  · by_cases one : d.toNat = 1
    · exact .inr (.inl (UInt8.toNat_inj.mp one))
    · exact .inr (.inr ⟨d.toNat - 2, by omega⟩)

theorem exact_bool : Exact bool (fun b => [if b then 1 else 0]) fun _ => True := by
  intro b flag rest read
  obtain ⟨d, later, first, last⟩ := exists_of_bind_ok read
  obtain ⟨rfl, -⟩ := exact_byte b d later first
  rcases flag_cases d with rfl | rfl | ⟨n, other⟩
  · cases last
    exact ⟨rfl, trivial⟩
  · cases last
    exact ⟨rfl, trivial⟩
  · rw [other] at last
    cases last

theorem exact_counted : Exact (do take (← length)) (fun b => lengthPrefix b.length ++ b)
    (·.length ≤ maxLength) := by
  intro b content rest read
  obtain ⟨n, later, first, last⟩ := exists_of_bind_ok read
  obtain ⟨rfl, fits⟩ := exact_length b n later first
  obtain ⟨rfl, rfl⟩ := exact_take n later content rest last
  exact ⟨(List.append_assoc ..).symm, fits⟩

theorem exact_text : Exact text (fun s => lengthPrefix (Bytes.ofText s).length ++ Bytes.ofText s)
    fun s => (Bytes.ofText s).length ≤ maxLength := by
  intro b s rest read
  obtain ⟨n, later, first, last⟩ := exists_of_bind_ok read
  obtain ⟨content, behind, second, last⟩ := exists_of_bind_ok last
  have counted : (do take (← length)) b = .ok content behind := by
    rw [bind_ok first, second]
  obtain ⟨rfl, fits⟩ := exact_counted b content behind counted
  cases spelled : Bytes.toText? content with
  | some t =>
    rw [spelled] at last
    cases last
    have same := Bytes.ofText_of_toText? spelled
    subst same
    exact ⟨rfl, fits⟩
  | none =>
    rw [spelled] at last
    cases last

theorem exact_tag (head : RecordHead) :
    Exact (tag head) (fun _ => tagBytes head.tag) fun _ => ∀ t ∈ head.tag, t < Bytes.span 4 := by
  intro b u rest read
  unfold tag at read
  cases untagged : head.tag with
  | none =>
    rw [untagged] at read
    cases read
    exact ⟨rfl, nofun⟩
  | some expected =>
    rw [untagged] at read
    obtain ⟨found, later, first, last⟩ := exists_of_bind_ok read
    obtain ⟨rfl, fits⟩ := exact_unsigned 4 b found later first
    split at last
    next same =>
      cases last
      subst same
      exact ⟨rfl, fun t member => Option.some.inj member ▸ fits⟩
    next => cases last

theorem exact_variant (head : EnumHead) : Exact (variant head) (Bytes.ofInt 4)
    fun n => ∃ v ∈ head.variants, v.number = n ∧ IntType.i32.Holds n := by
  intro b n rest read
  obtain ⟨number, later, first, last⟩ := exists_of_bind_ok read
  obtain ⟨split, holds⟩ := exact_int .i32 b number later first
  split at last
  next known =>
    cases last
    obtain ⟨v, member, same⟩ := List.any_eq_true.mp known
    exact ⟨split, v, member, of_decide_eq_true same, holds⟩
  next => cases last

theorem Exact.times {r : Reader α} {code : α → Bytes} {Good : α → Prop}
    (exact : Exact r code Good) (n : Nat) :
    Exact (r.times n) (List.flatMap code) fun items => items.length = n ∧ ∀ a ∈ items, Good a := by
  induction n with
  | zero =>
    intro b items rest read
    cases read
    simp
  | succ n ih =>
    intro b items rest read
    obtain ⟨a, later, first, last⟩ := exists_of_bind_ok read
    obtain ⟨others, second, rfl⟩ := exists_of_map_ok last
    obtain ⟨rfl, good⟩ := exact b a later first
    obtain ⟨rfl, size, each⟩ := ih later others rest second
    refine ⟨?_, congrArg Nat.succ size, ?_⟩
    · rw [List.flatMap_cons, List.append_assoc]
    · rw [List.forall_mem_cons]
      exact ⟨good, each⟩

theorem Exact.unroll {body : Reader α → Reader α} {code : α → Bytes} {Good : α → Prop}
    (step : ∀ this, Exact this code Good → Exact (body this) code Good) (depth : Nat) :
    Exact (unroll body depth) code Good := by
  induction depth with
  | zero => exact exact_stuck
  | succ depth ih => exact step _ ih

theorem Exact.fix {body : Reader α → Reader α} {code : α → Bytes} {Good : α → Prop}
    (step : ∀ this, Exact this code Good → Exact (body this) code Good) :
    Exact (fix body) code Good := by
  intro b a rest read
  exact Exact.unroll step (b.length + 1) b a rest read

end Reader

namespace Shape
open Reader

/-- The readers of the records around a shape only accept what is written for values of them. -/
def Around (enclosing : List Shape) (readers : List (Reader Value)) : Prop :=
  ∀ distance, Exact (readers.getD distance stuck) Value.encode fun v =>
    v.Portable ∧ ∃ s outer, enclosing.drop distance = s :: outer ∧ Holds outer s v

theorem around_nil : Around [] [] := fun _ => exact_stuck

theorem Around.inside {enclosing : List Shape} {readers : List (Reader Value)}
    (around : Around enclosing readers) {s : Shape} {this : Reader Value}
    (self : Exact this Value.encode fun v => Holds enclosing s v ∧ v.Portable) :
    Around (s :: enclosing) (this :: readers) := by
  intro distance
  cases distance with
  | zero =>
    intro b v rest read
    obtain ⟨split, holds, portable⟩ := self b v rest read
    exact ⟨split, portable, s, enclosing, rfl, holds⟩
  | succ distance => exact around distance

mutual
theorem exact_reader (s : Shape) (rigid : s.Rigid) {enclosing : List Shape}
    {readers : List (Reader Value)} (around : Around enclosing readers) :
    Exact (s.reader readers) Value.encode fun v => Holds enclosing s v ∧ v.Portable := by
  cases s with
  | int t =>
    refine (exact_int t).map ?_
    intro n holds
    exact ⟨rfl, .int holds, (Value.portable_cases _).2 trivial⟩
  | float t =>
    refine (exact_unsigned t.width).map ?_
    intro bits fits
    exact ⟨rfl, .float fits, (Value.portable_cases _).2 trivial⟩
  | bool =>
    refine exact_bool.map ?_
    intro b _
    exact ⟨rfl, .bool b, (Value.portable_cases _).2 trivial⟩
  | text =>
    refine exact_text.map ?_
    intro t fits
    exact ⟨rfl, .text t, (Value.portable_cases _).2 fits⟩
  | bytes =>
    intro b v rest read
    obtain ⟨n, later, first, last⟩ := exists_of_bind_ok read
    obtain ⟨content, second, rfl⟩ := exists_of_map_ok last
    have counted : (do take (← length)) b = .ok content rest := by
      rw [bind_ok first, second]
    obtain ⟨split, fits⟩ := exact_counted b content rest counted
    exact ⟨split, .bytes content, (Value.portable_cases _).2 fits⟩
  | instant => exact rigid.elim
  | option s =>
    intro b v rest read
    obtain ⟨d, later, first, last⟩ := exists_of_bind_ok read
    obtain ⟨rfl, -⟩ := exact_byte b d later first
    rcases flag_cases d with rfl | rfl | ⟨n, other⟩
    · cases last
      exact ⟨rfl, .absent, (Value.portable_cases _).2 trivial⟩
    · obtain ⟨w, second, rfl⟩ := exists_of_map_ok last
      obtain ⟨rfl, holds, portable⟩ := exact_reader s rigid around later w rest second
      exact ⟨rfl, .present holds, (Value.portable_cases _).2 portable⟩
    · rw [other] at last
      cases last
  | list s =>
    intro b v rest read
    obtain ⟨n, later, first, last⟩ := exists_of_bind_ok read
    obtain ⟨items, second, rfl⟩ := exists_of_map_ok last
    obtain ⟨rfl, fits⟩ := exact_length b n later first
    obtain ⟨rfl, rfl, each⟩ := (exact_reader s rigid around).times n later items rest second
    refine ⟨?_, .list fun w member => (each w member).1, ?_⟩
    · rw [Value.encode, Value.encodeAll_eq_flatMap, List.append_assoc]
    · exact (Value.portable_cases _).2 ⟨fits, fun w member => (each w member).2⟩
  | map k s => exact rigid.elim
  | record head fields =>
    refine Exact.fix ?_
    intro this self b v rest read
    obtain ⟨u, later, first, last⟩ := exists_of_bind_ok read
    obtain ⟨vs, second, rfl⟩ := exists_of_map_ok last
    obtain ⟨rfl, tagged⟩ := exact_tag head b u later first
    obtain ⟨rfl, size, parts, portable⟩ :=
      exact_fieldsReader fields rigid (around.inside self) later vs rest second
    refine ⟨?_, .record tagged size parts, (Value.portable_cases _).2 portable⟩
    rw [Value.encode, List.append_assoc]
  | enum head =>
    refine (exact_variant head).map ?_
    rintro n ⟨v, member, rfl, holds⟩
    exact ⟨rfl, .variant member holds, (Value.portable_cases _).2 trivial⟩
  | again distance =>
    intro b v rest read
    obtain ⟨split, portable, s, outer, found, holds⟩ := around distance b v rest read
    exact ⟨split, .again found holds, portable⟩
theorem exact_fieldsReader (shapes : List Shape) (rigid : Rigid.eachRigid shapes)
    {enclosing : List Shape} {readers : List (Reader Value)} (around : Around enclosing readers) :
    Exact (fieldsReader readers shapes) Value.encodeAll fun vs =>
      shapes.length = vs.length ∧ (∀ p ∈ shapes.zip vs, Holds enclosing p.1 p.2) ∧
        ∀ v ∈ vs, v.Portable := by
  cases shapes with
  | nil =>
    intro b vs rest read
    cases read
    simp [Value.encodeAll]
  | cons s shapes =>
    intro b vs rest read
    obtain ⟨v, later, first, last⟩ := exists_of_bind_ok read
    obtain ⟨others, second, rfl⟩ := exists_of_map_ok last
    obtain ⟨rfl, holds, portable⟩ := exact_reader s rigid.1 around b v later first
    obtain ⟨rfl, size, parts, each⟩ :=
      exact_fieldsReader shapes rigid.2 around later others rest second
    refine ⟨?_, congrArg Nat.succ size, ?_, ?_⟩
    · rw [Value.encodeAll, List.append_assoc]
    · rw [List.zip_cons_cons, List.forall_mem_cons]
      exact ⟨holds, parts⟩
    · rw [List.forall_mem_cons]
      exact ⟨portable, each⟩
end

theorem exact_read {s : Shape} (rigid : s.Rigid) {b rest : Bytes} {v : Value}
    (read : s.read b = .ok v rest) : b = v.encode ++ rest ∧ Holds [] s v ∧ v.Portable :=
  exact_reader s rigid around_nil b v rest read

theorem written_of_lift {s : Shape} (rigid : s.Rigid) {b : Bytes} {v : Value}
    (lifted : s.lift b = .ok v) :
    Holds [] s v ∧ v.lower = .ok b := by
  by_cases text : s = .text
  · subst text
    unfold lift at lifted
    dsimp only at lifted
    split at lifted
    next t spelled =>
      cases lifted
      refine ⟨.text t, ?_⟩
      rw [Value.lower, Bytes.ofText_of_toText? spelled]
    next => cases lifted
  · obtain ⟨split, holds, portable⟩ := exact_read rigid ((lift_ok_iff text).mp lifted)
    rw [List.append_nil] at split
    refine ⟨holds, ?_⟩
    rcases Value.lower_of_text_or_fits v with ⟨t, rfl⟩ | plain
    · cases holds with
      | text => exact absurd rfl text
      | again found => simp at found
    · rw [plain, Value.write_of_portable portable, split]

theorem rigid_of_mem {shapes : List Shape} (rigid : Rigid.eachRigid shapes) :
    ∀ s ∈ shapes, s.Rigid := by
  induction shapes with
  | nil => nofun
  | cons s shapes ih =>
    rw [List.forall_mem_cons]
    exact ⟨rigid.1, ih rigid.2⟩

/-- The writer's own check of the lengths is all there is to check. -/
theorem portable_of_rigid {enclosing : List Shape} {s : Shape} {v : Value}
    (holds : Holds enclosing s v) (around : ∀ t ∈ enclosing, t.Rigid) (rigid : s.Rigid)
    (fits : v.oversize? = none) : v.Portable := by
  rw [Value.portable_cases]
  induction holds with
  | int | float | bool | absent | variant => trivial
  | text | bytes => exact Value.tooLong?_eq_none_iff.1 fits
  | instant | map => exact rigid.elim
  | present inner ih => exact (Value.portable_cases _).2 (ih around rigid fits)
  | list items ih =>
    obtain ⟨short, each⟩ := Option.or_eq_none_iff.1 fits
    refine ⟨Value.tooLong?_eq_none_iff.1 short, fun v member => (Value.portable_cases _).2 ?_⟩
    exact ih v member around rigid (Value.anyOversize?_eq_none_iff.1 each v member)
  | @record enclosing head fields vs tagged size parts ih =>
    intro v member
    obtain ⟨i, inside, rfl⟩ := List.getElem_of_mem member
    have place : (fields[i], vs[i]) ∈ fields.zip vs := by
      rw [← List.getElem_zip (h := by simp [size, inside])]
      exact List.getElem_mem _
    refine (Value.portable_cases _).2 (ih _ place ?_ ?_ ?_)
    · rw [List.forall_mem_cons]
      exact ⟨rigid, around⟩
    · exact rigid_of_mem rigid _ (List.getElem_mem _)
    · exact Value.anyOversize?_eq_none_iff.1 fits _ member
  | @again enclosing outer distance s v found holds ih =>
    have outside : ∀ t ∈ s :: outer, t.Rigid := by
      intro t member
      exact around t (List.mem_of_mem_drop (found ▸ member))
    rw [List.forall_mem_cons] at outside
    exact ih outside.2 outside.1 fits

/-- Where no map and no instant is involved, a buffer is accepted just if it is what is written for
the value that comes out, and inside other bytes just that much is taken. -/
theorem accepted_only_as_written {s : Shape} (rigid : s.Rigid) (b : Bytes) (v : Value) :
    (s.lift b = .ok v → v.lower = .ok b) ∧
    (∀ rest, s.read b = .ok v rest → ∃ written, v.write = .ok written ∧ b = written ++ rest) ∧
    (s.WellFormed 0 0 → (s.lift b = .ok v ↔ Holds [] s v ∧ v.lower = .ok b)) := by
  refine ⟨fun lifted => (written_of_lift rigid lifted).2, ?_, ?_⟩
  · intro rest read
    obtain ⟨split, -, portable⟩ := exact_read rigid read
    exact ⟨v.encode, Value.write_of_portable portable, split⟩
  · intro formed
    constructor
    · exact written_of_lift rigid
    · rintro ⟨holds, written⟩
      exact Value.lift_of_lower formed holds (portable_of_rigid holds nofun rigid) written

/-- A tagged record that contains itself, with a flag of which nothing may be known. -/
def vote : Shape :=
  .record ⟨"Vote", "", some 1, []⟩
    [.text, .option (.option .bool), .float .f32, .list (.again 0),
      .enum ⟨"Kind", "", [⟨"", "", -1⟩]⟩]

/-- A vote with a name, and with a number that is none, above one without a name. -/
def voteBytes : Bytes :=
  [0, 0, 0, 1, 0, 0, 0, 2, 195, 169, 1, 0, 127, 192, 0, 1, 0, 0, 0, 1,
    0, 0, 0, 1, 0, 0, 0, 0, 0, 0, 0, 0, 0, 0, 0, 0, 0, 255, 255, 255, 255,
    255, 255, 255, 255]

theorem accepted_only_as_written_vote :
    let leaf : Value := .record (some 1) [.text "", .absent, .float .f32 0, .list [], .variant (-1)]
    let v : Value := .record (some 1)
      [.text "é", .present .absent, .float .f32 2143289345, .list [leaf], .variant (-1)]
    vote.Rigid ∧ vote.lift voteBytes = .ok v ∧ v.lower = .ok voteBytes := by
  intro leaf v
  have rigid : vote.Rigid := ⟨trivial, trivial, trivial, trivial, trivial, trivial⟩
  have lifted : vote.lift voteBytes = .ok v := eq_ok_of_toOption (by decide +kernel)
  exact ⟨rigid, lifted, (accepted_only_as_written rigid voteBytes v).1 lifted⟩

end Shape
end Boundary
