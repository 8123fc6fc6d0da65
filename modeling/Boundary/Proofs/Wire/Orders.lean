import Boundary.Proofs.Wire.Holds

/-!
A map has no order of its own, but it is visited in some order. Whatever the orders of the maps in
it, a value has the same shape and is as good to write.
-/
namespace Boundary
namespace Value

mutual
/-- The second value is the first one, with its maps visited in some other order. Keys have no map
in them. -/
def Reordered : Value → Value → Prop
  | .present v, .present w => Reordered v w
  | .list vs, .list ws => ReorderedEach vs ws
  | .map entries, .map others =>
    ∃ between, ReorderedEntries entries between ∧ between.Perm others
  | .record tag vs, .record other ws => tag = other ∧ ReorderedEach vs ws
  | v, w => v = w
def ReorderedEach : List Value → List Value → Prop
  | [], [] => True
  | v :: vs, w :: ws => Reordered v w ∧ ReorderedEach vs ws
  | _, _ => False
def ReorderedEntries : List (Value × Value) → List (Value × Value) → Prop
  | [], [] => True
  | (k, v) :: entries, (l, w) :: others => k = l ∧ Reordered v w ∧ ReorderedEntries entries others
  | _, _ => False
end

mutual
theorem reordered_self : ∀ v : Value, Reordered v v
  | .int .. | .float .. | .bool _ | .text _ | .bytes _ | .instant _ | .absent | .variant _ => rfl
  | .present v => reordered_self v
  | .list vs => reorderedEach_self vs
  | .map entries => ⟨entries, reorderedEntries_self entries, .refl _⟩
  | .record _ fields => ⟨rfl, reorderedEach_self fields⟩
theorem reorderedEach_self : ∀ vs : List Value, ReorderedEach vs vs
  | [] => trivial
  | v :: vs => ⟨reordered_self v, reorderedEach_self vs⟩
theorem reorderedEntries_self : ∀ entries : List (Value × Value), ReorderedEntries entries entries
  | [] => trivial
  | (_, v) :: rest => ⟨rfl, reordered_self v, reorderedEntries_self rest⟩
end

theorem reordered_of_perm {entries others : List (Value × Value)} (perm : entries.Perm others) :
    (map entries).Reordered (map others) :=
  ⟨entries, reorderedEntries_self entries, perm⟩

theorem length_of_reorderedEach {vs ws : List Value} (orders : ReorderedEach vs ws) :
    vs.length = ws.length := by
  induction vs generalizing ws with
  | nil => cases ws <;> simp_all [ReorderedEach]
  | cons v vs ih =>
    cases ws with
    | nil => simp [ReorderedEach] at orders
    | cons w ws => simp [ih orders.2]

/-- The values stay beside what they were paired with. -/
theorem reordered_of_mem_zip {α : Type} {as : List α} {vs ws : List Value}
    (orders : ReorderedEach vs ws) {p : α × Value} (member : p ∈ as.zip ws) :
    ∃ v, (p.1, v) ∈ as.zip vs ∧ Reordered v p.2 := by
  induction vs generalizing as ws with
  | nil => cases ws <;> simp_all [ReorderedEach]
  | cons v vs ih =>
    cases ws with
    | nil => simp at member
    | cons w ws =>
      cases as with
      | nil => simp at member
      | cons a as =>
        rcases List.mem_cons.mp member with rfl | member
        · exact ⟨v, List.mem_cons_self, orders.1⟩
        · obtain ⟨u, found, order⟩ := ih orders.2 member
          exact ⟨u, List.mem_cons_of_mem _ found, order⟩

theorem reordered_of_mem {vs ws : List Value} (orders : ReorderedEach vs ws) {w : Value}
    (member : w ∈ ws) : ∃ v ∈ vs, Reordered v w := by
  have zipped : (w, w) ∈ ws.zip ws := by
    have twins : (ws.map id).zip (ws.map id) = _ := List.zip_map'
    rw [List.map_id] at twins
    rw [twins]
    exact List.mem_map.mpr ⟨w, member, rfl⟩
  obtain ⟨v, found, order⟩ := reordered_of_mem_zip orders zipped
  exact ⟨v, (List.of_mem_zip found).2, order⟩

theorem keys_of_reorderedEntries {entries others : List (Value × Value)}
    (orders : ReorderedEntries entries others) : others.map (·.1) = entries.map (·.1) := by
  induction entries generalizing others with
  | nil => cases others <;> simp_all [ReorderedEntries]
  | cons e entries ih =>
    cases others with
    | nil => simp [ReorderedEntries] at orders
    | cons d others =>
      obtain ⟨same, -, rest⟩ := orders
      simp [same, ih rest]

theorem reordered_of_mem_entries {entries others : List (Value × Value)}
    (orders : ReorderedEntries entries others) {d : Value × Value} (member : d ∈ others) :
    ∃ e ∈ entries, e.1 = d.1 ∧ Reordered e.2 d.2 := by
  induction entries generalizing others with
  | nil => cases others <;> simp_all [ReorderedEntries]
  | cons e entries ih =>
    cases others with
    | nil => simp at member
    | cons c others =>
      obtain ⟨same, order, rest⟩ := orders
      rcases List.mem_cons.mp member with rfl | member
      · exact ⟨e, List.mem_cons_self, same, order⟩
      · obtain ⟨b, found, both⟩ := ih rest member
        exact ⟨b, List.mem_cons_of_mem _ found, both⟩

/-- In another order, a map has the same keys, with values that are in another order at most. -/
theorem exists_of_reordered_map {entries : List (Value × Value)} {w : Value}
    (orders : (map entries).Reordered w) :
    ∃ others, w = .map others ∧ (entries.map (·.1)).Perm (others.map (·.1)) ∧
      ∀ d ∈ others, ∃ e ∈ entries, e.1 = d.1 ∧ Reordered e.2 d.2 := by
  cases w <;> simp only [Reordered, reduceCtorEq] at orders
  next others =>
    obtain ⟨between, each, perm⟩ := orders
    refine ⟨others, rfl, ?_, ?_⟩
    · rw [← keys_of_reorderedEntries each]
      exact perm.map (·.1)
    · intro d member
      exact reordered_of_mem_entries each (perm.mem_iff.mpr member)

theorem Reordered.length_eq {v w : Value} (orders : Reordered v w) : v.counted = w.counted := by
  cases v <;> cases w <;> simp_all [Reordered, counted]
  case list.list => exact length_of_reorderedEach orders
  case map.map =>
    obtain ⟨between, each, perm⟩ := orders
    have keys := congrArg List.length (keys_of_reorderedEntries each)
    rw [List.length_map, List.length_map] at keys
    rw [← keys, perm.length_eq]

theorem reordered_child {v w : Value} (orders : Reordered v w) {d : Value}
    (child : d ∈ w.children) : ∃ c ∈ v.children, c = d ∨ Reordered c d := by
  cases v with
  | present v =>
    cases w <;> simp only [Reordered, reduceCtorEq] at orders
    obtain rfl := List.mem_singleton.mp child
    exact ⟨v, List.mem_cons_self, .inr orders⟩
  | list vs =>
    cases w <;> simp only [Reordered, reduceCtorEq] at orders
    obtain ⟨c, found, order⟩ := reordered_of_mem orders child
    exact ⟨c, found, .inr order⟩
  | map entries =>
    obtain ⟨others, rfl, -, values⟩ := exists_of_reordered_map orders
    obtain ⟨e, member, side⟩ := List.mem_flatMap.mp child
    obtain ⟨f, found, same, order⟩ := values e member
    simp only [List.mem_cons, List.not_mem_nil, or_false] at side
    rcases side with rfl | rfl
    · exact ⟨f.1, key_mem_children found, .inl same⟩
    · exact ⟨f.2, entry_mem_children found, .inr order⟩
  | record tag fields =>
    cases w <;> simp only [Reordered, reduceCtorEq] at orders
    obtain ⟨c, found, order⟩ := reordered_of_mem orders.2 child
    exact ⟨c, found, .inr order⟩
  | _ =>
    cases (orders : _ = w)
    exact ⟨d, child, .inl rfl⟩

theorem reordered_part {u v w : Value} (part : Part u w) (orders : v = w ∨ Reordered v w) :
    ∃ x, Part x v ∧ (x = u ∨ Reordered x u) := by
  induction part generalizing v with
  | self => exact ⟨v, .self, orders⟩
  | inside child inner ih =>
    rcases orders with rfl | orders
    · obtain ⟨x, part, same⟩ := ih (.inl rfl)
      exact ⟨x, .inside child part, same⟩
    · obtain ⟨c, found, order⟩ := reordered_child orders child
      obtain ⟨x, part, same⟩ := ih order
      exact ⟨x, .inside found part, same⟩

theorem Portable.reordered {v w : Value} (portable : v.Portable) (orders : Reordered v w) :
    w.Portable := by
  constructor
  · intro u part
    obtain ⟨x, found, rfl | order⟩ := reordered_part part (.inr orders)
    · exact portable.counted_le x found
    · exact order.length_eq ▸ portable.counted_le x found
  · intro t part
    obtain ⟨x, found, same⟩ := reordered_part part (.inr orders)
    have instant : x = .instant t := by
      cases x <;> simp_all [Reordered]
    exact portable.no_leap t (instant ▸ found)

end Value

namespace Shape
open Value

theorem Holds.reordered {enclosing : List Shape} {s : Shape} {v w : Value}
    (holds : Holds enclosing s v) (orders : Reordered v w) : Holds enclosing s w := by
  induction holds generalizing w with
  | int holds => cases (orders : _ = w); exact .int holds
  | float fits => cases (orders : _ = w); exact .float fits
  | bool b => cases (orders : _ = w); exact .bool b
  | text s => cases (orders : _ = w); exact .text s
  | bytes b => cases (orders : _ = w); exact .bytes b
  | instant valid => cases (orders : _ = w); exact .instant valid
  | absent => cases (orders : _ = w); exact .absent
  | variant member holds => cases (orders : _ = w); exact .variant member holds
  | again found _ ih => exact .again found (ih orders)
  | present _ ih =>
    cases w <;> simp only [Reordered, reduceCtorEq] at orders
    exact .present (ih orders)
  | list _ ih =>
    cases w <;> simp only [Reordered, reduceCtorEq] at orders
    refine .list fun w member => ?_
    obtain ⟨v, found, order⟩ := reordered_of_mem orders member
    exact ih v found order
  | map distinct keys _ _ ih =>
    obtain ⟨others, rfl, same, values⟩ := exists_of_reordered_map orders
    refine .map (same.nodup_iff.1 distinct) ?_ ?_
    · intro d member
      obtain ⟨e, found, same, -⟩ := values d member
      exact same ▸ keys e found
    · intro d member
      obtain ⟨e, found, -, order⟩ := values d member
      exact ih e found order
  | record tagged size _ ih =>
    cases w <;> simp only [Reordered, reduceCtorEq] at orders
    obtain ⟨rfl, each⟩ := orders
    refine .record tagged (size.trans (length_of_reorderedEach each)) fun p member => ?_
    obtain ⟨v, found, order⟩ := reordered_of_mem_zip each member
    exact ih _ found order

end Shape
end Boundary
