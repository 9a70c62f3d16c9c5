import Mathlib.Data.List.Sort
import Mathlib.Data.List.TakeWhile

/-!
# Ordered sets as sorted lists

A `std::set` over a linear order as the list of its elements in increasing order: `insert` adds an
element that is not there yet, `List.erase` removes one, iteration runs along the list, `begin()` is
its head and `rbegin()` its last element.

* `sorted_insert`, `sorted_erase` — both operations keep the list strictly increasing.
* `find?_eq_some_iff` — the first element with a property is the least one that has it.
* `getLast?_eq_some_iff` — the last element is the greatest.

A set whose comparator orders a key of its elements, a key that may be read from outside the set,
is a list along which the keys increase; `insertBefore` puts a new element where `insert` does.

* `pairwise_insertBefore` — inserting an element whose key is new keeps the keys increasing.
* `find?_not_lt_self` — `lower_bound` of an element of the set is that element.
* `key_le_of_find?_eq_some` — the first element with a property has the least key of those that
  have it.
-/

set_option autoImplicit false

namespace SortedSet

variable {α : Type*} [LinearOrder α]

/-- `std::set::insert`. -/
def insert (s : List α) (a : α) : List α :=
  if a ∈ s then s else s.orderedInsert (· ≤ ·) a

theorem mem_insert {s : List α} {a b : α} : b ∈ insert s a ↔ b = a ∨ b ∈ s := by
  unfold insert
  split_ifs with h
  · constructor
    · exact Or.inr
    · rintro (rfl | hb)
      · exact h
      · exact hb
  · exact List.mem_orderedInsert (fun x y : α => x ≤ y)

theorem sorted_orderedInsert {a : α} :
    ∀ {s : List α}, a ∉ s → s.Pairwise (· < ·) → (s.orderedInsert (· ≤ ·) a).Pairwise (· < ·)
  | [], _, _ => List.pairwise_singleton _ _
  | b :: t, ha, hs => by
    rw [List.mem_cons, not_or] at ha
    rw [List.pairwise_cons] at hs
    simp only [List.orderedInsert]
    split_ifs with hab
    · -- `a` goes in front of `b`
      have hlt : a < b := lt_of_le_of_ne hab ha.1
      refine List.pairwise_cons.mpr ⟨?_, List.pairwise_cons.mpr hs⟩
      intro c hc
      rcases List.mem_cons.mp hc with rfl | hc
      · exact hlt
      · exact lt_trans hlt (hs.1 c hc)
    · refine List.pairwise_cons.mpr ⟨?_, sorted_orderedInsert ha.2 hs.2⟩
      intro c hc
      rcases (List.mem_orderedInsert (fun x y : α => x ≤ y)).mp hc with rfl | hc
      · exact lt_of_not_ge hab
      · exact hs.1 c hc

theorem sorted_insert {s : List α} (hs : s.Pairwise (· < ·)) (a : α) :
    (insert s a).Pairwise (· < ·) := by
  unfold insert
  split_ifs with h
  · exact hs
  · exact sorted_orderedInsert h hs

theorem sorted_erase {s : List α} (hs : s.Pairwise (· < ·)) (a : α) :
    (s.erase a).Pairwise (· < ·) :=
  hs.sublist (List.erase_sublist)

theorem mem_erase {s : List α} (hs : s.Pairwise (· < ·)) {a b : α} :
    b ∈ s.erase a ↔ b ≠ a ∧ b ∈ s :=
  List.Nodup.mem_erase_iff (hs.imp ne_of_lt)

/-- The first element with a property is the least one that has it. -/
theorem find?_eq_some_iff {p : α → Bool} :
    ∀ {s : List α}, s.Pairwise (· < ·) → ∀ {a : α},
      s.find? p = some a ↔ a ∈ s ∧ p a ∧ ∀ b ∈ s, b < a → p b = false
  | [], _, a => by simp
  | b :: t, hs, a => by
    rw [List.pairwise_cons] at hs
    rw [List.find?_cons]
    cases hb : p b with
    | true =>
      constructor
      · rintro ⟨⟩
        refine ⟨List.mem_cons_self, hb, ?_⟩
        intro c hc hcb
        rcases List.mem_cons.mp hc with rfl | hc
        · exact absurd hcb (lt_irrefl c)
        · exact absurd (hs.1 c hc) (not_lt_of_gt hcb)
      · rintro ⟨ha, hpa, hmin⟩
        rcases List.mem_cons.mp ha with rfl | ha
        · rfl
        · rw [hmin b List.mem_cons_self (hs.1 a ha)] at hb
          cases hb
    | false =>
      rw [find?_eq_some_iff hs.2]
      constructor
      · rintro ⟨ha, hpa, hmin⟩
        refine ⟨List.mem_cons_of_mem b ha, hpa, ?_⟩
        intro c hc hca
        rcases List.mem_cons.mp hc with rfl | hc
        · exact hb
        · exact hmin c hc hca
      · rintro ⟨ha, hpa, hmin⟩
        rcases List.mem_cons.mp ha with rfl | ha
        · rw [hb] at hpa
          cases hpa
        · exact ⟨ha, hpa, fun c hc hca => hmin c (List.mem_cons_of_mem b hc) hca⟩

/-- The last element is the greatest. -/
theorem getLast?_eq_some_iff {s : List α} (hs : s.Pairwise (· < ·)) {a : α} :
    s.getLast? = some a ↔ a ∈ s ∧ ∀ b ∈ s, b ≤ a := by
  constructor
  · intro h
    obtain ⟨t, rfl⟩ := List.getLast?_eq_some_iff.mp h
    refine ⟨List.mem_append_right t (List.mem_singleton_self a), ?_⟩
    intro b hb
    rcases List.mem_append.mp hb with hb | hb
    · exact le_of_lt (List.pairwise_append.mp hs |>.2.2 b hb a (List.mem_singleton_self a))
    · exact le_of_eq (List.mem_singleton.mp hb)
  · rintro ⟨ha, hmax⟩
    obtain ⟨c, hc⟩ := Option.isSome_iff_exists.mp
      (List.getLast?_isSome.mpr (List.ne_nil_of_mem ha))
    obtain ⟨t, rfl⟩ := List.getLast?_eq_some_iff.mp hc
    have hca : c ≤ a := hmax c (List.mem_append_right t (List.mem_singleton_self c))
    rcases List.mem_append.mp ha with ha | ha
    · exact absurd (List.pairwise_append.mp hs |>.2.2 a ha c (List.mem_singleton_self c))
        (not_lt_of_ge hca)
    · rw [List.mem_singleton.mp ha]
      exact hc

/-! ## Sets ordered by a key -/

section Key

variable {β : Type*}

/-- `std::set::insert` of an element that is not in the set: in front of the first element that
does not come before it. -/
def insertBefore (p : β → Bool) (s : List β) (a : β) : List β :=
  s.takeWhile p ++ a :: s.drop (s.takeWhile p).length

theorem drop_length_takeWhile (p : β → Bool) (s : List β) :
    s.drop (s.takeWhile p).length = s.dropWhile p := by
  calc s.drop (s.takeWhile p).length
      = (s.takeWhile p ++ s.dropWhile p).drop (s.takeWhile p).length := by
        rw [List.takeWhile_append_dropWhile]
    _ = s.dropWhile p := List.drop_left

theorem mem_insertBefore {p : β → Bool} {s : List β} {a b : β} :
    b ∈ insertBefore p s a ↔ b = a ∨ b ∈ s := by
  conv_rhs => rw [← List.takeWhile_append_dropWhile (p := p) (l := s)]
  rw [insertBefore, drop_length_takeWhile]
  simp only [List.mem_append, List.mem_cons]
  tauto

variable {key : β → α} {lt : β → β → Bool}

/-- Inserting an element whose key is not yet in the set keeps the keys increasing, when `lt`
compares the keys. -/
theorem pairwise_insertBefore (hlt : ∀ x y, lt x y = true ↔ key x < key y) {s : List β}
    (hs : s.Pairwise fun x y => key x < key y) {a : β} (ha : ∀ x ∈ s, key x ≠ key a) :
    (insertBefore (fun e => lt e a) s a).Pairwise fun x y => key x < key y := by
  have hsplit := List.takeWhile_append_dropWhile (p := fun e => lt e a) (l := s)
  rw [← hsplit, List.pairwise_append] at hs
  have hbefore : ∀ x ∈ s.takeWhile (fun e => lt e a), key x < key a :=
    fun x hx => (hlt x a).mp (List.mem_takeWhile_imp (p := fun e => lt e a) hx)
  have hafter : ∀ y ∈ s.dropWhile (fun e => lt e a), key a < key y := by
    intro y hy
    cases hd : s.dropWhile (fun e => lt e a) with
    | nil => rw [hd] at hy; cases hy
    | cons e rest =>
      have he : lt e a = false := by
        simpa [hd] using List.head_dropWhile_not (fun e => lt e a) (l := s) (by simp [hd])
      have hae : key a < key e := by
        have hle : key a ≤ key e := le_of_not_gt fun h => by simp [(hlt e a).mpr h] at he
        have hmem : e ∈ s := by
          rw [← hsplit, hd]
          exact List.mem_append_right _ List.mem_cons_self
        exact lt_of_le_of_ne hle (ha e hmem).symm
      rw [hd] at hy hs
      rcases List.mem_cons.mp hy with rfl | hy
      · exact hae
      · exact lt_trans hae ((List.pairwise_cons.mp hs.2.1).1 y hy)
  rw [insertBefore, drop_length_takeWhile, List.pairwise_append, List.pairwise_cons]
  refine ⟨hs.1, ⟨hafter, hs.2.1⟩, ?_⟩
  intro x hx y hy
  rcases List.mem_cons.mp hy with rfl | hy
  · exact hbefore x hx
  · exact hs.2.2 x hx y hy

/-- `lower_bound` of an element of the set, the first element that does not come before it, is
that element. -/
theorem find?_not_lt_self (hlt : ∀ x y, lt x y = true ↔ key x < key y) {s : List β}
    (hs : s.Pairwise fun x y => key x < key y) {a : β} (ha : a ∈ s) :
    s.find? (fun e => !lt e a) = some a := by
  obtain ⟨t, d, rfl⟩ := List.append_of_mem ha
  rw [List.find?_eq_some_iff_append]
  have hself : lt a a = false := by simpa using (hlt a a).not.mpr (lt_irrefl _)
  refine ⟨by simp [hself], t, d, rfl, ?_⟩
  intro x hx
  have hxa : key x < key a :=
    (List.pairwise_append.mp hs).2.2 x hx a List.mem_cons_self
  simp [(hlt x a).mpr hxa]

/-- The first element with a property has the least key of the elements that have it. -/
theorem key_le_of_find?_eq_some {p : β → Bool} {s : List β}
    (hs : s.Pairwise fun x y => key x < key y) {a : β} (h : s.find? p = some a) :
    ∀ b ∈ s, p b = true → key a ≤ key b := by
  obtain ⟨-, t, d, rfl, hfirst⟩ := List.find?_eq_some_iff_append.mp h
  intro b hb hpb
  rcases List.mem_append.mp hb with hb | hb
  · exact absurd hpb (by simpa using hfirst b hb)
  · rcases List.mem_cons.mp hb with rfl | hb
    · exact le_rfl
    · exact le_of_lt ((List.pairwise_cons.mp (List.pairwise_append.mp hs).2.1).1 b hb)

end Key

end SortedSet
