import Mathlib.Algebra.Order.Ring.Nat
import Mathlib.Data.List.Infix
import Mathlib.Tactic.TypeStar

/-!
# Windows of a bounded weight

A window holds the last items of a sequence.  A new item is put at its end, and items are dropped
from its front while a running total is above a limit.  Where the total is the weight of the window,
what stays is the longest tail of the sequence within the limit.
-/

namespace Window

variable {α : Type*} {weight : α → Nat} {limit : Nat} {item : α}
  {items whole window next : List α}

/-- The weight of a list of items. -/
def total (weight : α → Nat) (items : List α) : Nat := (items.map weight).sum

@[simp] theorem total_nil : total weight [] = 0 := rfl

@[simp] theorem total_cons : total weight (item :: items) = weight item + total weight items :=
  List.sum_cons

theorem total_cons_sub : total weight (item :: items) - weight item = total weight items := by
  rw [total_cons]
  omega

@[simp] theorem total_append (front back : List α) :
    total weight (front ++ back) = total weight front + total weight back := by
  simp [total]

/-- A tail within the limit, of which every tail within the limit is one. -/
structure Longest (weight : α → Nat) (limit : Nat) (whole window : List α) : Prop where
  tail : window <:+ whole
  within : total weight window ≤ limit
  longest : ∀ other, other <:+ whole → total weight other ≤ limit → other <:+ window

/-- Drop items while the running total is above the limit. -/
def trim (weight : α → Nat) (limit : Nat) : List α → Nat → List α × Nat
  | [], sum => ([], sum)
  | item :: items, sum =>
      if limit < sum then trim weight limit items (sum - weight item) else (item :: items, sum)

/-- Drop items in the same way, with every difference checked. -/
def trimChecked (weight : α → Nat) (limit : Nat) : List α → Nat → Option (List α × Nat)
  | [], sum => some ([], sum)
  | item :: items, sum =>
      if limit < sum then
        if weight item ≤ sum then trimChecked weight limit items (sum - weight item) else none
      else
        some (item :: items, sum)

/-! ## Trimming -/

theorem longest_nil (weight : α → Nat) (limit : Nat) : Longest weight limit [] [] where
  tail := List.suffix_rfl
  within := Nat.zero_le limit
  longest _ tail _ := tail

/-- What is dropped was counted. -/
theorem trimChecked_total (items : List α) :
    trimChecked weight limit items (total weight items) =
      some (trim weight limit items (total weight items)) := by
  induction items with
  | nil => rfl
  | cons item items ih =>
      have counted : weight item ≤ total weight (item :: items) := by
        rw [total_cons]
        omega
      rw [trimChecked, trim, total_cons_sub, if_pos counted, ih]
      split <;> rfl

theorem snd_trim_total (items : List α) :
    (trim weight limit items (total weight items)).2 =
      total weight (trim weight limit items (total weight items)).1 := by
  induction items with
  | nil => rfl
  | cons item items ih =>
      rw [trim, total_cons_sub]
      split
      · exact ih
      · rfl

theorem longest_trim_total (items : List α) :
    Longest weight limit items (trim weight limit items (total weight items)).1 := by
  induction items with
  | nil => exact longest_nil weight limit
  | cons item items ih =>
      rw [trim, total_cons_sub]
      split
      · rename_i heavy
        constructor
        · exact ih.tail.trans (List.suffix_cons item items)
        · exact ih.within
        · intro other tail within
          rcases List.suffix_cons_iff.mp tail with rfl | shorter
          · omega
          · exact ih.longest other shorter within
      · rename_i light
        constructor
        · exact List.suffix_rfl
        · exact Nat.le_of_not_gt light
        · exact fun _ tail _ => tail

/-! ## Adding an item -/

/-- The longest tail after an item is found in the longest one before it. -/
theorem Longest.concat (before : Longest weight limit whole window)
    (after : Longest weight limit (window ++ [item]) next) :
    Longest weight limit (whole ++ [item]) next where
  tail := by
    obtain ⟨front, rfl⟩ := before.tail
    rw [List.append_assoc]
    exact after.tail.trans (List.suffix_append front _)
  within := after.within
  longest other tail within := by
    apply after.longest other _ within
    rcases List.suffix_concat_iff.mp tail with rfl | ⟨shorter, rfl, earlier⟩
    · exact List.nil_suffix
    · have lighter : total weight shorter ≤ limit := by
        rw [total_append] at within
        omega
      obtain ⟨front, rfl⟩ := before.longest shorter earlier lighter
      exact ⟨front, by simp⟩

/-- An item which is within the limit by itself ends the window. -/
theorem Longest.ends (longest : Longest weight limit (whole ++ [item]) window)
    (light : weight item ≤ limit) : [item] <:+ window := by
  apply longest.longest
  · exact List.suffix_append whole [item]
  · rw [total_cons, total_nil]
    exact light

end Window
