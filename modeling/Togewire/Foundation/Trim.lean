import Mathlib.Data.List.Infix
import Mathlib.Data.List.TakeWhile
import Mathlib.Tactic.TypeStar

/-!
# Stripping a list at both ends

Tokens of a class are dropped from both ends until others are met.  A list which ends in others
stays as it is, and what stands around it is dropped if it is of the class.
-/

namespace Trimming

variable {α : Type*} {drops : α → Bool} {text front back : List α}

/-- Drop the tokens of a class from both ends. -/
def strip (drops : α → Bool) (text : List α) : List α :=
  ((text.dropWhile drops).reverse.dropWhile drops).reverse

/-- Neither end is of the class. -/
structure Stripped (drops : α → Bool) (text : List α) : Prop where
  head : ∀ token ∈ text.head?, drops token = false
  last : ∀ token ∈ text.getLast?, drops token = false

theorem strip_start (drops : α → Bool) (text : List α) :
    strip drops text <+: text.dropWhile drops := by
  rw [← List.reverse_suffix, strip, List.reverse_reverse]
  exact List.dropWhile_suffix drops

theorem strip_inside (drops : α → Bool) (text : List α) : strip drops text <:+: text :=
  (strip_start drops text).isInfix.trans (List.dropWhile_suffix drops).isInfix

theorem head?_dropWhile_eq_false : ∀ token ∈ (text.dropWhile drops).head?, drops token = false := by
  intro token first
  have met := List.head?_dropWhile_not drops text
  rw [show (text.dropWhile drops).head? = some token from first] at met
  simpa using met

theorem stripped_strip (drops : α → Bool) (text : List α) : Stripped drops (strip drops text) where
  head := by
    intro token first
    obtain ⟨rest, split⟩ := strip_start drops text
    have started : token ∈ (text.dropWhile drops).head? := by
      rw [← split, List.head?_append, show (strip drops text).head? = some token from first]
      rfl
    exact head?_dropWhile_eq_false token started
  last := by
    intro token final
    rw [strip, List.getLast?_reverse] at final
    exact head?_dropWhile_eq_false token final

theorem strip_eq_nil_iff : strip drops text = [] ↔ ∀ token ∈ text, drops token := by
  constructor
  · intro empty
    have all : text.dropWhile drops = [] := by
      by_contra nonempty
      obtain ⟨token, rest, started⟩ := List.exists_cons_of_ne_nil nonempty
      have kept : drops token = false :=
        head?_dropWhile_eq_false token (by rw [started]; rfl)
      have dropped : ∀ token ∈ (text.dropWhile drops).reverse, drops token := by
        rw [← List.dropWhile_eq_nil_iff]
        simpa [strip] using empty
      have member : token ∈ (text.dropWhile drops).reverse := by simp [started]
      rw [dropped token member] at kept
      cases kept
    exact List.dropWhile_eq_nil_iff.mp all
  · intro dropped
    rw [strip, List.dropWhile_eq_nil_iff.mpr dropped]
    rfl

theorem Stripped.dropWhile_eq (stripped : Stripped drops text) : text.dropWhile drops = text := by
  cases text with
  | nil => rfl
  | cons token text =>
      have kept := stripped.head token rfl
      simp [kept]

theorem Stripped.reverse (stripped : Stripped drops text) : Stripped drops text.reverse where
  head := by simpa using stripped.last
  last := by simpa using stripped.head

theorem Stripped.strip_eq (stripped : Stripped drops text) : strip drops text = text := by
  rw [strip, stripped.dropWhile_eq, stripped.reverse.dropWhile_eq, List.reverse_reverse]

/-- A token of another class at the front stays there. -/
theorem head?_strip (kept : ∀ token ∈ text.head?, drops token = false) :
    (strip drops text).head? = text.head? := by
  cases text with
  | nil => rfl
  | cons token text =>
      have whole : (token :: text).dropWhile drops = token :: text := by
        simp [kept token rfl]
      have nonempty : strip drops (token :: text) ≠ [] := by
        intro empty
        have dropped := strip_eq_nil_iff.mp empty token List.mem_cons_self
        rw [kept token rfl] at dropped
        cases dropped
      obtain ⟨first, rest, split⟩ := List.exists_cons_of_ne_nil nonempty
      obtain ⟨back, started⟩ := strip_start drops (token :: text)
      rw [whole, split] at started
      rw [split]
      exact congrArg some (List.cons.inj started).1

/-- What stands around a list with bare ends is stripped on its own side. -/
theorem Stripped.strip_between (stripped : Stripped drops text) (nonempty : text ≠ [])
    (front back : List α) :
    strip drops (front ++ text ++ back) =
      front.dropWhile drops ++ text ++ (back.reverse.dropWhile drops).reverse := by
  have keeps : ∀ {list rest : List α}, (∀ token ∈ list.head?, drops token = false) → list ≠ [] →
      ∀ before : List α, (before ++ (list ++ rest)).dropWhile drops =
        before.dropWhile drops ++ (list ++ rest) := by
    intro list rest kept nonempty before
    obtain ⟨token, tokens, rfl⟩ := List.exists_cons_of_ne_nil nonempty
    have first := kept token rfl
    induction before with
    | nil => simp [first]
    | cons other before ih =>
        cases dropped : drops other with
        | true => simpa [dropped] using ih
        | false => simp [dropped]
  have backwards : ∀ token ∈ text.reverse.head?, drops token = false := stripped.reverse.head
  rw [strip, List.append_assoc, keeps stripped.head nonempty, List.reverse_append,
    List.reverse_append, List.append_assoc,
    keeps backwards (by simpa using nonempty)]
  simp

/-- A list is what is left of it with tokens of the class around. -/
theorem strip_split (drops : α → Bool) (text : List α) :
    ∃ front back, text = front ++ strip drops text ++ back ∧ (∀ token ∈ front, drops token) ∧
      ∀ token ∈ back, drops token := by
  refine ⟨text.takeWhile drops, ((text.dropWhile drops).reverse.takeWhile drops).reverse, ?_, ?_,
    ?_⟩
  · rw [strip, List.append_assoc, ← List.reverse_append, List.takeWhile_append_dropWhile,
      List.reverse_reverse, List.takeWhile_append_dropWhile]
  · intro token member
    exact List.mem_takeWhile_imp member
  · intro token member
    exact List.mem_takeWhile_imp (List.mem_reverse.mp member)

theorem strip_append (leading : ∀ token ∈ front, drops token)
    (trailing : ∀ token ∈ back, drops token) :
    strip drops (front ++ text ++ back) = strip drops text := by
  by_cases empty : strip drops text = []
  · rw [empty, strip_eq_nil_iff]
    have inside := strip_eq_nil_iff.mp empty
    simp only [List.forall_mem_append]
    exact ⟨⟨leading, inside⟩, trailing⟩
  · obtain ⟨before, after, split, first, last⟩ := strip_split drops text
    have whole : front ++ text ++ back =
        (front ++ before) ++ strip drops text ++ (after ++ back) := by
      conv_lhs => rw [split]
      simp only [List.append_assoc]
    have dropped : (front ++ before).dropWhile drops = [] := by
      rw [List.dropWhile_eq_nil_iff]
      exact List.forall_mem_append.mpr ⟨leading, first⟩
    have trailed : (after ++ back).reverse.dropWhile drops = [] := by
      rw [List.dropWhile_eq_nil_iff]
      intro token member
      exact List.forall_mem_append.mpr ⟨last, trailing⟩ token (List.mem_reverse.mp member)
    rw [whole, (stripped_strip drops text).strip_between empty, dropped, trailed]
    simp

end Trimming
