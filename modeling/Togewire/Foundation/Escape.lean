import Mathlib.Data.List.Basic
import Mathlib.Tactic.TypeStar

/-!
# Escaped text

A mark before a token takes away the token's special meaning, and the mark itself is special.
Text which is escaped so is unescaped to what it was, and has no special token without a mark.
-/

namespace Escape

variable {α : Type*} {mark : α} {special : α → Bool} {text front back : List α}

/-- A token as it is written. -/
def escapeToken (mark : α) (special : α → Bool) (token : α) : List α :=
  if special token then [mark, token] else [token]

/-- Text with a mark before everything special. -/
def escape (mark : α) (special : α → Bool) (text : List α) : List α :=
  text.flatMap (escapeToken mark special)

/-- Take every mark away, and the token after it as it is. -/
def unescape [DecidableEq α] (mark : α) : List α → List α
  | [] => []
  | [last] => [last]
  | first :: second :: rest =>
      if first = mark then second :: unescape mark rest
      else first :: unescape mark (second :: rest)

/-- Every token is plain, or has a mark before it and may have one. -/
inductive Escaped (mark : α) (plain marked : α → Prop) : List α → Prop
  | nil : Escaped mark plain marked []
  | plain {token : α} {rest : List α} : plain token → Escaped mark plain marked rest →
      Escaped mark plain marked (token :: rest)
  | marked {token : α} {rest : List α} : marked token → Escaped mark plain marked rest →
      Escaped mark plain marked (mark :: token :: rest)

theorem escape_cons (token : α) (text : List α) :
    escape mark special (token :: text) =
      escapeToken mark special token ++ escape mark special text :=
  List.flatMap_cons

theorem escape_append (front back : List α) :
    escape mark special (front ++ back) = escape mark special front ++ escape mark special back :=
  List.flatMap_append

theorem escape_eq_self (ordinary : ∀ token ∈ text, special token = false) :
    escape mark special text = text := by
  induction text with
  | nil => rfl
  | cons token text ih =>
      obtain ⟨first, others⟩ := List.forall_mem_cons.mp ordinary
      rw [escape_cons, escapeToken, first, if_neg Bool.false_ne_true, ih others]
      rfl

/-- A run of one special token is a run of it and its mark. -/
theorem escape_replicate {token : α} (needs : special token) (count : Nat) :
    escape mark special (List.replicate count token) =
      (List.replicate count [mark, token]).flatten := by
  induction count with
  | zero => rfl
  | succ count ih =>
      rw [List.replicate_succ, escape_cons, escapeToken, if_pos needs, ih]
      rfl

theorem unescape_cons [DecidableEq α] {token : α} (unmarked : token ≠ mark) (text : List α) :
    unescape mark (token :: text) = token :: unescape mark text := by
  cases text with
  | nil => rfl
  | cons next text => rw [unescape, if_neg unmarked]

theorem unescape_escape [DecidableEq α] (own : special mark) (text : List α) :
    unescape mark (escape mark special text) = text := by
  induction text with
  | nil => rfl
  | cons token text ih =>
      rw [escape_cons, escapeToken]
      by_cases needs : special token
      · rw [if_pos needs, List.cons_append, List.singleton_append, unescape, if_pos rfl, ih]
      · have unmarked : token ≠ mark := by
          rintro rfl
          exact needs own
        rw [if_neg needs, List.singleton_append, unescape_cons unmarked, ih]

/-- Escaping marks what is special, and nothing else. -/
theorem escaped_escape {marked : α → Prop}
    (may : ∀ token ∈ text, special token → marked token) :
    Escaped mark (fun token => special token = false) marked (escape mark special text) := by
  induction text with
  | nil => exact .nil
  | cons token text ih =>
      obtain ⟨first, others⟩ := List.forall_mem_cons.mp may
      rw [escape_cons, escapeToken]
      by_cases needs : special token
      · rw [if_pos needs]
        exact .marked (first needs) (ih others)
      · rw [if_neg needs]
        exact .plain (Bool.eq_false_iff.mpr needs) (ih others)

end Escape
