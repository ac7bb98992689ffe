import Mathlib.Data.List.Basic

/-!
# The foremost of a list

Under a relation which tells apart any two members of a list, at most `k` of them have fewer than
`k` others above them.
-/

namespace Ranking

variable {α : Type*} (above : α → α → Bool)

/-- Those with fewer than so many others above them. -/
def foremost (count : Nat) (members : List α) : List α :=
  members.filter fun one => (members.filter fun other => above other one).length < count

variable {above}

/-- Among members which can be told apart, all others are above one of them. -/
theorem exists_lowest (trans : ∀ one two three, above one two = true → above two three = true →
      above one three = true)
    {members : List α} (some_member : members ≠ [])
    (apart : members.Pairwise fun one two => above one two = true ∨ above two one = true) :
    ∃ lowest ∈ members, (∀ one ∈ members, one = lowest ∨ above one lowest = true) ∧
      members.length ≤ (members.filter fun other => above other lowest).length + 1 := by
  induction members with
  | nil => exact absurd rfl some_member
  | cons first rest ih =>
      obtain ⟨told, apart⟩ := List.pairwise_cons.mp apart
      by_cases last : rest = []
      · subst last
        exact ⟨first, List.mem_cons_self, by simp, by simp⟩
      · obtain ⟨lowest, member, others, counted⟩ := ih last apart
        rcases told lowest member with higher | lower
        · refine ⟨lowest, List.mem_cons_of_mem first member, ?_, ?_⟩
          · exact List.forall_mem_cons.mpr ⟨.inr higher, others⟩
          · rw [List.filter_cons_of_pos (p := fun other => above other lowest) higher]
            simpa using counted
        · have all : ∀ one ∈ rest, above one first = true := by
            intro one listed
            rcases others one listed with rfl | higher
            · exact lower
            · exact trans one lowest first higher lower
          refine ⟨first, List.mem_cons_self, ?_, ?_⟩
          · exact List.forall_mem_cons.mpr ⟨.inl rfl, fun one listed => .inr (all one listed)⟩
          · have kept := (List.sublist_cons_self first rest).filter fun other => above other first
            rw [List.filter_eq_self.mpr all] at kept
            simpa using kept.length_le

theorem length_foremost_le (trans : ∀ one two three, above one two = true →
      above two three = true → above one three = true)
    {members : List α}
    (apart : members.Pairwise fun one two => above one two = true ∨ above two one = true)
    (count : Nat) : (foremost above count members).length ≤ count := by
  by_cases none_there : foremost above count members = []
  · simp [none_there]
  · obtain ⟨lowest, member, -, counted⟩ :=
      exists_lowest trans none_there (apart.sublist List.filter_sublist)
    obtain ⟨-, few⟩ := List.mem_filter.mp member
    have part : (foremost above count members).Sublist members := List.filter_sublist
    have bound := (part.filter fun other => above other lowest).length_le
    have below : (members.filter fun other => above other lowest).length < count := by
      simpa using few
    omega

end Ranking
