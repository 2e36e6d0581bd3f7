import Mathlib.Data.List.Basic

namespace UrlHandoff

variable {α : Type} [DecidableEq α]

def PiecesOf (separator : α) (pieces : List (List α)) (whole : List α) : Prop :=
  pieces ≠ [] ∧ (∀ piece ∈ pieces, separator ∉ piece) ∧ [separator].intercalate pieces = whole

theorem not_mem_of_mem_splitOn {c : α} {s piece : List α} (h : piece ∈ s.splitOn c) :
    c ∉ piece := by
  induction s generalizing piece with
  | nil =>
    rw [List.splitOn_nil, List.mem_singleton] at h
    simp [h]
  | cons first s ih =>
    obtain ⟨head, tail, split⟩ := List.exists_cons_of_ne_nil (List.splitOn_ne_nil c s)
    have hhead : c ∉ head := ih (by simp [split])
    have htail : ∀ other ∈ tail, c ∉ other := fun other member => ih (by simp [split, member])
    rw [List.splitOn_cons_eq_if_modifyHead, split] at h
    by_cases hfirst : first = c
    · simp only [hfirst, beq_self_eq_true, if_true, List.mem_cons] at h
      obtain rfl | rfl | member := h
      · simp
      · exact hhead
      · exact htail piece member
    · simp only [beq_iff_eq, hfirst, if_false, List.modifyHead_cons, List.mem_cons] at h
      obtain rfl | member := h
      · simpa [Ne.symm hfirst] using hhead
      · exact htail piece member

theorem piecesOf_iff (c : α) (pieces : List (List α)) (s : List α) :
    PiecesOf c pieces s ↔ s.splitOn c = pieces := by
  constructor
  · rintro ⟨nonempty, plain, rfl⟩
    exact List.splitOn_intercalate c plain nonempty
  · rintro rfl
    exact ⟨List.splitOn_ne_nil c s, fun _ => not_mem_of_mem_splitOn, List.intercalate_splitOn c⟩

theorem splitOn_append_cons (c : α) (s t : List α) :
    (s ++ c :: t).splitOn c = s.splitOn c ++ t.splitOn c :=
  List.splitOnP_append_cons s t (beq_self_eq_true c)

end UrlHandoff
