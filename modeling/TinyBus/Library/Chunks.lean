/-
Lists that are cut into chunks of one size, with what is left over as a last chunk of its
own.  There is one way to cut a list, and `List.toChunks` finds it.
-/

import Mathlib.Data.List.Basic

universe u

/-- Some chunks of `size` elements and a last one of at least one. -/
inductive Chunked {α : Type u} (size : Nat) : List α → List (List α) → Prop
  | nil : Chunked size [] []
  | last {whole : List α} (some : whole ≠ []) (fits : whole.length ≤ size) :
      Chunked size whole [whole]
  | cons {chunk rest : List α} {chunks : List (List α)} (full : chunk.length = size)
      (later : Chunked size rest chunks) : Chunked size (chunk ++ rest) (chunk :: chunks)

namespace Chunked

variable {α : Type u} {size : Nat} {whole rest : List α} {chunks others : List (List α)}

theorem flatten (chunked : Chunked size whole chunks) : chunks.flatten = whole := by
  induction chunked with
  | nil => rfl
  | last some fits => simp
  | cons full later ih => rw [List.flatten_cons, ih]

theorem length_le (chunked : Chunked size whole chunks) {chunk : List α}
    (member : chunk ∈ chunks) : chunk.length ≤ size := by
  induction chunked with
  | nil => cases member
  | last some fits =>
      rw [List.mem_singleton.mp member]
      exact fits
  | cons full later ih =>
      rcases List.mem_cons.mp member with same | later
      · rw [same]
        exact Nat.le_of_eq full
      · exact ih later

theorem ne_nil (chunked : Chunked size whole chunks) (positive : 0 < size) {chunk : List α}
    (member : chunk ∈ chunks) : chunk ≠ [] := by
  induction chunked with
  | nil => cases member
  | last some fits =>
      rw [List.mem_singleton.mp member]
      exact some
  | cons full later ih =>
      rcases List.mem_cons.mp member with same | later
      · subst same
        exact List.ne_nil_of_length_pos (full ▸ positive)
      · exact ih later

theorem append {early : List (List α)} (full : ∀ chunk ∈ early, chunk.length = size)
    (late : Chunked size rest chunks) :
    Chunked size (early.flatten ++ rest) (early ++ chunks) := by
  induction early with
  | nil => exact late
  | cons chunk early ih =>
      rw [List.flatten_cons, List.append_assoc]
      exact .cons (full chunk List.mem_cons_self)
        (ih (fun other member => full other (List.mem_cons_of_mem _ member)))

theorem of_nil (chunked : Chunked size [] chunks) (positive : 0 < size) : chunks = [] := by
  generalize empty : ([] : List α) = whole at chunked
  cases chunked with
  | nil => rfl
  | last some fits => exact absurd empty.symm some
  | cons full later =>
      rw [(List.append_eq_nil_iff.mp empty.symm).1, List.length_nil] at full
      omega

theorem unique (chunked : Chunked size whole chunks) (positive : 0 < size)
    (other : Chunked size whole others) : chunks = others := by
  induction chunked generalizing others with
  | nil => exact (other.of_nil positive).symm
  | @last whole some fits =>
      cases other with
      | nil => exact absurd rfl some
      | last _ _ => rfl
      | @cons chunk rest later full cut =>
          rw [List.length_append, full] at fits
          have short : rest.length = 0 := by omega
          have done := List.length_eq_zero_iff.mp short
          subst done
          rw [List.append_nil, cut.of_nil positive]
  | @cons chunk rest chunks full later ih =>
      generalize same : chunk ++ rest = whole at other
      cases other with
      | nil =>
          rw [(List.append_eq_nil_iff.mp same).1, List.length_nil] at full
          omega
      | last some fits =>
          rw [← same, List.length_append, full] at fits
          have short : rest.length = 0 := by omega
          have done := List.length_eq_zero_iff.mp short
          subst done
          rw [← same, List.append_nil, later.of_nil positive]
      | cons full' later' =>
          obtain ⟨rfl, rfl⟩ := List.append_inj same (full.trans full'.symm)
          rw [ih later']

end Chunked

namespace List

variable {α : Type u}

private theorem toChunks_go {size : Nat} (rest : List α) (current : Array α)
    (done : Array (List α)) (some : current.toList ≠ []) (fits : current.size ≤ size) :
    ∃ chunks, toChunks.go size rest current done = done.toList ++ chunks ∧
      Chunked size (current.toList ++ rest) chunks := by
  induction rest generalizing current done with
  | nil =>
      refine ⟨[current.toList], ?_, ?_⟩
      · simp [toChunks.go]
      · rw [append_nil]
        exact .last some fits
  | cons x rest ih =>
      unfold toChunks.go
      split
      · rename_i full
        obtain ⟨chunks, found, chunked⟩ := ih ((Array.mkEmpty size).push x)
          (done.push current.toList) (by simp) (by
            rw [beq_iff_eq] at full
            have := length_pos_of_ne_nil some
            rw [Array.length_toList] at this
            simp
            omega)
        refine ⟨current.toList :: chunks, ?_, ?_⟩
        · rw [found]
          simp
        · apply Chunked.cons
          · rw [Array.length_toList]
            exact eq_of_beq full
          · simpa using chunked
      · rename_i more
        rw [beq_iff_eq] at more
        obtain ⟨chunks, found, chunked⟩ := ih (current.push x) done (by simp) (by
          rw [Array.size_push]
          omega)
        refine ⟨chunks, found, ?_⟩
        rw [Array.toList_push, append_assoc] at chunked
        exact chunked

theorem toChunks_chunked {size : Nat} (positive : 0 < size) (whole : List α) :
    Chunked size whole (whole.toChunks size) := by
  cases whole with
  | nil =>
      unfold toChunks
      exact .nil
  | cons x rest =>
      cases size with
      | zero => omega
      | succ size =>
          have one : (#[x] : Array α).size ≤ size + 1 := Nat.le_add_left 1 size
          obtain ⟨chunks, found, chunked⟩ := toChunks_go rest #[x] #[] (by simp) one
          have cut : (x :: rest).toChunks (size + 1) = chunks := found
          rw [cut]
          exact chunked

end List
