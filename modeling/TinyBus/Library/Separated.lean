/-!
Lists made of parts with a separator between them.

The parts are given by a predicate, and their number is counted.  Where no part
contains the separator, a list is made of parts exactly if splitting it at the
separator gives parts, and as many.
-/

universe u

/-- A number of parts, with a separator between any two. -/
inductive Separated {α : Type u} (separator : α) (Part : List α → Prop) :
    Nat → List α → Prop
  | one {part : List α} (is : Part part) : Separated separator Part 1 part
  | more {part rest : List α} {count : Nat} (is : Part part)
      (later : Separated separator Part count rest) :
      Separated separator Part (count + 1) (part ++ separator :: rest)

namespace Separated

variable {α : Type u} {separator : α} {Part : List α → Prop}

theorem of_parts {parts : List (List α)} (some : parts ≠ [])
    (every : ∀ part ∈ parts, Part part) :
    Separated separator Part parts.length ([separator].intercalate parts) := by
  induction parts with
  | nil => exact absurd rfl some
  | cons part rest ih =>
      cases rest with
      | nil =>
          rw [List.intercalate_singleton]
          exact .one (every part List.mem_cons_self)
      | cons next others =>
          rw [List.intercalate_cons_cons, List.append_assoc]
          exact .more (every part List.mem_cons_self)
            (ih (List.cons_ne_nil _ _)
              (fun other among => every other (List.mem_cons_of_mem _ among)))

theorem mem {count : Nat} {text : List α} (separated : Separated separator Part count text)
    {item : α} (among : item ∈ text) : item = separator ∨ ∃ part, Part part ∧ item ∈ part := by
  induction separated with
  | @one part is => exact .inr ⟨part, is, among⟩
  | @more part rest count is _ ih =>
      rcases List.mem_append.mp among with here | later
      · exact .inr ⟨part, is, here⟩
      · rcases List.mem_cons.mp later with same | beyond
        · exact .inl same
        · exact ih beyond

theorem intercalate_append {left right : List (List α)} (some : left ≠ []) (more : right ≠ []) :
    [separator].intercalate (left ++ right) =
      [separator].intercalate left ++ separator :: [separator].intercalate right := by
  induction left with
  | nil => exact absurd rfl some
  | cons part rest ih =>
      by_cases last : rest = []
      · rw [last, List.singleton_append, List.intercalate_cons_of_ne_nil more,
          List.intercalate_singleton, List.append_assoc, List.singleton_append]
      · rw [List.cons_append, List.intercalate_cons_of_ne_nil (by simp [last]),
          List.intercalate_cons_of_ne_nil last, ih last]
        simp only [List.append_assoc]

variable [DecidableEq α]

theorem splitOn {count : Nat} {text : List α} (free : ∀ part, Part part → separator ∉ part)
    (separated : Separated separator Part count text) :
    (text.splitOn separator).length = count ∧ ∀ part ∈ text.splitOn separator, Part part := by
  induction separated with
  | @one part is =>
      rw [List.splitOn_eq_singleton (free part is)]
      exact ⟨rfl, fun other among => List.mem_singleton.mp among ▸ is⟩
  | @more part rest count is _ ih =>
      rw [List.splitOn_append_cons_self_of_not_mem (free part is)]
      refine ⟨congrArg (· + 1) ih.1, ?_⟩
      intro other among
      rcases List.mem_cons.mp among with rfl | later
      · exact is
      · exact ih.2 other later

theorem iff_splitOn {count : Nat} {text : List α}
    (free : ∀ part, Part part → separator ∉ part) :
    Separated separator Part count text ↔
      (text.splitOn separator).length = count ∧ ∀ part ∈ text.splitOn separator, Part part := by
  constructor
  · exact fun separated => separated.splitOn free
  · rintro ⟨rfl, every⟩
    have whole : Separated separator Part (text.splitOn separator).length
        ([separator].intercalate (text.splitOn separator)) :=
      of_parts (List.splitOn_ne_nil separator text) every
    rwa [List.intercalate_splitOn] at whole

theorem splitOn_free {text piece : List α} (among : piece ∈ text.splitOn separator) :
    separator ∉ piece := by
  induction text generalizing piece with
  | nil =>
      rw [List.splitOn_nil, List.mem_singleton] at among
      rw [among]
      exact List.not_mem_nil
  | cons first rest ih =>
      rw [List.splitOn_cons_eq_if_modifyHead] at among
      by_cases cut : first = separator
      · rw [if_pos (beq_iff_eq.mpr cut)] at among
        rcases List.mem_cons.mp among with rfl | later
        · exact List.not_mem_nil
        · exact ih later
      · rw [if_neg (fun same => cut (beq_iff_eq.mp same))] at among
        cases pieces : rest.splitOn separator with
        | nil => exact absurd pieces (List.splitOn_ne_nil _ _)
        | cons head others =>
            rw [pieces, List.modifyHead_cons] at among
            rcases List.mem_cons.mp among with rfl | later
            · intro within
              rcases List.mem_cons.mp within with same | inside
              · exact cut same.symm
              · exact ih (by rw [pieces]; exact List.mem_cons_self) inside
            · exact ih (by rw [pieces]; exact List.mem_cons_of_mem _ later)

theorem mem_of_splitOn {text piece : List α} {item : α}
    (among : piece ∈ text.splitOn separator) (within : item ∈ piece) : item ∈ text := by
  induction text generalizing piece with
  | nil =>
      rw [List.splitOn_nil, List.mem_singleton] at among
      rwa [among] at within
  | cons first rest ih =>
      rw [List.splitOn_cons_eq_if_modifyHead] at among
      by_cases cut : first = separator
      · rw [if_pos (beq_iff_eq.mpr cut)] at among
        rcases List.mem_cons.mp among with rfl | later
        · exact absurd within List.not_mem_nil
        · exact List.mem_cons_of_mem _ (ih later within)
      · rw [if_neg (fun same => cut (beq_iff_eq.mp same))] at among
        cases pieces : rest.splitOn separator with
        | nil => exact absurd pieces (List.splitOn_ne_nil _ _)
        | cons head others =>
            rw [pieces, List.modifyHead_cons] at among
            rcases List.mem_cons.mp among with rfl | later
            · rcases List.mem_cons.mp within with rfl | inside
              · exact List.mem_cons_self
              · exact List.mem_cons_of_mem _
                  (ih (by rw [pieces]; exact List.mem_cons_self) inside)
            · exact List.mem_cons_of_mem _
                (ih (by rw [pieces]; exact List.mem_cons_of_mem _ later) within)

end Separated
