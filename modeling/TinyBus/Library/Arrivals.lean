/-
Reading from a stream of bytes that arrives in pieces.  A piece is what one read
finds; an exact read goes on with the next piece until it has what it wants, and
fails where the stream ends first.
-/

import Mathlib.Data.List.Basic

namespace Arrivals

universe u

variable {Byte : Type u}

/-- What was read, and the pieces that are left. -/
def readExact (want : Nat) : List (List Byte) → Option (List Byte × List (List Byte))
  | [] => if want = 0 then some ([], []) else none
  | piece :: rest =>
      if piece.length ≤ want then
        (readExact (want - piece.length) rest).map (fun read => (piece ++ read.1, read.2))
      else some (piece.take want, piece.drop want :: rest)

theorem readExact_some {want : Nat} {pieces rest : List (List Byte)} {got : List Byte}
    (read : readExact want pieces = some (got, rest)) :
    pieces.flatten = got ++ rest.flatten ∧ got.length = want := by
  induction pieces generalizing want got with
  | nil =>
      unfold readExact at read
      split at read
      · rename_i nothing
        cases read
        exact ⟨rfl, nothing.symm⟩
      · cases read
  | cons piece tail ih =>
      unfold readExact at read
      split at read
      · rename_i short
        obtain ⟨⟨more, left⟩, continued, same⟩ := Option.map_eq_some_iff.mp read
        cases same
        obtain ⟨content, length⟩ := ih continued
        refine ⟨?_, ?_⟩
        · rw [List.flatten_cons, content, List.append_assoc]
        · change (piece ++ more).length = want
          rw [List.length_append]
          omega
      · cases read
        constructor
        · rw [List.flatten_cons, List.flatten_cons, ← List.append_assoc,
            List.take_append_drop]
        · rw [List.length_take]
          omega

theorem readExact_none_iff {want : Nat} {pieces : List (List Byte)} :
    readExact want pieces = none ↔ pieces.flatten.length < want := by
  induction pieces generalizing want with
  | nil =>
      unfold readExact
      by_cases nothing : want = 0
      · simp [nothing]
      · simp [nothing, Nat.pos_of_ne_zero nothing]
  | cons piece tail ih =>
      unfold readExact
      rw [List.flatten_cons, List.length_append]
      by_cases short : piece.length ≤ want
      · rw [if_pos short, Option.map_eq_none_iff, ih]
        omega
      · rw [if_neg short]
        constructor
        · intro impossible
          cases impossible
        · intro few
          omega

end Arrivals
