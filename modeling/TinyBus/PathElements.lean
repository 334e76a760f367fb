import TinyBus.MatchClauses

/-
An object path as the list of its elements.  The texts of two paths are compared byte by
byte; what is meant is that one list of elements begins with the other.
-/

namespace TinyBus

open Grammar

namespace ObjectPath

/-- The root has none. -/
def elements (path : ObjectPath) : List (List Char) :=
  if path.text = "/" then [] else path.text.toList.tail.splitOn '/'

theorem elements_root {path : ObjectPath} (root : path.text = "/") : path.elements = [] :=
  if_pos root

theorem text_of_ne_root (path : ObjectPath) (other : path.text ≠ "/") :
    ∃ rest, path.text.toList = '/' :: rest ∧ path.elements = rest.splitOn '/' ∧
      ∀ element ∈ path.elements, Run Plain element := by
  have form := (objectPath_check_iff.mp path.valid).form
  rcases form with root | ⟨count, rest, begins, _⟩
  · exact absurd (String.toList_inj.mp root) other
  · have more : rest ≠ [] := by
      rintro rfl
      exact other (String.toList_inj.mp begins)
    have parts : path.elements = rest.splitOn '/' := by
      unfold elements
      rw [if_neg other, begins, List.tail_cons]
    have runs := (objectPath_check_iff.mp path.valid).form
    rw [begins, path_cons more] at runs
    exact ⟨rest, begins, parts, parts ▸ runs⟩

theorem elements_plain (path : ObjectPath) : ∀ element ∈ path.elements, Run Plain element := by
  by_cases root : path.text = "/"
  · rw [elements_root root]
    exact nofun
  · obtain ⟨_, _, _, runs⟩ := text_of_ne_root path root
    exact runs

theorem elements_eq_nil_iff {path : ObjectPath} : path.elements = [] ↔ path.text = "/" := by
  constructor
  · intro empty
    refine Decidable.byContradiction fun other => ?_
    obtain ⟨rest, _, parts, _⟩ := text_of_ne_root path other
    exact List.splitOn_ne_nil '/' rest (parts ▸ empty)
  · exact elements_root

theorem toList_text (path : ObjectPath) :
    path.text.toList = '/' :: ['/'].intercalate path.elements := by
  by_cases root : path.text = "/"
  · rw [elements_root root, root]
    rfl
  · obtain ⟨rest, begins, parts, _⟩ := text_of_ne_root path root
    rw [parts, List.intercalate_splitOn, begins]

theorem elements_injective : Function.Injective elements := by
  intro left right same
  refine MatchRule.objectPath_text_injective (String.toList_inj.mp ?_)
  rw [toList_text, toList_text, same]

theorem elements_append {path parent : ObjectPath} (other : parent.text ≠ "/")
    {rest : List Char} (whole : path.text.toList = parent.text.toList ++ '/' :: rest) :
    path.elements = parent.elements ++ rest.splitOn '/' := by
  obtain ⟨upper, begins, parts, _⟩ := text_of_ne_root parent other
  have below : path.text ≠ "/" := by
    intro root
    have short := congrArg List.length whole
    rw [root, begins, List.length_append, List.length_cons, List.length_cons] at short
    have one : "/".toList.length = 1 := rfl
    omega
  rw [parts]
  unfold elements
  rw [if_neg below, whole, begins, List.cons_append, List.tail_cons, List.splitOn_append_cons_self]

theorem startsWith_elements {path other : ObjectPath} :
    path.startsWith other = true ↔ other.elements <+: path.elements := by
  rw [MatchRule.startsWith_iff]
  constructor
  · rintro (root | same | ⟨rest, whole⟩)
    · rw [elements_root root]
      exact List.nil_prefix
    · obtain rfl := MatchRule.objectPath_text_injective same
      exact List.prefix_refl _
    · by_cases root : other.text = "/"
      · rw [elements_root root]
        exact List.nil_prefix
      · have characters : path.text.toList = other.text.toList ++ '/' :: rest.toList := by
          rw [whole, String.toList_append, String.toList_append, List.append_assoc]
          rfl
        rw [elements_append root characters]
        exact List.prefix_append _ _
  · rintro ⟨tail, whole⟩
    by_cases root : other.text = "/"
    · exact .inl root
    · by_cases last : tail = []
      · rw [last, List.append_nil] at whole
        exact .inr (.inl (congrArg ObjectPath.text (elements_injective whole.symm)))
      · refine .inr (.inr ⟨String.ofList (['/'].intercalate tail), String.toList_inj.mp ?_⟩)
        have some : other.elements ≠ [] := fun empty => root (elements_eq_nil_iff.mp empty)
        rw [String.toList_append, String.toList_append, String.toList_ofList, toList_text path,
          toList_text other, ← whole, Separated.intercalate_append some last]
        simp

end ObjectPath

end TinyBus
