/-
The order of versions and the ranges computed from one.  The increment of the
breaking component is the only arithmetic; it is exact unless that component is
the largest that 64 bits hold.
-/

import TinyBus.Version

namespace TinyBus

namespace Version

/-- The tag takes no part in the order. -/
def Less (left right : Version) : Prop :=
  left.major < right.major ∨
    left.major = right.major ∧ (left.minor < right.minor ∨
      left.minor = right.minor ∧ left.patch < right.patch)

instance (left right : Version) : Decidable (left.Less right) :=
  inferInstanceAs (Decidable (_ ∨ _))

end Version

/-- A half-open range: its minimum is inside, its maximum is not. -/
def VersionRange.accepts (range : VersionRange) (version : Version) : Bool :=
  if version.Less range.min then false
  else
    match range.maxExclusive with
    | some max => version.Less max
    | none => true

/-- What a provider at this version accepts. -/
def Version.compatibleSeries (version : Version) : VersionRange :=
  ⟨if version.major = 0 then ⟨0, version.minor, 0, none⟩
    else ⟨version.major, 0, 0, none⟩,
    some version.nextBreaking⟩

/-- The version whose caret range a range text stands for, where it is no list of
bounds. -/
def VersionRange.careted (whole : String) : Option Version :=
  let input := trim whole
  match input.toList with
  | '^' :: rest => (Version.parse (trim (String.ofList rest))).toOption
  | characters =>
      if characters.any (fun c => c == '<' || c == '>' || c == '=') then none
      else (Version.parse input).toOption

namespace Version

def breakingComponent (version : Version) : UInt64 :=
  if version.major = 0 then version.minor else version.major

def AtLimit (version : Version) : Prop :=
  version.breakingComponent.toNat = UInt64.size - 1

instance (version : Version) : Decidable version.AtLimit :=
  inferInstanceAs (Decidable (_ = _))

/-- What is expected of the next breaking version and the ranges it bounds. -/
structure BreaksForward (version : Version) : Prop where
  exact : (version.breakingComponent + 1).toNat = version.breakingComponent.toNat + 1
  greater : version.Less version.nextBreaking
  inside : version.caret.accepts version = true
  series : ∀ other, version.caret.accepts other = true →
    version.compatibleSeries.accepts other = true

variable {version other : Version}

theorem less_irrefl (version : Version) : ¬ version.Less version := by
  unfold Less
  simp

theorem accepts_iff {min max : Version} :
    (VersionRange.mk min (some max)).accepts other = true ↔
      ¬ other.Less min ∧ other.Less max := by
  unfold VersionRange.accepts
  by_cases below : other.Less min
  · simp [below]
  · simp [below]

private theorem toNat_succ {component : UInt64}
    (room : component.toNat ≠ UInt64.size - 1) :
    (component + 1).toNat = component.toNat + 1 := by
  have bound := component.toNat_lt
  have one : (1 : UInt64).toNat = 1 := rfl
  rw [UInt64.toNat_add, one]
  apply Nat.mod_eq_of_lt
  change component.toNat ≠ 18446744073709551615 at room
  omega

private theorem succ_of_limit {component : UInt64}
    (limit : component.toNat = UInt64.size - 1) : component + 1 = 0 := by
  apply UInt64.toNat_inj.mp
  rw [UInt64.toNat_add, limit]
  rfl

theorem less_nextBreaking (room : ¬ version.AtLimit) :
    version.Less version.nextBreaking := by
  unfold AtLimit breakingComponent at room
  unfold nextBreaking Less
  by_cases zero : version.major = 0
  · rw [if_pos zero] at room ⊢
    have grown := toNat_succ room
    refine .inr ⟨zero, .inl ?_⟩
    rw [UInt64.lt_iff_toNat_lt]
    change version.minor.toNat < (version.minor + 1).toNat
    omega
  · rw [if_neg zero] at room ⊢
    have grown := toNat_succ room
    refine .inl ?_
    rw [UInt64.lt_iff_toNat_lt]
    change version.major.toNat < (version.major + 1).toNat
    omega

theorem nextBreaking_of_limit (limit : version.AtLimit) :
    version.nextBreaking = ⟨0, 0, 0, none⟩ := by
  unfold AtLimit breakingComponent at limit
  unfold nextBreaking
  by_cases zero : version.major = 0
  · rw [if_pos zero] at limit ⊢
    rw [succ_of_limit limit]
  · rw [if_neg zero] at limit ⊢
    rw [succ_of_limit limit]

theorem less_of_less_series
    (below : other.Less version.compatibleSeries.min) :
    other.Less ⟨version.major, version.minor, version.patch, none⟩ := by
  unfold compatibleSeries Less at *
  by_cases zero : version.major = 0
  · simp only [if_pos zero] at below
    rcases below with major | ⟨same, minor | ⟨_, patch⟩⟩
    · rw [zero]
      exact .inl major
    · rw [zero]
      exact .inr ⟨same, .inl minor⟩
    · exact absurd patch (UInt64.not_lt_zero)
  · simp only [if_neg zero] at below
    rcases below with major | ⟨_, minor | ⟨_, patch⟩⟩
    · exact .inl major
    · exact absurd minor (UInt64.not_lt_zero)
    · exact absurd patch (UInt64.not_lt_zero)

theorem breaksForward_iff (version : Version) :
    version.BreaksForward ↔ ¬ version.AtLimit := by
  constructor
  · intro forward limit
    have greater := forward.greater
    rw [nextBreaking_of_limit limit] at greater
    rcases greater with major | ⟨_, minor | ⟨_, patch⟩⟩
    · exact UInt64.not_lt_zero major
    · exact UInt64.not_lt_zero minor
    · exact UInt64.not_lt_zero patch
  · intro room
    refine ⟨toNat_succ room, less_nextBreaking room, ?_, ?_⟩
    · exact accepts_iff.mpr ⟨less_irrefl version, less_nextBreaking room⟩
    · intro other accepted
      obtain ⟨above, below⟩ := accepts_iff.mp accepted
      exact accepts_iff.mpr ⟨fun less => above (less_of_less_series less), below⟩

end Version

private theorem map_caret {parsed : Except InvalidName Version} {version : Version}
    (found : parsed.toOption = some version) :
    parsed.map Version.caret = .ok version.caret := by
  cases parsed with
  | error refusal => cases found
  | ok other =>
      cases found
      rfl

namespace VersionRange

theorem parse_plain {whole : String} (plain : ∀ rest, (trim whole).toList ≠ '^' :: rest) :
    parse whole =
      if (trim whole).toList.any (fun c => c == '<' || c == '>' || c == '=') then
        parseClauses (trim whole) none none
          (((trim whole).toList.splitOn ',').map String.ofList)
      else (Version.parse (trim whole)).map Version.caret := by
  unfold parse
  dsimp only
  split
  · rename_i rest written
    exact absurd written (plain rest)
  · rfl

theorem careted_plain {whole : String} {version : Version}
    (plain : ∀ rest, (trim whole).toList ≠ '^' :: rest)
    (found : careted whole = some version) :
    ¬ (trim whole).toList.any (fun c => c == '<' || c == '>' || c == '=') = true ∧
      (Version.parse (trim whole)).toOption = some version := by
  unfold careted at found
  dsimp only at found
  split at found
  · rename_i rest written
    exact absurd written (plain rest)
  · split at found
    · cases found
    · rename_i unbounded
      exact ⟨unbounded, found⟩

theorem parse_careted {whole : String} {version : Version}
    (found : careted whole = some version) : parse whole = .ok version.caret := by
  by_cases caret : ∃ rest, (trim whole).toList = '^' :: rest
  · obtain ⟨rest, written⟩ := caret
    simp only [careted, written] at found
    simp only [parse, written]
    exact map_caret found
  · have plain : ∀ rest, (trim whole).toList ≠ '^' :: rest := by
      intro rest written
      exact caret ⟨rest, written⟩
    obtain ⟨unbounded, single⟩ := careted_plain plain found
    rw [parse_plain plain, if_neg unbounded]
    exact map_caret single

end VersionRange

/-- Exactly the versions below the limit break forward, whether they were written as
versions or as ranges. -/
theorem parsed_breakForward_iff (input : String) :
    (∀ version, Version.parse input = .ok version →
      (version.BreaksForward ↔ ¬ version.AtLimit)) ∧
    ∀ range, VersionRange.parse input = .ok range →
      ((∀ version, VersionRange.careted input = some version →
          range = version.caret ∧ version.BreaksForward) ↔
        ∀ version, VersionRange.careted input = some version → ¬ version.AtLimit) := by
  constructor
  · intro version _
    exact version.breaksForward_iff
  · intro range parsed
    constructor
    · intro forward version careted
      exact version.breaksForward_iff.mp (forward version careted).2
    · intro room version careted
      have caret := VersionRange.parse_careted careted
      rw [parsed] at caret
      exact ⟨Except.ok.inj caret, version.breaksForward_iff.mpr (room version careted)⟩

theorem parsed_breakForward_examples :
    (Version.parse "1.2.3-rc.1" = .ok ⟨1, 2, 3, some "rc.1"⟩ ∧
        (Version.BreaksForward ⟨1, 2, 3, some "rc.1"⟩ ↔
          ¬ Version.AtLimit ⟨1, 2, 3, some "rc.1"⟩)) ∧
      VersionRange.parse "^0.4.1" = .ok (Version.caret ⟨0, 4, 1, none⟩) ∧
      ((∀ version, VersionRange.careted "^0.4.1" = some version →
          Version.caret ⟨0, 4, 1, none⟩ = version.caret ∧ version.BreaksForward) ↔
        ∀ version, VersionRange.careted "^0.4.1" = some version → ¬ version.AtLimit) := by
  have tagged : Version.parse "1.2.3-rc.1" = .ok ⟨1, 2, 3, some "rc.1"⟩ := by rfl
  have careted : VersionRange.parse "^0.4.1" = .ok (Version.caret ⟨0, 4, 1, none⟩) := by
    rfl
  exact ⟨⟨tagged, (parsed_breakForward_iff "1.2.3-rc.1").1 _ tagged⟩, careted,
    (parsed_breakForward_iff "^0.4.1").2 _ careted⟩

/-- The last major version there is, written as a version and as a range. -/
theorem lastMajor_breaksBackward :
    Version.parse "18446744073709551615.0.0" = .ok ⟨18446744073709551615, 0, 0, none⟩ ∧
      Version.nextBreaking ⟨18446744073709551615, 0, 0, none⟩ = ⟨0, 0, 0, none⟩ ∧
      ¬ Version.BreaksForward ⟨18446744073709551615, 0, 0, none⟩ ∧
      VersionRange.parse "^18446744073709551615.0.0" =
        .ok ⟨⟨18446744073709551615, 0, 0, none⟩, some ⟨0, 0, 0, none⟩⟩ := by
  refine ⟨by rfl, by rfl, ?_, by rfl⟩
  intro forward
  have greater := forward.greater
  revert greater
  decide

end TinyBus
