/-
Extracting what was planned.  The contents of an archive, the reader that expands them and
the disk behind the output are all an environment here, which answers each call as it
likes; the sizes that were claimed still bound what is ever written.
-/

import TinyBus.ZipPlans
import TinyBus.Library.Transition

namespace TinyBus

namespace Zip

open TransitionSystem

/-- What a call of `read` comes to; the caller's buffer and `take` bound what it fills. -/
inductive ReadAnswer where
  | filled (wanted : Nat)
  | interrupted
  | failed

inductive WriteAnswer where
  | wrote (count : Nat)
  | interrupted
  | failed

/-- `copy_bounded` under way: what it may copy, what `take` still lets through, what was
read and is not yet written, and what is written. -/
structure Copying where
  plan : EntryPlan
  remaining : Nat
  left : Nat
  buffered : Nat
  actual : Nat
  deriving DecidableEq

inductive Phase where
  | between
  | copying (copying : Copying)
  | finished (outcome : Except Error Unit)
  | underflow
  deriving DecidableEq

structure Extraction where
  plans : List EntryPlan
  expandedTotal : Nat
  produced : List Nat
  written : Nat
  phase : Phase

/-- The environment's answers: whether the directories and the file of the next entry
could be made, and where the archive finds its data now; a read; a write. -/
inductive ExtractionEvent where
  | next (prepared : Bool) (range : Option (Nat × Nat))
  | read (answer : ReadAnswer)
  | write (answer : WriteAnswer)

namespace Extraction

def start (plans : List EntryPlan) : Extraction :=
  { plans := plans, expandedTotal := 0, produced := [], written := 0, phase := .between }

def fail (state : Extraction) (reason : String) : Extraction :=
  { state with phase := .finished (.error (refused reason)) }

def extractionFailed : String := "release archive extraction failed"

/-- `saturating_add` on 64 bits. -/
def saturatingAdd (left right : Nat) : Nat := min (left + right) (2 ^ 64 - 1)

def beginEntry (limits : ExtractionLimits) (state : Extraction) (prepared : Bool)
    (range : Option (Nat × Nat)) : Extraction :=
  match state.plans with
  | [] => { state with phase := .finished (.ok ()) }
  | plan :: rest =>
      if prepared = false then state.fail extractionFailed
      else
        match range with
        | none => state.fail "release archive is invalid"
        | some range =>
            if range ≠ plan.dataRange then state.fail "release archive entry offsets changed"
            else if plan.method ≠ .store ∧ plan.method ≠ .deflate then
              state.fail "release archive uses an unsupported compression method"
            else if limits.totalBytes < state.expandedTotal then
              { state with phase := .underflow }
            else
              let remaining := min limits.entryBytes (limits.totalBytes - state.expandedTotal)
              { state with
                plans := rest
                phase := .copying ⟨plan, remaining, saturatingAdd remaining 1, 0, 0⟩ }

/-- The input is at its end, or `take` is. -/
def endEntry (state : Extraction) (copying : Copying) : Extraction :=
  if copying.remaining < copying.actual then
    state.fail "release archive exceeds the extraction limit"
  else if copying.actual ≠ copying.plan.expandedSize then
    state.fail "release archive entry size is inconsistent"
  else
    match checkedAdd state.expandedTotal copying.actual with
    | none => state.fail "release archive exceeds the extraction limit"
    | some total =>
        { state with
          expandedTotal := total
          produced := state.produced ++ [copying.actual]
          phase := .between }

def read (state : Extraction) (copying : Copying) (answer : ReadAnswer) : Extraction :=
  if copying.left = 0 then state.endEntry copying
  else
    match answer with
    | .interrupted => state
    | .failed => state.fail extractionFailed
    | .filled wanted =>
        let filled := min wanted copying.left
        if filled = 0 then state.endEntry copying
        else
          { state with
            phase := .copying
              { copying with left := copying.left - filled, buffered := filled } }

/-- `write_all` goes on until its buffer is empty; a write of nothing is a failure. -/
def write (state : Extraction) (copying : Copying) (answer : WriteAnswer) : Extraction :=
  match answer with
  | .interrupted => state
  | .failed => state.fail extractionFailed
  | .wrote count =>
      let wrote := min count copying.buffered
      if wrote = 0 then state.fail extractionFailed
      else
        { state with
          written := state.written + wrote
          phase := .copying
            { copying with
              buffered := copying.buffered - wrote
              actual := copying.actual + wrote } }

def next (limits : ExtractionLimits) (state : Extraction) (event : ExtractionEvent) :
    Extraction :=
  match state.phase, event with
  | .between, .next prepared range => state.beginEntry limits prepared range
  | .copying copying, .read answer =>
      if copying.buffered = 0 then state.read copying answer else state
  | .copying copying, .write answer =>
      if copying.buffered = 0 then state else state.write copying answer
  | _, _ => state

def system (limits : ExtractionLimits) (plans : List EntryPlan) :
    System Extraction ExtractionEvent :=
  .ofFunction (· = start plans) (next limits)

def Done (plans : List EntryPlan) (state : Extraction) (left : List EntryPlan) : Prop :=
  ∃ done, plans = done ++ left ∧ state.produced = done.map EntryPlan.expandedSize

structure Underway (limits : ExtractionLimits) (plans : List EntryPlan) (state : Extraction)
    (copying : Copying) : Prop where
  written : state.written = state.expandedTotal + copying.actual
  room : copying.actual + copying.buffered + copying.left ≤ copying.remaining + 1
  budget : state.expandedTotal + copying.remaining ≤ limits.totalBytes
  done : Done plans state (copying.plan :: state.plans)

def Bounded (limits : ExtractionLimits) (plans : List EntryPlan) (state : Extraction) : Prop :=
  state.expandedTotal = state.produced.sum ∧
    match state.phase with
    | .between => state.written = state.expandedTotal ∧ Done plans state state.plans
    | .copying copying => Underway limits plans state copying
    | .finished (.ok _) => state.written = state.expandedTotal ∧ Done plans state []
    | .finished (.error _) => state.written ≤ limits.totalBytes + 1
    | .underflow => False

section Steps

variable {limits : ExtractionLimits} {plans : List EntryPlan} {state : Extraction}
  {copying : Copying}

theorem Done.sum_le {left : List EntryPlan} (done : Done plans state left)
    (total : state.expandedTotal = state.produced.sum)
    (claimed : (plans.map EntryPlan.expandedSize).sum ≤ limits.totalBytes) :
    state.expandedTotal ≤ limits.totalBytes := by
  obtain ⟨before, rfl, produced⟩ := done
  rw [List.map_append, List.sum_append, ← produced] at claimed
  omega

theorem Underway.written_le (underway : Underway limits plans state copying) :
    state.written ≤ limits.totalBytes + 1 := by
  obtain ⟨written, room, budget, _⟩ := underway
  omega

theorem Bounded.fail (total : state.expandedTotal = state.produced.sum)
    (written : state.written ≤ limits.totalBytes + 1) (reason : String) :
    Bounded limits plans (state.fail reason) := ⟨total, written⟩

theorem Underway.bounded (underway : Underway limits plans state copying)
    (total : state.expandedTotal = state.produced.sum) (phase : state.phase = .copying copying) :
    Bounded limits plans state := by
  refine ⟨total, ?_⟩
  rw [phase]
  exact underway

theorem Bounded.beginEntry (claimed : (plans.map EntryPlan.expandedSize).sum ≤ limits.totalBytes)
    (total : state.expandedTotal = state.produced.sum)
    (written : state.written = state.expandedTotal) (done : Done plans state state.plans)
    (prepared : Bool) (range : Option (Nat × Nat)) :
    Bounded limits plans (state.beginEntry limits prepared range) := by
  have within := done.sum_le total claimed
  have failed : ∀ reason, Bounded limits plans (state.fail reason) :=
    .fail total (by omega)
  unfold Extraction.beginEntry
  split
  · rename_i none
    rw [none] at done
    exact ⟨total, written, done⟩
  · rename_i plan rest left
    rw [left] at done
    split
    · exact failed _
    · split
      · exact failed _
      · split
        · exact failed _
        · split
          · exact failed _
          · split
            · omega
            · refine ⟨total, written, ?_, ?_, done⟩
              · unfold saturatingAdd
                dsimp only
                omega
              · dsimp only
                omega

theorem Underway.endEntry (underway : Underway limits plans state copying)
    (total : state.expandedTotal = state.produced.sum) :
    Bounded limits plans (state.endEntry copying) := by
  have failed : ∀ reason, Bounded limits plans (state.fail reason) :=
    .fail total underway.written_le
  unfold Extraction.endEntry
  split
  · exact failed _
  · split
    · exact failed _
    · rename_i same
      rw [not_not] at same
      unfold checkedAdd
      by_cases fits : state.expandedTotal + copying.actual < 2 ^ 64
      · rw [if_pos fits]
        obtain ⟨before, split, produced⟩ := underway.done
        refine ⟨?_, underway.written, before ++ [copying.plan], ?_, ?_⟩
        · dsimp only
          rw [List.sum_append, List.sum_singleton, total]
        · rw [split, List.append_assoc]
          rfl
        · dsimp only
          rw [produced, List.map_append, same]
          rfl
      · rw [if_neg fits]
        exact failed _

theorem Underway.read (underway : Underway limits plans state copying)
    (total : state.expandedTotal = state.produced.sum)
    (phase : state.phase = .copying copying) (empty : copying.buffered = 0)
    (answer : ReadAnswer) : Bounded limits plans (state.read copying answer) := by
  unfold Extraction.read
  split
  · exact underway.endEntry total
  · cases answer with
    | interrupted => exact underway.bounded total phase
    | failed => exact .fail total underway.written_le _
    | filled wanted =>
        dsimp only
        split
        · exact underway.endEntry total
        · have room := underway.room
          refine ⟨total, underway.written, ?_, underway.budget, underway.done⟩
          dsimp only
          omega

theorem Underway.write (underway : Underway limits plans state copying)
    (total : state.expandedTotal = state.produced.sum)
    (phase : state.phase = .copying copying) (answer : WriteAnswer) :
    Bounded limits plans (state.write copying answer) := by
  unfold Extraction.write
  cases answer with
  | interrupted => exact underway.bounded total phase
  | failed => exact .fail total underway.written_le _
  | wrote count =>
      dsimp only
      split
      · exact .fail total underway.written_le _
      · obtain ⟨written, room, budget, done⟩ := underway
        refine ⟨total, ?_, ?_, budget, done⟩
        · dsimp only
          omega
        · dsimp only
          omega

theorem Bounded.next (claimed : (plans.map EntryPlan.expandedSize).sum ≤ limits.totalBytes)
    (bounded : Bounded limits plans state) (event : ExtractionEvent) :
    Bounded limits plans (state.next limits event) := by
  obtain ⟨total, rest⟩ := id bounded
  unfold Extraction.next
  split
  · rename_i prepared range phase
    rw [phase] at rest
    exact .beginEntry claimed total rest.1 rest.2 prepared range
  · rename_i copying answer phase
    rw [phase] at rest
    split
    · rename_i empty
      exact rest.read total phase empty answer
    · exact bounded
  · rename_i copying answer phase
    rw [phase] at rest
    split
    · exact bounded
    · exact rest.write total phase answer
  · exact bounded

theorem reachable_bounded
    (claimed : (plans.map EntryPlan.expandedSize).sum ≤ limits.totalBytes)
    (reached : (system limits plans).Reachable state) : Bounded limits plans state := by
  apply reached.invariant
  · rintro first rfl
    exact ⟨rfl, rfl, [], rfl, rfl⟩
  · rintro before event after rfl bounded
    exact bounded.next claimed event

theorem Bounded.written_le
    (claimed : (plans.map EntryPlan.expandedSize).sum ≤ limits.totalBytes)
    (bounded : Bounded limits plans state) : state.written ≤ limits.totalBytes + 1 := by
  obtain ⟨total, rest⟩ := bounded
  cases phase : state.phase with
  | between =>
      rw [phase] at rest
      have within := rest.2.sum_le total claimed
      omega
  | copying copying =>
      rw [phase] at rest
      exact rest.written_le
  | finished outcome =>
      rw [phase] at rest
      cases outcome with
      | ok done =>
          have within := rest.2.sum_le total claimed
          omega
      | error error => exact rest
  | underflow =>
      rw [phase] at rest
      exact rest.elim

end Steps

/-- An accepted plan has one entry for each record of the archive, with that record's range,
sizes and method; no two of them are of one place, their data are apart and before the central
directory; and whatever the environment answers, the extraction neither underflows nor writes
more than one byte over the limit, and it succeeds only with the sizes that were claimed. -/
theorem extraction_bounded {rules : PathRules} {limits : ExtractionLimits} {archive : Archive}
    {plans : List EntryPlan} (planned : plan rules limits archive = .ok plans) :
    (∃ records, archive.entries = records.map some ∧
      List.Forall₂ (PlannedAs rules limits) records plans) ∧
    (∃ entries : List Entry, plans.map (EntryPlan.entry rules.folding) = entries.map some ∧
      entries.Pairwise Compatible) ∧
    ((plans.map EntryPlan.dataRange).filter
      (fun range => decide (range.1 < range.2))).Pairwise Separate ∧
    (∀ plan ∈ plans, plan.dataRange.2 ≤ archive.directoryOffset) ∧
    ∀ state, (system limits plans).Reachable state →
      state.phase ≠ .underflow ∧ state.written ≤ limits.totalBytes + 1 ∧
      (state.phase = .finished (.ok ()) →
        state.produced = plans.map EntryPlan.expandedSize ∧
          state.written = (plans.map EntryPlan.expandedSize).sum ∧
          state.written ≤ limits.totalBytes) := by
  have placed := plan_paths_compatible planned
  obtain ⟨planning, sound, rfl, apart, described⟩ := plan_sound planned
  have claimed : (planning.plans.map EntryPlan.expandedSize).sum ≤ limits.totalBytes := by
    rw [← sound.total]
    exact sound.limited
  refine ⟨described, placed, separate_of_not_overlaps apart, sound.inside, ?_⟩
  intro state reached
  have bounded := reachable_bounded claimed reached
  refine ⟨?_, bounded.written_le claimed, ?_⟩
  · intro phase
    obtain ⟨_, rest⟩ := bounded
    rw [phase] at rest
    exact rest
  · intro phase
    obtain ⟨total, rest⟩ := bounded
    rw [phase] at rest
    obtain ⟨written, before, split, produced⟩ := rest
    rw [List.append_nil] at split
    have same : state.written = (planning.plans.map EntryPlan.expandedSize).sum := by
      rw [written, total, produced, split]
    refine ⟨by rw [produced, split], same, ?_⟩
    rw [same]
    exact claimed

def plainRules : PathRules :=
  { folding := PathTree.libraryFolding, tryNormalize := some }

def storedRecord : Record :=
  { filePath := .utf8 "lib/voice.so"
    creatorSystem := .unix
    externalAttributes := 0
    compressionMethod := .store
    flags := 0
    crc32 := 7
    compressedSizeHint := 3
    uncompressedSizeHint := 3
    localHeaderOffset := 0
    localEntry := some
      { compressedDataRange := (42, 45)
        localHeader := some
          { filePath := .utf8 "lib/voice.so"
            compressionMethod := .store
            flags := 0
            crc32 := 7
            compressedSizeHint := 3
            uncompressedSizeHint := 3
            zip64Extra := false } } }

def storedArchive : Archive :=
  { fileLen := 120
    entriesHint := 1
    directoryOffset := 45
    entries := [some storedRecord]
    readExact := fun _ _ => none }

def storedPlan : EntryPlan :=
  { wayfinder := 0
    path := [.normal (some "lib"), .normal (some "voice.so")]
    isDir := false
    method := .store
    compressedSize := 3
    expandedSize := 3
    dataRange := (42, 45) }

def storedEvents : List ExtractionEvent :=
  [.next true (some (42, 45)), .read (.filled 3), .write (.wrote 2), .write .interrupted,
    .write (.wrote 1), .read (.filled 0), .next true none]

theorem stored_planned : plan plainRules DEFAULT_LIMITS storedArchive = .ok [storedPlan] := by
  decide +kernel

theorem stored_extracted : PlannedAs plainRules DEFAULT_LIMITS storedRecord storedPlan ∧
    ∃ state, (system DEFAULT_LIMITS [storedPlan]).Reachable state ∧
      state.phase = .finished (.ok ()) ∧ state.produced = [3] ∧ state.written = 3 := by
  have reached : (system DEFAULT_LIMITS [storedPlan]).Reachable
      (storedEvents.foldl (next DEFAULT_LIMITS) (start [storedPlan])) :=
    ⟨_, storedEvents, rfl, .of_foldl storedEvents⟩
  have finished : (storedEvents.foldl (next DEFAULT_LIMITS) (start [storedPlan])).phase =
      .finished (.ok ()) := by decide +kernel
  obtain ⟨⟨records, given, described⟩, _, _, _, extracted⟩ := extraction_bounded stored_planned
  obtain ⟨_, _, settled⟩ := extracted _ reached
  obtain ⟨produced, written, _⟩ := settled finished
  refine ⟨?_, _, reached, finished, produced, written⟩
  cases described with
  | cons planned rest =>
      obtain rfl := Option.some.inj (List.cons.inj given).1
      exact planned

end Extraction

end Zip

end TinyBus
