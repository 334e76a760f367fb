/-!
Decoders of streams, and what may be relied on.

A decoder is called with some input and room for output.  It consumes a part of the one and
fills a part of the other, and may hold back output that it has no room for.  It is lawful
for a function on inputs if what it gives is a beginning of what the function gives for all
it has consumed, and the whole of it at the end.

A transducer that takes its symbols one by one is a lawful decoder.
-/

universe u v w

/-- What one call of a decoder did. -/
structure Decoded (State : Type u) (Output : Type v) where
  state : State
  consumed : Nat
  produced : List Output
  ended : Bool

/-- A decoder; a call may be told that there is no more input, and gives nothing where the
input is invalid. -/
structure StreamDecoder (Input : Type u) (Output : Type v) where
  State : Type w
  fresh : State
  decode : State → List Input → Nat → Bool → Option (Decoded State Output)

namespace StreamDecoder

variable {Input : Type u} {Output : Type v}

/-- A state that calls lead to, with all that was consumed and produced. -/
inductive Fed (decoder : StreamDecoder.{u, v, w} Input Output) :
    decoder.State → List Input → List Output → Prop
  | fresh : Fed decoder decoder.fresh [] []
  | call {state : decoder.State} {taken : List Input} {given : List Output}
      {input : List Input} {room : Nat} {finish : Bool} {answer : Decoded decoder.State Output}
      (before : Fed decoder state taken given)
      (called : decoder.decode state input room finish = some answer)
      (goesOn : answer.ended = false) :
      Fed decoder answer.state (taken ++ input.take answer.consumed) (given ++ answer.produced)

/-- The decoder has reported the end, with all that was consumed and produced until then. -/
structure Ends (decoder : StreamDecoder.{u, v, w} Input Output) (taken : List Input)
    (given : List Output) : Prop where
  reported : ∃ state early before input room finish answer,
    decoder.Fed state early before ∧
      decoder.decode state input room finish = some answer ∧ answer.ended = true ∧
        taken = early ++ input.take answer.consumed ∧ given = before ++ answer.produced

/-- What may be relied on. -/
structure Lawful (decoder : StreamDecoder.{u, v, w} Input Output)
    (decoded : List Input → List Output) : Prop where
  consumes : ∀ {state input room finish answer},
    decoder.decode state input room finish = some answer → answer.consumed ≤ input.length
  produces : ∀ {state input room finish answer},
    decoder.decode state input room finish = some answer → answer.produced.length ≤ room
  progress : ∀ {state input room finish answer},
    decoder.decode state input room finish = some answer → input ≠ [] → 0 < room →
      answer.ended = false → answer.consumed ≠ 0 ∨ answer.produced ≠ []
  output : ∀ {state taken given input room finish answer}, decoder.Fed state taken given →
    decoder.decode state input room finish = some answer →
      given ++ answer.produced <+: decoded (taken ++ input.take answer.consumed)
  whole : ∀ {state taken given input room finish answer}, decoder.Fed state taken given →
    decoder.decode state input room finish = some answer → answer.ended = true →
      given ++ answer.produced = decoded (taken ++ input.take answer.consumed)
  monotone : ∀ {early late}, early <+: late → decoded early <+: decoded late

theorem Lawful.fed {decoder : StreamDecoder.{u, v, w} Input Output}
    {decoded : List Input → List Output} (lawful : decoder.Lawful decoded)
    {state : decoder.State} {taken : List Input} {given : List Output}
    (fed : decoder.Fed state taken given) : given <+: decoded taken := by
  cases fed with
  | fresh => exact List.nil_prefix
  | call before called _ => exact lawful.output before called

theorem Lawful.ends {decoder : StreamDecoder.{u, v, w} Input Output}
    {decoded : List Input → List Output} (lawful : decoder.Lawful decoded)
    {taken : List Input} {given : List Output} (ends : decoder.Ends taken given) :
    given = decoded taken := by
  obtain ⟨_, _, _, _, _, _, _, fed, called, last, rfl, rfl⟩ := ends.reported
  exact lawful.whole fed called last

end StreamDecoder

/-- A machine that takes one symbol at a time, and gives one at most for it. -/
structure Transducer (Input : Type u) (Output : Type v) where
  Phase : Type w
  start : Phase
  step : Phase → Input → Option (Phase × Option Output)
  final : Phase → Bool

namespace Transducer

variable {Input : Type u} {Output : Type v} (machine : Transducer.{u, v, w} Input Output)

/-- All that the machine gives for an input, from a phase. -/
def output (phase : machine.Phase) : List Input → List Output
  | [] => []
  | symbol :: rest =>
      if machine.final phase then []
      else
        match machine.step phase symbol with
        | none => []
        | some (next, given) => given.toList ++ output next rest

def feed (phase : machine.Phase) : List Input → Nat → Option (Decoded machine.Phase Output)
  | [], _ => some ⟨phase, 0, [], machine.final phase⟩
  | symbol :: rest, room =>
      if machine.final phase then some ⟨phase, 0, [], true⟩
      else
        match machine.step phase symbol with
        | none => none
        | some (next, none) =>
            (feed next rest room).map (fun answer =>
              { answer with consumed := answer.consumed + 1 })
        | some (next, some given) =>
            if room = 0 then some ⟨phase, 0, [], false⟩
            else
              (feed next rest (room - 1)).map (fun answer =>
                { answer with
                  consumed := answer.consumed + 1
                  produced := given :: answer.produced })

def decoder : StreamDecoder.{u, v, w} Input Output where
  State := machine.Phase
  fresh := machine.start
  decode := fun phase input room _ => machine.feed phase input room

variable {machine}

theorem output_prefix {phase : machine.Phase} {early late : List Input} (more : early <+: late) :
    machine.output phase early <+: machine.output phase late := by
  induction early generalizing phase late with
  | nil => exact List.nil_prefix
  | cons symbol rest ih =>
      obtain ⟨tail, rfl⟩ := more
      rw [List.cons_append, output, output]
      by_cases last : machine.final phase = true
      · rw [if_pos last]
        exact List.nil_prefix
      · rw [if_neg last, if_neg last]
        cases machine.step phase symbol with
        | none => exact List.prefix_refl _
        | some moved =>
            obtain ⟨next, given⟩ := moved
            exact (List.prefix_append_right_inj _).mpr (ih (List.prefix_append _ _))

/-- What one call does: the output for all that it has consumed, and the phase after it. -/
structure Feeds (phase : machine.Phase) (input : List Input) (room : Nat)
    (answer : Decoded machine.Phase Output) : Prop where
  consumes : answer.consumed ≤ input.length
  produces : answer.produced.length ≤ room
  progress : input ≠ [] → 0 < room → answer.ended = false → answer.consumed ≠ 0
  ended : answer.ended = true → machine.final answer.state = true
  given : ∀ later, machine.output phase (input.take answer.consumed ++ later) =
    answer.produced ++ machine.output answer.state later

theorem feed_feeds {phase : machine.Phase} {input : List Input} {room : Nat}
    {answer : Decoded machine.Phase Output} (fed : machine.feed phase input room = some answer) :
    Feeds phase input room answer := by
  induction input generalizing phase room answer with
  | nil =>
      cases fed
      exact ⟨Nat.le_refl _, Nat.zero_le _, fun some => absurd rfl some, id, fun _ => rfl⟩
  | cons symbol rest ih =>
      rw [feed] at fed
      split at fed
      · rename_i last
        cases fed
        exact ⟨Nat.zero_le _, Nat.zero_le _, fun _ _ => nofun, fun _ => last, fun _ => rfl⟩
      · rename_i goesOn
        split at fed
        · cases fed
        · rename_i next moved
          obtain ⟨inner, later, rfl⟩ := Option.map_eq_some_iff.mp fed
          obtain ⟨consumes, produces, _, ended, given⟩ := ih later
          refine ⟨Nat.succ_le_succ consumes, produces, fun _ _ _ => Nat.succ_ne_zero _, ended, ?_⟩
          intro more
          rw [List.take_succ_cons, List.cons_append, output, if_neg goesOn, moved]
          exact given more
        · rename_i next symbol' moved
          split at fed
          · rename_i full
            cases fed
            exact ⟨Nat.zero_le _, Nat.zero_le _, fun _ some => absurd full (Nat.ne_of_gt some),
              nofun, fun _ => rfl⟩
          · rename_i free
            obtain ⟨inner, later, rfl⟩ := Option.map_eq_some_iff.mp fed
            obtain ⟨consumes, produces, _, ended, given⟩ := ih later
            refine ⟨Nat.succ_le_succ consumes, ?_, fun _ _ _ => Nat.succ_ne_zero _, ended, ?_⟩
            · change inner.produced.length + 1 ≤ room
              omega
            · intro more
              rw [List.take_succ_cons, List.cons_append, output, if_neg goesOn, moved]
              change [symbol'] ++ machine.output next _ = symbol' :: (_ ++ _)
              rw [given more]
              rfl

theorem fed_output {phase : machine.decoder.State} {taken : List Input} {given : List Output}
    (fed : machine.decoder.Fed phase taken given) (later : List Input) :
    machine.output machine.start (taken ++ later) = given ++ machine.output phase later := by
  induction fed generalizing later with
  | fresh => rfl
  | call before called _ ih =>
      rw [List.append_assoc, ih, (feed_feeds called).given, List.append_assoc]

theorem decoder_lawful : machine.decoder.Lawful (machine.output machine.start) where
  consumes := fun called => (feed_feeds called).consumes
  produces := fun called => (feed_feeds called).produces
  progress := fun called some room goesOn => .inl ((feed_feeds called).progress some room goesOn)
  output := by
    intro state taken given input room finish answer fed called
    have all := (fed_output fed _).trans (congrArg (given ++ ·) ((feed_feeds called).given []))
    rw [List.append_nil, output, List.append_nil] at all
    exact ⟨[], (List.append_nil _).trans all.symm⟩
  whole := by
    intro state taken given input room finish answer fed called _
    have all := (fed_output fed _).trans (congrArg (given ++ ·) ((feed_feeds called).given []))
    rw [List.append_nil, output, List.append_nil] at all
    exact all.symm
  monotone := output_prefix

end Transducer
