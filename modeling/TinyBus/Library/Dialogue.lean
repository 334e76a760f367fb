/-!
Programs that put questions to their surroundings.

A program ends with a result or a failure, or it asks a question and goes on
with whatever the answer is.  Nothing is said about where the answers come from,
so what holds of all its questions holds whatever its surroundings do.
-/

universe u v w x y

inductive Dialogue (Question : Type u) (Answer : Question → Type v) (Failure : Type w)
    (Result : Type x) where
  | done (result : Result)
  | fail (failure : Failure)
  | ask (question : Question)
      (next : Answer question → Dialogue Question Answer Failure Result)

namespace Dialogue

variable {Question : Type u} {Answer : Question → Type v} {Failure : Type w}
  {Result Other : Type x}

def bind : Dialogue Question Answer Failure Result →
    (Result → Dialogue Question Answer Failure Other) →
    Dialogue Question Answer Failure Other
  | .done result, next => next result
  | .fail failure, _ => .fail failure
  | .ask question continued, next =>
      .ask question (fun answer => (continued answer).bind next)

instance : Monad (Dialogue Question Answer Failure) where
  pure := .done
  bind := bind

theorem andThen_assoc {Last : Type x} (program : Dialogue Question Answer Failure Result)
    (next : Result → Dialogue Question Answer Failure Other)
    (after : Other → Dialogue Question Answer Failure Last) :
    program >>= next >>= after = program >>= fun result => next result >>= after := by
  induction program with
  | done result => rfl
  | fail failure => rfl
  | ask question continued ih => exact congrArg (Dialogue.ask question) (funext ih)

/-- A result that is known, or a failure. -/
def ofExcept : Except Failure Result → Dialogue Question Answer Failure Result
  | .ok result => .done result
  | .error failure => .fail failure

/-- Run a program and look at how it ended. -/
def attempt {Result : Type w} : Dialogue Question Answer Failure Result →
    Dialogue Question Answer Failure (Except Failure Result)
  | .done result => .done (.ok result)
  | .fail failure => .done (.error failure)
  | .ask question next => .ask question (fun answer => (next answer).attempt)

/-- Two programs that run at once, each taking the turns it is given; the first
failure ends both. -/
def together {Left Right : Type x} : List Bool →
    Dialogue Question Answer Failure Left → Dialogue Question Answer Failure Right →
    Dialogue Question Answer Failure (Left × Right)
  | true :: turns, .ask question next, right =>
      .ask question (fun answer => together turns (next answer) right)
  | false :: turns, left, .ask question next =>
      .ask question (fun answer => together turns left (next answer))
  | false :: _, _, .fail failure => .fail failure
  -- The program whose turn it is has ended, or there are no turns left.
  | _, left, right =>
      left.bind (fun first => right.bind (fun second => .done (first, second)))

/-- Some answers lead the program to a question. -/
inductive Asks (asked : Question) : Dialogue Question Answer Failure Result → Prop
  | here {next : Answer asked → Dialogue Question Answer Failure Result} :
      Asks asked (.ask asked next)
  | later {question : Question}
      {next : Answer question → Dialogue Question Answer Failure Result}
      (answer : Answer question) : Asks asked (next answer) →
      Asks asked (.ask question next)

/-- Some answers lead the program to a result. -/
inductive Returns (result : Result) : Dialogue Question Answer Failure Result → Prop
  | here : Returns result (.done result)
  | later {question : Question}
      {next : Answer question → Dialogue Question Answer Failure Result}
      (answer : Answer question) : Returns result (next answer) →
      Returns result (.ask question next)

/-- Whatever the answers are, every question is one that is admitted. -/
def Only (admits : Question → Prop) : Dialogue Question Answer Failure Result → Prop
  | .done _ => True
  | .fail _ => True
  | .ask question next => admits question ∧ ∀ answer, Only admits (next answer)

variable {admits : Question → Prop}

theorem only_iff {program : Dialogue Question Answer Failure Result} :
    program.Only admits ↔ ∀ question, Asks question program → admits question := by
  constructor
  · intro only question asks
    induction asks with
    | here => exact only.1
    | later answer _ ih => exact ih (only.2 answer)
  · intro every
    induction program with
    | done result => trivial
    | fail failure => trivial
    | ask question next ih =>
        refine ⟨every question .here, fun answer => ?_⟩
        exact ih answer (fun asked asks => every asked (.later answer asks))

variable {next : Result → Dialogue Question Answer Failure Other} {known : Except Failure Result}

theorem Only.bind {program : Dialogue Question Answer Failure Result} (first : program.Only admits)
    (rest : ∀ result, Returns result program → (next result).Only admits) :
    (program.bind next).Only admits := by
  induction program with
  | done result => exact rest result .here
  | fail failure => trivial
  | ask question continued ih =>
      refine ⟨first.1, fun answer => ?_⟩
      exact ih answer (first.2 answer) (fun result returns => rest result (.later answer returns))

theorem Only.andThen {program : Dialogue Question Answer Failure Result}
    (first : program.Only admits)
    (rest : ∀ result, Returns result program → (next result).Only admits) :
    (program >>= next).Only admits :=
  first.bind rest

theorem Returns.ofExcept {result : Result} (returns : Returns result
      (Dialogue.ofExcept known : Dialogue Question Answer Failure Result)) :
    known = .ok result := by
  cases known with
  | ok value =>
      cases returns
      rfl
  | error failure => cases returns

theorem Only.ofExcept (known : Except Failure Result) :
    (Dialogue.ofExcept known : Dialogue Question Answer Failure Result).Only admits := by
  cases known with
  | ok result => trivial
  | error failure => trivial

theorem Only.attempt {Result : Type w} {program : Dialogue Question Answer Failure Result}
    (only : program.Only admits) : program.attempt.Only admits := by
  induction program with
  | done result => trivial
  | fail failure => trivial
  | ask question next ih => exact ⟨only.1, fun answer => ih answer (only.2 answer)⟩

theorem Only.together {Left Right : Type x}
    {left : Dialogue Question Answer Failure Left}
    {right : Dialogue Question Answer Failure Right} (turns : List Bool)
    (first : left.Only admits) (second : right.Only admits) :
    (Dialogue.together turns left right).Only admits := by
  have inOrder : (left.bind (fun first =>
      right.bind (fun second => .done (first, second)))).Only admits :=
    first.bind (fun _ _ => second.bind (fun _ _ => trivial))
  induction turns generalizing left right with
  | nil => exact inOrder
  | cons turn turns ih =>
      cases turn with
      | true =>
          cases left with
          | done result => exact inOrder
          | fail failure => exact inOrder
          | ask question next =>
              refine ⟨first.1, fun answer => ih (first.2 answer) second ?_⟩
              exact (first.2 answer).bind (fun _ _ => second.bind (fun _ _ => trivial))
      | false =>
          cases right with
          | done result => exact inOrder
          | fail failure => trivial
          | ask question next =>
              refine ⟨second.1, fun answer => ih first (second.2 answer) ?_⟩
              exact first.bind (fun _ _ => (second.2 answer).bind (fun _ _ => trivial))

/-- As long as the answers are credible, every question is one that is admitted, and a
result is as it is claimed to be. -/
def Ensures (credible : (question : Question) → Answer question → Prop)
    (admits : Question → Prop) (claimed : Result → Prop) :
    Dialogue Question Answer Failure Result → Prop
  | .done result => claimed result
  | .fail _ => True
  | .ask question next =>
      admits question ∧ ∀ answer, credible question answer →
        Ensures credible admits claimed (next answer)

variable {credible : (question : Question) → Answer question → Prop}
  {claimed : Result → Prop}

theorem Ensures.bind {program : Dialogue Question Answer Failure Result} {after : Other → Prop}
    (first : program.Ensures credible admits claimed)
    (rest : ∀ result, claimed result → (next result).Ensures credible admits after) :
    (program.bind next).Ensures credible admits after := by
  induction program with
  | done result => exact rest result first
  | fail failure => trivial
  | ask question continued ih =>
      exact ⟨first.1, fun answer believed => ih answer (first.2 answer believed)⟩

theorem Ensures.andThen {program : Dialogue Question Answer Failure Result} {after : Other → Prop}
    (first : program.Ensures credible admits claimed)
    (rest : ∀ result, claimed result → (next result).Ensures credible admits after) :
    (program >>= next).Ensures credible admits after :=
  first.bind rest

theorem Ensures.ofExcept (result : ∀ value, known = .ok value → claimed value) :
    (Dialogue.ofExcept known : Dialogue Question Answer Failure Result).Ensures credible
      admits claimed := by
  cases known with
  | ok value => exact result value rfl
  | error failure => trivial

theorem Ensures.attempt {Result : Type w} {program : Dialogue Question Answer Failure Result}
    {claimed : Result → Prop} (ensures : program.Ensures credible admits claimed) :
    program.attempt.Ensures credible admits
      (fun outcome => ∀ result, outcome = .ok result → claimed result) := by
  induction program with
  | done result =>
      rintro _ ⟨⟩
      exact ensures
  | fail failure => rintro _ ⟨⟩
  | ask question next ih =>
      exact ⟨ensures.1, fun answer believed => ih answer (ensures.2 answer believed)⟩

theorem Ensures.together {Left Right : Type x}
    {left : Dialogue Question Answer Failure Left}
    {right : Dialogue Question Answer Failure Right} {here : Left → Prop} {there : Right → Prop}
    (turns : List Bool) (first : left.Ensures credible admits here)
    (second : right.Ensures credible admits there) :
    (Dialogue.together turns left right).Ensures credible admits
      (fun results => here results.1 ∧ there results.2) := by
  have inOrder : (left.bind (fun first =>
      right.bind (fun second => .done (first, second)))).Ensures credible admits
        (fun results => here results.1 ∧ there results.2) :=
    first.bind (fun _ one => second.bind (fun _ two => ⟨one, two⟩))
  induction turns generalizing left right with
  | nil => exact inOrder
  | cons turn turns ih =>
      cases turn with
      | true =>
          cases left with
          | done result => exact inOrder
          | fail failure => exact inOrder
          | ask question next =>
              refine ⟨first.1, fun answer believed => ih (first.2 answer believed) second ?_⟩
              exact (first.2 answer believed).bind (fun _ one =>
                second.bind (fun _ two => ⟨one, two⟩))
      | false =>
          cases right with
          | done result => exact inOrder
          | fail failure => trivial
          | ask question next =>
              refine ⟨second.1, fun answer believed => ih first (second.2 answer believed) ?_⟩
              exact first.bind (fun _ one =>
                (second.2 answer believed).bind (fun _ two => ⟨one, two⟩))

/-- A run of a program in surroundings that answer its questions and change as they do. -/
inductive Runs {State : Type y}
    (answers : State → (question : Question) → Answer question → State → Prop) :
    State → Dialogue Question Answer Failure Result → State → Except Failure Result → Prop
  | done {state : State} {result : Result} : Runs answers state (.done result) state (.ok result)
  | fail {state : State} {failure : Failure} :
      Runs answers state (.fail failure) state (.error failure)
  | ask {before between after : State} {question : Question} {answer : Answer question}
      {next : Answer question → Dialogue Question Answer Failure Result}
      {outcome : Except Failure Result} (answered : answers before question answer between)
      (later : Runs answers between (next answer) after outcome) :
      Runs answers before (.ask question next) after outcome

variable {State : Type y}
  {answers : State → (question : Question) → Answer question → State → Prop}
  {before after : State}

theorem Runs.ask_inv {question : Question}
    {next : Answer question → Dialogue Question Answer Failure Result}
    {outcome : Except Failure Result} (run : Runs answers before (.ask question next) after outcome) :
    ∃ answer between, answers before question answer between ∧
      Runs answers between (next answer) after outcome := by
  cases run with
  | ask answered later => exact ⟨_, _, answered, later⟩

theorem Runs.ofExcept_iff {outcome : Except Failure Result} :
    Runs answers before (Dialogue.ofExcept known) after outcome ↔
      after = before ∧ outcome = known := by
  cases known with
  | ok result =>
      constructor
      · rintro ⟨⟩
        exact ⟨rfl, rfl⟩
      · rintro ⟨rfl, rfl⟩
        exact .done
  | error failure =>
      constructor
      · rintro ⟨⟩
        exact ⟨rfl, rfl⟩
      · rintro ⟨rfl, rfl⟩
        exact .fail

/-- The rule for one program after another: the second runs where the first ended. -/
theorem Runs.andThen {program : Dialogue Question Answer Failure Result} {between : State}
    {result : Result} {outcome : Except Failure Other}
    (first : Runs answers before program between (.ok result))
    (rest : Runs answers between (next result) after outcome) :
    Runs answers before (program >>= next) after outcome := by
  generalize ended : Except.ok result = known at first
  induction first with
  | done =>
      cases ended
      exact rest
  | fail => cases ended
  | ask answered _ ih => exact .ask answered (ih rest ended)

theorem Runs.andThen_fail {program : Dialogue Question Answer Failure Result} {failure : Failure}
    (first : Runs answers before program after (.error failure)) :
    Runs answers before (program >>= next) after (.error failure) := by
  generalize failed : Except.error failure = known at first
  induction first with
  | done => cases failed
  | fail =>
      cases failed
      exact .fail
  | ask answered _ ih => exact .ask answered (ih failed)

/-- A run of one program after another fails in the first, or goes on where it ended. -/
theorem Runs.andThen_inv {program : Dialogue Question Answer Failure Result}
    {outcome : Except Failure Other} (run : Runs answers before (program >>= next) after outcome) :
    (∃ failure, Runs answers before program after (.error failure) ∧
      outcome = .error failure) ∨
      ∃ between result, Runs answers before program between (.ok result) ∧
        Runs answers between (next result) after outcome := by
  induction program generalizing before with
  | done result => exact .inr ⟨before, result, .done, run⟩
  | fail failure =>
      cases run
      exact .inl ⟨failure, .fail, rfl⟩
  | ask question continued ih =>
      cases run with
      | ask answered later =>
          rcases ih _ later with ⟨failure, first, failed⟩ | ⟨between, result, first, rest⟩
          · exact .inl ⟨failure, .ask answered first, failed⟩
          · exact .inr ⟨between, result, .ask answered first, rest⟩

end Dialogue
