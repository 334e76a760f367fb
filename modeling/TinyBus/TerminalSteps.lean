import TinyBus.TerminalInstance

/-
What an action of a terminal instance can do, case by case: the actions that change only
what no verdict looks at and lead on, and those that change the rest.
-/

namespace TinyBus

open ModuleTransport (TB_OK TB_CLOSED TB_PANICKED TB_BAD_ARGUMENT)

namespace TerminalState

structure Provision where
  anchor : Bool
  request : Bool
  reinitOperation : Option ReinitOperation
  constructionCode : Int
  priorPending : Bool
  config : Bool
  setup : Bool
  runtime : Bool
  connection : Bool
  reinit : Bool
  reinitFuture : Bool

def Shared.provision (shared : Shared) : Provision :=
  { anchor := shared.anchor, request := shared.request,
    reinitOperation := shared.reinitOperation, constructionCode := shared.constructionCode,
    priorPending := shared.priorPending, config := shared.config, setup := shared.setup,
    runtime := shared.runtime, connection := shared.connection,
    reinit := shared.reinit, reinitFuture := shared.reinitFuture }

def Shared.provide (shared : Shared) (provision : Provision) : Shared :=
  { shared with
    anchor := provision.anchor
    request := provision.request
    reinitOperation := provision.reinitOperation
    constructionCode := provision.constructionCode
    priorPending := provision.priorPending
    config := provision.config
    setup := provision.setup
    runtime := provision.runtime
    connection := provision.connection
    reinit := provision.reinit
    reinitFuture := provision.reinitFuture }

def Action.tells : Action → Bool
  | .commit _ => true
  | .retainUncertain => true
  | .runRequest => true
  | .schedule => true
  | .ifTerminal => true
  | .observeHost => true
  | .takeAnchor => true
  | .returned _ => true
  | _ => false

theorem signal_tells (reason : TerminalReason) : (signal reason).all Action.tells = true := rfl

theorem sourcePanic_tells : sourcePanic.all Action.tells = true := rfl

inductive Leads (shared : Shared) : Action → Action → Prop
  | asks {use : LiveUse} : Leads shared (.isLive use) (.stillLive use)
  | closed {use : LiveUse} {next : Action} (leads : next ∈ use.otherwise) :
      Leads shared (.isLive use) next
  | closedSince {use : LiveUse} {next : Action} (leads : next ∈ use.otherwise) :
      Leads shared (.stillLive use) next
  | live {use : LiveUse} {next : Action} (leads : next ∈ use.continues) :
      Leads shared (.stillLive use) next
  | requestPanics : Leads shared .requestReturns .requestPanicked
  -- The factory call.
  | parses : Leads shared .parseConfig .factory
  | parseFails {code : Int} : Leads shared .parseConfig (.factoryEnds code)
  | factoryReturns : Leads shared .factory .register
  | factoryFails {code : Int} : Leads shared .factory (.factoryEnds code)
  | attachesSetup : Leads shared .attachSetup .buildRuntime
  | builds : Leads shared .buildRuntime .attachTransport
  | buildFails {code : Int} : Leads shared .buildRuntime (.factoryEnds code)
  | attachesReinit : Leads shared .attachReinit .spawnInitial
  | unwinds {action : Action} {code : Int} (unwinds : action.unwinds = true) :
      Leads shared action (.factoryEnds code)
  | factoryFailed {code : Int} : Leads shared (.factoryEnds code) .failFactory
  | factorySucceeds {code : Int} : Leads shared (.factoryEnds code) .publish
  | failsFactory : Leads shared .failFactory .publish
  -- The initial task.
  | shakes : Leads shared .handshake .attachObserver
  | shakeEnds {outcome : Outcome} : Leads shared .handshake (.endInitial outcome)
  | attachesConnection : Leads shared .attachConnection (.isLive .initialSetup)
  | setsUp : Leads shared .setup .pollInitial
  | setupEnds {outcome : Outcome} : Leads shared .setup (.endInitial outcome)
  | polls : Leads shared .pollInitial (.isLive .initialReady)
  | pollEnds {outcome : Outcome} : Leads shared .pollInitial (.endInitial outcome)
  -- A reinitialization.
  | callsBack : Leads shared .callReinit (.isLive .reinitCallback)
  | callEnds {code : Int} : Leads shared .callReinit (.endReinit code)
  | takes {next : Action} (leads : next = .retire ∨ next = .isLive .reinitRetired) :
      Leads shared .takeFuture next
  | takeEnds {code : Int} : Leads shared .takeFuture (.endReinit code)
  | retires : Leads shared .retire .awaitRetired
  | retired : Leads shared .awaitRetired (.isLive .reinitRetired)
  | retireEnds {code : Int} : Leads shared .awaitRetired (.endReinit code)
  | constructs : Leads shared .construct .awaitConstructed
  | constructed : Leads shared .awaitConstructed .pollReinit
  | constructEnds {code : Int} : Leads shared .awaitConstructed (.endReinit code)
  | polled : Leads shared .pollReinit (.isLive .reinitDone)
  | pollReinitEnds {code : Int} : Leads shared .pollReinit (.endReinit code)
  -- The worker.
  | takesOperation {operation : ReinitOperation} : Leads shared .runFinish (.serve operation)
  | serves {operation : ReinitOperation} {failed : Bool} {code : Int} :
      Leads shared (.serve operation) (.served failed code)
  | servesConstruct {operation : ReinitOperation} :
      Leads shared (.serve operation) (.isLive .construct)
  | parsesReinit : Leads shared .parseReinit (.isLive .constructed)
  | parseReinitEnds {code : Int} : Leads shared .parseReinit (.served false code)
  | callsSetup {code : Int} : Leads shared .callSetup (.served false code)
  | nothingToSettle (absent : shared.initial = false) :
      Leads shared .settleExecution (.readRetired true)
  | joins {outcome : Outcome} (ended : shared.initialTask = .ended outcome) :
      Leads shared .join (.readRetired true)
  | disposes (intact : shared.retirementFailed = false) :
      Leads shared (.readRetired true) (.disposeSetup captures)
  | keeps {settled failed : Bool} (kept : settled = false ∨ failed = true) :
      Leads shared (.readRetired settled) (.takeFinish settled failed)
  | disposesMore {head : Capture} {rest : List Capture} :
      Leads shared (.disposeSetup (head :: rest)) (.disposeSetup rest)
  | disposalPanics {left : List Capture} :
      Leads shared (.disposeSetup left) (.takeFinish true true)
  | unsettled {failed : Bool} :
      Leads shared (.takeFinish false failed) (.finalCheck .uncertain false)
  | nothingToFinish {failed : Bool} {next : Action} (absent : shared.finish = false)
      (leads : next ∈ afterFinish .physicallyStopped failed) (ends : next.tells = false) :
      Leads shared (.takeFinish true failed) next
  | finishPanics {failed : Bool} :
      Leads shared (.finishReturns failed) (.finalCheck .uncertain false)
  | releasesMore {head : Resource} {rest : List Resource} :
      Leads shared (.releaseResources (head :: rest)) (.releaseResources rest)
  | releasePanics {left : List Resource} :
      Leads shared (.releaseResources left) (.finalCheck .physicallyStopped false)
  | releasedAll : Leads shared (.releaseResources []) .countOwners
  -- The end that the host asks for.
  | looksUpShutdown : Leads shared (.lookup .shutdown) .awaitCompletion
  | looksUpReinit : Leads shared (.lookup .reinit) (.isLive .reinit)
  | awaits {completion : TerminalCompletion}
      (read : completion = .physicallyStopped → shared.completion = some .physicallyStopped) :
      Leads shared .awaitCompletion (.judge completion)

inductive Acts (shared : Shared) : Action → Shared → Program → Prop
  | passes {action : Action} (provision : Provision) {early : Program}
      (tells : early.all Action.tells = true) :
      Acts shared action (shared.provide provision) early
  | leads {action next : Action} (provision : Provision) {early : Program}
      (tells : early.all Action.tells = true) (leads : Leads shared action next) :
      Acts shared action (shared.provide provision) (early ++ [next])
  | commits {reason : TerminalReason} : Acts shared (.commit reason) (shared.commit reason) []
  | uncertain : Acts shared .retainUncertain shared.recordUncertain []
  | runsRequest (terminal : shared.reason ≠ 0) (idle : shared.requestState = .idle) :
      Acts shared .runRequest { shared with requestState := .running }
        [.callRequest shared.request]
  | callsRequest :
      Acts shared (.callRequest true)
        { shared with requests := shared.requests ++ [.ofCode shared.reason] } [.requestReturns]
  | requestDone {action : Action} (ends : action = .callRequest false ∨ action = .requestReturns) :
      Acts shared action { shared with requestState := .done } []
  | requestPanicked : Acts shared .requestPanicked shared.requestPanicked []
  | schedules (idle : shared.finishState = .idle) :
      Acts shared .schedule { shared with finishState := .submitted } [.spawn]
  | spawns : Acts shared .spawn { shared with workers := shared.workers + 1 } []
  | spawnFails :
      Acts shared .spawn
        { shared.recordUncertain with
          finishState := .spawnFailed, completion := some .uncertain }
        [.commit .fault, .runRequest]
  | beginsFactory (there : shared.factory = true) :
      Acts shared .beginFactory { shared with factory := false } [.parseConfig]
  | registers : Acts shared .register shared.register [.ifTerminal, .isLive .startup]
  | attachesTransport : Acts shared .attachTransport shared.attachOwner [.attachReinit]
  | spawnsInitial :
      Acts shared .spawnInitial { shared with initialTask := .ready, initial := true }
        [.markVtablePublished]
  | marks {code : Int} :
      Acts shared .markVtablePublished { shared with vtablePublished := true } [.factoryEnds code]
  | publishes : Acts shared .publish { shared with published := true } [.ifTerminal]
  | beginsInitial (ready : shared.initialTask = .ready) :
      Acts shared .beginInitial { shared with initialTask := .running } [.handshake]
  | cancelsInitial (ready : shared.initialTask = .ready) :
      Acts shared .beginInitial { shared with initialTask := .ended .cancelled } []
  | attachesObserver : Acts shared .attachObserver shared.attachOwner [.attachConnection]
  | endsInitial {outcome : Outcome} :
      Acts shared (.endInitial outcome) { shared with initialTask := .ended outcome } []
  | beginsReinit (live : shared.reason = 0) :
      Acts shared .beginReinit { shared with activeReinit := true } [.callReinit]
  | endsReinit {code : Int} :
      Acts shared (.endReinit code) { shared with activeReinit := false } [.returned code]
  | beginsWorker (spawned : shared.workers ≠ 0) :
      Acts shared .beginWorker { shared with workers := shared.workers - 1 } [.runFinish]
  | runsFinish (published : shared.published = true) (inactive : shared.activeReinit = false)
      (settled : shared.requestState ≠ .idle ∧ shared.requestState ≠ .running)
      (scheduled : FinishState) (late : scheduled ≠ .idle) :
      Acts shared .runFinish { shared with finishState := scheduled } [.settleExecution]
  | served {failed : Bool} {code : Int} :
      Acts shared (.served failed code) (shared.served failed code) [.runFinish]
  | aborts : Acts shared .settleExecution { shared with aborted := true } [.readRetired false]
  | settles :
      Acts shared .settleExecution { shared with initial := false, aborted := true } [.join]
  | disposed :
      Acts shared (.disposeSetup []) { shared with disposed := true } [.takeFinish true false]
  | takesFinish {failed : Bool} (there : shared.finish = true) :
      Acts shared (.takeFinish true failed)
        { shared with finish := false, finishes := shared.finishes + 1 } [.finishReturns failed]
  | finishes {failed : Bool} {completion : TerminalCompletion} :
      Acts shared (.finishReturns failed) { shared with confirmed := some completion }
        (afterFinish completion failed)
  | counts :
      Acts shared .countOwners { shared with released := shared.sdkOwners = 0 }
        [.observeHost, .finalCheck .physicallyStopped (shared.sdkOwners = 0)]
  | checks {completed : TerminalCompletion} {released : Bool} :
      Acts shared (.finalCheck completed released) { shared with checked := some shared.hasFault }
        [.finalize completed (!released || shared.hasFault && shared.vtablePublished)]
  | finalizes {completed : TerminalCompletion} {failed : Bool} (anchor : Bool) :
      Acts shared (.finalize completed failed)
        { shared with
          anchor := anchor
          uncertain := shared.uncertain || failed
          finishState := .complete
          completion := some (if shared.uncertain || failed then .uncertain else completed) } []
  | takesOwner {panicking : Bool} (there : shared.owners ≠ 0) :
      Acts shared (.takeOwner panicking) { shared with owners := shared.owners - 1 }
        ((if panicking then caughtPanic else []) ++ [.dropOwner])
  | dropsOwner :
      Acts shared .dropOwner { shared with sdkOwners := shared.sdkOwners - 1 } []
  | judges {completion : TerminalCompletion} :
      Acts shared (.judge completion) (shared.judge completion).1 (shared.judge completion).2

section

variable {choice : Choice} {shared after : Shared} {action : Action} {more : Program}

/-! ### The functions with branches -/

theorem runRequest_acts (done : shared.runRequest = (after, more)) :
    Acts shared .runRequest after more := by
  unfold Shared.runRequest at done
  split at done
  · cases done
    exact .passes shared.provision rfl
  · rename_i going
    cases done
    rw [Bool.or_eq_true, not_or, Bool.not_eq_true', Bool.not_eq_false, decide_eq_true_eq,
      Decidable.not_not] at going
    exact .runsRequest (of_decide_eq_true going.1) going.2

theorem callRequest_acts {hook : Bool} (done : shared.callRequest hook = (after, more)) :
    Acts shared (.callRequest hook) after more := by
  cases hook with
  | true =>
      cases done
      exact .callsRequest
  | false =>
      cases done
      exact .requestDone (.inl rfl)

theorem schedule_acts (done : shared.schedule = (after, more)) :
    Acts shared .schedule after more := by
  unfold Shared.schedule at done
  split at done
  · cases done
    exact .passes shared.provision rfl
  · rename_i idle
    cases done
    exact .schedules (Decidable.not_not.mp idle)

theorem spawned_acts {started : Bool} (done : shared.spawned started = (after, more)) :
    Acts shared .spawn after more := by
  cases started with
  | true =>
      cases done
      exact .spawns
  | false =>
      cases done
      exact .spawnFails

theorem ifTerminal_acts : Acts shared .ifTerminal shared shared.ifTerminal := by
  unfold Shared.ifTerminal
  split <;> exact .passes shared.provision rfl

theorem observeHost_acts {flags : Option Nat} :
    Acts shared .observeHost shared (Shared.observeHost flags) := by
  unfold Shared.observeHost
  split <;> exact .passes shared.provision rfl

theorem Acts.goes (provision : Provision) {next : Action} (leads : Leads shared action next) :
    Acts shared action (shared.provide provision) [next] :=
  @Acts.leads shared action next provision [] rfl leads

theorem Acts.stays {next : Action} (leads : Leads shared action next) :
    Acts shared action shared [next] :=
  .goes shared.provision leads

theorem otherwise_acts {use : LiveUse}
    (leads : ∀ next ∈ use.otherwise, Leads shared action next) :
    Acts shared action shared use.otherwise := by
  cases use with
  | view => exact .passes shared.provision rfl
  | _ => exact .stays (leads _ (List.mem_singleton.mpr rfl))

theorem continues_acts {use : LiveUse}
    (leads : ∀ next ∈ use.continues, Leads shared action next) :
    Acts shared action shared use.continues := by
  cases use with
  | view => exact .passes shared.provision rfl
  | _ => exact .stays (leads _ (List.mem_singleton.mpr rfl))

theorem isLive_acts {use : LiveUse} : Acts shared (.isLive use) shared (shared.isLive use) := by
  unfold Shared.isLive
  split
  · exact otherwise_acts (fun _ => .closed)
  · exact @Acts.leads shared _ _ shared.provision [.observeHost] rfl .asks

theorem stillLive_acts {use : LiveUse} :
    Acts shared (.stillLive use) shared (shared.stillLive use) := by
  unfold Shared.stillLive
  split
  · exact otherwise_acts (fun _ => .closedSince)
  · exact continues_acts (fun _ => .live)

theorem factoryEnds_acts {code : Int} :
    Acts shared (.factoryEnds code) shared (shared.factoryEnds code) := by
  unfold Shared.factoryEnds
  split
  · exact .passes shared.provision rfl
  · split
    · exact .stays .factoryFailed
    · exact .stays .factorySucceeds

theorem failFactory_acts : Acts shared .failFactory shared shared.failFactory := by
  unfold Shared.failFactory
  split
  · exact .stays .failsFactory
  · exact .leads shared.provision (signal_tells _) .failsFactory

theorem beginReinit_acts (done : shared.beginReinit = (after, more)) :
    Acts shared .beginReinit after more := by
  unfold Shared.beginReinit at done
  split at done
  · cases done
    exact .passes shared.provision rfl
  · rename_i going
    cases done
    rw [Bool.or_eq_true, not_or] at going
    unfold Shared.isTerminal at going
    rw [decide_eq_true_eq, Decidable.not_not] at going
    exact .beginsReinit going.1

theorem takeFuture_acts (done : shared.takeFuture = (after, more)) :
    Acts shared .takeFuture after more := by
  unfold Shared.takeFuture at done
  split at done
  · cases done
    exact .stays .takeEnds
  · split at done
    · cases done
      exact .goes { shared.provision with reinitFuture := false } (.takes (.inl rfl))
    · cases done
      exact .stays (.takes (.inr rfl))

theorem awaitRetired_acts (done : shared.awaitRetired = some (after, more)) :
    Acts shared .awaitRetired after more := by
  unfold Shared.awaitRetired at done
  split at done
  · cases done
  · split at done
    · cases done
      exact .stays .retireEnds
    · cases done
      exact .stays .retired

theorem awaitConstructed_acts (done : shared.awaitConstructed = some (after, more)) :
    Acts shared .awaitConstructed after more := by
  unfold Shared.awaitConstructed at done
  split at done
  · cases done
  · cases done
    generalize (if shared.finishState = .spawnFailed then TB_CLOSED
      else shared.constructionCode) = code
    split
    · exact .stays .constructEnds
    · exact .stays .constructed

theorem runFinish_acts (done : shared.runFinish = some (after, more)) :
    Acts shared .runFinish after more := by
  unfold Shared.runFinish at done
  split at done
  · cases done
    exact .goes { shared.provision with reinitOperation := none } .takesOperation
  · split at done
    · rename_i settled
      cases done
      simp only [Bool.and_eq_true, Bool.not_eq_true', decide_eq_true_eq] at settled
      obtain ⟨⟨⟨published, inactive⟩, called⟩, returned⟩ := settled
      exact .runsFinish published inactive ⟨called, returned⟩ .running nofun
    · cases done

theorem settleExecution_acts (done : shared.settleExecution = (after, more)) :
    Acts shared .settleExecution after more := by
  unfold Shared.settleExecution at done
  split at done
  · rename_i absent
    cases done
    exact .stays (.nothingToSettle ((Bool.not_eq_true' _).mp absent))
  · split at done
    · cases done
      exact .aborts
    · cases done
      exact .settles

theorem join_acts (done : shared.join = some (after, more)) : Acts shared .join after more := by
  unfold Shared.join at done
  split at done
  · rename_i ended
    cases done
    exact .stays (.joins ended)
  · rename_i ended
    cases done
    exact .leads shared.provision (signal_tells _) (.joins ended)
  · rename_i ended
    cases done
    exact .stays (.joins ended)
  · rename_i ended
    cases done
    exact .leads shared.provision sourcePanic_tells (.joins ended)
  · cases done

theorem readRetired_acts {settled : Bool} :
    Acts shared (.readRetired settled) shared (shared.readRetired settled) := by
  unfold Shared.readRetired
  cases settled with
  | false => exact .stays (.keeps (.inl rfl))
  | true =>
      cases failed : shared.retirementFailed with
      | true => exact .stays (.keeps (.inr rfl))
      | false => exact .stays (.disposes failed)

theorem afterFinish_acts {completed : TerminalCompletion} {failed : Bool} {provision : Provision}
    {early : Program} (tells : early.all Action.tells = true)
    (leads : ∀ next ∈ afterFinish completed failed, next.tells = false →
      Leads shared action next) :
    Acts shared action (shared.provide provision) (early ++ afterFinish completed failed) := by
  unfold afterFinish at leads ⊢
  split
  · rename_i releases
    rw [if_pos releases] at leads
    exact .leads provision tells (leads _ (List.mem_singleton.mpr rfl) rfl)
  · rename_i checks
    rw [if_neg checks] at leads
    have tellsToo : (early ++ [Action.observeHost]).all Action.tells = true := by
      rw [List.all_append, tells]
      rfl
    have goes := leads _ (List.mem_cons_of_mem _ (List.mem_singleton.mpr rfl)) rfl
    have acts := Acts.leads provision tellsToo goes
    rw [List.append_assoc] at acts
    exact acts

theorem takeFinish_acts {settled failed : Bool}
    (done : shared.takeFinish settled failed = (after, more)) :
    Acts shared (.takeFinish settled failed) after more := by
  unfold Shared.takeFinish at done
  cases settled with
  | false =>
      cases done
      exact @Acts.leads shared _ _ shared.provision [.observeHost] rfl .unsettled
  | true =>
      rw [if_neg (by decide)] at done
      split at done
      · rename_i there
        cases done
        exact .takesFinish there
      · rename_i absent
        cases done
        exact @afterFinish_acts _ _ _ _ shared.provision [] rfl
          (fun _ leads ends => .nothingToFinish (eq_false_of_ne_true absent) leads ends)

theorem finalize_acts {completed : TerminalCompletion} {failed : Bool} :
    Acts shared (.finalize completed failed) (shared.finalize completed failed) [] := by
  have acts := @Acts.finalizes shared completed failed
    (shared.finalize completed failed).anchor
  cases failed with
  | true =>
      simp only [Bool.or_true] at acts
      exact acts
  | false =>
      simp only [Bool.or_false] at acts
      exact acts

theorem takeOwner_acts {panicking : Bool}
    (done : shared.takeOwner panicking = some (after, more)) :
    Acts shared (.takeOwner panicking) after more := by
  unfold Shared.takeOwner at done
  split at done
  · cases done
  · rename_i there
    cases done
    exact .takesOwner there

theorem lookup_acts {abi : Abi} : Acts shared (.lookup abi) shared (shared.lookup abi) := by
  unfold Shared.lookup
  split
  · exact .passes shared.provision rfl
  · exact @Acts.leads shared _ _ shared.provision (Action.observeHost :: signal .stop) rfl
      .looksUpShutdown
  · exact .stays .looksUpReinit

/-! ### The inversion -/

theorem signal_acts (done : actSignal choice shared action = some (after, more)) :
    Acts shared action after more := by
  cases action with
  | commit reason =>
      cases choice with
      | proceed =>
          cases done
          exact .commits
      | _ => cases done
  | retainUncertain =>
      cases choice with
      | proceed =>
          cases done
          exact .uncertain
      | _ => cases done
  | runRequest =>
      cases choice with
      | proceed => exact runRequest_acts (Option.some.inj done)
      | _ => cases done
  | callRequest hook =>
      cases choice with
      | proceed => exact callRequest_acts (Option.some.inj done)
      | _ => cases done
  | requestReturns =>
      cases choice with
      | proceed =>
          cases done
          exact .requestDone (.inr rfl)
      | panicked =>
          cases done
          exact @Acts.leads shared _ _ shared.provision [.commit .fault] rfl .requestPanics
      | _ => cases done
  | requestPanicked =>
      cases choice with
      | proceed =>
          cases done
          exact .requestPanicked
      | _ => cases done
  | schedule =>
      cases choice with
      | proceed => exact schedule_acts (Option.some.inj done)
      | _ => cases done
  | spawn =>
      cases choice with
      | spawned started => exact spawned_acts (Option.some.inj done)
      | _ => cases done
  | ifTerminal =>
      cases choice with
      | proceed =>
          cases done
          exact ifTerminal_acts
      | _ => cases done
  | observeHost =>
      cases choice with
      | native flags =>
          cases done
          exact observeHost_acts
      | _ => cases done
  | isLive use =>
      cases choice with
      | proceed =>
          cases done
          exact isLive_acts
      | _ => cases done
  | stillLive use =>
      cases choice with
      | proceed =>
          cases done
          exact stillLive_acts
      | _ => cases done
  | _ => cases choice <;> cases done

theorem unwinds_acts (unwinds : action.unwinds = true) :
    Acts shared action shared (sourcePanic ++ [.factoryEnds TB_PANICKED]) :=
  .leads shared.provision sourcePanic_tells (.unwinds unwinds)

theorem factory_acts (done : actFactory choice shared action = some (after, more)) :
    Acts shared action after more := by
  cases action with
  | beginFactory =>
      cases choice with
      | proceed =>
          change (if _ then _ else _) = _ at done
          split at done
          · rename_i there
            cases done
            exact .beginsFactory there
          · cases done
      | _ => cases done
  | parseConfig =>
      cases choice with
      | proceed =>
          cases done
          exact .goes { shared.provision with config := true } .parses
      | failed =>
          cases done
          exact .stays .parseFails
      | panicked =>
          cases done
          exact unwinds_acts rfl
      | _ => cases done
  | factory =>
      cases choice with
      | proceed =>
          cases done
          exact .stays .factoryReturns
      | failed =>
          cases done
          exact .leads shared.provision (signal_tells _) .factoryFails
      | panicked =>
          cases done
          exact unwinds_acts rfl
      | _ => cases done
  | register =>
      cases choice with
      | proceed =>
          cases done
          exact .registers
      | _ => cases done
  | attachSetup =>
      cases choice with
      | proceed =>
          cases done
          exact .goes { shared.provision with config := false, setup := true } .attachesSetup
      | panicked =>
          cases done
          exact unwinds_acts rfl
      | _ => cases done
  | buildRuntime =>
      cases choice with
      | proceed =>
          cases done
          exact .goes { shared.provision with runtime := true } .builds
      | failed =>
          cases done
          exact .leads shared.provision (signal_tells _) .buildFails
      | panicked =>
          cases done
          exact unwinds_acts rfl
      | _ => cases done
  | attachTransport =>
      cases choice with
      | proceed =>
          cases done
          exact .attachesTransport
      | panicked =>
          cases done
          exact unwinds_acts rfl
      | _ => cases done
  | attachReinit =>
      cases choice with
      | proceed =>
          cases done
          exact .goes { shared.provision with reinit := true } .attachesReinit
      | panicked =>
          cases done
          exact unwinds_acts rfl
      | _ => cases done
  | spawnInitial =>
      cases choice with
      | proceed =>
          cases done
          exact .spawnsInitial
      | panicked =>
          cases done
          exact unwinds_acts rfl
      | _ => cases done
  | markVtablePublished =>
      cases choice with
      | proceed =>
          cases done
          exact .marks
      | panicked =>
          cases done
          exact unwinds_acts rfl
      | _ => cases done
  | factoryEnds code =>
      cases choice with
      | proceed =>
          cases done
          exact factoryEnds_acts
      | _ => cases done
  | failFactory =>
      cases choice with
      | proceed =>
          cases done
          exact failFactory_acts
      | _ => cases done
  | takeAnchor =>
      cases choice with
      | proceed =>
          cases done
          exact .passes { shared.provision with anchor := false } rfl
      | _ => cases done
  | publish =>
      cases choice with
      | proceed =>
          cases done
          exact .publishes
      | _ => cases done
  | _ => cases choice <;> cases done

theorem initial_acts (done : actInitial choice shared action = some (after, more)) :
    Acts shared action after more := by
  cases action with
  | beginInitial =>
      cases choice with
      | proceed =>
          change (if _ then _ else _) = _ at done
          split at done
          · rename_i ready
            cases done
            exact .beginsInitial ready
          · cases done
      | cancelled =>
          change (if _ then _ else _) = _ at done
          split at done
          · rename_i ready
            rw [Bool.and_eq_true, decide_eq_true_eq] at ready
            cases done
            exact .cancelsInitial ready.1
          · cases done
      | _ => cases done
  | handshake =>
      cases choice with
      | proceed =>
          cases done
          exact .stays .shakes
      | failed =>
          cases done
          exact .leads shared.provision (signal_tells _) .shakeEnds
      | panicked =>
          cases done
          exact .stays .shakeEnds
      | cancelled =>
          change (if _ then _ else _) = _ at done
          split at done
          · cases done
            exact .stays .shakeEnds
          · cases done
      | _ => cases done
  | attachObserver =>
      cases choice with
      | proceed =>
          cases done
          exact .attachesObserver
      | _ => cases done
  | attachConnection =>
      cases choice with
      | proceed =>
          cases done
          exact .goes { shared.provision with connection := true } .attachesConnection
      | _ => cases done
  | setup =>
      cases choice with
      | proceed =>
          cases done
          split
          · exact .goes { shared.provision with setup := false } .setsUp
          · exact .goes { shared.provision with setup := false } .setupEnds
      | panicked =>
          change (if _ then _ else _) = _ at done
          split at done
          · cases done
            exact .leads { shared.provision with setup := false } sourcePanic_tells .setupEnds
          · cases done
      | _ => cases done
  | pollInitial =>
      cases choice with
      | proceed =>
          cases done
          exact .stays .polls
      | failed =>
          cases done
          exact .leads shared.provision (signal_tells _) .pollEnds
      | panicked =>
          cases done
          exact .leads shared.provision sourcePanic_tells .pollEnds
      | cancelled =>
          change (if _ then _ else _) = _ at done
          split at done
          · cases done
            exact .stays .pollEnds
          · cases done
      | _ => cases done
  | endInitial outcome =>
      cases choice with
      | proceed =>
          cases done
          exact .endsInitial
      | _ => cases done
  | _ => cases choice <;> cases done

theorem reinit_acts (done : actReinit choice shared action = some (after, more)) :
    Acts shared action after more := by
  cases action with
  | beginReinit =>
      cases choice with
      | proceed => exact beginReinit_acts (Option.some.inj done)
      | _ => cases done
  | callReinit =>
      cases choice with
      | proceed =>
          cases done
          split
          · exact .stays .callsBack
          · exact .stays .callEnds
      | _ => cases done
  | takeFuture =>
      cases choice with
      | proceed => exact takeFuture_acts (Option.some.inj done)
      | _ => cases done
  | retire =>
      cases choice with
      | proceed =>
          cases done
          exact @Acts.leads shared _ _
            { shared.provision with reinitOperation := some .retire, priorPending := true }
            [.schedule] rfl .retires
      | _ => cases done
  | awaitRetired =>
      cases choice with
      | proceed => exact awaitRetired_acts done
      | _ => cases done
  | construct =>
      cases choice with
      | proceed =>
          cases done
          exact @Acts.leads shared _ _
            { shared.provision with reinitOperation := some .construct, priorPending := true }
            [.schedule] rfl .constructs
      | _ => cases done
  | awaitConstructed =>
      cases choice with
      | proceed => exact awaitConstructed_acts done
      | _ => cases done
  | pollReinit =>
      cases choice with
      | proceed =>
          cases done
          exact .stays .polled
      | failed =>
          cases done
          exact .leads shared.provision (signal_tells _) .pollReinitEnds
      | panicked =>
          cases done
          exact .leads shared.provision sourcePanic_tells .pollReinitEnds
      | notified =>
          change (if _ then _ else _) = _ at done
          split at done
          · cases done
            exact .stays .pollReinitEnds
          · cases done
      | unwound =>
          cases done
          exact .leads shared.provision sourcePanic_tells .pollReinitEnds
      | _ => cases done
  | endReinit code =>
      cases choice with
      | proceed =>
          cases done
          exact .endsReinit
      | _ => cases done
  | _ => cases choice <;> cases done

theorem running_acts (done : actRunning choice shared action = some (after, more)) :
    Acts shared action after more := by
  cases action with
  | beginWorker =>
      cases choice with
      | proceed =>
          change (if _ then _ else _) = _ at done
          split at done
          · cases done
          · rename_i spawned
            cases done
            exact .beginsWorker spawned
      | _ => cases done
  | runFinish =>
      cases choice with
      | proceed => exact runFinish_acts done
      | _ => cases done
  | serve operation =>
      cases operation with
      | retire =>
          cases choice with
          | proceed =>
              cases done
              exact .stays .serves
          | panicked =>
              cases done
              exact .leads shared.provision sourcePanic_tells .serves
          | _ => cases done
      | construct =>
          cases choice with
          | proceed =>
              cases done
              exact .stays .servesConstruct
          | _ => cases done
  | parseReinit =>
      cases choice with
      | proceed =>
          cases done
          exact .goes { shared.provision with config := true } .parsesReinit
      | failed =>
          cases done
          exact .stays .parseReinitEnds
      | panicked =>
          cases done
          exact .leads shared.provision sourcePanic_tells .parseReinitEnds
      | _ => cases done
  | callSetup =>
      cases choice with
      | proceed =>
          cases done
          exact .goes { shared.provision with config := false, reinitFuture := true } .callsSetup
      | panicked =>
          cases done
          exact .leads { shared.provision with config := false } sourcePanic_tells .callsSetup
      | _ => cases done
  | served failed code =>
      cases choice with
      | proceed =>
          cases done
          exact .served
      | _ => cases done
  | settleExecution =>
      cases choice with
      | proceed => exact settleExecution_acts (Option.some.inj done)
      | _ => cases done
  | join =>
      cases choice with
      | proceed => exact join_acts done
      | _ => cases done
  | _ => cases choice <;> cases done

theorem takeCapture_provides (shared : Shared) (head : Capture) :
    ∃ provision, shared.takeCapture head = shared.provide provision := by
  cases head with
  | initialFuture => exact ⟨shared.provision, rfl⟩
  | reinit => exact ⟨{ shared.provision with reinit := false }, rfl⟩
  | request => exact ⟨{ shared.provision with request := false }, rfl⟩
  | reinitFuture => exact ⟨{ shared.provision with reinitFuture := false }, rfl⟩

theorem takeResource_provides (shared : Shared) (head : Resource) :
    ∃ provision, shared.takeResource head = shared.provide provision := by
  cases head with
  | setup => exact ⟨{ shared.provision with setup := false }, rfl⟩
  | config => exact ⟨{ shared.provision with config := false }, rfl⟩
  | connection => exact ⟨{ shared.provision with connection := false }, rfl⟩
  | runtime => exact ⟨{ shared.provision with runtime := false }, rfl⟩
  | _ => exact ⟨shared.provision, rfl⟩

theorem finishing_acts (done : actFinishing choice shared action = some (after, more)) :
    Acts shared action after more := by
  cases action with
  | readRetired settled =>
      cases choice with
      | proceed =>
          cases done
          exact readRetired_acts
      | _ => cases done
  | disposeSetup left =>
      cases left with
      | nil =>
          cases choice with
          | proceed =>
              cases done
              exact .disposed
          | _ => cases done
      | cons head rest =>
          obtain ⟨provision, taken⟩ := takeCapture_provides shared head
          cases choice with
          | proceed =>
              cases done
              rw [taken]
              exact .goes provision .disposesMore
          | panicked =>
              cases done
              rw [taken]
              exact .leads provision sourcePanic_tells .disposalPanics
          | _ => cases done
  | takeFinish settled failed =>
      cases choice with
      | proceed => exact takeFinish_acts (Option.some.inj done)
      | _ => cases done
  | finishReturns failed =>
      cases choice with
      | completed completion =>
          cases done
          exact .finishes
      | panicked =>
          cases done
          exact @Acts.leads shared _ _ shared.provision (sourcePanic ++ [.observeHost]) rfl
            .finishPanics
      | _ => cases done
  | releaseResources left =>
      cases left with
      | nil =>
          cases choice with
          | proceed =>
              cases done
              exact .stays .releasedAll
          | _ => cases done
      | cons head rest =>
          obtain ⟨provision, taken⟩ := takeResource_provides shared head
          cases choice with
          | proceed =>
              cases done
              rw [taken]
              exact .goes provision .releasesMore
          | panicked =>
              cases done
              rw [taken]
              exact @Acts.leads shared _ _ provision (sourcePanic ++ [.observeHost]) rfl
                .releasePanics
          | _ => cases done
  | countOwners =>
      cases choice with
      | proceed =>
          cases done
          exact .counts
      | _ => cases done
  | finalCheck completed released =>
      cases choice with
      | proceed =>
          cases done
          exact .checks
      | _ => cases done
  | finalize completed failed =>
      cases choice with
      | proceed =>
          cases done
          exact finalize_acts
      | _ => cases done
  | _ => cases choice <;> cases done

theorem end_acts (done : actEnd choice shared action = some (after, more)) :
    Acts shared action after more := by
  cases action with
  | takeOwner panicking =>
      cases choice with
      | proceed => exact takeOwner_acts done
      | _ => cases done
  | dropOwner =>
      cases choice with
      | proceed =>
          cases done
          exact .dropsOwner
      | _ => cases done
  | lookup abi =>
      cases choice with
      | proceed =>
          cases done
          exact lookup_acts
      | _ => cases done
  | awaitCompletion =>
      cases choice with
      | proceed =>
          obtain ⟨completion, read, same⟩ := Option.map_eq_some_iff.mp done
          cases same
          refine @Acts.leads shared _ _ shared.provision [.observeHost] rfl (.awaits ?_)
          intro stopped
          rw [read, stopped]
      | timeout =>
          cases done
          refine @Acts.leads shared _ _ shared.provision [.observeHost] rfl (.awaits ?_)
          intro stopped
          cases read : shared.completion with
          | none =>
              rw [read] at stopped
              cases stopped
          | some completion =>
              rw [read] at stopped
              exact congrArg some stopped
      | _ => cases done
  | judge completion =>
      cases choice with
      | proceed =>
          cases done
          exact .judges
      | _ => cases done
  | _ => cases choice <;> cases done

theorem act_acts {self : Nat} (done : act self choice shared action = some (after, more)) :
    Acts shared action after more := by
  unfold act at done
  simp only [Option.or_eq_some_iff] at done
  rcases done with done | ⟨_, done | ⟨_, done | ⟨_, done | ⟨_, done | ⟨_, done | ⟨_, done⟩⟩⟩⟩⟩⟩
  · exact signal_acts done
  · exact factory_acts done
  · exact initial_acts done
  · exact reinit_acts done
  · exact running_acts done
  · exact finishing_acts done
  · exact end_acts done

end

end TerminalState

end TinyBus
