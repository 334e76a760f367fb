/-
A loaded module as the host has it: its record, and the transport that the record is
read with.  A transport that admits no more calls refuses them itself; the host reports
the module unavailable once its fault, its failed initialization or its stop is there.
-/

import TinyBus.HostRecords
import TinyBus.NativeCalls
import TinyBus.TransportFates

namespace TinyBus

open TransitionSystem

/-- The last field records what happened, and nothing reads it. -/
structure HostedModule where
  record : LoadedModule
  transport : Tasks ModuleTransport.Shared ModuleTransport.Program
  stopCompleted : Bool

namespace HostedModule

open ModuleTransport (Shared Program Choice Outside Action)

/-- What the host reads of a transport. -/
def view (shared : Shared) : TransportView where
  initFailed := shared.initFailed
  faulted := shared.faulted
  ready := shared.isReady
  initStarted := shared.initStarted
  inflight := shared.inflight.toNat
  lifecyclePending := shared.lifecyclePending
  stopSpawned := shared.stopTaskSpawned

/-- The record as the host finds it when it looks. -/
def look (hosted : HostedModule) : LoadedModule :=
  { hosted.record with transport := view hosted.transport.shared }

def reported (hosted : HostedModule) : ModuleState := hosted.look.snapshot.state

/-- What happens to a module: the steps of its transport, and the sections of the host's
operations under the lock of its records. -/
inductive Event where
  | transport (event : Tasks.Event ModuleTransport.Call Choice Outside)
  | beginStop
  | drainFailed
  | finishStop (task : Nat)
  | endLifecycle (ofStop : Bool)
  | enable (enabled : Bool)
  | beginReinitialization (configKept deferred : Bool)
  | peerDetached
  | describe (rustcVersion : String) (rustcMismatch : Bool)

/-- `commit_terminal` in the section that begins a stop. -/
def commitTerminal (transport : Tasks Shared Program) (fault : Bool) : Tasks Shared Program :=
  { transport with shared := (transport.shared.publishTerminalFlags fault).closeAdmission }

/-- A stop is reserved, and native admission is revoked with it. -/
def beginStop (hosted : HostedModule) : HostedModule :=
  match hosted.look.beginStop with
  | (.error _, _) => hosted
  | (.ok _, record) =>
      { hosted with record := record, transport := commitTerminal hosted.transport false }

/-- The outcome of a stop is that of its task on the transport. -/
def finishStop (hosted : HostedModule) (task : Nat) : HostedModule :=
  match hosted.transport.tasks.lookup task with
  | some [.stopReturned .stopped] =>
      { hosted with record := (hosted.look.finishStop .stopped).2, stopCompleted := true }
  | some [.stopReturned outcome] =>
      { hosted with record := (hosted.look.finishStop outcome).2 }
  | _ => hosted

def perform (hosted : HostedModule) (move : RecordMove) : HostedModule :=
  { hosted with record := hosted.look.perform move }

variable (toVec : Message → Except String Bytes)

def next (hosted : HostedModule) : Event → HostedModule
  | .transport event =>
      { hosted with
        transport := Tasks.next (ModuleTransport.kind toVec) hosted.transport event }
  | .beginStop => hosted.beginStop
  | .drainFailed => hosted.perform .drainFailed
  | .finishStop task => hosted.finishStop task
  | .endLifecycle ofStop => hosted.perform (.module (.endLifecycle ofStop))
  | .enable enabled => hosted.perform (.module (.enable enabled))
  | .beginReinitialization configKept deferred =>
      hosted.perform (.beginReinitialization configKept deferred)
  | .peerDetached => hosted.perform (.module .peerDetached)
  | .describe rustcVersion rustcMismatch =>
      hosted.perform (.module (.describe rustcVersion rustcMismatch))

/-- A module is published with its transport as it was made, in any state of its record. -/
def Published (hosted : HostedModule) : Prop :=
  ModuleTransport.Fresh hosted.transport.shared ∧ hosted.transport.tasks = ∅ ∧
    hosted.stopCompleted = false

def system : System HostedModule Event := System.ofFunction Published (next toVec)

/-- Admission of ordinary calls is closed. -/
def Closed (hosted : HostedModule) : Prop := hosted.transport.shared.admissionClosed = true

/-- There is a fault, a failed initialization or a completed stop. -/
def Over (hosted : HostedModule) : Prop :=
  hosted.transport.shared.faulted = true ∨ hosted.transport.shared.initFailed = true ∨
    hosted.stopCompleted = true

end HostedModule

namespace ModuleTransport

variable {toVec : Message → Except String Bytes} {self : Nat} {shared after : Shared}
  {action : Action} {more : Program}

theorem faulted_stays (acts : Acts toVec self shared action after more)
    (faulted : shared.faulted = true) : after.faulted = true := by
  have published : ∀ fault, (shared.publishTerminalFlags fault).faulted = true :=
    fun fault => Bool.or_eq_true_iff.mpr (.inl faulted)
  cases acts with
  | notes notes => cases notes <;> exact faulted
  | fails => exact published true
  | expires _ => exact published true
  | faultsPending => exact published true
  | abandons _ => exact published true
  | publishes => exact published _
  | _ => exact faulted

theorem initFailed_stays (acts : Acts toVec self shared action after more)
    (failed : shared.initFailed = true) : after.initFailed = true := by
  cases acts with
  | notes notes => cases notes <;> exact failed
  | fails => rfl
  | _ => exact failed

theorem next_stays {state : Tasks Shared Program} {event : Tasks.Event Call Choice Outside}
    {flag : Shared → Bool}
    (acting : ∀ {self shared action after more}, Acts toVec self shared action after more →
      flag shared = true → flag after = true)
    (outward : ∀ event shared, flag (outside event shared) = flag shared)
    (raised : flag state.shared = true) :
    flag (Tasks.next (kind toVec) state event).shared = true := by
  have moved := Tasks.next_moved (kind toVec) state event
  generalize Tasks.next (kind toVec) state event = after at moved
  cases moved with
  | still => exact raised
  | started _ => exact raised
  | stepped _ taken =>
      obtain ⟨action, rest, more, _, _, acts⟩ := step_acts taken
      exact acting acts raised
  | @around event => exact (outward event state.shared).trans raised

end ModuleTransport

namespace LoadedModule

theorem finishStop_ended (module : LoadedModule) : (module.finishStop .stopped).2.Ended := by
  apply ended_of_terminal
  unfold finishStop
  dsimp only
  split
  · split <;> rfl
  · rfl

theorem terminal_unavailable {state : ModuleState} (terminal : state.terminal = true) :
    state.unavailable = true := by
  cases state <;> first | rfl | cases terminal

theorem final_unavailable {state : ModuleState} (final : state.final = true) :
    state.unavailable = true := by
  cases state <;> first | rfl | cases final

theorem flagged_unavailable {module : LoadedModule}
    (flagged : module.transport.faulted = true ∨ module.transport.initFailed = true) :
    module.snapshot.state.unavailable = true := by
  unfold snapshot
  dsimp only
  cases final : module.info.state.final with
  | true =>
      rw [observedState_final final]
      exact final_unavailable final
  | false => exact terminal_unavailable (observedState_failed flagged final)

theorem perform_transport (module : LoadedModule) {move : RecordMove}
    (own : ∀ view, move ≠ .module (.transport view)) :
    (module.perform move).transport = module.transport := by
  cases move with
  | drainFailed => rfl
  | beginReinitialization configKept deferred =>
      change (module.beginReinitialization configKept deferred).2.transport = _
      unfold beginReinitialization
      dsimp only
      repeat' split
      all_goals rfl
  | module move =>
      cases move with
      | transport view => exact absurd rfl (own view)
      | describe rustcVersion rustcMismatch => rfl
      | endLifecycle ofStop => rfl
      | beginStop =>
          change module.beginStop.2.transport = _
          unfold beginStop
          dsimp only
          repeat' split
          all_goals rfl
      | finishStop outcome =>
          change (module.finishStop outcome).2.transport = _
          unfold finishStop
          repeat' split
          all_goals rfl
      | enable enabled =>
          change (module.enable enabled).2.transport = _
          unfold enable
          dsimp only
          repeat' split
          all_goals rfl
      | peerDetached =>
          change module.peerDetached.2.transport = _
          unfold peerDetached
          dsimp only
          repeat' split
          all_goals rfl

end LoadedModule

namespace HostedModule

open ModuleTransport (Shared Program Choice Outside Action)

variable {toVec : Message → Except String Bytes} {hosted : HostedModule}

theorem ended_look {record : LoadedModule} (ended : record.Ended) {shared : Shared}
    (faulted : record.transport.faulted = true → shared.faulted = true)
    (failed : record.transport.initFailed = true → shared.initFailed = true) :
    { record with transport := view shared }.Ended :=
  ended.transport ⟨faulted, failed⟩

theorem relook {record : LoadedModule} {shared : Shared}
    (same : view shared = record.transport) : { record with transport := view shared } = record := by
  rw [same]

theorem look_perform {move : RecordMove} (own : ∀ view, move ≠ .module (.transport view))
    (completed : Bool) : look { hosted with
        record := hosted.look.perform move, stopCompleted := completed } =
      hosted.look.perform move := by
  exact relook (hosted.look.perform_transport own).symm

theorem perform_ended (ended : hosted.look.Ended) {move : RecordMove}
    (own : ∀ view, move ≠ .module (.transport view)) : (hosted.perform move).look.Ended := by
  have allowed : move.Allowed hosted.look := by
    unfold RecordMove.Allowed
    split
    · rename_i view
      exact absurd rfl (own view)
    · trivial
  have same : (hosted.perform move).look = hosted.look.perform move := look_perform own _
  rw [same]
  exact ended.perform allowed

theorem beginStop_ended (ended : hosted.look.Ended) : hosted.beginStop.look.Ended := by
  unfold beginStop
  have same := ended.beginStop
  generalize hosted.look.beginStop = begun at same
  obtain ⟨result, record⟩ := begun
  dsimp only at same
  cases result with
  | error error => exact ended
  | ok _ =>
      rw [same]
      exact ended_look ended (fun faulted => Bool.or_eq_true_iff.mpr (.inl faulted)) id

theorem finishStop_ended {task : Nat} (ended : hosted.look.Ended) :
    (hosted.finishStop task).look.Ended := by
  unfold finishStop
  split
  · have same := @look_perform hosted (.module (.finishStop .stopped)) (fun _ => nofun) true
    exact same ▸ hosted.look.finishStop_ended
  · rename_i outcome _ _
    exact @perform_ended hosted ended (.module (.finishStop outcome)) (fun _ => nofun)
  · exact ended

theorem finishStop_completed {task : Nat}
    (told : hosted.stopCompleted = true → hosted.look.Ended)
    (completed : (hosted.finishStop task).stopCompleted = true) :
    (hosted.finishStop task).look.Ended := by
  by_cases done : hosted.transport.tasks.lookup task = some [.stopReturned .stopped]
  · have same := @look_perform hosted (.module (.finishStop .stopped)) (fun _ => nofun) true
    have ended : (look { hosted with
        record := (hosted.look.finishStop .stopped).2, stopCompleted := true }).Ended :=
      same ▸ hosted.look.finishStop_ended
    unfold finishStop
    rw [done]
    exact ended
  · have same : (hosted.finishStop task).stopCompleted = hosted.stopCompleted := by
      unfold finishStop
      split
      · rename_i found
        exact absurd found done
      · rfl
      · rfl
    exact finishStop_ended (told (same ▸ completed))

theorem next_ended (ended : hosted.look.Ended) (event : Event) :
    (next toVec hosted event).look.Ended := by
  cases event with
  | transport event =>
      refine ended_look ended ?_ ?_
      · exact ModuleTransport.next_stays (fun acts => ModuleTransport.faulted_stays acts)
          (fun event _ => by cases event <;> rfl)
      · exact ModuleTransport.next_stays (fun acts => ModuleTransport.initFailed_stays acts)
          (fun event _ => by cases event <;> rfl)
  | beginStop => exact beginStop_ended ended
  | drainFailed => exact perform_ended ended (fun _ => nofun)
  | finishStop task => exact finishStop_ended ended
  | endLifecycle ofStop => exact perform_ended ended (fun _ => nofun)
  | enable enabled => exact perform_ended ended (fun _ => nofun)
  | beginReinitialization configKept deferred => exact perform_ended ended (fun _ => nofun)
  | peerDetached => exact perform_ended ended (fun _ => nofun)
  | describe rustcVersion rustcMismatch => exact perform_ended ended (fun _ => nofun)

theorem beginStop_completed : hosted.beginStop.stopCompleted = hosted.stopCompleted := by
  unfold beginStop
  split
  · rfl
  · rfl

theorem reachable_completed (reached : (system toVec).Reachable hosted) :
    hosted.stopCompleted = true → hosted.look.Ended := by
  apply reached.invariant
  · rintro first ⟨_, _, incomplete⟩ completed
    rw [incomplete] at completed
    cases completed
  · rintro before event after rfl told completed
    by_cases already : before.stopCompleted = true
    · exact next_ended (told already) event
    · cases event with
      | finishStop task => exact finishStop_completed told completed
      | beginStop => exact absurd (beginStop_completed ▸ completed) already
      | _ => exact absurd completed already

def Turned (hosted : HostedModule) (id : Nat) (message : Message) : Prop :=
  hosted.transport.tasks.lookup id = some [.arrive message] ∨
    hosted.transport.tasks.lookup id = some [.returned (.error .connectionClosed)]

theorem next_closed (closed : hosted.Closed) (event : Event) : (next toVec hosted event).Closed := by
  cases event with
  | transport event =>
      exact ModuleTransport.next_stays (fun acts => ModuleTransport.admission_stays acts)
        (fun event _ => by cases event <;> rfl) closed
  | beginStop =>
      change hosted.beginStop.Closed
      unfold beginStop
      split
      · exact closed
      · rfl
  | finishStop task =>
      change (hosted.finishStop task).Closed
      unfold finishStop
      split
      · exact closed
      · exact closed
      · exact closed
  | _ => exact closed

variable {message : Message}

theorem turned_step {shared after : Shared} {id : Nat} {choice : Choice} {task stepped : Program}
    (closed : shared.admissionClosed = true)
    (turned : task = [.arrive message] ∨ task = [.returned (.error .connectionClosed)])
    (taken : ModuleTransport.step toVec id choice shared task = some (after, stepped)) :
    stepped = [.returned (.error .connectionClosed)] := by
  rcases turned with rfl | rfl
  · cases choice with
    | proceed =>
        have arrives : ModuleTransport.act toVec id shared (.arrive message) .proceed =
            some ({ shared with sent := shared.sent ++ [⟨id, message⟩] },
              [.returned (.error .connectionClosed)]) := if_pos closed
        unfold ModuleTransport.step at taken
        dsimp only at taken
        rw [arrives] at taken
        cases taken
        rfl
    | _ => cases taken
  · cases choice <;> cases taken

theorem transport_turned {state : Tasks Shared Program}
    (closed : state.shared.admissionClosed = true) {id : Nat}
    (turned : state.tasks.lookup id = some [.arrive message] ∨
      state.tasks.lookup id = some [.returned (.error .connectionClosed)])
    (event : Tasks.Event ModuleTransport.Call Choice Outside) :
    (Tasks.next (ModuleTransport.kind toVec) state event).tasks.lookup id = some [.arrive message] ∨
      (Tasks.next (ModuleTransport.kind toVec) state event).tasks.lookup id =
        some [.returned (.error .connectionClosed)] := by
  have moved := Tasks.next_moved (ModuleTransport.kind toVec) state event
  generalize Tasks.next (ModuleTransport.kind toVec) state event = after at moved
  cases moved with
  | still => exact turned
  | around => exact turned
  | @started other call vacant =>
      have different : id ≠ other := by
        rintro rfl
        rw [vacant] at turned
        rcases turned with impossible | impossible <;> cases impossible
      dsimp only
      rw [Table.lookup_insert_eq, if_neg different]
      exact turned
  | @stepped other choice task stepped shared present taken =>
      dsimp only
      rw [Table.lookup_insert_eq]
      by_cases same : id = other
      · subst same
        rw [present] at turned
        have ends := turned_step closed
          (turned.imp (fun here => Option.some.inj here) (fun here => Option.some.inj here)) taken
        rw [if_pos rfl, ends]
        exact .inr rfl
      · rw [if_neg same]
        exact turned

theorem next_turned (closed : hosted.Closed) {id : Nat} (turned : hosted.Turned id message)
    (event : Event) :
    (next toVec hosted event).Turned id message := by
  cases event with
  | transport event => exact transport_turned closed turned event
  | beginStop =>
      change hosted.beginStop.Turned id message
      unfold beginStop
      split
      · exact turned
      · exact turned
  | finishStop task =>
      change (hosted.finishStop task).Turned id message
      unfold finishStop
      split
      · exact turned
      · exact turned
      · exact turned
  | _ => exact turned

theorem start_turned {id : Nat} (vacant : hosted.transport.tasks.lookup id = none) :
    (next toVec hosted (.transport (.start id (.send message)))).Turned id message := by
  left
  change (Tasks.next (ModuleTransport.kind toVec) hosted.transport
    (.start id (.send message))).tasks.lookup id = _
  unfold Tasks.next
  simp only [vacant]
  rw [Table.lookup_insert_eq]
  exact if_pos rfl

theorem over_unavailable (completed : hosted.stopCompleted = true → hosted.look.Ended)
    (concluded : hosted.Over) : hosted.reported.unavailable = true := by
  rcases concluded with faulted | failed | stopped
  · exact LoadedModule.flagged_unavailable (.inl faulted)
  · exact LoadedModule.flagged_unavailable (.inr failed)
  · exact LoadedModule.terminal_unavailable (completed stopped)

/-- What the host reports of a module, and who refuses its calls. -/
structure Refuses (toVec : Message → Except String Bytes) (hosted : HostedModule) : Prop where
  /-- Once there is a fault, a failed initialization or a completed stop. -/
  concluded : hosted.Over → hosted.reported.unavailable = true ∧
    ∀ (host : ModuleHost) (name : BusName), host.loadedFor name = some hosted.look →
      host.unavailableFor name = some (.moduleUnavailable hosted.look.info.name
        (stateName hosted.reported)
        ((stateDetail hosted.reported).getD "module is not accepting calls"))
  /-- From the moment on that admission is closed. -/
  closed : hosted.Closed → ∀ id message, hosted.transport.tasks.lookup id = none →
    ∀ events after, (system toVec).Run
      (next toVec hosted (.transport (.start id (.send message)))) events after →
        after.Closed ∧ after.Turned id message

theorem closed_admission_refuses (reached : (system toVec).Reachable hosted) :
    hosted.Refuses toVec := by
  refine ⟨?_, ?_⟩
  · intro concluded
    have unavailable := over_unavailable (reachable_completed reached) concluded
    refine ⟨unavailable, ?_⟩
    intro host name found
    unfold ModuleHost.unavailableFor
    rw [found]
    exact if_pos unavailable
  · intro closed id message vacant events after run
    have steps : ∀ before event after, (system toVec).step before event after →
        before.Closed ∧ before.Turned id message → after.Closed ∧ after.Turned id message := by
      rintro before event _ rfl ⟨shut, turned⟩
      exact ⟨next_closed shut event, next_turned shut turned event⟩
    exact run.preserves steps ⟨next_closed closed _, start_turned vacant⟩

open ModuleTransport (lazyTransport lazyTransport_fresh initializing readying stopping)

def lazyVoice : HostedModule where
  record := ModuleHost.published ModuleBus.voiceInfo (BusName.unique 1) ModuleBus.quietTransport
  transport := ⟨lazyTransport, ∅⟩
  stopCompleted := false

def replayed (events : List Event) : HostedModule :=
  events.foldl (next (fun _ => .ok [])) lazyVoice

theorem replayed_reachable (events : List Event) :
    (system (fun _ => .ok [])).Reachable (replayed events) :=
  ⟨lazyVoice, events, ⟨lazyTransport_fresh, rfl, rfl⟩, .of_foldl events⟩

def readyVoice : List Event :=
  (initializing ModuleBus.voiceCall ++ readying).map .transport

/-- The callbacks do not drain in time, and the stop is given up. -/
def halfStopped : HostedModule :=
  replayed (readyVoice ++ [.beginStop, .drainFailed, .endLifecycle true])

/-- The host of this one module. -/
def hostOf (hosted : HostedModule) : ModuleHost := ⟨[hosted.look], []⟩

theorem halfStopped_ready :
    (system (fun _ => .ok [])).Reachable halfStopped ∧ halfStopped.Closed ∧
      halfStopped.reported = .ready ∧
      (hostOf halfStopped).loadedFor voiceName = some halfStopped.look ∧
      (hostOf halfStopped).unavailableFor voiceName = none :=
  ⟨replayed_reachable _, rfl, by decide +kernel, by decide +kernel, by decide +kernel⟩

/-- The stop goes on to its end, and the host hears of it. -/
def fullyStopped : HostedModule :=
  replayed (readyVoice ++ .beginStop :: (stopping ++
    ModuleTransport.turns 4 [.returned ModuleTransport.TB_OK, .proceed, .proceed, .proceed, .proceed] ++
      ModuleTransport.turns 3 [.proceed]).map .transport ++ [.finishStop 3, .endLifecycle true])

theorem fullyStopped_refuses : fullyStopped.Over ∧
    (hostOf fullyStopped).unavailableFor voiceName ≠ none := by
  have concluded : fullyStopped.Over := .inr (.inr (by decide +kernel))
  have refuses := closed_admission_refuses (replayed_reachable (readyVoice ++ .beginStop ::
    (stopping ++ ModuleTransport.turns 4
      [.returned ModuleTransport.TB_OK, .proceed, .proceed, .proceed, .proceed] ++
        ModuleTransport.turns 3 [.proceed]).map .transport ++ [.finishStop 3, .endLifecycle true]))
  have found : (hostOf fullyStopped).loadedFor voiceName = some fullyStopped.look := by
    decide +kernel
  refine ⟨concluded, ?_⟩
  intro none
  have refused := (refuses.concluded concluded).2 _ _ found
  rw [none] at refused
  cases refused

end HostedModule

end TinyBus
