/-
The runtime of a module: its initial setup on a task of its own, the supervisor that
reports a setup that failed, and the host's threads that configure the module again or shut
it down.  The slot of the callback is locked for a whole reinitialization, and whoever
disposes of the callback waits for it; the lock inside the callback only tells that an
earlier one panicked.
-/

import TinyBus.Framing
import TinyBus.Library.Tasks
import TinyBus.Transport

namespace TinyBus

open TransitionSystem

namespace SdkRuntime

open ModuleTransport (TB_OK TB_CLOSED TB_PANICKED TB_TIMEOUT TB_BAD_ARGUMENT)

def MAX_CONFIG_LEN : Nat := 1024 * 1024

/-- How a setup that a reinitialization drives may end. -/
inductive Outcome where
  | ok
  | error
  | timedOut
  | panicked
  deriving DecidableEq

def Outcome.code : Outcome → Int
  | .ok => TB_OK
  | .error => TB_CLOSED
  | .timedOut => TB_TIMEOUT
  | .panicked => TB_PANICKED

structure Arguments where
  ctxNull : Bool
  ptrNull : Bool
  bytes : Bytes

inductive Initial where
  | handshaking
  | settingUp
  | returned
  | installed
  | serving
  | failed
  | cancelled
  deriving DecidableEq

inductive Supervisor where
  | waiting
  | disposing
  | disposed
  | reported
  | cancelled
  deriving DecidableEq

/-- A call of the host, by what it has done. -/
inductive Call (Config : Type) where
  | reinit (arguments : Arguments)
  | waiting (bytes : Bytes)
  | locked (bytes : Bytes)
  | entered (bytes : Bytes)
  | parsed (bytes : Bytes) (config : Config)
  | running (bytes : Bytes) (config : Config)
  | reinitialized (bytes : Bytes) (code : Int) (ran : Option (Config × Outcome))
  | shutdown (ctxNull : Bool)
  | stopping
  | disposed
  | silenced
  | joining
  | stopped (code : Int)

/-- `callback` tells whether the slot of the callback holds it, `lock` who has the slot
locked, and `poisoned` whether a panic left the lock inside the callback so.  `readies` counts
how often the setup task told the host that the module is ready, and `faults` how often the
supervisor reported that the setup failed.  The transport of a module also reports a handler
that panicked, at any time and any number of times; nothing here depends on that. -/
structure Runtime where
  callback : Bool
  lock : Option Nat
  poisoned : Bool
  connection : Bool
  initial : Initial
  supervisor : Supervisor
  running : Bool
  inbound : Bool
  readies : Nat
  faults : Nat

/-- A runtime that was started, whether it may be configured again or not. -/
def Runtime.started (reconfigurable : Bool) : Runtime :=
  { callback := reconfigurable, lock := none, poisoned := false, connection := false,
    initial := .handshaking, supervisor := .waiting, running := true, inbound := true,
    readies := 0, faults := 0 }

inductive RuntimeEvent where
  | handshake (done : Bool)
  | setup (done : Bool)
  | install
  | ready
  | cancelInitial
  | observe
  | dispose
  | fault
  | cancelSupervisor

inductive HostCall where
  | reinit (arguments : Arguments)
  | shutdown (ctxNull : Bool)

variable {Config : Type}

def HostCall.begin : HostCall → Call Config
  | .reinit arguments => .reinit arguments
  | .shutdown ctxNull => .shutdown ctxNull

/-- No bytes stand for an empty object. -/
def configBytes (bytes : Bytes) : Bytes := if bytes = [] then "{}".toUTF8.data.toList else bytes

def Arguments.refused (arguments : Arguments) : Bool :=
  arguments.ctxNull || decide (MAX_CONFIG_LEN < arguments.bytes.length) ||
    arguments.ptrNull && arguments.bytes ≠ []

/-- `fromSlice` reads a configuration.  How the setup that a call drives ends is not up to
the runtime. -/
def step (fromSlice : Bytes → Option Config) (id : Nat) (outcome : Outcome) (shared : Runtime) :
    Call Config → Option (Runtime × Call Config)
  | .reinit arguments =>
      if arguments.refused then some (shared, .reinitialized arguments.bytes TB_BAD_ARGUMENT none)
      else some (shared, .waiting arguments.bytes)
  | .waiting bytes =>
      match shared.lock with
      | some _ => none
      | none =>
          if shared.callback then some ({ shared with lock := some id }, .locked bytes)
          else some (shared, .reinitialized bytes TB_CLOSED none)
  | .locked bytes =>
      if shared.poisoned then
        some ({ shared with lock := none }, .reinitialized bytes TB_PANICKED none)
      else some (shared, .entered bytes)
  | .entered bytes =>
      match fromSlice (configBytes bytes) with
      | none => some ({ shared with lock := none }, .reinitialized bytes TB_BAD_ARGUMENT none)
      | some config => some (shared, .parsed bytes config)
  | .parsed bytes config =>
      if shared.connection then some (shared, .running bytes config)
      else some ({ shared with lock := none }, .reinitialized bytes TB_CLOSED none)
  | .running bytes config =>
      some ({ shared with
          lock := none
          poisoned := shared.poisoned || decide (outcome = .panicked) },
        .reinitialized bytes outcome.code (some (config, outcome)))
  | .reinitialized _ _ _ => none
  | .shutdown ctxNull =>
      if ctxNull then some (shared, .stopped TB_BAD_ARGUMENT) else some (shared, .stopping)
  | .stopping =>
      match shared.lock with
      | some _ => none
      | none => some ({ shared with callback := false }, .disposed)
  | .disposed => some ({ shared with inbound := false }, .silenced)
  | .silenced =>
      if shared.running then some ({ shared with running := false }, .joining)
      else some (shared, .stopped TB_CLOSED)
  | .joining => some (shared, .stopped TB_OK)
  | .stopped _ => none

/-- What the tasks of the runtime do.  They are cancelled where they wait, and only once the
runtime was taken for its shutdown. -/
def around (shared : Runtime) : RuntimeEvent → Runtime
  | .handshake done =>
      match shared.initial with
      | .handshaking => { shared with initial := if done then .settingUp else .failed }
      | _ => shared
  | .setup done =>
      match shared.initial with
      | .settingUp => { shared with initial := if done then .returned else .failed }
      | _ => shared
  | .install =>
      match shared.initial with
      | .returned => { shared with initial := .installed, connection := true }
      | _ => shared
  | .ready =>
      match shared.initial with
      | .installed => { shared with initial := .serving, readies := shared.readies + 1 }
      | _ => shared
  | .cancelInitial =>
      if shared.running then shared
      else
        match shared.initial with
        | .handshaking => { shared with initial := .cancelled }
        | .settingUp => { shared with initial := .cancelled }
        | .serving => { shared with initial := .cancelled }
        | _ => shared
  | .observe =>
      match shared.supervisor, shared.initial with
      | .waiting, .failed => { shared with supervisor := .disposing }
      | .waiting, .cancelled => { shared with supervisor := .disposing }
      | _, _ => shared
  | .dispose =>
      match shared.supervisor, shared.lock with
      | .disposing, none => { shared with supervisor := .disposed, callback := false }
      | .disposing, some _ =>
          -- A runtime that shuts down may refuse the blocking task that waits for the lock.
          if shared.running then shared else { shared with supervisor := .disposed }
      | _, _ => shared
  | .fault =>
      match shared.supervisor with
      | .disposed => { shared with supervisor := .reported, faults := shared.faults + 1 }
      | _ => shared
  | .cancelSupervisor =>
      if shared.running then shared
      else
        match shared.supervisor with
        | .waiting => { shared with supervisor := .cancelled }
        | .disposing => { shared with supervisor := .cancelled }
        | _ => shared

def kind (fromSlice : Bytes → Option Config) :
    Tasks.Kind Runtime (Call Config) HostCall Outcome RuntimeEvent where
  start := HostCall.begin
  step := step fromSlice
  outside := fun event state => around state.shared event

def system (fromSlice : Bytes → Option Config) :
    System (Tasks Runtime (Call Config)) (Tasks.Event HostCall Outcome RuntimeEvent) :=
  Tasks.system (kind fromSlice) (fun shared => ∃ reconfigurable, shared = .started reconfigurable)

/-! ### What a call holds -/

namespace Call

/-- The call has the slot of the callback locked. -/
def holds : Call Config → Bool
  | .locked _ => true
  | .entered _ => true
  | .parsed _ _ => true
  | .running _ _ => true
  | _ => false

def inside : Call Config → Bool
  | .entered _ => true
  | .parsed _ _ => true
  | .running _ _ => true
  | _ => false

def drives : Call Config → Bool
  | .running _ _ => true
  | _ => false

/-- The call is a shutdown that has disposed of the callback. -/
def stops : Call Config → Bool
  | .disposed => true
  | .silenced => true
  | .joining => true
  | .stopped code => decide (code ≠ TB_BAD_ARGUMENT)
  | _ => false

theorem holds_of_inside {call : Call Config} (inside : call.inside = true) :
    call.holds = true := by
  cases call <;> first | rfl | cases inside

theorem inside_of_drives {call : Call Config} (drives : call.drives = true) :
    call.inside = true := by
  cases call <;> first | rfl | cases drives

end Call

/-- How a reinitialization is answered, and what its own setup did. -/
inductive Answer (fromSlice : Bytes → Option Config) (bytes : Bytes) :
    Int → Option (Config × Outcome) → Prop
  | ran {config : Config} (outcome : Outcome)
      (read : fromSlice (configBytes bytes) = some config) :
      Answer fromSlice bytes outcome.code (some (config, outcome))
  | refused : Answer fromSlice bytes TB_BAD_ARGUMENT none
  | closed : Answer fromSlice bytes TB_CLOSED none
  | poisoned : Answer fromSlice bytes TB_PANICKED none

def Call.Reads (fromSlice : Bytes → Option Config) : Call Config → Prop
  | .parsed bytes config => fromSlice (configBytes bytes) = some config
  | .running bytes config => fromSlice (configBytes bytes) = some config
  | .reinitialized bytes code ran => Answer fromSlice bytes code ran
  | _ => True

structure Own (fromSlice : Bytes → Option Config) (id : Nat) (shared : Runtime)
    (call : Call Config) : Prop where
  holds : call.holds = true → shared.lock = some id ∧ shared.callback = true
  inside : call.inside = true → shared.poisoned = false
  drives : call.drives = true → shared.connection = true
  stops : call.stops = true → shared.callback = false
  reads : call.Reads fromSlice
  panicked : ∀ bytes code config,
    call = .reinitialized bytes code (some (config, .panicked)) → shared.poisoned = true

/-- What a step leaves to the other calls; `none` is the step of no call. -/
structure Spares (except : Option Nat) (before after : Runtime) : Prop where
  lock : ∀ other, some other ≠ except → before.lock = some other → after.lock = some other ∧
    after.callback = before.callback ∧ after.poisoned = before.poisoned
  callback : before.callback = false → after.callback = false
  connection : before.connection = true → after.connection = true
  poisoned : before.poisoned = true → after.poisoned = true

variable {fromSlice : Bytes → Option Config}

variable {call : Call Config} {id : Nat} {shared before : Runtime}
  {state : Tasks Runtime (Call Config)}

theorem Own.idle (free : call.holds = false) (begins : call.stops = false)
    (reads : call.Reads fromSlice)
    (calm : ∀ bytes code config, call ≠ .reinitialized bytes code (some (config, .panicked))) :
    Own fromSlice id shared call := by
  constructor
  · simp [free]
  · intro inside
    simp [Call.holds_of_inside inside] at free
  · intro drives
    simp [Call.holds_of_inside (Call.inside_of_drives drives)] at free
  · simp [begins]
  · exact reads
  · exact fun bytes code config same => absurd same (calm bytes code config)

theorem Own.spared {except : Option Nat} {after : Runtime} (own : Own fromSlice id before call)
    (spares : Spares except before after)
    (apart : some id ≠ except) : Own fromSlice id after call := by
  have kept (holds : call.holds = true) := spares.lock id apart (own.holds holds).1
  constructor
  · intro holds
    obtain ⟨lock, callback, _⟩ := kept holds
    exact ⟨lock, callback.trans (own.holds holds).2⟩
  · intro inside
    exact (kept (Call.holds_of_inside inside)).2.2.trans (own.inside inside)
  · intro drives
    exact spares.connection (own.drives drives)
  · intro stops
    exact spares.callback (own.stops stops)
  · exact own.reads
  · intro bytes code config same
    exact spares.poisoned (own.panicked bytes code config same)

theorem Spares.refl (except : Option Nat) (shared : Runtime) : Spares except shared shared := by
  constructor <;> simp_all

theorem spares_of_lock {after : Runtime} (held : before.lock = some id)
    (callback : before.callback = false → after.callback = false)
    (connection : after.connection = before.connection)
    (poisoned : before.poisoned = true → after.poisoned = true) :
    Spares (some id) before after := by
  refine ⟨?_, callback, fun connected => connection.trans connected, poisoned⟩
  intro other apart theirs
  exact absurd (theirs.symm.trans held) apart

theorem spares_of_unlocked {except : Option Nat} {after : Runtime} (free : before.lock = none)
    (callback : before.callback = false → after.callback = false)
    (connection : after.connection = before.connection)
    (poisoned : after.poisoned = before.poisoned) : Spares except before after := by
  refine ⟨?_, callback, fun connected => connection.trans connected, poisoned.trans⟩
  intro other _ theirs
  simp [free] at theirs

/-! ### The runtime itself -/

def Initial.connected : Initial → Bool
  | .installed => true
  | .serving => true
  | .cancelled => true
  | _ => false

def Initial.over : Initial → Bool
  | .failed => true
  | .cancelled => true
  | _ => false

def Supervisor.disposes : Supervisor → Bool
  | .disposed => true
  | .reported => true
  | _ => false

structure Common (shared : Runtime) : Prop where
  running : shared.running = false → shared.callback = false
  connected : shared.connection = true → shared.initial.connected = true
  installed : shared.initial = .installed → shared.connection = true
  ready : shared.readies ≤ 1 ∧ (0 < shared.readies → shared.connection = true ∧
    (shared.initial = .serving ∨ shared.initial = .cancelled))
  observed : shared.supervisor = .disposing ∨ shared.supervisor.disposes = true →
    shared.initial.over = true
  disposed : shared.supervisor.disposes = true → shared.callback = false
  reported : shared.faults = if shared.supervisor = .reported then 1 else 0
  cancelled : shared.initial = .cancelled → shared.running = false

theorem common_started (reconfigurable : Bool) : Common (.started reconfigurable) := by
  constructor <;> simp [Runtime.started, Supervisor.disposes]

structure HostStep (before after : Runtime) : Prop where
  initial : after.initial = before.initial
  supervisor : after.supervisor = before.supervisor
  connection : after.connection = before.connection
  readies : after.readies = before.readies
  faults : after.faults = before.faults
  callback : before.callback = false → after.callback = false
  running : after.running = false → before.running = false ∨ after.callback = false
  ended : before.running = false → after.running = false

theorem Common.host {after : Runtime} (common : Common before)
    (step : HostStep before after) : Common after := by
  constructor
  · intro stopped
    rcases step.running stopped with already | disposed
    · exact step.callback (common.running already)
    · exact disposed
  · rw [step.connection, step.initial]
    exact common.connected
  · rw [step.connection, step.initial]
    exact common.installed
  · rw [step.readies, step.connection, step.initial]
    exact common.ready
  · rw [step.supervisor, step.initial]
    exact common.observed
  · rw [step.supervisor]
    exact fun disposes => step.callback (common.disposed disposes)
  · rw [step.faults, step.supervisor]
    exact common.reported
  · rw [step.initial]
    exact fun cancelled => step.ended (common.cancelled cancelled)

structure Stepped (fromSlice : Bytes → Option Config) (id : Nat) (before after : Runtime)
    (call : Call Config) : Prop where
  own : Own fromSlice id after call
  host : HostStep before after
  spares : Spares (some id) before after

theorem stepped_still (own : Own fromSlice id shared call) :
    Stepped fromSlice id shared shared call := by
  refine ⟨own, ?_, .refl _ shared⟩
  constructor <;> simp_all

theorem stepped_unlock (held : shared.lock = some id) (poisoned : Bool)
    (worse : shared.poisoned = true → poisoned = true)
    (own : Own fromSlice id { shared with lock := none, poisoned := poisoned } call) :
    Stepped fromSlice id shared { shared with lock := none, poisoned := poisoned } call := by
  refine ⟨own, ?_, spares_of_lock held (fun gone => gone) rfl worse⟩
  constructor <;> simp_all

theorem step_stepped {outcome : Outcome} {next : Runtime} {after : Call Config}
    (own : Own fromSlice id shared call)
    (done : step fromSlice id outcome shared call = some (next, after)) :
    Stepped fromSlice id shared next after := by
  cases call with
  | reinit arguments =>
      unfold step at done
      dsimp only at done
      split at done
      · cases done
        exact stepped_still (.idle rfl rfl .refused nofun)
      · cases done
        exact stepped_still (.idle rfl rfl trivial nofun)
  | waiting bytes =>
      unfold step at done
      dsimp only at done
      split at done
      · cases done
      · rename_i free
        split at done
        · rename_i present
          cases done
          refine ⟨⟨fun _ => ⟨rfl, present⟩, nofun, nofun, nofun, trivial, nofun⟩, ?_, ?_⟩
          · constructor <;> simp_all
          · exact spares_of_unlocked free (fun gone => gone) rfl rfl
        · cases done
          exact stepped_still (.idle rfl rfl .closed nofun)
  | locked bytes =>
      obtain ⟨held, present⟩ := own.holds rfl
      unfold step at done
      dsimp only at done
      split at done
      · cases done
        exact stepped_unlock held shared.poisoned (fun bad => bad) (.idle rfl rfl .poisoned nofun)
      · rename_i clean
        cases done
        refine stepped_still ⟨fun _ => ⟨held, present⟩, ?_, nofun, nofun, trivial, nofun⟩
        exact fun _ => by simpa using clean
  | entered bytes =>
      obtain ⟨held, present⟩ := own.holds rfl
      have clean := own.inside rfl
      unfold step at done
      dsimp only at done
      split at done
      · cases done
        exact stepped_unlock held shared.poisoned (fun bad => bad) (.idle rfl rfl .refused nofun)
      · rename_i config read
        cases done
        exact stepped_still
          ⟨fun _ => ⟨held, present⟩, fun _ => clean, nofun, nofun, read, nofun⟩
  | parsed bytes config =>
      obtain ⟨held, present⟩ := own.holds rfl
      have clean := own.inside rfl
      unfold step at done
      dsimp only at done
      split at done
      · rename_i connected
        cases done
        exact stepped_still
          ⟨fun _ => ⟨held, present⟩, fun _ => clean, fun _ => connected, nofun, own.reads, nofun⟩
      · cases done
        exact stepped_unlock held shared.poisoned (fun bad => bad) (.idle rfl rfl .closed nofun)
  | running bytes config =>
      cases done
      apply stepped_unlock (own.holds rfl).1
      · simp_all
      · refine ⟨nofun, nofun, nofun, nofun, .ran outcome own.reads, ?_⟩
        intro bytes' code' config' same
        cases outcome <;> simp_all
  | shutdown ctxNull =>
      unfold step at done
      dsimp only at done
      split at done
      · cases done
        exact stepped_still (.idle rfl rfl trivial nofun)
      · cases done
        exact stepped_still (.idle rfl rfl trivial nofun)
  | stopping =>
      unfold step at done
      dsimp only at done
      split at done
      · cases done
      · rename_i free
        cases done
        refine ⟨⟨nofun, nofun, nofun, fun _ => rfl, trivial, nofun⟩, ?_, ?_⟩
        · constructor <;> simp_all
        · exact spares_of_unlocked free (fun _ => rfl) rfl rfl
  | disposed =>
      have gone := own.stops rfl
      cases done
      refine ⟨⟨nofun, nofun, nofun, fun _ => gone, trivial, nofun⟩, ?_, ?_⟩
      · constructor <;> simp_all
      · constructor <;> simp_all
  | silenced =>
      have gone := own.stops rfl
      unfold step at done
      dsimp only at done
      split at done
      · cases done
        refine ⟨⟨nofun, nofun, nofun, fun _ => gone, trivial, nofun⟩, ?_, ?_⟩
        · constructor <;> simp_all
        · constructor <;> simp_all
      · cases done
        exact stepped_still ⟨nofun, nofun, nofun, fun _ => gone, trivial, nofun⟩
  | joining =>
      have gone := own.stops rfl
      cases done
      exact stepped_still ⟨nofun, nofun, nofun, fun _ => gone, trivial, nofun⟩
  | reinitialized bytes code ran => cases done
  | stopped code => cases done

/-! ### The tasks of the runtime -/

theorem spares_of_task {after : Runtime} (lock : after.lock = before.lock)
    (callback : after.callback = before.callback) (poisoned : after.poisoned = before.poisoned)
    (connection : before.connection = true → after.connection = true) :
    Spares none before after := by
  constructor <;> simp_all

theorem around_spares (shared : Runtime) (event : RuntimeEvent) :
    Spares none shared (around shared event) := by
  have still := Spares.refl none shared
  unfold around
  cases event with
  | handshake done =>
      dsimp only
      split
      · exact spares_of_task rfl rfl rfl (fun connected => connected)
      · exact still
  | setup done =>
      dsimp only
      split
      · exact spares_of_task rfl rfl rfl (fun connected => connected)
      · exact still
  | install =>
      dsimp only
      split
      · exact spares_of_task rfl rfl rfl (fun _ => rfl)
      · exact still
  | ready =>
      dsimp only
      split
      · exact spares_of_task rfl rfl rfl (fun connected => connected)
      · exact still
  | cancelInitial =>
      dsimp only
      split
      · exact still
      · split <;> first | exact still | exact spares_of_task rfl rfl rfl (fun connected => connected)
  | observe =>
      dsimp only
      split <;> first | exact still | exact spares_of_task rfl rfl rfl (fun connected => connected)
  | dispose =>
      dsimp only
      split
      · rename_i free
        exact spares_of_unlocked free (fun _ => rfl) rfl rfl
      · split
        · exact still
        · exact spares_of_task rfl rfl rfl (fun connected => connected)
      · exact still
  | fault =>
      dsimp only
      split
      · exact spares_of_task rfl rfl rfl (fun connected => connected)
      · exact still
  | cancelSupervisor =>
      dsimp only
      split
      · exact still
      · split <;> first | exact still | exact spares_of_task rfl rfl rfl (fun connected => connected)

theorem Common.setUp (common : Common shared) {initial : Initial} {connection : Bool}
    {readies : Nat} (connected : connection = true → initial.connected = true)
    (installed : initial = .installed → connection = true)
    (ready : readies ≤ 1 ∧ (0 < readies → connection = true ∧
      (initial = .serving ∨ initial = .cancelled)))
    (past : shared.initial.over = true → initial.over = true)
    (cancelled : initial = .cancelled → shared.running = false) :
    Common { shared with initial := initial, connection := connection, readies := readies } :=
  ⟨common.running, connected, installed, ready, fun sees => past (common.observed sees),
    common.disposed, common.reported, cancelled⟩

theorem Common.supervised (common : Common shared) {supervisor : Supervisor} {callback : Bool}
    {faults : Nat} (gone : shared.callback = false → callback = false)
    (observed : supervisor = .disposing ∨ supervisor.disposes = true →
      shared.initial.over = true) (disposed : supervisor.disposes = true → callback = false)
    (reported : faults = if supervisor = .reported then 1 else 0) :
    Common { shared with supervisor := supervisor, callback := callback, faults := faults } :=
  ⟨fun stopped => gone (common.running stopped), common.connected, common.installed,
    common.ready, observed, disposed, reported, common.cancelled⟩

/-- Before the initial setup is over, the host was not told that it is ready. -/
theorem Common.unready (common : Common shared)
    (early : shared.initial ≠ .serving ∧ shared.initial ≠ .cancelled) : shared.readies = 0 := by
  by_contra told
  obtain ⟨_, late⟩ := common.ready.2 (Nat.pos_of_ne_zero told)
  exact late.elim early.1 early.2

theorem Common.unconnected (common : Common shared)
    (early : shared.initial.connected = false) : shared.connection = false := by
  by_contra connected
  simp [common.connected (by simpa using connected)] at early

theorem Common.prepared (common : Common shared) {initial : Initial}
    (early : shared.initial = .handshaking ∨ shared.initial = .settingUp)
    (next : initial = .settingUp ∨ initial = .returned ∨ initial = .failed) :
    Common { shared with initial := initial } := by
  have untold := common.unready (by rcases early with point | point <;> simp [point])
  have apart := common.unconnected
    (by rcases early with point | point <;> simp [point, Initial.connected])
  have unfinished : shared.initial.over = false := by
    rcases early with point | point <;> simp [point, Initial.over]
  apply common.setUp
  · simp [apart]
  · intro same
    rcases next with rfl | rfl | rfl <;> cases same
  · simp [untold]
  · simp [unfinished]
  · intro same
    rcases next with rfl | rfl | rfl <;> cases same

theorem around_common (common : Common shared) (event : RuntimeEvent) :
    Common (around shared event) := by
  unfold around
  cases event with
  | handshake done =>
      dsimp only
      split
      · rename_i handshaking
        exact common.prepared (.inl handshaking) (by cases done <;> simp)
      · exact common
  | setup done =>
      dsimp only
      split
      · rename_i settingUp
        exact common.prepared (.inr settingUp) (by cases done <;> simp)
      · exact common
  | install =>
      dsimp only
      split
      · rename_i point
        have early := common.unready (by simp [point])
        apply common.setUp <;> simp_all [Initial.connected, Initial.over]
      · exact common
  | ready =>
      dsimp only
      split
      · rename_i point
        have early := common.unready (by simp [point])
        have connected := common.installed point
        apply common.setUp <;> simp_all [Initial.connected, Initial.over]
      · exact common
  | cancelInitial =>
      dsimp only
      split
      · exact common
      · rename_i stopped
        split <;> first
          | exact common
          | apply common.setUp <;> simp_all [Initial.connected, Initial.over, common.ready]
  | observe =>
      dsimp only
      split
      · rename_i failed
        apply common.supervised (fun gone => gone) <;>
          simp_all [Initial.over, Supervisor.disposes, common.reported]
      · rename_i cancelled
        apply common.supervised (fun gone => gone) <;>
          simp_all [Initial.over, Supervisor.disposes, common.reported]
      · exact common
  | dispose =>
      dsimp only
      split
      · rename_i disposing free
        have failed := common.observed (.inl disposing)
        apply common.supervised <;> simp_all [common.reported]
      · rename_i disposing held
        have failed := common.observed (.inl disposing)
        split
        · exact common
        · rename_i stopped
          have gone := common.running (by simpa using stopped)
          apply common.supervised <;> simp_all [common.reported]
      · exact common
  | fault =>
      dsimp only
      split
      · rename_i disposed
        have disposes : shared.supervisor.disposes = true := by rw [disposed]; rfl
        apply common.supervised (fun gone => gone)
        · exact fun _ => common.observed (.inr disposes)
        · exact fun _ => common.disposed disposes
        · simp [common.reported, disposed]
      · exact common
  | cancelSupervisor =>
      dsimp only
      split
      · exact common
      · split <;> first
          | exact common
          | apply common.supervised (fun gone => gone) <;>
              simp_all [Supervisor.disposes, common.reported]

theorem begins_idle (id : Nat) (shared : Runtime) (call : HostCall) :
    Own fromSlice id shared call.begin := by
  cases call <;> exact .idle rfl rfl trivial nofun

theorem keeps : Tasks.Keeps (kind fromSlice) (fun state => Common state.shared) (Own fromSlice)
    (fun _ _ => True) where
  start state id call sound admitted vacant := ⟨sound.common, begins_idle id state.shared call⟩
  step state id choice task shared stepped sound admitted present taken := by
    have done := step_stepped (sound.own id task present) taken
    exact ⟨sound.common.host done.host, done.own⟩
  other state id choice task shared stepped other bystander sound admitted present taken apart
      found := by
    have done := step_stepped (sound.own id task present) taken
    exact (sound.own other bystander found).spared done.spares (by simpa using apart)
  outside state event sound admitted := by
    refine ⟨around_common sound.common event, ?_⟩
    intro id task found
    exact (sound.own id task found).spared (around_spares state.shared event) nofun

theorem sound (reached : (system fromSlice).Reachable state) :
    Tasks.Sound (fun state => Common state.shared) (Own fromSlice) state := by
  have guarded : ((system fromSlice).restrict (fun _ _ => True)).Reachable state :=
    reached.of_guard (fun _ _ => trivial)
  refine Tasks.sound_of_keeps keeps ?_ guarded
  rintro first ⟨reconfigurable, starts⟩ _
  rw [starts]
  exact common_started reconfigurable

/-- A configuration without settings. -/
def noSettings (bytes : Bytes) : Option Unit :=
  if bytes = configBytes [] then some () else none

/-- The module is ready, and the host configures it again with no bytes. -/
def configuring : List (Tasks.Event HostCall Outcome RuntimeEvent) :=
  [.outside (.handshake true), .outside (.setup true), .outside .install, .outside .ready,
    .start 0 (.reinit ⟨false, true, []⟩), .advance 0 .ok, .advance 0 .ok, .advance 0 .ok,
    .advance 0 .ok, .advance 0 .ok]

def afresh : Tasks Runtime (Call Unit) := { shared := .started true, tasks := ∅ }

def after (events : List (Tasks.Event HostCall Outcome RuntimeEvent)) : Tasks Runtime (Call Unit) :=
  events.foldl (Tasks.next (kind noSettings)) afresh

theorem afresh_initial : (system noSettings).initial afresh := ⟨⟨true, rfl⟩, rfl⟩

theorem run_after (events : List (Tasks.Event HostCall Outcome RuntimeEvent)) :
    (system noSettings).Run afresh events (after events) := .of_foldl events

theorem reached_after (events : List (Tasks.Event HostCall Outcome RuntimeEvent)) :
    (system noSettings).Reachable (after events) :=
  ⟨afresh, events, afresh_initial, run_after events⟩

/-! ### Who runs a setup -/

inductive Runner where
  | initial
  | call (id : Nat)

/-- A setup of the module runs, and this is who runs it. -/
def Runs (state : Tasks Runtime (Call Config)) : Runner → Prop
  | .initial => state.shared.initial = .settingUp
  | .call id => ∃ bytes config, state.tasks.lookup id = some (.running bytes config)

theorem setups_driven
    (invariant : Tasks.Sound (fun state => Common state.shared) (Own fromSlice) state)
    (runs : Runs state (.call id)) :
    state.shared.lock = some id ∧ state.shared.callback = true ∧
      state.shared.connection = true ∧ state.shared.poisoned = false := by
  obtain ⟨bytes, config, present⟩ := runs
  have own := invariant.own id _ present
  exact ⟨(own.holds rfl).1, (own.holds rfl).2, own.drives rfl, own.inside rfl⟩

/-- At any time there is at most one setup that runs, whatever the host calls and however
its threads interleave with the tasks of the runtime; a reinitialization runs its setup only
on a connection that is there and while the callback is. -/
theorem setups_exclusive {state : Tasks Runtime (Call Config)}
    (reached : (system fromSlice).Reachable state) {runner : Runner} (runs : Runs state runner) :
    (∀ other, Runs state other → other = runner) ∧
      (∀ id, runner = .call id → state.shared.connection = true ∧ state.shared.callback = true ∧
        state.shared.poisoned = false) := by
  have invariant := sound reached
  -- The connection appears when the initial setup has returned.
  have apart {id : Nat} (initial : Runs state .initial) : ¬ Runs state (.call id) := by
    intro runs
    have connected := invariant.common.connected (setups_driven invariant runs).2.2.1
    rw [show state.shared.initial = .settingUp from initial] at connected
    cases connected
  constructor
  · intro other others
    cases runner with
    | initial =>
        cases other with
        | initial => rfl
        | call id => exact absurd others (apart runs)
    | call id =>
        cases other with
        | initial => exact absurd runs (apart others)
        | call another =>
            have mine := (setups_driven invariant runs).1
            have theirs := (setups_driven invariant others).1
            rw [Option.some.inj (theirs.symm.trans mine)]
  · rintro id rfl
    obtain ⟨_, callback, connection, clean⟩ := setups_driven invariant runs
    exact ⟨connection, callback, clean⟩

/-- While the setup runs, another configuration and a shutdown wait for the lock. -/
def crowded : List (Tasks.Event HostCall Outcome RuntimeEvent) :=
  configuring ++ [.start 1 (.reinit ⟨false, false, [123, 125]⟩), .advance 1 .ok, .advance 1 .ok,
    .start 2 (.shutdown false), .advance 2 .ok, .advance 2 .ok]

theorem crowded_runs : Runs (after crowded) (.call 0) := ⟨[], (), rfl⟩

theorem crowded_exclusive :
    (after crowded).tasks.lookup 1 = some (.waiting [123, 125]) ∧
      (after crowded).tasks.lookup 2 = some .stopping ∧
      (∀ other, Runs (after crowded) other → other = .call 0) ∧
      (after crowded).shared.connection = true := by
  have exclusive := setups_exclusive (reached_after crowded) crowded_runs
  exact ⟨rfl, rfl, exclusive.1, (exclusive.2 0 rfl).1⟩

/-! ### What the host is told -/

structure Lasting (before after : Runtime) : Prop where
  callback : before.callback = false → after.callback = false
  poisoned : before.poisoned = true → after.poisoned = true
  readies : before.readies ≤ after.readies
  faults : before.faults ≤ after.faults

theorem Lasting.refl (shared : Runtime) : Lasting shared shared := by
  constructor <;> simp

theorem Lasting.trans {first middle last : Runtime} (early : Lasting first middle)
    (late : Lasting middle last) : Lasting first last :=
  ⟨fun gone => late.callback (early.callback gone), fun bad => late.poisoned (early.poisoned bad),
    Nat.le_trans early.readies late.readies, Nat.le_trans early.faults late.faults⟩

theorem around_lasting (shared : Runtime) (event : RuntimeEvent) :
    Lasting shared (around shared event) := by
  have spares := around_spares shared event
  refine ⟨spares.callback, spares.poisoned, ?_, ?_⟩
  · cases event <;> (unfold around; dsimp only; split) <;> (try split) <;> simp
  · cases event <;> (unfold around; dsimp only; split) <;> (try split) <;> simp

theorem next_lasting
    (invariant : Tasks.Sound (fun state => Common state.shared) (Own fromSlice) state)
    (event : Tasks.Event HostCall Outcome RuntimeEvent) :
    Lasting state.shared (Tasks.next (kind fromSlice) state event).shared := by
  have moved := Tasks.next_moved (kind fromSlice) state event
  generalize Tasks.next (kind fromSlice) state event = after at moved
  cases moved with
  | still => exact .refl _
  | started => exact .refl _
  | stepped present taken =>
      have done := step_stepped (invariant.own _ _ present) taken
      exact ⟨done.spares.callback, done.spares.poisoned, Nat.le_of_eq done.host.readies.symm,
        Nat.le_of_eq done.host.faults.symm⟩
  | @around event => exact around_lasting state.shared event

theorem run_lasting {later : Tasks Runtime (Call Config)}
    {events : List (Tasks.Event HostCall Outcome RuntimeEvent)}
    (reached : (system fromSlice).Reachable state)
    (run : (system fromSlice).Run state events later) : Lasting state.shared later.shared := by
  have contained (before : Tasks Runtime (Call Config))
      (event : Tasks.Event HostCall Outcome RuntimeEvent) (after : Tasks Runtime (Call Config))
      (stepped : (system fromSlice).step before event after)
      (reached : (system fromSlice).Reachable before) : Lasting before.shared after.shared := by
    rw [show after = Tasks.next (kind fromSlice) before event from stepped]
    exact next_lasting (sound reached) event
  exact run.relation (fun state later => Lasting state.shared later.shared) (fun _ => .refl _)
    (fun _ _ _ => .trans) (fun _ _ _ stepped reached => reached.step stepped) contained reached

/-- The host is told at most once that the module is ready, and then the initial setup has
returned and there is a connection to configure; and the supervisor reports at most once that
it failed, and then the callback is gone and no setup runs.  Only of a module whose runtime
was taken for its shutdown is it told both. -/
theorem told_once {state : Tasks Runtime (Call Config)}
    (reached : (system fromSlice).Reachable state) :
    state.shared.readies ≤ 1 ∧ state.shared.faults ≤ 1 ∧
      (0 < state.shared.readies → state.shared.connection = true ∧ ¬ Runs state .initial) ∧
      (0 < state.shared.faults →
        state.shared.callback = false ∧ ∀ runner, ¬ Runs state runner) ∧
      (0 < state.shared.readies → 0 < state.shared.faults → state.shared.running = false) := by
  have invariant := sound reached
  have common := invariant.common
  have reported (told : 0 < state.shared.faults) : state.shared.supervisor = .reported := by
    by_cases same : state.shared.supervisor = .reported
    · exact same
    · simp [common.reported, same] at told
  have failed (told : 0 < state.shared.faults) : state.shared.initial.over = true :=
    common.observed (.inr (by simp [reported told, Supervisor.disposes]))
  have gone (told : 0 < state.shared.faults) : state.shared.callback = false :=
    common.disposed (by simp [reported told, Supervisor.disposes])
  refine ⟨common.ready.1, ?_, ?_, ?_, ?_⟩
  · rw [common.reported]
    split <;> simp
  · intro ready
    obtain ⟨connection, stage⟩ := common.ready.2 ready
    refine ⟨connection, fun runs => ?_⟩
    rw [show state.shared.initial = .settingUp from runs] at stage
    simp at stage
  · intro told
    refine ⟨gone told, ?_⟩
    intro runner runs
    cases runner with
    | initial =>
        have past := failed told
        rw [show state.shared.initial = .settingUp from runs] at past
        cases past
    | call id =>
        have callback := ((setups_driven invariant runs).2.1).symm.trans (gone told)
        cases callback
  · intro ready told
    rcases (common.ready.2 ready).2 with serving | cancelled
    · have past := failed told
      rw [serving] at past
      cases past
    · exact common.cancelled cancelled

/-- The handshake fails, and the supervisor reports it. -/
def failing : List (Tasks.Event HostCall Outcome RuntimeEvent) :=
  [.outside (.handshake false), .outside .observe, .outside .dispose, .outside .fault]

theorem failing_told :
    (after failing).shared.callback = false ∧ ∀ runner, ¬ Runs (after failing) runner :=
  (told_once (reached_after failing)).2.2.2.1 (by decide)

/-! ### What cannot happen any more -/

/-- The supervisor reported the failure, a shutdown was accepted and answered, or the setup of
a reinitialization panicked. -/
inductive Ended (state : Tasks Runtime (Call Config)) : Prop
  | told (faults : 0 < state.shared.faults)
  | stopped {id : Nat} {code : Int} (present : state.tasks.lookup id = some (.stopped code))
      (accepted : code ≠ TB_BAD_ARGUMENT)
  | panicked {id : Nat} {bytes : Bytes} {code : Int} {config : Config}
      (present : state.tasks.lookup id =
        some (.reinitialized bytes code (some (config, .panicked))))

def Shut (shared : Runtime) : Prop := shared.callback = false ∨ shared.poisoned = true

theorem Ended.shut (reached : (system fromSlice).Reachable state)
    (ended : Ended state) : Shut state.shared := by
  have invariant := sound reached
  cases ended with
  | told faults => exact .inl ((told_once reached).2.2.2.1 faults).1
  | stopped present accepted =>
      exact .inl ((invariant.own _ _ present).stops (by simpa [Call.stops] using accepted))
  | panicked present => exact .inr ((invariant.own _ _ present).panicked _ _ _ rfl)

theorem Shut.lasts {after : Runtime} (shut : Shut before) (lasting : Lasting before after) :
    Shut after :=
  shut.imp lasting.callback lasting.poisoned

theorem not_runs_of_shut (reached : (system fromSlice).Reachable state) (shut : Shut state.shared)
    (id : Nat) :
    ¬ Runs state (.call id) := by
  intro runs
  obtain ⟨_, callback, _, clean⟩ := setups_driven (sound reached) runs
  rcases shut with gone | poisoned
  · simp [callback] at gone
  · simp [clean] at poisoned

theorem running_of_ran {outcome : Outcome} {next : Runtime} {bytes : Bytes} {code : Int}
    {ran : Config × Outcome} (done : step fromSlice id outcome shared call =
      some (next, .reinitialized bytes code (some ran))) :
    ∃ config, call = .running bytes config := by
  cases call with
  | running bytes config =>
      cases done
      exact ⟨config, rfl⟩
  | _ =>
      unfold step at done
      dsimp only at done
      (repeat' split at done) <;> cases done

/-- After the supervisor reported the failure, a shutdown was accepted and answered or the
setup of a reinitialization panicked, no reinitialization drives a setup again: the ones that
did have been answered before. -/
theorem ended_for_good {state later : Tasks Runtime (Call Config)}
    {events : List (Tasks.Event HostCall Outcome RuntimeEvent)}
    (reached : (system fromSlice).Reachable state) (ended : Ended state)
    (run : (system fromSlice).Run state events later) :
    (∀ id, ¬ Runs later (.call id)) ∧
      ∀ id bytes code ran, later.tasks.lookup id = some (.reinitialized bytes code (some ran)) →
        state.tasks.lookup id = some (.reinitialized bytes code (some ran)) := by
  induction run with
  | nil => exact ⟨not_runs_of_shut reached (ended.shut reached), fun _ _ _ _ found => found⟩
  | @snoc middle last events event earlier stepped ih =>
      have toMiddle : (system fromSlice).Reachable middle := by
        obtain ⟨first, before, initial, toState⟩ := reached
        exact ⟨first, before ++ _, initial, toState.append earlier⟩
      have shut := (ended.shut reached).lasts (run_lasting reached (earlier.snoc stepped))
      refine ⟨not_runs_of_shut (toMiddle.step stepped) shut, ?_⟩
      intro id bytes code ran found
      have moved := Tasks.next_moved (kind fromSlice) middle event
      rw [← show last = Tasks.next (kind fromSlice) middle event from stepped] at moved
      cases moved with
      | still => exact ih.2 id bytes code ran found
      | @started other call vacant =>
          rw [Table.lookup_insert_eq] at found
          split at found
          · cases call <;> cases found
          · exact ih.2 id bytes code ran found
      | @stepped other choice task stepped shared present taken =>
          rw [Table.lookup_insert_eq] at found
          split at found
          · cases found
            obtain ⟨config, same⟩ := running_of_ran taken
            rw [same] at present
            exact absurd ⟨bytes, config, present⟩ (ih.1 other)
          · exact ih.2 id bytes code ran found
      | around => exact ih.2 id bytes code ran found

/-- After a failed handshake the host tries to configure the module. -/
theorem failing_for_good :
    (∀ id, ¬ Runs (after (failing ++ configuring)) (.call id)) ∧
      ∀ id bytes code ran,
        (after (failing ++ configuring)).tasks.lookup id =
          some (.reinitialized bytes code (some ran)) →
        (after failing).tasks.lookup id = some (.reinitialized bytes code (some ran)) :=
  ended_for_good (reached_after failing) (.told (by decide)) (.of_foldl configuring)

/-! ### What a reinitialization answers -/

namespace Call

/-- The bytes of a reinitialization whose arguments were accepted. -/
def accepted : Call Config → Option Bytes
  | .waiting bytes => some bytes
  | .locked bytes => some bytes
  | .entered bytes => some bytes
  | .parsed bytes _ => some bytes
  | .running bytes _ => some bytes
  | .reinitialized bytes _ _ => some bytes
  | _ => none

def ending : Call Config → Bool
  | .shutdown _ => true
  | .stopping => true
  | .disposed => true
  | .silenced => true
  | .joining => true
  | .stopped _ => true
  | _ => false

end Call

inductive Became : HostCall → Call Config → Prop
  | asked (arguments : Arguments) :
      Became (.reinit arguments) (.reinit arguments)
  | refused {arguments : Arguments} (unfit : arguments.refused = true) :
      Became (.reinit arguments) (.reinitialized arguments.bytes TB_BAD_ARGUMENT none)
  | accepted {arguments : Arguments} {call : Call Config} (fit : arguments.refused = false)
      (bytes : call.accepted = some arguments.bytes) : Became (.reinit arguments) call
  | ending {ctxNull : Bool} {call : Call Config} (ends : call.ending = true) :
      Became (.shutdown ctxNull) call

theorem step_accepted {id : Nat} {outcome : Outcome} {shared next : Runtime}
    {call after : Call Config} {bytes : Bytes} (accepted : call.accepted = some bytes)
    (done : step fromSlice id outcome shared call = some (next, after)) :
    after.accepted = some bytes := by
  cases call with
  | waiting _ | locked _ | entered _ | parsed _ _ | running _ _ =>
      cases accepted
      unfold step at done
      dsimp only at done
      (repeat' split at done) <;> cases done <;> rfl
  | reinitialized _ _ _ => cases done
  | _ => cases accepted

theorem step_ending {id : Nat} {outcome : Outcome} {shared next : Runtime}
    {call after : Call Config} (ends : call.ending = true)
    (done : step fromSlice id outcome shared call = some (next, after)) :
    after.ending = true := by
  cases call with
  | shutdown _ | stopping | disposed | silenced | joining =>
      unfold step at done
      dsimp only at done
      (repeat' split at done) <;> cases done <;> rfl
  | stopped _ => cases done
  | _ => cases ends

theorem Became.step {id : Nat} {outcome : Outcome} {shared next : Runtime} {asked : HostCall}
    {call after : Call Config} (became : Became asked call)
    (done : step fromSlice id outcome shared call = some (next, after)) : Became asked after := by
  cases became with
  | asked arguments =>
      unfold SdkRuntime.step at done
      dsimp only at done
      split at done
      · rename_i unfit
        cases done
        exact .refused unfit
      · rename_i fit
        cases done
        exact .accepted (by simpa using fit) rfl
  | refused unfit => cases done
  | accepted fit bytes => exact .accepted fit (step_accepted bytes done)
  | ending ends => exact .ending (step_ending ends done)

theorem became_of_run {first state : Tasks Runtime (Call Config)}
    {events : List (Tasks.Event HostCall Outcome RuntimeEvent)}
    (initial : (system fromSlice).initial first)
    (run : (system fromSlice).Run first events state) :
    ∀ id call, state.tasks.lookup id = some call →
      ∃ asked, Tasks.Event.start id asked ∈ events ∧ Became asked call := by
  induction run with
  | nil =>
      intro id call found
      rw [initial.2] at found
      cases found
  | @snoc middle last events event earlier stepped ih =>
      intro id call found
      have kept {id : Nat} {call : Call Config} (found : middle.tasks.lookup id = some call) :
          ∃ asked, Tasks.Event.start id asked ∈ events ++ [event] ∧ Became asked call := by
        obtain ⟨asked, started, became⟩ := ih id call found
        exact ⟨asked, List.mem_append_left _ started, became⟩
      have moved := Tasks.next_moved (kind fromSlice) middle event
      rw [← show last = Tasks.next (kind fromSlice) middle event from stepped] at moved
      cases moved with
      | still => exact kept found
      | @started other asked vacant =>
          rw [Table.lookup_insert_eq] at found
          split at found
          · rename_i same
            cases found
            refine ⟨asked, by simp [same], ?_⟩
            cases asked with
            | reinit arguments => exact .asked arguments
            | shutdown ctxNull => exact .ending rfl
          · exact kept found
      | @stepped other choice task stepped shared present taken =>
          rw [Table.lookup_insert_eq] at found
          split at found
          · rename_i same
            cases found
            obtain ⟨asked, started, became⟩ := kept present
            exact ⟨asked, by rw [same]; exact started, became.step taken⟩
          · exact kept found
      | around => exact kept found

/-- A reinitialization is answered with success exactly when its own setup ran with the
configuration read from its own bytes and returned without an error; arguments that are out of
bounds never get that far, and the answer tells how the setup ended whenever one ran. -/
theorem reinitialize_answers {first state : Tasks Runtime (Call Config)}
    {events : List (Tasks.Event HostCall Outcome RuntimeEvent)}
    (initial : (system fromSlice).initial first)
    (run : (system fromSlice).Run first events state) {id : Nat} {bytes : Bytes} {code : Int}
    {ran : Option (Config × Outcome)}
    (answered : state.tasks.lookup id = some (.reinitialized bytes code ran)) :
    (∃ arguments, Tasks.Event.start id (.reinit arguments) ∈ events ∧
      arguments.bytes = bytes ∧
        (arguments.refused = true → code = TB_BAD_ARGUMENT ∧ ran = none)) ∧
      (code = TB_OK ↔ ∃ config, fromSlice (configBytes bytes) = some config ∧
        ran = some (config, .ok)) ∧
      (∀ config outcome, ran = some (config, outcome) →
        fromSlice (configBytes bytes) = some config ∧ code = outcome.code) ∧
      (ran = none → code = TB_BAD_ARGUMENT ∨ code = TB_CLOSED ∨ code = TB_PANICKED) := by
  have answer : Answer fromSlice bytes code ran :=
    ((sound ⟨first, events, initial, run⟩).own id _ answered).reads
  refine ⟨?_, ?_, ?_, ?_⟩
  · obtain ⟨asked, started, became⟩ := became_of_run initial run id _ answered
    cases became with
    | refused unfit => exact ⟨_, started, rfl, fun _ => ⟨rfl, rfl⟩⟩
    | @accepted arguments _ fit given =>
        refine ⟨arguments, started, (Option.some.inj given).symm, ?_⟩
        intro unfit
        simp [fit] at unfit
    | ending ends => cases ends
  · cases answer with
    | @ran config outcome read =>
        constructor
        · intro success
          cases outcome with
          | ok => exact ⟨config, read, rfl⟩
          | error | timedOut | panicked => exact absurd success (by decide)
        · rintro ⟨_, _, same⟩
          cases same
          rfl
    | refused | closed | poisoned =>
        constructor
        · intro success
          exact absurd success (by decide)
        · rintro ⟨_, _, same⟩
          cases same
  · rintro config outcome rfl
    cases answer with
    | ran _ read => exact ⟨read, rfl⟩
  · rintro rfl
    cases answer with
    | refused => exact .inl rfl
    | closed => exact .inr (.inl rfl)
    | poisoned => exact .inr (.inr rfl)

theorem configuring_answers : ∃ config, noSettings (configBytes []) = some config ∧
    some ((), Outcome.ok) = some (config, .ok) := by
  have answered : (after (configuring ++ [.advance 0 .ok])).tasks.lookup 0 =
      some (.reinitialized [] TB_OK (some ((), .ok))) := rfl
  exact (reinitialize_answers afresh_initial (run_after _) answered).2.1.1 rfl

end SdkRuntime

end TinyBus
