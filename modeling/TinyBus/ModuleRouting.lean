/-
Calls to a name whose owner and whose module record are two things.  The
routing table says who owns a name; the module host says, by the first record
that declares the name, whether its module accepts calls.  Both change in steps
of their own.
-/

import TinyBus.Broker
import TinyBus.ModuleHost
import TinyBus.RouterOwnership
import Mathlib.Data.List.TakeWhile

namespace TinyBus

open TransitionSystem

inductive HostEvent where
  | publish (info : ModuleInfo) (unique : BusName) (transport : TransportView)
  | unpublish (unique : BusName)
  | reject (error : Error) (manifest : ModuleManifest) (refusal : RefusalClass)
  | rejectFile (error : Error)
  | module (selector : Selector) (move : ModuleMove)

def ModuleHost.next (host : ModuleHost) : HostEvent → ModuleHost
  | .publish info unique transport => host.publish info unique transport
  | .unpublish unique => host.unpublish unique
  | .reject error manifest refusal => host.recordManifestRejection error manifest refusal
  | .rejectFile error => host.recordRejection error
  | .module selector move => host.update selector (fun module => module.move move)

/-- A module is loaded by an attachment, a request of its name for its peer and
the publication of its record. -/
inductive ModuleBusEvent where
  | table (op : RouterOp)
  | host (event : HostEvent)

structure ModuleBus where
  router : Router
  host : ModuleHost

namespace ModuleBus

def next (state : ModuleBus) : ModuleBusEvent → ModuleBus
  | .table op => { state with router := (state.router.perform op).2 }
  | .host event => { state with host := state.host.next event }

/-- The broker checked the peer of a table operation, and a published record is
that of an attached peer. -/
def Possible (state : ModuleBus) : ModuleBusEvent → Prop
  | .table op => op.Issued state.router
  | .host (.publish _ unique _) => ∃ id, state.router.isAttached id unique = true
  | .host _ => True

def system : System ModuleBus ModuleBusEvent :=
  (System.ofFunction (· = ⟨Router.empty, ModuleHost.empty⟩) next).restrict Possible

/-- A call refused because of a module is refused because of the owner of the
name it was sent to. -/
def BlamesOwners (state : ModuleBus) : Prop :=
  ∀ source sourceName message name id peer module moduleState detail,
    name.isUnique = false → state.router.names.lookup name = some id →
      state.router.peers.lookup id = some peer →
        message.header.kind = .methodCall → message.header.destination = some name →
          Broker.route state.router state.host.unavailableFor source sourceName message =
            .error (.moduleUnavailable module moduleState detail) →
            ∃ record ∈ state.host.loaded,
              record.uniqueName = peer.unique ∧ record.info.name = module

end ModuleBus

/-! ### The record that answers for a name -/

namespace ModuleHost

/-- The record that answers for a name accepts calls, or is that of a peer. -/
def Serves (host : ModuleHost) (name unique : BusName) : Prop :=
  match host.loadedFor name with
  | some module => module.refuses = true → module.uniqueName = unique
  | none => ∀ info, host.rejectedFor name = some info → info.state.unavailable = false

theorem refusalOf_some {info : ModuleInfo} {error : Error}
    (refused : refusalOf info = some error) :
    info.state.unavailable = true ∧
      error = .moduleUnavailable info.name (stateName info.state)
        ((stateDetail info.state).getD "module is not accepting calls") := by
  unfold refusalOf at refused
  split at refused
  · rename_i unavailable
    cases refused
    exact ⟨unavailable, rfl⟩
  · cases refused

theorem unavailableFor_serves {host : ModuleHost} {name unique : BusName}
    (serves : host.Serves name unique) {error : Error}
    (refused : host.unavailableFor name = some error) :
    ∃ record ∈ host.loaded, record.uniqueName = unique ∧
      error = .moduleUnavailable record.info.name (stateName record.snapshot.state)
        ((stateDetail record.snapshot.state).getD "module is not accepting calls") := by
  unfold unavailableFor at refused
  unfold Serves at serves
  cases found : host.loadedFor name with
  | some record =>
      rw [found] at refused serves
      obtain ⟨unavailable, same⟩ := refusalOf_some refused
      exact ⟨record, List.mem_of_find?_eq_some found, serves unavailable, same⟩
  | none =>
      rw [found] at refused serves
      obtain ⟨info, rejected, refusal⟩ := Option.bind_eq_some_iff.mp refused
      obtain ⟨unavailable, _⟩ := refusalOf_some refusal
      rw [serves info rejected] at unavailable
      cases unavailable

end ModuleHost

/-! ### A refusal that names a module -/

namespace Router

theorem ensurePeerAttached_blameless {router : Router} {id : PeerId} {unique : BusName}
    {module state detail : String} :
    router.ensurePeerAttached id unique ≠ .error (.moduleUnavailable module state detail) := by
  unfold ensurePeerAttached
  split
  · intro impossible
    cases impossible
  · intro impossible
    cases impossible

theorem resolve_blameless {router : Router} {destination : BusName}
    {module state detail : String} :
    router.resolve destination ≠ .error (.moduleUnavailable module state detail) := by
  unfold resolve
  split
  · intro impossible
    cases impossible
  · intro impossible
    cases impossible

theorem resolveCallFrom_blameless {router : Router} {source : PeerId}
    {sourceName destination : BusName} {expected : Option BusName} {confidential : Bool}
    {header : Header} {module state detail : String} :
    router.resolveCallFrom source sourceName destination expected confidential header ≠
      .error (.moduleUnavailable module state detail) := by
  unfold resolveCallFrom
  split
  · rename_i refusal refused
    intro same
    cases same
    exact ensurePeerAttached_blameless refused
  · unfold resolveCall
    split
    · intro impossible
      cases impossible
    · split
      · split
        · exact resolve_blameless
        · unfold resolveAttested
          split
          · intro impossible
            cases impossible
          · split
            · intro impossible
              cases impossible
            · intro impossible
              cases impossible
      · exact resolve_blameless

end Router

namespace Message

variable {error : Error}

private theorem checkStreamReply_error {header : Header}
    (refused : checkStreamReply header = .error error) : ∃ text, error = .protocol text := by
  unfold checkStreamReply at refused
  split at refused <;> cases refused
  exact ⟨_, rfl⟩

private theorem checkExpectedResponder_error {header : Header}
    (refused : checkExpectedResponder header = .error error) :
    ∃ text, error = .protocol text := by
  unfold checkExpectedResponder at refused
  split at refused
  · cases refused
  · split at refused <;> cases refused
    exact ⟨_, rfl⟩

private theorem checkPrivate_error {header : Header}
    (refused : checkPrivate header = .error error) : ∃ text, error = .protocol text := by
  unfold checkPrivate at refused
  repeat' split at refused
  all_goals cases refused
  all_goals exact ⟨_, rfl⟩

private theorem checkKind_error {header : Header}
    (refused : checkKind header = .error error) : ∃ text, error = .protocol text := by
  unfold checkKind at refused
  repeat' split at refused
  all_goals cases refused
  all_goals exact ⟨_, rfl⟩

theorem validate_error {message : Message}
    (refused : message.validate = .error error) : ∃ text, error = .protocol text := by
  unfold validate at refused
  cases first : checkStreamReply message.header with
  | error refusal =>
      rw [first] at refused
      cases refused
      exact checkStreamReply_error first
  | ok _ =>
      rw [first] at refused
      cases second : checkExpectedResponder message.header with
      | error refusal =>
          rw [second] at refused
          cases refused
          exact checkExpectedResponder_error second
      | ok _ =>
          rw [second] at refused
          cases third : checkPrivate message.header with
          | error refusal =>
              rw [third] at refused
              cases refused
              exact checkPrivate_error third
          | ok _ =>
              rw [third] at refused
              exact checkKind_error refused

end Message

namespace Broker

theorem route_unavailable {router : Router} {unavailable : BusName → Option Error}
    {source : PeerId} {sourceName name : BusName} {message : Message}
    {module state detail : String} (call : message.header.kind = .methodCall)
    (addressed : message.header.destination = some name) (peer : name ≠ busName)
    (refused : route router unavailable source sourceName message =
      .error (.moduleUnavailable module state detail)) :
    unavailable name = some (.moduleUnavailable module state detail) := by
  unfold route at refused
  split at refused
  · rename_i refusal invalid
    cases refused
    obtain ⟨text, impossible⟩ := Message.validate_error invalid
    cases impossible
  · unfold routeStamped at refused
    rw [Message.stamp_kind, call] at refused
    dsimp only at refused
    rw [Message.stamp_destination, addressed] at refused
    dsimp only at refused
    rw [if_neg peer] at refused
    unfold routeToPeer at refused
    split at refused
    · cases refused
    · split at refused
      · rename_i refusal unresolved
        unfold explainRefusal at refused
        split at refused
        · cases refused
        · rename_i other _
          cases known : unavailable name with
          | some error =>
              rw [known] at refused
              cases refused
              rfl
          | none =>
              rw [known] at refused
              cases refused
              exact absurd unresolved Router.resolveCallFrom_blameless
      · rw [Message.stamp_kind, if_pos call] at refused
        split at refused
        · rename_i refusal known
          cases refused
          exact known
        · cases refused

end Broker

/-! ### The records after an event -/

theorem updateFirst_map {α : Type} (key : LoadedModule → α) (test : LoadedModule → Bool)
    {update : LoadedModule → LoadedModule} (keeps : ∀ module, key (update module) = key module)
    (records : List LoadedModule) :
    (updateFirst test update records).map key = records.map key := by
  induction records with
  | nil => rfl
  | cons head rest ih =>
      unfold updateFirst
      split
      · rw [List.map_cons, List.map_cons, keeps]
      · rw [List.map_cons, List.map_cons, ih]

theorem of_mem_updateFirst {test : LoadedModule → Bool} {update : LoadedModule → LoadedModule}
    {records : List LoadedModule} {later : LoadedModule}
    (member : later ∈ updateFirst test update records) :
    later ∈ records ∨ ∃ module, records.find? test = some module ∧ module ∈ records ∧
      later = update module := by
  induction records with
  | nil => cases member
  | cons head rest ih =>
      unfold updateFirst at member
      by_cases selected : test head = true
      · rw [if_pos selected] at member
        rcases List.mem_cons.mp member with rfl | old
        · exact .inr ⟨head, List.find?_cons_of_pos selected, List.mem_cons_self, rfl⟩
        · exact .inl (List.mem_cons_of_mem _ old)
      · rw [if_neg selected] at member
        rcases List.mem_cons.mp member with rfl | old
        · exact .inl List.mem_cons_self
        · rcases ih old with kept | ⟨module, found, listed, same⟩
          · exact .inl (List.mem_cons_of_mem _ kept)
          · rw [List.find?_cons_of_neg selected]
            exact .inr ⟨module, found, List.mem_cons_of_mem _ listed, same⟩

namespace LoadedModule

def SameRecord (module later : LoadedModule) : Prop :=
  later.info.name = module.info.name ∧ later.info.manifest = module.info.manifest ∧
    later.uniqueName = module.uniqueName

theorem SameRecord.refl (module : LoadedModule) : module.SameRecord module := ⟨rfl, rfl, rfl⟩

theorem SameRecord.trans {first second third : LoadedModule} (left : first.SameRecord second)
    (right : second.SameRecord third) : first.SameRecord third :=
  ⟨right.1.trans left.1, right.2.1.trans left.2.1, right.2.2.trans left.2.2⟩

theorem move_same (module : LoadedModule) (move : ModuleMove) :
    module.SameRecord (module.move move) := by
  cases move with
  | transport view => exact ⟨rfl, rfl, rfl⟩
  | describe rustcVersion rustcMismatch => exact ⟨rfl, rfl, rfl⟩
  | beginStop =>
      change module.SameRecord module.beginStop.2
      unfold LoadedModule.beginStop
      dsimp only
      split
      · exact .refl module
      · split
        · exact .refl module
        · exact ⟨rfl, rfl, rfl⟩
  | finishStop outcome =>
      change module.SameRecord (module.finishStop outcome).2
      cases outcome with
      | started error => exact .refl module
      | notStarted error =>
          unfold LoadedModule.finishStop
          dsimp only
          split
          · exact .refl module
          · exact ⟨rfl, rfl, rfl⟩
      | stopped => exact ⟨rfl, rfl, rfl⟩
  | endLifecycle ofStop => exact ⟨rfl, rfl, rfl⟩
  | enable enabled =>
      change module.SameRecord (module.enable enabled).2
      unfold LoadedModule.enable
      dsimp only
      split
      · exact .refl module
      · split
        · exact .refl module
        · exact ⟨rfl, rfl, rfl⟩
  | peerDetached =>
      change module.SameRecord module.peerDetached.2
      unfold LoadedModule.peerDetached
      split
      · split
        · exact .refl module
        · exact ⟨rfl, rfl, rfl⟩
      · split
        · exact ⟨rfl, rfl, rfl⟩
        · exact .refl module

theorem move_keeps (record : LoadedModule) (move : ModuleMove) :
    (record.move move).uniqueName = record.uniqueName ∧
      (record.move move).busName = record.busName := by
  obtain ⟨_, manifest, unique⟩ := record.move_same move
  refine ⟨unique, ?_⟩
  unfold busName
  rw [manifest]

theorem find_updateFirst (test : LoadedModule → Bool) {wanted : LoadedModule → Bool}
    {update : LoadedModule → LoadedModule}
    (keeps : ∀ record, wanted (update record) = wanted record)
    (records : List LoadedModule) :
    (updateFirst test update records).find? wanted = records.find? wanted ∨
      ∃ record, records.find? test = some record ∧ records.find? wanted = some record ∧
        (updateFirst test update records).find? wanted = some (update record) := by
  induction records with
  | nil => exact .inl rfl
  | cons head rest ih =>
      unfold updateFirst
      by_cases selected : test head = true
      · rw [if_pos selected]
        by_cases found : wanted head = true
        · refine .inr ⟨head, List.find?_cons_of_pos selected,
            List.find?_cons_of_pos found, ?_⟩
          exact List.find?_cons_of_pos ((keeps head).trans found)
        · refine .inl ?_
          rw [List.find?_cons_of_neg found, List.find?_cons_of_neg]
          rw [keeps head]
          exact found
      · rw [if_neg selected]
        by_cases found : wanted head = true
        · refine .inl ?_
          rw [List.find?_cons_of_pos found, List.find?_cons_of_pos found]
        · rw [List.find?_cons_of_neg found, List.find?_cons_of_neg found,
            List.find?_cons_of_neg selected]
          exact ih

theorem find_eraseP (test wanted : LoadedModule → Bool) (records : List LoadedModule) :
    (records.eraseP test).find? wanted = records.find? wanted ∨
      ∃ record, records.find? test = some record ∧ records.find? wanted = some record ∧
        (records.eraseP test).find? wanted = (records.filter wanted).tail.head? := by
  induction records with
  | nil => exact .inl rfl
  | cons head rest ih =>
      by_cases selected : test head = true
      · rw [List.eraseP_cons_of_pos selected]
        by_cases found : wanted head = true
        · refine .inr ⟨head, List.find?_cons_of_pos selected, List.find?_cons_of_pos found, ?_⟩
          rw [List.filter_cons_of_pos found, List.tail_cons, List.head?_filter]
        · exact .inl (List.find?_cons_of_neg found).symm
      · rw [List.eraseP_cons_of_neg selected, List.find?_cons_of_neg selected]
        by_cases found : wanted head = true
        · rw [List.find?_cons_of_pos found, List.find?_cons_of_pos found]
          exact .inl rfl
        · rw [List.find?_cons_of_neg found, List.find?_cons_of_neg found,
            List.filter_cons_of_neg found]
          exact ih

end LoadedModule

namespace ModuleHost

/-- The refused manifests in front of the one that a file has, and those behind it. -/
def ahead (host : ModuleHost) (file : String) : List ModuleInfo :=
  host.rejected.takeWhile (fun known => known.file ≠ file)

def behind (host : ModuleHost) (file : String) : List ModuleInfo :=
  (host.rejected.dropWhile (fun known => known.file ≠ file)).tail

theorem recordRejected_rejected (host : ModuleHost) (info : ModuleInfo) :
    (host.recordRejected info).rejected =
      host.ahead info.file ++ info :: host.behind info.file := by
  unfold recordRejected ahead behind
  dsimp only
  induction host.rejected with
  | nil => rfl
  | cons known rest ih =>
      by_cases own : known.file = info.file
      · simp [own, recordRejected.replaceFirst]
      · simp only [List.any_cons, own, decide_false, Bool.false_or, ne_eq, not_false_eq_true,
          decide_true, List.takeWhile_cons_of_pos, List.dropWhile_cons_of_pos, List.cons_append,
          recordRejected.replaceFirst, if_false] at ih ⊢
        rw [← ih]
        split <;> rfl

theorem rejectedFor_ahead (host : ModuleHost) (file : String) (name : BusName) :
    host.rejectedFor name =
      ((host.ahead file).find? (fun known => known.manifest.busName = name)).or
        ((host.rejected.dropWhile (fun known => known.file ≠ file)).find?
          (fun known => known.manifest.busName = name)) := by
  unfold rejectedFor ahead
  rw [← List.find?_append, List.takeWhile_append_dropWhile]

/-- What answers for a name once the first record that declares it is gone. -/
def NextServes (host : ModuleHost) (name unique : BusName) : Prop :=
  match (host.loaded.filter (LoadedModule.declares name)).tail.head? with
  | some next => next.refuses = true → next.uniqueName = unique
  | none => ∀ info, host.rejectedFor name = some info → info.state.unavailable = false

theorem loadedFor_plain {host : ModuleHost} {name : BusName}
    (plain : name.isUnique = false) :
    host.loadedFor name = host.loaded.find? (LoadedModule.declares name) := by
  unfold loadedFor
  rw [plain]
  rfl

theorem Serves.congr {before after : ModuleHost} {name unique : BusName}
    (loaded : after.loadedFor name = before.loadedFor name)
    (rejected : after.rejected = before.rejected)
    (serves : before.Serves name unique) : after.Serves name unique := by
  unfold Serves rejectedFor at *
  rw [loaded, rejected]
  exact serves

end ModuleHost

/-! ### Steps that keep the two apart -/

namespace ModuleBus

def OwnedOnlyBy (state : ModuleBus) (name unique : BusName) : Prop :=
  ∀ id, state.router.names.lookup name = some id → unique = BusName.unique id

/-- The name has an owner, and no loaded module declares it. -/
def Exposed (state : ModuleBus) (name : BusName) : Prop :=
  (∃ id, state.router.names.lookup name = some id) ∧ state.host.loadedFor name = none

/-- A refusal that is recorded for a file answers for no exposed name, and the one that it
replaces did not hide another one from such a name. -/
structure Spares (state : ModuleBus) (file : String) (name : BusName) (refusal : RefusalClass) :
    Prop where
  answers : state.Exposed name →
    (∀ known ∈ state.host.ahead file, known.manifest.busName ≠ name) → refusal = .unresolved
  uncovers : ∀ known next, state.host.rejected.find? (fun info => info.file = file) = some known →
    known.manifest.busName ≠ name → state.Exposed known.manifest.busName →
      state.host.rejectedFor known.manifest.busName = some known →
        (state.host.behind file).find?
            (fun info => info.manifest.busName = known.manifest.busName) = some next →
          next.state.unavailable = false

/-- No record that refuses calls comes to answer for a name of another peer: not
by a grant of the name, and not by a change of the records. -/
def Careful (state : ModuleBus) : ModuleBusEvent → Prop
  | .table op =>
      ∀ id name, RouterOp.Requests state.router op id name → name.isUnique = false →
        state.router.names.lookup name = none →
          state.host.Serves name (BusName.unique id)
  | .host (.publish info unique transport) =>
      state.host.loadedFor info.manifest.busName = none →
        (LoadedModule.observedState info.state transport).unavailable = true →
          state.OwnedOnlyBy info.manifest.busName unique
  | .host (.unpublish unique) =>
      ∀ record id, state.host.select (.peer unique) = some record →
        state.host.loadedFor record.busName = some record →
          state.router.names.lookup record.busName = some id →
            state.host.NextServes record.busName (BusName.unique id)
  | .host (.reject error manifest refusal) =>
      ∀ file reason, error = .moduleRefused file reason →
        state.Spares file manifest.busName refusal
  | .host (.rejectFile error) =>
      ∀ file reason, error = .moduleRefused file reason →
        (∀ known ∈ state.host.rejected, known.file ≠ file) →
          state.host.rejectedFor (ModuleHost.rejectionInfo file reason).manifest.busName = none →
            ¬ state.Exposed (ModuleHost.rejectionInfo file reason).manifest.busName
  | .host (.module selector move) =>
      ∀ record, state.host.select selector = some record →
        state.host.loadedFor record.busName = some record →
          (record.move move).refuses = true →
            state.OwnedOnlyBy record.busName record.uniqueName

def Served (state : ModuleBus) : Prop :=
  ∀ name id, name.isUnique = false → state.router.names.lookup name = some id →
    state.host.Serves name (BusName.unique id)

variable {state : ModuleBus}

theorem Served.table (served : state.Served) {op : RouterOp}
    (careful : state.Careful (.table op)) : (state.next (.table op)).Served := by
  intro name id plain owned
  rcases Router.perform_plain_owner plain owned with held | ⟨free, asked⟩
  · exact served name id plain held
  · exact careful id name asked plain free

theorem Served.publish (served : state.Served) {info : ModuleInfo} {unique : BusName}
    {transport : TransportView} (careful : state.Careful (.host (.publish info unique transport))) :
    (state.next (.host (.publish info unique transport))).Served := by
  intro name id plain owned
  have before := served name id plain owned
  have after : (state.host.publish info unique transport).loadedFor name =
      (state.host.loadedFor name).or
        ([ModuleHost.published info unique transport].find?
          (LoadedModule.declares name)) := by
    rw [ModuleHost.loadedFor_plain plain, ModuleHost.loadedFor_plain plain]
    exact List.find?_append
  change (state.host.publish info unique transport).Serves name (BusName.unique id)
  cases found : state.host.loadedFor name with
  | some record =>
      rw [found, Option.some_or] at after
      exact .congr (after.trans found.symm) rfl before
  | none =>
      rw [found, Option.none_or] at after
      by_cases declared : info.manifest.busName = name
      · have declares : LoadedModule.declares name
            (ModuleHost.published info unique transport) = true :=
          decide_eq_true declared
        rw [List.find?_cons_of_pos declares] at after
        unfold ModuleHost.Serves
        rw [after]
        intro refuses
        rw [← declared] at found owned
        exact careful found refuses id owned
      · have other : ¬ LoadedModule.declares name
            (ModuleHost.published info unique transport) = true :=
          fun declares => declared (of_decide_eq_true declares)
        rw [List.find?_cons_of_neg other, List.find?_nil] at after
        exact .congr (after.trans found.symm) rfl before

theorem Served.unpublish (served : state.Served) {unique : BusName}
    (careful : state.Careful (.host (.unpublish unique))) :
    (state.next (.host (.unpublish unique))).Served := by
  intro name id plain owned
  change (state.host.unpublish unique).Serves name (BusName.unique id)
  rcases LoadedModule.find_eraseP (fun module => module.uniqueName = unique)
    (LoadedModule.declares name) state.host.loaded with
    same | ⟨record, selected, answers, after⟩
  · have answers : (state.host.unpublish unique).loadedFor name =
        state.host.loadedFor name := by
      rw [ModuleHost.loadedFor_plain plain, ModuleHost.loadedFor_plain plain]
      exact same
    exact .congr answers rfl (served name id plain owned)
  · have own : record.busName = name :=
      of_decide_eq_true (List.find?_some (p := LoadedModule.declares name) answers)
    rw [← ModuleHost.loadedFor_plain plain] at answers
    have next := careful record id selected (by rwa [own]) (by rwa [own])
    rw [own] at next
    unfold ModuleHost.Serves
    rw [ModuleHost.loadedFor_plain plain]
    change match (state.host.loaded.eraseP _).find? _ with | some _ => _ | none => _
    rw [after]
    exact next

theorem Served.module (served : state.Served) {selector : Selector} {move : ModuleMove}
    (careful : state.Careful (.host (.module selector move))) :
    (state.next (.host (.module selector move))).Served := by
  intro name id plain owned
  have keeps (record : LoadedModule) :
      LoadedModule.declares name (record.move move) = LoadedModule.declares name record := by
    unfold LoadedModule.declares
    rw [(record.move_keeps move).2]
  change (state.host.update selector (fun module => module.move move)).Serves name
    (BusName.unique id)
  have before := served name id plain owned
  rcases LoadedModule.find_updateFirst selector.selects keeps state.host.loaded with
    same | ⟨record, selected, found, changed⟩
  · have answers : (state.host.update selector (fun module =>
        module.move move)).loadedFor name = state.host.loadedFor name := by
      rw [ModuleHost.loadedFor_plain plain, ModuleHost.loadedFor_plain plain]
      exact same
    exact .congr answers rfl before
  · have answers : state.host.loadedFor name = some record := by
      rw [ModuleHost.loadedFor_plain plain]
      exact found
    have after : (state.host.update selector (fun module => module.move move)).loadedFor
        name = some (record.move move) := by
      rw [ModuleHost.loadedFor_plain plain]
      exact changed
    have declares : LoadedModule.declares name record = true := List.find?_some found
    have declared : record.busName = name := of_decide_eq_true declares
    unfold ModuleHost.Serves
    rw [after]
    intro refuses
    rw [(record.move_keeps move).1]
    rw [← declared] at answers owned
    exact careful record selected answers refuses id owned

theorem Served.rejected (served : state.Served) {after : ModuleHost}
    (loaded : after.loaded = state.host.loaded)
    (answers : ∀ name, state.Exposed name → after.rejectedFor name = state.host.rejectedFor name ∨
      ∀ info, after.rejectedFor name = some info → info.state.unavailable = false) :
    Served { state with host := after } := by
  intro name id plain owned
  have before := served name id plain owned
  have same : after.loadedFor name = state.host.loadedFor name := by
    rw [ModuleHost.loadedFor_plain plain, ModuleHost.loadedFor_plain plain, loaded]
  change after.Serves name (BusName.unique id)
  unfold ModuleHost.Serves at before ⊢
  rw [same]
  cases found : state.host.loadedFor name with
  | some record =>
      rw [found] at before
      exact before
  | none =>
      rw [found] at before
      rcases answers name ⟨⟨id, owned⟩, found⟩ with kept | free
      · rw [kept]
        exact before
      · exact free

theorem Spares.rejected {info : ModuleInfo} {refusal : RefusalClass} {reason : String}
    (spares : state.Spares info.file info.manifest.busName refusal)
    (refused : info.state = refusal.state reason) (name : BusName) (exposed : state.Exposed name) :
    (state.host.recordRejected info).rejectedFor name = state.host.rejectedFor name ∨
      ∀ later, (state.host.recordRejected info).rejectedFor name = some later →
        later.state.unavailable = false := by
  have before := state.host.rejectedFor_ahead info.file name
  rw [before]
  unfold ModuleHost.rejectedFor
  rw [ModuleHost.recordRejected_rejected, List.find?_append]
  cases front : (state.host.ahead info.file).find?
      (fun known => known.manifest.busName = name) with
  | some known => exact .inl rfl
  | none =>
      rw [Option.none_or, Option.none_or]
      by_cases own : info.manifest.busName = name
      · right
        intro later found
        simp only [List.find?_cons, own, decide_true, Option.some.injEq] at found
        rw [← found]
        have first := List.find?_eq_none.mp front
        rw [refused, spares.answers (own ▸ exposed) (fun known among same =>
          first known among (decide_eq_true (same.trans own)))]
        rfl
      · rw [List.find?_cons_of_neg (by simpa using own)]
        cases rest : state.host.rejected.dropWhile (fun known => known.file ≠ info.file) with
        | nil =>
            left
            unfold ModuleHost.behind
            rw [rest]
            rfl
        | cons known others =>
            have others : state.host.behind info.file = others := by
              unfold ModuleHost.behind
              rw [rest, List.tail_cons]
            rw [others]
            by_cases hid : known.manifest.busName = name
            · right
              intro later found
              subst hid
              refine spares.uncovers known later ?_ (Ne.symm own) exposed ?_ (others ▸ found)
              · have first := List.find?_eq_head?_dropWhile_not
                  (fun known : ModuleInfo => decide (known.file = info.file)) state.host.rejected
                simp only [ne_eq, decide_not] at rest
                rw [first, rest, List.head?_cons]
              · rw [before, front, rest]
                simp
            · left
              exact (List.find?_cons_of_neg (by simpa using hid)).symm

theorem Served.next (served : state.Served) {event : ModuleBusEvent}
    (careful : state.Careful event) : (state.next event).Served := by
  cases event with
  | table op => exact served.table careful
  | host event =>
      cases event with
      | publish info unique transport => exact served.publish careful
      | unpublish unique => exact served.unpublish careful
      | reject error manifest refusal =>
          apply served.rejected (ModuleHost.recordManifestRejection_loaded _ _ _ _)
          intro name exposed
          cases error with
          | moduleRefused file reason =>
              exact Spares.rejected (careful file reason rfl) rfl name exposed
          | _ => exact .inl rfl
      | rejectFile error =>
          apply served.rejected (ModuleHost.recordRejection_loaded _ _)
          intro name exposed
          left
          cases error with
          | moduleRefused file reason =>
              unfold ModuleHost.recordRejection
              dsimp only
              split
              · rfl
              · rename_i unknown
                have free : ∀ known ∈ state.host.rejected, known.file ≠ file := by
                  simpa using unknown
                unfold ModuleHost.rejectedFor
                rw [List.find?_append]
                cases found : state.host.rejected.find?
                    (fun info => info.manifest.busName = name) with
                | some known => rfl
                | none =>
                    rw [Option.none_or, List.find?_cons, List.find?_nil]
                    split
                    · rename_i answers
                      have own := of_decide_eq_true answers
                      exact absurd (own ▸ exposed) (careful file reason rfl free (own ▸ found))
                    · rfl
          | _ => rfl
      | module selector move => exact served.module careful

theorem blamesOwners_of_served (consistent : state.router.Consistent)
    (served : state.Served) : state.BlamesOwners := by
  intro source sourceName message name id peer module moduleState detail plain owned
    attached call addressed refused
  have unreserved : name ≠ busName := by
    intro same
    rw [same, consistent.busUnowned] at owned
    cases owned
  have known := Broker.route_unavailable call addressed unreserved refused
  obtain ⟨record, member, own, same⟩ :=
    ModuleHost.unavailableFor_serves (served name id plain owned) known
  cases same
  exact ⟨record, member, own.trans (consistent.ownsUnique id peer attached).1.symm, rfl⟩

/-- Runs in which no record that refuses calls comes to answer for a name of
another peer. -/
def careful : System ModuleBus ModuleBusEvent := system.restrict Careful

theorem reachable_consistent (reached : system.Reachable state) :
    state.router.Consistent := by
  change (fun state : ModuleBus => state.router.Consistent) state
  apply reached.invariant
  · rintro first rfl
    exact Router.consistent_empty
  · rintro before event after ⟨possible, rfl⟩ consistent
    cases event with
    | table op => exact (Router.perform_performed consistent op possible).consistent consistent
    | host event => exact consistent

theorem careful_blamesOwners {state : ModuleBus} (reached : careful.Reachable state) :
    state.BlamesOwners := by
  apply blamesOwners_of_served (reachable_consistent reached.of_restrict)
  apply reached.invariant
  · rintro first rfl name id plain owned
    cases owned
  · rintro before event after ⟨kept, _, rfl⟩ served
    exact served.next kept

/-! ### A module and a stranger under one name -/

def voiceManifest : ModuleManifest :=
  { schema := ModuleHost.manifestSchema,
    module := ⟨"voice", ⟨1, 0, 0, none⟩, "", none, ""⟩,
    busName := voiceName, objectPath := busPath, provides := [], requires := [],
    environment := [], capabilities := [], lazyInit := false, workerThreads := 1,
    onPanic := .detach }

def voiceInfo : ModuleInfo :=
  { name := "voice", version := "1.0.0", file := "libvoice.so", state := .initializing,
    manifest := voiceManifest, rustcVersion := "", rustcMismatch := false, enabled := true }

def quietTransport : TransportView :=
  { initFailed := false, faulted := false, ready := false, initStarted := true,
    inflight := 0, lifecyclePending := false, stopSpawned := false }

def voiceCall : Message :=
  .methodCall voiceName busPath busInterface speakMember (.array [])

def replay (events : List ModuleBusEvent) : ModuleBus :=
  events.foldl next ⟨Router.empty, ModuleHost.empty⟩

/-- The module of the name is loaded and stopped, and its peer is still there. -/
def stoppedVoice : List ModuleBusEvent :=
  [.table (.attach 0), .table (.attach 1), .table (.requestName 1 voiceName),
    .host (.publish voiceInfo (BusName.unique 1) quietTransport),
    .host (.module (.named "voice") (.finishStop .stopped))]

theorem system_next {first middle : ModuleBus} {events : List ModuleBusEvent}
    (run : system.Run first events middle) (event : ModuleBusEvent)
    (possible : middle.Possible event) :
    system.Run first (events ++ [event]) (middle.next event) :=
  .snoc run ⟨possible, rfl⟩

theorem careful_next {first middle : ModuleBus} {events : List ModuleBusEvent}
    (run : careful.Run first events middle) (event : ModuleBusEvent)
    (possible : middle.Possible event) (kept : middle.Careful event) :
    careful.Run first (events ++ [event]) (middle.next event) :=
  .snoc run ⟨kept, possible, rfl⟩

theorem unrequested {outbox : Outbox} :
    state.Careful (.table (.attach outbox)) := by
  rintro id name (impossible | ⟨unique, impossible, _⟩)
  · cases impossible
  · cases impossible

theorem stoppedVoice_blamed :
    (replay stoppedVoice).BlamesOwners ∧
      Broker.route (replay stoppedVoice).router
          (replay stoppedVoice).host.unavailableFor 2 (BusName.unique 2) voiceCall =
        .error (.moduleUnavailable "voice" "stopped" "module is not accepting calls") := by
  have service := careful_next (.nil : careful.Run ⟨Router.empty, ModuleHost.empty⟩ [] _)
    (.table (.attach 0)) trivial unrequested
  have both := careful_next service (.table (.attach 1)) trivial unrequested
  have owned := careful_next both (.table (.requestName 1 voiceName))
    ⟨BusName.unique 1, by decide⟩ (by
      intro _ _ _ _ _ _ found
      cases found)
  have loaded := careful_next owned
    (.host (.publish voiceInfo (BusName.unique 1) quietTransport)) ⟨1, by decide⟩ (by
      intro _ impossible
      cases impossible)
  have stopped := careful_next loaded
    (.host (.module (.named "voice") (.finishStop .stopped))) trivial (by
      intro record selected _ _ id owner
      cases selected
      cases owner
      rfl)
  exact ⟨careful_blamesOwners ⟨_, _, rfl, stopped⟩, by rfl⟩

def strangerVoice : List ModuleBusEvent :=
  [.table (.attach 0), .table (.attach 1),
    .host (.reject
      (.moduleRefused "libvoice.so" "manifest identity does not match descriptor")
      voiceManifest .rejected),
    .table (.requestName 1 voiceName)]

theorem strangerVoice_refused :
    ¬ ∀ state : ModuleBus, system.Reachable state → state.BlamesOwners := by
  intro blames
  have run : system.Run ⟨Router.empty, ModuleHost.empty⟩ strangerVoice
      (replay strangerVoice) := by
    have service := system_next
      (.nil : system.Run ⟨Router.empty, ModuleHost.empty⟩ [] _) (.table (.attach 0)) trivial
    have both := system_next service (.table (.attach 1)) trivial
    have refused := system_next both (.host (.reject
      (.moduleRefused "libvoice.so" "manifest identity does not match descriptor")
      voiceManifest .rejected)) trivial
    exact system_next refused (.table (.requestName 1 voiceName))
      ⟨BusName.unique 1, by decide⟩
  obtain ⟨record, impossible, _⟩ := blames _ ⟨_, _, rfl, run⟩ 2 (BusName.unique 2)
    voiceCall voiceName 1 _ _ _ _ (by rfl) (by decide) (by rfl) rfl rfl (by rfl)
  cases impossible

end ModuleBus

end TinyBus
