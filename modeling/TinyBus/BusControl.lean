/-
What handling a message that is not a call does to the broker.  Only signals
and the messages between peers are inert: a return or an error addressed at the
bus runs the member it names, like a call.
-/

import TinyBus.Broker
import TinyBus.RouterOwnership

namespace TinyBus

namespace Broker

variable {Host : Type}

/-- An accepted return or error, from an attached peer, that addresses a member
of the bus; a sensitive one addresses a member that configures modules. -/
structure StrayControl (broker : Broker Host) (source : PeerId) (sourceName : BusName)
    (message : Message) : Prop where
  valid : message.validate = .ok ()
  reply : message.header.kind = .methodReturn ∨ message.header.kind = .error
  toBus : message.header.destination = some busName
  known : ∃ member, message.header.member = some member ∧
    member.text ∈ busMembers ∧
      (message.header.sensitive = true → member.text ∈ configurationMembers)
  attached : broker.router.isAttached source sourceName = true

variable {member : MemberName} {sourceName : BusName} {message : Message}

theorem moduleMember_mem {operation : ModuleMember}
    (known : moduleMember member = some operation) : member.text ∈ busMembers := by
  unfold moduleMember at known
  split at known
  case h_10 => cases known
  all_goals
    rename_i named
    rw [named]
    decide

theorem tableMethod_unknown (unknown : member.text ∉ busMembers) (id : String) (router : Router)
    (source : PeerId) (sourceName : BusName) (body : Value) :
    tableMethod id router source sourceName member body =
      answer router (.error (.unknownMethod busInterface member)) := by
  unfold tableMethod
  split
  case h_14 => rfl
  all_goals
    rename_i named
    rw [named] at unknown
    exact absurd (by decide) unknown

theorem busMethod_unknown (unknown : member.text ∉ busMembers) (control : ModuleControl Host)
    (broker : Broker Host) (source : PeerId) (sourceName : BusName) (body : Value) :
    (busMethod control broker source sourceName member body).broker = broker := by
  unfold busMethod
  cases broker.router.ensurePeerAttached source sourceName with
  | error refusal => rfl
  | ok _ =>
      cases operation : moduleMember member with
      | some known => exact absurd (moduleMember_mem operation) unknown
      | none =>
          have other : member.text ≠ "ResolveCallTarget" := by
            intro named
            rw [named] at unknown
            exact unknown (by decide)
          simp only [if_neg other, tableMethod_unknown unknown]
          rfl

theorem busMethod_unattached {source : PeerId} {broker : Broker Host}
    (unattached : broker.router.isAttached source sourceName ≠ true) (control : ModuleControl Host)
    (member : MemberName) (body : Value) :
    (busMethod control broker source sourceName member body).broker = broker := by
  unfold busMethod
  rw [Router.ensurePeerAttached, if_neg unattached]

theorem handleBusCall_broker (control : ModuleControl Host) (broker : Broker Host) (source : PeerId)
    (sourceName : BusName) (message : Message) (named : message.header.member = some member) :
    (handleBusCall control broker source sourceName message).broker =
        (busMethod control broker source sourceName member message.body).broker ∧
      (handleBusCall control broker source sourceName message).executed =
        executedMember broker source sourceName member := by
  unfold handleBusCall
  rw [named]
  dsimp only
  cases (busMethod control broker source sourceName member
    message.body).broker.router.resolve sourceName with
  | error refusal => exact ⟨rfl, rfl⟩
  | ok outbox => exact ⟨rfl, rfl⟩

theorem handleBusCall_inert {control : ModuleControl Host} {broker : Broker Host} {source : PeerId}
    (inert : ∀ member, message.header.member = some member →
      executedMember broker source sourceName member = none) :
    (handleBusCall control broker source sourceName message).broker = broker ∧
      (handleBusCall control broker source sourceName message).executed = none := by
  cases named : message.header.member with
  | none =>
      unfold handleBusCall
      rw [named]
      exact ⟨rfl, rfl⟩
  | some member =>
      obtain ⟨left, executed⟩ :=
        handleBusCall_broker control broker source sourceName message named
      have nothing := inert member named
      rw [left, executed]
      refine ⟨?_, nothing⟩
      by_cases attached : broker.router.isAttached source sourceName = true
      · apply busMethod_unknown
        intro known
        unfold executedMember at nothing
        rw [if_pos] at nothing
        · cases nothing
        · rw [Bool.and_eq_true, List.contains_iff_mem]
          exact ⟨attached, known⟩
      · exact busMethod_unattached attached control member message.body

theorem routeToBus_reply (other : message.header.kind ≠ .methodCall) :
    routeToBus message = .ok (.bus message) ∨
      (message.header.sensitive = true ∧
        (∀ member, message.header.member = some member →
          member.text ∉ configurationMembers) ∧
        ∃ error, routeToBus message = .error error) := by
  unfold routeToBus
  rw [if_neg (fun both => other both.2)]
  split
  · rename_i refused
    refine .inr ⟨refused.1, ?_, _, rfl⟩
    intro member named known
    have every := refused.2
    rw [named, Option.all_some, Bool.not_eq_true', ← Bool.not_eq_true,
      List.contains_iff_mem] at every
    exact every known
  · exact .inl rfl

private theorem handle_of_route {control : ModuleControl Host} {broker : Broker Host}
    {source : PeerId} (elsewhere : ∀ stamped,
      route broker.router (broker.unavailable control) source sourceName message ≠
        .ok (.bus stamped)) :
    (handle control broker source sourceName message).broker = broker ∧
      (handle control broker source sourceName message).executed = none := by
  unfold handle
  cases routed : route broker.router (broker.unavailable control) source sourceName
      message with
  | error refusal => exact ⟨rfl, rfl⟩
  | ok decision =>
      cases decision with
      | bus stamped => exact absurd routed (elsewhere stamped)
      | _ => exact ⟨rfl, rfl⟩

theorem routeToPeer_not_bus (router : Router) (unavailable : BusName → Option Error)
    (source : PeerId) (sourceName destination : BusName) (message stamped : Message) :
    routeToPeer router unavailable source sourceName destination message ≠
      .ok (.bus stamped) := by
  unfold routeToPeer
  intro routed
  split at routed
  · cases routed
  · split at routed
    · cases routed
    · split at routed
      · split at routed
        · cases routed
        · cases routed
      · cases routed

theorem routeToBus_ok {stamped : Message}
    (routed : routeToBus message = .ok (.bus stamped)) : stamped = message := by
  unfold routeToBus at routed
  split at routed
  · cases routed
  · split at routed
    · cases routed
    · cases routed
      rfl

private theorem map_not_bus {α : Type} {selected : Except Error α} {decide : α → Route}
    {stamped : Message} (never : ∀ value message, decide value ≠ .bus message) :
    selected.map decide ≠ .ok (.bus stamped) := by
  cases selected with
  | error refusal =>
      intro routed
      cases routed
  | ok value =>
      intro routed
      exact never value stamped (Except.ok.inj routed)

theorem route_bus_iff {router : Router} {unavailable : BusName → Option Error} {source : PeerId}
    {stamped : Message} :
    route router unavailable source sourceName message = .ok (.bus stamped) ↔
      message.validate = .ok () ∧ message.header.kind ≠ .signal ∧
        message.header.kind ≠ .directedSignal ∧
        message.header.destination = some busName ∧
        routeToBus (message.stamp sourceName) = .ok (.bus stamped) := by
  unfold route
  cases message.validate with
  | error refusal =>
      refine iff_of_false ?_ ?_
      · intro routed
        cases routed
      · rintro ⟨valid, _⟩
        cases valid
  | ok _ =>
      simp only [routeStamped, Message.stamp_kind, Message.stamp_destination, true_and]
      cases kind : message.header.kind with
      | signal =>
          refine iff_of_false ?_ (fun held => held.1 rfl)
          exact map_not_bus (fun _ _ impossible => by cases impossible)
      | directedSignal =>
          refine iff_of_false ?_ (fun held => held.2.1 rfl)
          dsimp only
          split
          · intro routed
            cases routed
          · exact map_not_bus (fun _ _ impossible => by cases impossible)
      | _ =>
          cases message.header.destination with
          | none =>
              refine iff_of_false ?_ ?_
              · intro routed
                cases routed
              · rintro ⟨_, _, addressed, _⟩
                cases addressed
          | some destination =>
              by_cases toBus : destination = busName
              · simp [toBus]
              · simp only [if_neg toBus]
                refine iff_of_false (routeToPeer_not_bus _ _ _ _ _ _ _) ?_
                rintro ⟨_, _, addressed, _⟩
                exact toBus (Option.some.inj addressed)

/-- Handling a message that is not a call leaves the routing table and the
module host as they were and runs no member of the bus, exactly where the
message is no reply that addresses one. -/
theorem handle_inert_iff (control : ModuleControl Host) (broker : Broker Host)
    (source : PeerId) (sourceName : BusName) {message : Message}
    (other : message.header.kind ≠ .methodCall) :
    ((handle control broker source sourceName message).broker = broker ∧
        (handle control broker source sourceName message).executed = none) ↔
      ¬ StrayControl broker source sourceName message := by
  constructor
  · rintro ⟨_, nothing⟩ stray
    obtain ⟨member, named, known, configures⟩ := stray.known
    have toBus : routeToBus (message.stamp sourceName) =
        .ok (.bus (message.stamp sourceName)) := by
      rcases @routeToBus_reply (message.stamp sourceName) other with
        accepted | ⟨sensitive, refused, _⟩
      · exact accepted
      · exact absurd (configures sensitive) (refused member named)
    have routed : route broker.router (broker.unavailable control) source sourceName
        message = .ok (.bus (message.stamp sourceName)) := by
      apply route_bus_iff.mpr
      refine ⟨stray.valid, ?_, ?_, stray.toBus, toBus⟩
      · intro kind
        rcases stray.reply with reply | reply
        · rw [reply] at kind
          cases kind
        · rw [reply] at kind
          cases kind
      · intro kind
        rcases stray.reply with reply | reply
        · rw [reply] at kind
          cases kind
        · rw [reply] at kind
          cases kind
    unfold handle at nothing
    rw [routed] at nothing
    dsimp only at nothing
    rw [(handleBusCall_broker control broker source sourceName
      (message.stamp sourceName) named).2] at nothing
    unfold executedMember at nothing
    rw [if_pos] at nothing
    · cases nothing
    · rw [Bool.and_eq_true, List.contains_iff_mem]
      exact ⟨stray.attached, known⟩
  · intro harmless
    by_cases routed : ∃ stamped, route broker.router (broker.unavailable control) source
        sourceName message = .ok (.bus stamped)
    · obtain ⟨stamped, routed⟩ := routed
      obtain ⟨valid, notSignal, notDirected, addressed, toBus⟩ := route_bus_iff.mp routed
      have same := routeToBus_ok toBus
      subst same
      unfold handle
      rw [routed]
      apply handleBusCall_inert
      intro member named
      unfold executedMember
      rw [if_neg]
      intro runs
      rw [Bool.and_eq_true, List.contains_iff_mem] at runs
      apply harmless
      refine ⟨valid, ?_, addressed, ⟨member, named, runs.2, ?_⟩, runs.1⟩
      · cases kind : message.header.kind with
        | methodCall => exact absurd kind other
        | methodReturn => exact .inl rfl
        | error => exact .inr rfl
        | signal => exact absurd kind notSignal
        | directedSignal => exact absurd kind notDirected
      · intro sensitive
        by_contra unlisted
        unfold routeToBus at toBus
        rw [if_neg (fun both => other both.2), if_pos] at toBus
        · cases toBus
        · refine ⟨sensitive, ?_⟩
          rw [named, Option.all_some, Bool.not_eq_true', ← Bool.not_eq_true,
            List.contains_iff_mem]
          exact unlisted
    · exact handle_of_route (fun stamped reached => routed ⟨stamped, reached⟩)

end Broker

/-- A module host with nothing in it, whose operations all fail. -/
def emptyControl : ModuleControl Unit where
  list _ := []
  load host _ _ := (.error (.failed "no module"), host)
  loadGithub host _ _ _ _ := (.error (.failed "no module"), host)
  stop host _ _ := (.error (.failed "no module"), host)
  reinitializeModule host _ _ := (.error (.failed "no module"), host)
  enable host _ _ := (.error (.failed "no module"), host)
  rescan host _ _ := (.ok ([], []), host)
  unavailableFor _ _ := none

def voiceBroker : Broker Unit := ⟨voiceTable, "tinybus", none, none⟩

def mailName : BusName := ⟨"ai.tinyhumans.openhuman.Mail", by rfl⟩

/-- A method return addressed at the bus that names `RequestName`. -/
def strayReturn : Message :=
  let reply := Message.methodReturn (Header.blank .methodCall)
    (.array [.string "ai.tinyhumans.openhuman.Mail"])
  { reply with
    header :=
      { reply.header with
        destination := some busName, member := some Broker.requestNameMember } }

theorem strayReturn_handled :
    ((Broker.handle emptyControl voiceBroker 2 (BusName.unique 2) strayReturn).broker =
          voiceBroker ∧
        (Broker.handle emptyControl voiceBroker 2 (BusName.unique 2) strayReturn).executed =
          none) ↔
      ¬ Broker.StrayControl voiceBroker 2 (BusName.unique 2) strayReturn :=
  Broker.handle_inert_iff emptyControl voiceBroker 2 (BusName.unique 2) (by decide)

/-- Handling the return hands the name to its sender. -/
theorem strayReturn_claims :
    Router.brokered.Reachable voiceBroker.router ∧
      strayReturn.header.kind = .methodReturn ∧
      voiceBroker.router.names.lookup mailName = none ∧
      (Broker.handle emptyControl voiceBroker 2 (BusName.unique 2)
        strayReturn).broker.router.names.lookup mailName = some 2 := by
  refine ⟨voiceTable_reachable, rfl, by decide, by rfl⟩

end TinyBus
