/-
What handling one message does, said once: how it moves the routing table, what
it sends and to whom, and how the reader of a peer answers where it fails.
-/

import TinyBus.BusControl

namespace TinyBus

def RouterOp.OfPeer (source : PeerId) : RouterOp → Prop
  | .requestName id _ => id = source
  | .releaseName id _ => id = source
  | .setManifest id _ => id = source
  | .addMatch id _ => id = source
  | .removeMatch id _ => id = source
  | _ => False

theorem RouterOp.OfPeer.issued {source : PeerId} {op : RouterOp} {router : Router}
    {unique : BusName} (own : op.OfPeer source)
    (attached : router.isAttached source unique = true) : op.Issued router := by
  cases op with
  | requestName id name => exact own ▸ ⟨unique, attached⟩
  | releaseName id name => exact own ▸ ⟨unique, attached⟩
  | addMatch id rule => exact own ▸ ⟨unique, attached⟩
  | removeMatch id rule => exact own ▸ ⟨unique, attached⟩
  | setManifest id manifest => trivial
  | _ => cases own

theorem RouterOp.OfPeer.not_attach {source : PeerId} {op : RouterOp}
    (own : op.OfPeer source) (outbox : Outbox) : op ≠ .attach outbox := by
  intro same
  rw [same] at own
  cases own

namespace Router

theorem resolve_ok {router : Router} {destination : BusName} {target : Outbox}
    (resolved : router.resolve destination = .ok target) :
    ∃ peer, router.ownerPeer destination = some peer ∧ peer.outbox = target := by
  unfold resolve at resolved
  split at resolved
  · rename_i peer owned
    exact ⟨peer, owned, Except.ok.inj resolved⟩
  · cases resolved

theorem resolveAttested_ok {router : Router} {destination : BusName} {target : Outbox}
    (resolved : router.resolveAttested destination = .ok target) :
    ∃ peer, router.ownerPeer destination = some peer ∧ peer.outbox = target := by
  unfold resolveAttested at resolved
  split at resolved
  · cases resolved
  · rename_i peer owned
    split at resolved
    · exact ⟨peer, owned, Except.ok.inj resolved⟩
    · cases resolved

theorem resolveCallFrom_ok {router : Router} {source : PeerId}
    {sourceName destination : BusName} {expected : Option BusName}
    {confidential : Bool} {header : Header} {target : Outbox}
    (resolved : router.resolveCallFrom source sourceName destination expected
      confidential header = .ok target) :
    ∃ peer, router.ownerPeer destination = some peer ∧ peer.outbox = target ∧
      ∀ responder, expected = some responder → peer.unique = responder := by
  unfold resolveCallFrom at resolved
  split at resolved
  · cases resolved
  · unfold resolveCall at resolved
    split at resolved
    · cases resolved
    · rename_i pinned
      have found : ∃ peer, router.ownerPeer destination = some peer ∧
          peer.outbox = target := by
        split at resolved
        · split at resolved
          · exact resolve_ok resolved
          · exact resolveAttested_ok resolved
        · exact resolve_ok resolved
      obtain ⟨peer, owned, queue⟩ := found
      refine ⟨peer, owned, queue, ?_⟩
      intro responder asked
      rw [asked] at pinned
      simpa [ownerOf, owned] using pinned

end Router

namespace Broker

variable {Host : Type}

def reportedChanges (outcome : Except Error (List NameChange) × Router) :
    List NameChange :=
  match outcome.1 with
  | .ok changes => changes
  | .error _ => []

/-- A bus call leaves the table alone, or it is one operation of its caller and
reports the changes of that. -/
inductive Moves (source : PeerId) (router : Router) : List NameChange → Router → Prop
  | still : Moves source router [] router
  | moved {op : RouterOp} (own : op.OfPeer source) :
      Moves source router (reportedChanges (router.perform op)) (router.perform op).2

variable {router : Router} {source : PeerId} {message : Message} {sourceName : BusName}
  {entry : Outbox × Message} {broker : Broker Host} {control : ModuleControl Host}

private theorem nameReply_moves {op : RouterOp} {outcome : Except Error NameChange × Router}
    (own : op.OfPeer source) (performed : router.perform op = Router.reported outcome) :
    Moves source router (nameReply outcome).changes (nameReply outcome).router := by
  have moved : Moves source router _ _ := .moved own
  rw [performed] at moved
  rcases outcome with ⟨result, after⟩
  cases result with
  | ok change => exact moved
  | error refusal => exact moved

private theorem matchReply_moves {apply : MatchRule → Router}
    (applied : ∀ rule, ∃ op : RouterOp, op.OfPeer source ∧
      router.perform op = Router.quiet (apply rule)) (member : MemberName) (body : Value) :
    Moves source router (matchReply router member body apply).changes
      (matchReply router member body apply).router := by
  unfold matchReply
  split
  · exact .still
  · split
    · exact .still
    · rename_i rule _
      obtain ⟨op, own, performed⟩ := applied rule
      have moved : Moves source router _ _ := .moved own
      rw [performed] at moved
      exact moved

theorem tableMethod_moves (id : String) (router : Router) (source : PeerId)
    (sourceName : BusName) (member : MemberName) (body : Value) :
    Moves source router (tableMethod id router source sourceName member body).changes
      (tableMethod id router source sourceName member body).router := by
  unfold tableMethod
  split
  case h_4 =>
    split
    · exact .still
    · rename_i name _
      have own : (RouterOp.requestName source name).OfPeer source := rfl
      exact nameReply_moves own rfl
  case h_5 =>
    split
    · exact .still
    · rename_i name _
      have own : (RouterOp.releaseName source name).OfPeer source := rfl
      exact nameReply_moves own rfl
  case h_7 =>
    split
    · exact .still
    · rename_i manifest _
      have own : (RouterOp.setManifest source manifest).OfPeer source := rfl
      exact .moved own
  case h_12 =>
    exact matchReply_moves (fun rule => ⟨.addMatch source rule, rfl, rfl⟩) member body
  case h_13 =>
    exact matchReply_moves (fun rule => ⟨.removeMatch source rule, rfl, rfl⟩) member body
  all_goals exact .still

theorem moduleMethod_router (control : ModuleControl Host) (broker : Broker Host)
    (caller : BusName) (member : MemberName) (body : Value) (operation : ModuleMember) :
    (moduleMethod control broker caller member body operation).2.router =
      broker.router := by
  unfold moduleMethod
  split
  · rfl
  · split
    · rfl
    · rfl

theorem busMethod_moves (control : ModuleControl Host) (broker : Broker Host)
    (source : PeerId) (sourceName : BusName) (member : MemberName) (body : Value) :
    Moves source broker.router
        (busMethod control broker source sourceName member body).changes
        (busMethod control broker source sourceName member body).broker.router ∧
      (broker.router.isAttached source sourceName ≠ true →
        (busMethod control broker source sourceName member body).broker.router =
          broker.router) := by
  unfold busMethod
  cases checked : broker.router.ensurePeerAttached source sourceName with
  | error refusal => exact ⟨.still, fun _ => rfl⟩
  | ok _ =>
      have attached := Router.ensurePeerAttached_ok_iff.mp checked
      refine ⟨?_, fun absent => absurd attached absent⟩
      cases moduleMember member with
      | some operation =>
          dsimp only
          rw [moduleMethod_router]
          exact .still
      | none =>
          dsimp only
          split
          · exact .still
          · exact tableMethod_moves _ _ _ _ _ _

theorem handleBusCall_moves (control : ModuleControl Host) (broker : Broker Host)
    (source : PeerId) (sourceName : BusName) (message : Message) :
    ∃ changes, Moves source broker.router changes
        (handleBusCall control broker source sourceName message).broker.router ∧
      (broker.router.isAttached source sourceName ≠ true →
        (handleBusCall control broker source sourceName message).broker.router =
          broker.router) := by
  unfold handleBusCall
  cases message.header.member with
  | none => exact ⟨[], .still, fun _ => rfl⟩
  | some member =>
      have moved :=
        busMethod_moves control broker source sourceName member message.body
      dsimp only
      split
      · exact ⟨_, moved⟩
      · exact ⟨_, moved⟩

theorem handle_moves (control : ModuleControl Host) (broker : Broker Host)
    (source : PeerId) (sourceName : BusName) (message : Message) :
    ∃ changes, Moves source broker.router changes
        (handle control broker source sourceName message).broker.router ∧
      (broker.router.isAttached source sourceName ≠ true →
        (handle control broker source sourceName message).broker.router =
          broker.router) := by
  unfold handle
  split
  case h_5 => exact handleBusCall_moves control broker source sourceName _
  all_goals exact ⟨[], .still, fun _ => rfl⟩

theorem handle_router (control : ModuleControl Host) (broker : Broker Host)
    (source : PeerId) (sourceName : BusName) (message : Message) :
    (handle control broker source sourceName message).broker.router = broker.router ∨
      ∃ op : RouterOp, op.Issued broker.router ∧ (∀ outbox, op ≠ .attach outbox) ∧
        (handle control broker source sourceName message).broker.router =
          (broker.router.perform op).2 := by
  obtain ⟨changes, moved, unmoved⟩ :=
    handle_moves control broker source sourceName message
  by_cases attached : broker.router.isAttached source sourceName = true
  · generalize (handle control broker source sourceName message).broker.router = after
      at moved
    cases moved with
    | still => exact .inl rfl
    | @moved op own => exact .inr ⟨op, own.issued attached, own.not_attach, rfl⟩
  · exact .inl (unmoved attached)

inductive Routed (router : Router) (source : PeerId) (sourceName : BusName)
    (message : Message) : Route → Prop
  | fanOut {targets : List Outbox} (signal : message.header.kind = .signal)
      (selected : router.subscribersFrom (message.stamp sourceName) source sourceName =
        .ok targets) :
      Routed router source sourceName message
        (.fanOut targets (message.stamp sourceName))
  | notify {target : Outbox} (signal : message.header.kind = .directedSignal) :
      Routed router source sourceName message
        (.notify target (message.stamp sourceName))
  | deliver {destination : BusName} {target : Outbox}
      (addressed : message.header.destination = some destination)
      (elsewhere : destination ≠ busName)
      (resolved : router.resolveCallFrom source sourceName destination
        message.header.expectedResponder
        (message.header.confidential && message.header.kind = .methodCall)
        (message.stamp sourceName).header = .ok target) :
      Routed router source sourceName message
        (.deliver target (message.stamp sourceName))
  | bus (addressed : message.header.destination = some busName) :
      Routed router source sourceName message (.bus (message.stamp sourceName))

theorem map_ok {α β : Type} {selected : Except Error α} {make : α → β} {made : β}
    (mapped : selected.map make = .ok made) :
    ∃ value, selected = .ok value ∧ make value = made := by
  cases selected with
  | error refusal => cases mapped
  | ok value => exact ⟨value, rfl, Except.ok.inj mapped⟩

theorem routeToPeer_ok {unavailable : BusName → Option Error} {destination : BusName}
    {decision : Route}
    (routed : routeToPeer router unavailable source sourceName destination message =
      .ok decision) :
    ∃ target, decision = .deliver target message ∧
      router.resolveCallFrom source sourceName destination
        message.header.expectedResponder
        (message.header.confidential && message.header.kind = .methodCall)
        message.header = .ok target := by
  unfold routeToPeer at routed
  split at routed
  · cases routed
  · split at routed
    · cases routed
    · rename_i target resolved
      refine ⟨target, ?_, resolved⟩
      split at routed
      · split at routed
        · cases routed
        · exact (Except.ok.inj routed).symm
      · exact (Except.ok.inj routed).symm

theorem route_routed {unavailable : BusName → Option Error} {decision : Route}
    (routed : route router unavailable source sourceName message = .ok decision) :
    Routed router source sourceName message decision := by
  unfold route at routed
  split at routed
  · cases routed
  · unfold routeStamped at routed
    split at routed
    · rename_i signal
      obtain ⟨targets, selected, rfl⟩ := map_ok routed
      exact .fanOut signal selected
    · rename_i signal
      split at routed
      · cases routed
      · obtain ⟨target, _, rfl⟩ := map_ok routed
        exact .notify signal
    · split at routed
      · cases routed
      · rename_i destination addressed
        split at routed
        · rename_i toBus
          cases decision with
          | bus stamped =>
              rw [routeToBus_ok routed]
              rw [toBus] at addressed
              exact .bus addressed
          | _ =>
              unfold routeToBus at routed
              split at routed
              · cases routed
              · split at routed
                · cases routed
                · cases routed
        · rename_i elsewhere
          obtain ⟨target, rfl, resolved⟩ := routeToPeer_ok routed
          exact .deliver addressed elsewhere resolved

/-- What handling a message sends: the stamped message itself, the answer of the
bus, or announcements. -/
inductive Sent (after : Router) (sourceName : BusName) (message : Message) :
    Outbox × Message → Prop
  | forwarded {target : Outbox} :
      Sent after sourceName message (target, message.stamp sourceName)
  | answered {outbox : Outbox} {result : Except Error Value}
      (addressed : message.header.destination = some busName)
      (resolved : after.resolve sourceName = .ok outbox) :
      Sent after sourceName message
        (outbox, busReplyMessage (message.stamp sourceName).header result)
  | announced {outbox : Outbox} {member : MemberName} {body : Value} :
      Sent after sourceName message (outbox, busSignal member body)

private theorem mem_broadcast {signal : Message} (member : entry ∈ broadcast router signal) :
    entry.2 = signal := by
  obtain ⟨target, _, rfl⟩ := List.mem_map.mp member
  rfl

theorem mem_announcements {changes : List NameChange}
    (member : entry ∈ announcements router changes) :
    ∃ change ∈ changes, entry.2 = announcement change := by
  obtain ⟨change, kept, sent⟩ := List.mem_flatMap.mp member
  exact ⟨change, List.mem_of_mem_filter kept, mem_broadcast sent⟩

theorem mem_moduleAnnouncements {states : List Value}
    (member : entry ∈ moduleAnnouncements router states) :
    ∃ body, entry.2 = busSignal ⟨"ModuleStateChanged", by rfl⟩ body := by
  obtain ⟨body, _, sent⟩ := List.mem_flatMap.mp member
  exact ⟨body, mem_broadcast sent⟩

private theorem sent_of_signal {after : Router} {member : MemberName} {body : Value}
    (same : entry.2 = busSignal member body) : Sent after sourceName message entry := by
  rcases entry with ⟨outbox, sent⟩
  rw [show sent = busSignal member body from same]
  exact .announced

theorem handleBusCall_sends (addressed : message.header.destination = some busName)
    (member : entry ∈ (handleBusCall control broker source sourceName
      (message.stamp sourceName)).sends) :
    Sent (handleBusCall control broker source sourceName
      (message.stamp sourceName)).broker.router sourceName message entry := by
  unfold handleBusCall at member ⊢
  revert member
  cases (message.stamp sourceName).header.member with
  | none =>
      intro member
      cases member
  | some called =>
      dsimp only
      cases resolved : (busMethod control broker source sourceName called
          (message.stamp sourceName).body).broker.router.resolve sourceName with
      | error refusal =>
          intro member
          cases member
      | ok outbox =>
          intro member
          rcases List.mem_cons.mp member with answered | announced
          · rw [answered]
            exact .answered addressed resolved
          · rcases List.mem_append.mp announced with changed | moved
            · obtain ⟨change, _, same⟩ := mem_announcements changed
              exact sent_of_signal same
            · obtain ⟨body, same⟩ := mem_moduleAnnouncements moved
              exact sent_of_signal same

theorem handle_sends (member : entry ∈ (handle control broker source sourceName message).sends) :
    Sent (handle control broker source sourceName message).broker.router sourceName
      message entry := by
  unfold handle at member ⊢
  cases routed : route broker.router (broker.unavailable control) source sourceName
      message with
  | error refusal =>
      rw [routed] at member
      cases member
  | ok decision =>
      rw [routed] at member
      cases route_routed routed with
      | fanOut _ _ =>
          obtain ⟨target, _, rfl⟩ := List.mem_map.mp member
          exact .forwarded
      | notify _ =>
          cases List.mem_singleton.mp member
          exact .forwarded
      | deliver _ _ _ =>
          cases List.mem_singleton.mp member
          exact .forwarded
      | bus addressed => exact handleBusCall_sends addressed member

/-- What one turn of a peer's reader leaves and sends; the refusal goes straight
to the peer's own transport. -/
structure Turn (Host : Type) where
  broker : Broker Host
  sends : List (Outbox × Message)
  refusal : Option Message

/-- A call that cannot be routed must produce an error reply. -/
def refuse (message : Message) (error : Error) : Option Message :=
  if message.header.kind = .methodCall then some (refusalReply message.header error)
  else none

/-- One turn of the reader.  `lost` is the failure, if any, that an accepted
message met after the table was left: a queue that was closed, or a module or
the peer itself that went away meanwhile. -/
def readerTask (control : ModuleControl Host) (broker : Broker Host) (source : PeerId)
    (message : Message) (lost : Option Error) : Turn Host :=
  let handled := handle control broker source (BusName.unique source) message
  match handled.outcome, lost with
  | .ok (), none => ⟨handled.broker, handled.sends, none⟩
  | .ok (), some failure => ⟨handled.broker, [], refuse message failure⟩
  | .error failure, _ => ⟨handled.broker, handled.sends, refuse message failure⟩

theorem readerTask_broker (control : ModuleControl Host) (broker : Broker Host)
    (source : PeerId) (message : Message) (lost : Option Error) :
    (readerTask control broker source message lost).broker =
      (handle control broker source (BusName.unique source) message).broker := by
  unfold readerTask
  dsimp only
  split
  · rfl
  · rfl
  · rfl

theorem readerTask_sends {lost : Option Error}
    (member : entry ∈ (readerTask control broker source message lost).sends) :
    Sent (readerTask control broker source message lost).broker.router
      (BusName.unique source) message entry := by
  rw [readerTask_broker]
  unfold readerTask at member
  dsimp only at member
  split at member
  · exact handle_sends member
  · cases member
  · exact handle_sends member

theorem readerTask_refusal {lost : Option Error} {refusal : Message}
    (refused : (readerTask control broker source message lost).refusal = some refusal) :
    message.header.kind = .methodCall ∧
      ∃ error, refusal = refusalReply message.header error := by
  have answered : ∃ error, refuse message error = some refusal := by
    unfold readerTask at refused
    dsimp only at refused
    split at refused
    · cases refused
    · exact ⟨_, refused⟩
    · exact ⟨_, refused⟩
  obtain ⟨error, answered⟩ := answered
  unfold refuse at answered
  split at answered
  · rename_i call
    exact ⟨call, error, (Option.some.inj answered).symm⟩
  · cases answered

end Broker

end TinyBus
