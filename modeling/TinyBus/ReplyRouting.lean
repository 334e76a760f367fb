/-
One honest connection on a bus of peers that send whatever they like.  Frames in
either direction are taken in any order and may be lost; every other peer has
its frames handled at any time, and the table, the module host and the
announcements of the bus move as they please.  What ends a call of the honest
connection is a genuine answer to that call, or the connection itself.
-/

import TinyBus.PendingCalls

namespace TinyBus

open TransitionSystem

/-- `uplink` holds what the connection wrote and the broker has not read, `mail`
what the broker sent and the connection has not read. -/
structure CallBus (Host : Type) where
  broker : Broker Host
  client : Client
  uplink : List Message
  mail : List Parcel

inductive CallEvent (Host : Type) where
  | call (message : Message)
  | handshake
  | send (message : Message)
  | insertPending (index : Nat)
  | enqueue (index : Nat)
  | write (outcome : WriteOutcome)
  | resume (index : Nat)
  | timeout (serial : Nat)
  | readerEnds
  | deliver (index : Nat) (brokered : Bool)
  | lose (index : Nat)
  | read (index : Nat) (lost : Option Error)
  | hear (source : PeerId) (message : Message) (lost : Option Error)
  | table (op : RouterOp)
  | announce (member : MemberName) (body : Value)
  | hostMoves (modules : Option Host) (controller : Option ModuleControllerBinding)

def parcelsTo (outbox : Outbox) (source : PeerId) (message : Message)
    (sends : List (Outbox × Message)) : List Parcel :=
  (sends.filter (fun entry => entry.1 = outbox)).map
    (fun entry => ⟨entry.2, some (source, message)⟩)

namespace CallBus

variable {Host : Type}

def withClient (state : CallBus Host) (client : Client) : CallBus Host :=
  { state with client := client }

/-- The reader of one peer takes a message.  A refusal of a message of the honest
connection goes to that connection. -/
def heard (control : ModuleControl Host) (honest : PeerId) (outbox : Outbox)
    (state : CallBus Host) (source : PeerId) (message : Message) (lost : Option Error) :
    CallBus Host :=
  let turn := Broker.readerTask control state.broker source message lost
  { state with
    broker := turn.broker
    mail := state.mail ++ parcelsTo outbox source message turn.sends ++
      (if source = honest then
        turn.refusal.toList.map (fun refusal => ⟨refusal, some (source, message)⟩)
      else []) }

def next (control : ModuleControl Host) (honest : PeerId) (outbox : Outbox)
    (state : CallBus Host) : CallEvent Host → CallBus Host
  | .call message => state.withClient (state.client.callRawMessage message)
  | .handshake => state.withClient state.client.handshake
  | .send message => state.withClient (state.client.send message)
  | .insertPending index => state.withClient (state.client.insertPending index)
  | .enqueue index => state.withClient (state.client.enqueue index)
  | .write outcome =>
      { state with
        client := (state.client.writerLoop outcome).1
        uplink := state.uplink ++ (state.client.writerLoop outcome).2.toList }
  | .resume index => state.withClient (state.client.resume index)
  | .timeout serial => state.withClient (state.client.timeout serial)
  | .readerEnds => state.withClient state.client.readerEnds
  | .deliver index brokered =>
      match state.mail[index]? with
      | none => state
      | some parcel =>
          { state with
            client := state.client.dispatch parcel brokered
            mail := state.mail.eraseIdx index }
  | .lose index => { state with mail := state.mail.eraseIdx index }
  | .read index lost =>
      match state.uplink[index]? with
      | none => state
      | some message =>
          { state with uplink := state.uplink.eraseIdx index }.heard control honest outbox
            honest message lost
  | .hear source message lost => state.heard control honest outbox source message lost
  | .table op =>
      { state with
        broker := { state.broker with router := (state.broker.router.perform op).2 } }
  | .announce member body =>
      { state with mail := state.mail ++ [⟨Broker.busSignal member body, none⟩] }
  | .hostMoves modules controller =>
      { state with
        broker := { state.broker with modules := modules, moduleController := controller } }

/-- Frames of the honest connection are read off its own link, and no other
transport gets its queue. -/
def Possible (honest : PeerId) (outbox : Outbox) (state : CallBus Host) :
    CallEvent Host → Prop
  | .hear source _ _ => source ≠ honest
  | .table op => op.Issued state.broker.router ∧ op ≠ .attach outbox
  | _ => True

structure Attached (honest : PeerId) (outbox : Outbox) (state : CallBus Host) :
    Prop where
  table : Router.brokered.Reachable state.broker.router
  present : ∃ peer, state.broker.router.peers.lookup honest = some peer ∧
    peer.outbox = outbox
  exclusive : ∀ id peer, state.broker.router.peers.lookup id = some peer →
    peer.outbox = outbox → id = honest
  client : state.client = Client.attached
  quiet : state.uplink = [] ∧ state.mail = []

def system (control : ModuleControl Host) (honest : PeerId) (outbox : Outbox) :
    System (CallBus Host) (CallEvent Host) :=
  (System.ofFunction (Attached honest outbox) (next control honest outbox)).restrict
    (Possible honest outbox)

/-- The queue of the honest connection is its own. -/
structure Exclusive (honest : PeerId) (outbox : Outbox) (router : Router) : Prop where
  consistent : router.Consistent
  own : ∀ id peer, router.peers.lookup id = some peer → peer.outbox = outbox →
    id = honest

structure Sound (honest : PeerId) (outbox : Outbox) (state : CallBus Host) : Prop where
  table : Exclusive honest outbox state.broker.router
  client : state.client.Sound honest
  uplink : ∀ message ∈ state.uplink, Client.Issued state.client.issued message
  mail : ∀ parcel ∈ state.mail, Client.Traced state.client.issued honest parcel

section

variable {control : ModuleControl Host} {honest : PeerId} {outbox : Outbox}
variable {state : CallBus Host}

theorem Exclusive.perform {router : Router} (exclusive : Exclusive honest outbox router)
    {op : RouterOp} (issued : op.Issued router) (other : op ≠ .attach outbox) :
    Exclusive honest outbox (router.perform op).2 where
  consistent :=
    (Router.perform_performed exclusive.consistent op issued).consistent
      exclusive.consistent
  own := by
    intro id peer present queue
    rcases Router.perform_outbox present with ⟨old, had, same⟩ | attached
    · exact exclusive.own id old had (same ▸ queue)
    · rw [queue] at attached
      exact absurd attached other

theorem Exclusive.handle {broker : Broker Host}
    (exclusive : Exclusive honest outbox broker.router) (source : PeerId)
    (message : Message) (lost : Option Error) :
    Exclusive honest outbox
      (Broker.readerTask control broker source message lost).broker.router := by
  rw [Broker.readerTask_broker]
  rcases Broker.handle_router control broker source (BusName.unique source) message with
    same | ⟨op, issued, noAttach, moved⟩
  · rw [same]
    exact exclusive
  · rw [moved]
    exact exclusive.perform issued (noAttach outbox)

theorem Exclusive.resolved {router : Router} (exclusive : Exclusive honest outbox router)
    {source : PeerId} (resolved : router.resolve (BusName.unique source) = .ok outbox) :
    source = honest := by
  obtain ⟨peer, owned, queue⟩ := Router.resolve_ok resolved
  unfold Router.ownerPeer at owned
  cases named : router.names.lookup (BusName.unique source) with
  | none =>
      rw [named] at owned
      cases owned
  | some id =>
      rw [named] at owned
      have minted := exclusive.consistent.uniqueOwner _ id named
        (BusName.isUnique_unique source)
      rw [BusName.unique_injective minted]
      exact exclusive.own id peer owned queue

theorem Sound.heard (sound : state.Sound honest outbox) {source : PeerId}
    {message : Message} (own : source = honest →
      Client.Issued state.client.issued message) (lost : Option Error) :
    (state.heard control honest outbox source message lost).Sound honest outbox := by
  have table : Exclusive honest outbox
      (Broker.readerTask control state.broker source message lost).broker.router :=
    sound.table.handle source message lost
  refine ⟨table, sound.client, sound.uplink, ?_⟩
  intro parcel member
  rcases List.mem_append.mp member with sent | refusals
  · rcases List.mem_append.mp sent with old | parcels
    · exact sound.mail parcel old
    · obtain ⟨⟨target, frame⟩, selected, rfl⟩ := List.mem_map.mp parcels
      obtain ⟨sends, ours⟩ := List.mem_filter.mp selected
      have queue : target = outbox := of_decide_eq_true ours
      cases Broker.readerTask_sends sends with
      | forwarded => exact .forwarded rfl rfl
      | answered addressed resolved =>
          rw [queue] at resolved
          have honestly := table.resolved resolved
          subst honestly
          exact .served (own rfl) addressed rfl rfl
      | announced => exact .announced rfl
  · split at refusals
    · rename_i honestly
      subst honestly
      obtain ⟨refusal, refused, rfl⟩ := List.mem_map.mp refusals
      rw [Option.mem_toList] at refused
      obtain ⟨_, error, answer⟩ := Broker.readerTask_refusal refused
      exact .refused (own rfl) rfl answer
    · cases refusals

theorem Sound.withClient (sound : state.Sound honest outbox) {client : Client}
    (kept : client.Sound honest)
    (logs : Client.Logs state.client.issued state.client.serial client.issued) :
    (state.withClient client).Sound honest outbox where
  table := sound.table
  client := kept
  uplink := fun message member => logs.kept sound.client (sound.uplink message member)
  mail := fun parcel member =>
    (sound.mail parcel member).mono (fun _ issued => logs.kept sound.client issued)

theorem sound_attached (attached : Attached honest outbox state) :
    state.Sound honest outbox where
  table := ⟨Router.brokered_consistent attached.table, attached.exclusive⟩
  client := by
    rw [attached.client]
    exact .attached
  uplink := by simp [attached.quiet.1]
  mail := by simp [attached.quiet.2]

theorem next_deliver {index : Nat} {parcel : Parcel}
    (found : state.mail[index]? = some parcel) (brokered : Bool) :
    state.next control honest outbox (.deliver index brokered) =
      { state with
        client := state.client.dispatch parcel brokered
        mail := state.mail.eraseIdx index } := by
  simp only [CallBus.next, found]

theorem next_deliver_none {index : Nat} (absent : state.mail[index]? = none)
    (brokered : Bool) :
    state.next control honest outbox (.deliver index brokered) = state := by
  simp only [CallBus.next, absent]

theorem Sound.next (sound : state.Sound honest outbox) {event : CallEvent Host}
    (possible : state.Possible honest outbox event) :
    (state.next control honest outbox event).Sound honest outbox := by
  have client := sound.client
  cases event with
  | call message =>
      exact sound.withClient (client.callRawMessage message)
        (Client.callRawMessage_logs _ message)
  | handshake => exact sound.withClient (client.callBus _ _ _) (Client.callBus_logs _ _ _ _)
  | send message => exact sound.withClient (client.send message) (Client.send_logs _ message)
  | insertPending index =>
      refine sound.withClient (client.insertPending index) ?_
      rw [Client.insertPending_issued]
      exact .same
  | enqueue index =>
      refine sound.withClient (client.enqueue index) ?_
      rw [Client.enqueue_issued]
      exact .same
  | write outcome =>
      obtain ⟨kept, written⟩ := client.writerLoop outcome
      have same := Client.writerLoop_issued state.client outcome
      refine ⟨sound.table, kept, ?_, ?_⟩
      · intro message member
        change Client.Issued (state.client.writerLoop outcome).1.issued message
        rw [same]
        rcases List.mem_append.mp member with old | new
        · exact sound.uplink message old
        · exact written message (Option.mem_toList.mp new)
      · intro parcel member
        change Client.Traced (state.client.writerLoop outcome).1.issued honest parcel
        rw [same]
        exact sound.mail parcel member
  | resume index => exact sound.withClient (client.resume index) (Client.resume_logs _ index)
  | timeout serial =>
      refine sound.withClient (client.timeout serial) ?_
      rw [Client.timeout_issued]
      exact .same
  | readerEnds => exact sound.withClient client.readerEnds .same
  | deliver index brokered =>
      cases found : state.mail[index]? with
      | none =>
          rw [next_deliver_none found]
          exact sound
      | some parcel =>
          rw [next_deliver found]
          have traced := sound.mail parcel (List.mem_of_getElem? found)
          have same := Client.dispatch_issued state.client parcel brokered
          refine ⟨sound.table, client.dispatch traced brokered, ?_, ?_⟩
          · intro message member
            change Client.Issued (state.client.dispatch parcel brokered).issued message
            rw [same]
            exact sound.uplink message member
          · intro other member
            change Client.Traced (state.client.dispatch parcel brokered).issued honest other
            rw [same]
            exact sound.mail other (List.mem_of_mem_eraseIdx member)
  | lose index =>
      exact ⟨sound.table, client, sound.uplink,
        fun parcel member => sound.mail parcel (List.mem_of_mem_eraseIdx member)⟩
  | read index lost =>
      cases found : state.uplink[index]? with
      | none =>
          simp only [CallBus.next, found]
          exact sound
      | some message =>
          simp only [CallBus.next, found]
          have taken : ({ state with uplink := state.uplink.eraseIdx index } :
              CallBus Host).Sound honest outbox :=
            ⟨sound.table, client,
              fun other member => sound.uplink other (List.mem_of_mem_eraseIdx member),
              sound.mail⟩
          exact taken.heard (fun _ => sound.uplink message (List.mem_of_getElem? found)) lost
  | hear source message lost =>
      exact sound.heard (fun honestly => absurd honestly possible) lost
  | table op =>
      exact ⟨sound.table.perform possible.1 possible.2, client, sound.uplink, sound.mail⟩
  | announce member body =>
      refine ⟨sound.table, client, sound.uplink, ?_⟩
      intro parcel inMail
      rcases List.mem_append.mp inMail with old | new
      · exact sound.mail parcel old
      · cases List.mem_singleton.mp new
        exact .announced rfl
  | hostMoves modules controller =>
      exact ⟨sound.table, client, sound.uplink, sound.mail⟩

theorem reachable_sound (reached : (system control honest outbox).Reachable state) :
    state.Sound honest outbox := by
  apply reached.invariant
  · intro first attached
    exact sound_attached attached
  · intro before event after stepped sound
    obtain ⟨possible, rfl⟩ := stepped
    exact sound.next possible

/-- What holds of the calls of the honest connection in every reachable state. -/
structure RepliesGenuine (control : ModuleControl Host) (honest : PeerId)
    (outbox : Outbox) (state : CallBus Host) : Prop where
  /-- A call is completed at most once, and is no longer pending then. -/
  once : (state.client.completed.map Completion.serial).Nodup ∧
    ∀ completion ∈ state.client.completed,
      state.client.pending.lookup completion.serial = none
  /-- A genuine answer completed it, or the connection itself. -/
  legitimate : ∀ completion ∈ state.client.completed, completion.Legitimate honest
  /-- A call that was begun under the unique name captured its responder, unless it
  addresses the bus. -/
  captured : ∀ serial slot, state.client.pending.lookup serial = some slot →
    slot.call.message.header.kind = .methodCall → slot.call.named = true →
      slot.call.expected = none → slot.call.message.header.destination = some busName
  /-- Where the broker delivers the call, it is to the captured responder. -/
  routed : ∀ serial slot responder, state.client.pending.lookup serial = some slot →
    slot.call.expected = some responder → ∀ target delivered,
      Broker.route state.broker.router (state.broker.unavailable control) honest
          (BusName.unique honest) slot.call.message = .ok (.deliver target delivered) →
        ∃ peer, state.broker.router.ownerPeer responder = some peer ∧
          peer.unique = responder ∧ peer.outbox = target
  /-- A frame that is no genuine answer leaves the slot in place. -/
  kept : ∀ serial slot index brokered, state.client.pending.lookup serial = some slot →
    slot.call.message.header.kind = .methodCall →
      (∀ parcel, state.mail[index]? = some parcel →
        ¬ (Answers slot.call parcel ∧ Genuine honest slot.call parcel brokered)) →
        (state.next control honest outbox
          (.deliver index brokered)).client.pending.lookup serial = some slot
  /-- The answer of the responder completes a call that is still pending. -/
  answered : ∀ serial slot responder index parcel brokered,
    state.client.reading = true → state.client.pending.lookup serial = some slot →
      slot.call.expected = some responder → state.mail[index]? = some parcel →
        Answers slot.call parcel → parcel.message.header.sender = some responder →
          ⟨slot.call, .reply parcel brokered⟩ ∈ (state.next control honest outbox
            (.deliver index brokered)).client.completed

theorem Sound.routed (sound : state.Sound honest outbox) {call : Call}
    (captured : call.Captured) {responder : BusName}
    (expected : call.expected = some responder) {unavailable : BusName → Option Error}
    {target : Outbox} {delivered : Message}
    (routed : Broker.route state.broker.router unavailable honest (BusName.unique honest)
      call.message = .ok (.deliver target delivered)) :
    ∃ peer, state.broker.router.ownerPeer responder = some peer ∧
      peer.unique = responder ∧ peer.outbox = target := by
  have consistent := sound.table.consistent
  cases Broker.route_routed routed with
  | deliver addressed elsewhere resolved =>
      rename_i destination
      obtain ⟨peer, owned, queue, pinned⟩ := Router.resolveCallFrom_ok resolved
      obtain ⟨id, named, present⟩ : ∃ id,
          state.broker.router.names.lookup destination = some id ∧
          state.broker.router.peers.lookup id = some peer := by
        unfold Router.ownerPeer at owned
        split at owned
        · rename_i id named
          exact ⟨id, named, owned⟩
        · cases owned
      obtain ⟨unique, holds⟩ := consistent.ownsUnique id peer present
      rcases captured.responder responder expected with ⟨direct, minted⟩ | asked
      · rw [direct] at addressed
        cases addressed
        have same := consistent.uniqueOwner responder id named minted
        exact ⟨peer, owned, unique.trans same.symm, queue⟩
      · have same := pinned responder asked
        refine ⟨peer, ?_, same, queue⟩
        rw [← same, unique, Router.ownerPeer, holds]
        exact present

/-- Every call of the honest connection ends at most once and for a legitimate
reason, whatever the other peers send. -/
theorem replies_genuine (reached : (system control honest outbox).Reachable state) :
    state.RepliesGenuine control honest outbox := by
  have sound := reachable_sound reached
  have client := sound.client
  refine
    { once := ⟨client.once.of_append_right, ?_⟩
      legitimate := fun completion member => (client.completed completion member).2
      captured := ?_, routed := ?_, kept := ?_, answered := ?_ }
  · intro completion member
    cases found : state.client.pending.lookup completion.serial with
    | none => rfl
    | some slot =>
        have unspent := client.apart _ slot found
        exact absurd (List.mem_append_right _ (List.mem_map.mpr ⟨completion, member, rfl⟩))
          unspent
  · intro serial slot found call named uncaptured
    obtain ⟨_, drew, _⟩ := client.pending serial slot found
    cases control : slot.call.busControl with
    | true => exact drew.captured.toBus control
    | false =>
        have early := drew.captured.unidentified call uncaptured control
        rw [early] at named
        cases named
  · intro serial slot responder found expected target delivered routed
    obtain ⟨_, drew, _⟩ := client.pending serial slot found
    exact sound.routed drew.captured expected routed
  · intro serial slot index brokered found call spurious
    cases present : state.mail[index]? with
    | none =>
        rw [next_deliver_none present]
        exact found
    | some parcel =>
        rw [next_deliver present]
        dsimp only
        have inMail := List.mem_of_getElem? present
        rcases Client.dispatch_cases state.client parcel brokered with same |
          ⟨other, answered, replied, kind, pending, accepted, after, _⟩
        · rw [same]
          exact found
        · rw [after, Table.lookup_erase_eq]
          by_cases own : serial = other
          · subst own
            rw [found] at pending
            cases pending
            obtain ⟨answers, genuine⟩ :=
              client.accepted (sound.mail parcel inMail) replied kind found accepted
            exact absurd ⟨answers, genuine call⟩ (spurious parcel present)
          · rw [if_neg own]
            exact found
  · intro serial slot responder index parcel brokered reading found expected present
      answers sender
    obtain ⟨own, drew, faithful⟩ := client.pending serial slot found
    have accepted : slot.waiter.accepts parcel.message brokered = true := by
      apply Client.accepts_responder faithful (drew.captured.remote _ expected) expected
        sender
      rcases answers.kind with success | failure
      · refine .inr ?_
        cases secret : slot.call.message.header.confidential with
        | false => exact .inl rfl
        | true => exact .inr (answers.secret secret success)
      · exact .inl failure
    have replied := answers.serial
    rw [own] at replied
    have completes : (state.client.dispatchReply parcel brokered).completed =
        state.client.completed ++ [⟨slot.call, .reply parcel brokered⟩] := by
      simp [Client.dispatchReply, replied, found, accepted, Client.settle]
    rw [next_deliver present]
    have dispatched : state.client.dispatch parcel brokered =
        state.client.dispatchReply parcel brokered := by
      rcases answers.kind with kind | kind
      · simp [Client.dispatch, reading, kind]
      · simp [Client.dispatch, reading, kind]
    rw [dispatched, completes]
    exact List.mem_append_right _ (List.mem_singleton.mpr rfl)

end

end CallBus

/-- The frame that ended the call is stamped with the responder the call captured,
or is an error that the broker stamped. -/
def Completion.fromResponder (completion : Completion) : Bool :=
  match completion.ending with
  | .reply parcel _ =>
      (completion.call.expected.isSome &&
          parcel.message.header.sender == completion.call.expected) ||
        (parcel.message.header.kind == .error &&
          parcel.message.header.sender == some busName)
  | _ => false

namespace CallBus

def voiceRequest : Message :=
  Message.methodCall voiceName busPath busInterface speakMember (.array [])

def pingCall : Message := Client.busCall Broker.pingMember (.array [])

/-- A successful answer to a call of the connection `:1.2`. -/
def answerTo (serial : Nat) : Message :=
  let call := { Header.blank .methodCall with serial := serial }
  Message.methodReturn { call with sender := some (BusName.unique 2) } .null

/-- The peer `:1.2` has just been attached; `:1.1` owns the service name. -/
def connected : CallBus Unit := ⟨voiceBroker, Client.attached, [], []⟩

theorem connected_attached : Attached 2 1 connected where
  table := voiceTable_reachable
  present := ⟨_, rfl, rfl⟩
  exclusive := by
    intro id peer present queue
    have entry : (id, peer) ∈ voiceTable.peers.pairs :=
      Table.mem_pairs_iff_lookup.mpr present
    have peers : voiceTable.peers.pairs.map (fun entry => (entry.1, entry.2.outbox)) =
        [(2, 1), (1, 0)] := by rfl
    have listed : (id, peer.outbox) ∈ [(2, 1), (1, 0)] := by
      rw [← peers]
      exact List.mem_map.mpr ⟨(id, peer), entry, rfl⟩
    rw [queue] at listed
    simpa using listed
  client := rfl
  quiet := ⟨rfl, rfl⟩

/-- A call is put on the wire. -/
def written : List (CallEvent Unit) := [.insertPending 0, .enqueue 0, .write .sent]

/-- A stranger attaches; the connection says hello, asks for the owner of the
service and calls it; the stranger answers first. -/
def served : List (CallEvent Unit) :=
  [.table (.attach 2), .handshake] ++ written ++
    [.read 0 none, .deliver 0 true, .resume 0, .call voiceRequest] ++ written ++
    [.read 0 none, .deliver 0 true, .resume 0] ++ written ++
    [.hear 3 (answerTo 3) none, .deliver 0 false, .read 0 none,
      .hear 1 (answerTo 3) none, .deliver 0 false]

/-- The connection calls before it says hello, and the stranger answers; it pings
the bus, and its own writer refuses the next ping. -/
def unstamped : List (CallEvent Unit) :=
  [.table (.attach 2), .call voiceRequest] ++ written ++ [.handshake] ++ written ++
    [.read 1 none, .deliver 0 true, .resume 0, .hear 3 (answerTo 1) none,
      .deliver 0 false, .call pingCall] ++ written ++
    [.read 1 none, .deliver 0 true, .call pingCall, .insertPending 0, .enqueue 0,
      .write (.refused "frame is over the cap")]

def admits (_ : CallBus Unit) : CallEvent Unit → Bool
  | .hear source _ _ => source != 2
  | .table (.attach outbox) => outbox != 1
  | .table _ => false
  | _ => true

def replayed (events : List (CallEvent Unit)) : Option (CallBus Unit) :=
  replay (next emptyControl 2 1) admits connected events

theorem replayed_reachable {events : List (CallEvent Unit)} {state : CallBus Unit}
    (reached : replayed events = some state) :
    (system emptyControl 2 1).Reachable state := by
  refine ⟨connected, events, connected_attached, System.Run.of_replay ?_ reached⟩
  intro before event admitted
  refine ⟨?_, rfl⟩
  cases event with
  | hear source message lost =>
      change source ≠ 2
      simpa [admits] using admitted
  | table op =>
      cases op with
      | attach outbox => simpa [admits, Possible, RouterOp.Issued] using admitted
      | _ => cases admitted
  | _ => trivial

/-- The calls that ended, in order: the serial, whether the connection had its name,
the captured responder, and whether a stamped answer ended the call. -/
def endings (state : CallBus Unit) : List (Nat × Bool × Option BusName × Bool) :=
  state.client.completed.map (fun completion =>
    (completion.serial, completion.call.named, completion.call.expected,
      completion.fromResponder))

theorem served_genuine :
    ∃ state : CallBus Unit, state.RepliesGenuine emptyControl 2 1 ∧
      state.client.uniqueName = some (BusName.unique 2) ∧
      state.endings =
        [(1, false, none, false), (2, true, none, false),
          (3, true, some (BusName.unique 1), true)] := by
  have run : (replayed served).map (fun state => (state.client.uniqueName, state.endings)) =
      some (some (BusName.unique 2),
        [(1, false, none, false), (2, true, none, false),
          (3, true, some (BusName.unique 1), true)]) := by
    rfl
  obtain ⟨state, reached, seen⟩ := Option.map_eq_some_iff.mp run
  rw [Prod.mk.injEq] at seen
  exact ⟨state, replies_genuine (replayed_reachable reached), seen.1, seen.2⟩

/-- Calls of a named connection end without a stamped answer: hello and ping by the
bus, the early call by the stranger, the last ping by the writer. -/
theorem unstamped_endings :
    ∃ state : CallBus Unit, (system emptyControl 2 1).Reachable state ∧
      state.client.uniqueName = some (BusName.unique 2) ∧
      state.endings =
        [(2, false, none, false), (1, false, none, false), (3, true, none, false),
          (4, true, none, false)] := by
  have run : (replayed unstamped).map
      (fun state => (state.client.uniqueName, state.endings)) =
      some (some (BusName.unique 2),
        [(2, false, none, false), (1, false, none, false), (3, true, none, false),
          (4, true, none, false)]) := by
    rfl
  obtain ⟨state, reached, seen⟩ := Option.map_eq_some_iff.mp run
  rw [Prod.mk.injEq] at seen
  exact ⟨state, replayed_reachable reached, seen.1, seen.2⟩

end CallBus

end TinyBus
