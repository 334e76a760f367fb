import TinyBus.CallerTasks
import TinyBus.ModuleClient
import TinyBus.RouterOwnership

/-
Clients that are bound to a unique peer.  Nothing that such a client or an object of it
sends goes to anybody else: a unique name is resolved by nobody, and a stream belongs to
the peer that the reply to its opening came from.
-/

namespace TinyBus

open TransitionSystem

theorem BusName.new_text (name : BusName) : BusName.new name.text = .ok name :=
  BusName.new_ok_iff.mpr rfl

theorem Proxy.parse_destination {destination : BusName} {path interface : String} {proxy : Proxy}
    (parsed : Proxy.parse destination.text path interface = .ok proxy) :
    proxy.destination = destination := by
  unfold Proxy.parse at parsed
  rw [BusName.new_text] at parsed
  cases known : ObjectPath.new path with
  | error refusal =>
      rw [known] at parsed
      cases parsed
  | ok place =>
      rw [known] at parsed
      cases found : InterfaceName.new interface with
      | error refusal =>
          rw [found] at parsed
          cases parsed
      | ok face =>
          rw [found] at parsed
          cases parsed
          rfl

def Message.waiter (message : Message) (named direct : Bool) : PendingReply :=
  ⟨match callTarget named message.header.destination with
    | .responder owner => some owner
    | .negotiate _ => message.header.expectedResponder
    | _ => none,
  decide (message.header.destination = some busName), message.header.confidential, direct⟩

def Request.Credible : (request : Request) → request.Answer → Prop
  | .call message, .ok reply =>
      reply.header.kind ≠ .error ∧
        ∃ named direct brokered, (message.waiter named direct).accepts reply brokered = true
  | _, _ => True

def Request.GoesTo (peer : BusName) (request : Request) : Prop :=
  ∀ message, request.message = some message → message.header.destination = some peer

theorem Request.goesTo_of_silent {peer : BusName} {request : Request}
    (silent : request.message = none) : request.GoesTo peer := by
  intro message carried
  rw [silent] at carried
  cases carried

abbrev Sending.Addresses {Result : Type} (peer : BusName) (claimed : Result → Prop)
    (program : Sending Result) : Prop :=
  program.Ensures Request.Credible (Request.GoesTo peer) claimed

namespace Sending

variable {peer : BusName}

def RepliedBy (peer : BusName) (reply : Message) : Prop :=
  reply.header.sender.getD peer = peer

theorem busName_ne_of_unique (unique : peer.isUnique = true) : peer ≠ busName := by
  rintro rfl
  rw [busName_not_unique] at unique
  cases unique

theorem callTarget_of_unique (unique : peer.isUnique = true) (named : Bool) :
    callTarget named (some peer) = .responder peer := by
  unfold callTarget
  dsimp only
  rw [if_neg (busName_ne_of_unique unique), if_pos unique]

variable {message : Message}

theorem waiter_of_unique (unique : peer.isUnique = true)
    (addressed : message.header.destination = some peer) (named direct : Bool) :
    message.waiter named direct =
      ⟨some peer, false, message.header.confidential, direct⟩ := by
  have other : decide (message.header.destination = some busName) = false := by
    rw [addressed, decide_eq_false_iff_not]
    exact fun same => busName_ne_of_unique unique (Option.some.inj same)
  unfold Message.waiter
  rw [other, addressed, callTarget_of_unique unique]

theorem repliedBy_of_accepts {confidential direct brokered : Bool} {reply : Message}
    (answer : reply.header.kind ≠ .error)
    (accepted : (⟨some peer, false, confidential, direct⟩ : PendingReply).accepts reply
      brokered = true) : RepliedBy peer reply := by
  unfold PendingReply.accepts at accepted
  rw [Bool.and_eq_true] at accepted
  have identity := accepted.1
  unfold PendingReply.identityMatches at identity
  simp only [Bool.false_eq_true, if_false, Bool.or_eq_true, Bool.and_eq_true, beq_iff_eq]
    at identity
  unfold RepliedBy
  rcases identity with (sender | ⟨failed, _⟩) | ⟨_, nobody⟩
  · rw [sender]
    rfl
  · exact absurd failed answer
  · rw [Option.isNone_iff_eq_none.mp nobody]
    rfl

theorem exchange_addresses (unique : peer.isUnique = true)
    (addressed : message.header.destination = some peer) :
    (exchange message).Addresses peer
      (fun answer => ∀ reply, answer = .ok reply → RepliedBy peer reply) := by
  refine ⟨?_, ?_⟩
  · rintro sent ⟨⟩
    exact addressed
  · rintro answer believed reply rfl
    obtain ⟨result, named, direct, brokered, accepted⟩ := believed
    rw [waiter_of_unique unique addressed] at accepted
    exact repliedBy_of_accepts result accepted

theorem transmit_addresses (unique : peer.isUnique = true)
    (addressed : message.header.destination = some peer) :
    (transmit message).Addresses peer (RepliedBy peer) := by
  have drawn : drawSerial.Addresses peer (fun _ => True) :=
    ⟨Request.goesTo_of_silent rfl, fun _ _ => trivial⟩
  unfold transmit
  refine drawn.andThen ?_
  intro serial _
  have numbered : (message.numbered serial).header.destination = some peer := addressed
  refine (exchange_addresses unique numbered).andThen ?_
  intro answer replied
  exact Dialogue.Ensures.ofExcept replied

theorem address_addresses (unique : peer.isUnique = true)
    (addressed : message.header.destination = some peer) (named : Bool) :
    (address message named).Addresses peer (RepliedBy peer) := by
  unfold address
  rw [addressed, callTarget_of_unique unique]
  exact transmit_addresses unique addressed

theorem callRawMessage_addresses (unique : peer.isUnique = true)
    (addressed : message.header.destination = some peer) :
    (callRawMessage message).Addresses peer (RepliedBy peer) := by
  have checked : Addresses peer (fun _ => True)
      (Dialogue.ofExcept (Client.checkCall message)) :=
    Dialogue.Ensures.ofExcept (fun _ _ => trivial)
  have known : uniqueName.Addresses peer (fun _ => True) :=
    ⟨Request.goesTo_of_silent rfl, fun _ _ => trivial⟩
  unfold callRawMessage
  refine checked.andThen ?_
  intro _ _
  refine known.andThen ?_
  intro name _
  exact address_addresses unique addressed name.isSome

theorem callRaw_addresses (unique : peer.isUnique = true)
    (addressed : message.header.destination = some peer) :
    (callRaw message).Addresses peer (fun _ => True) := by
  unfold callRaw
  exact (callRawMessage_addresses unique addressed).andThen (fun _ _ => trivial)

theorem callStreamMember_addresses (unique : peer.isUnique = true) (member : MemberName)
    (args : Value) : (callStreamMember peer member args).Addresses peer (RepliedBy peer) :=
  callRawMessage_addresses unique rfl

theorem openStream_addresses (unique : peer.isUnique = true) (descriptor : StreamDescriptor) :
    (openStream peer descriptor).Addresses peer
      (fun writer => writer.destination = peer) := by
  unfold openStream
  refine (callStreamMember_addresses unique _ _).andThen ?_
  intro reply replied
  have decoded : Addresses peer (fun _ => True)
      (Dialogue.ofExcept ((Decoder.string reply.body).mapError .json)) :=
    Dialogue.Ensures.ofExcept (fun _ _ => trivial)
  exact decoded.andThen (fun _ _ => replied)

namespace StreamWriter

variable {writer : StreamWriter}

theorem writeChunk_addresses (unique : peer.isUnique = true)
    (opened : writer.destination = peer) (chunk : Chunk) :
    (writer.writeChunk chunk).Addresses peer (fun after => after.destination = peer) := by
  subst opened
  unfold writeChunk
  split
  · trivial
  · exact (callStreamMember_addresses unique _ _).andThen (fun _ _ => rfl)

theorem writeChunks_addresses (unique : peer.isUnique = true)
    (opened : writer.destination = peer) (chunks : List Chunk) :
    (writer.writeChunks chunks).Addresses peer (fun after => after.destination = peer) := by
  induction chunks generalizing writer with
  | nil => exact opened
  | cons chunk rest ih =>
      unfold writeChunks
      exact (writeChunk_addresses unique opened chunk).andThen (fun _ kept => ih kept)

theorem finish_addresses (unique : peer.isUnique = true)
    (opened : writer.destination = peer) :
    writer.finish.Addresses peer (fun _ => True) := by
  subst opened
  unfold finish
  exact (callStreamMember_addresses unique _ _).andThen (fun _ _ => trivial)

end StreamWriter

theorem callWithStream_addresses (unique : peer.isUnique = true) (path : ObjectPath)
    (interface : InterfaceName) (member : MemberName) (args : StreamRef → Value)
    (bytes : Chunk) (turns : List Bool) :
    (callWithStream peer path interface member args bytes turns).Addresses peer
      (fun _ => True) := by
  unfold callWithStream
  refine (openStream_addresses unique _).andThen ?_
  intro writer opened
  have called : (callRaw (Message.methodCall writer.destination path interface member
      (toBody (args writer.streamRef)))).Addresses peer (fun _ => True) :=
    callRaw_addresses unique (congrArg some opened)
  have transferred : (writer.write bytes >>= fun written => written.finish).Addresses peer
      (fun _ => True) :=
    (StreamWriter.writeChunks_addresses unique opened _).andThen
      (fun _ kept => StreamWriter.finish_addresses unique kept)
  exact (called.together turns transferred).andThen (fun _ _ => trivial)

end Sending

theorem Proxy.invoke_addresses {proxy : Proxy} (unique : proxy.destination.isUnique = true)
    (member : String) (args : Value) (confidential : Bool) :
    (proxy.invoke member args confidential).Addresses proxy.destination (fun _ => True) := by
  have parsed : Sending.Addresses proxy.destination (fun _ => True)
      (Dialogue.ofExcept ((MemberName.new member).mapError Error.invalidName)) :=
    Dialogue.Ensures.ofExcept (fun _ _ => trivial)
  have program : Sending.Addresses proxy.destination (fun _ => True)
      (do
        let member ← Dialogue.ofExcept ((MemberName.new member).mapError Error.invalidName)
        if confidential then
          Sending.callConfidential proxy.destination proxy.path proxy.interface member args
        else Sending.call proxy.destination proxy.path proxy.interface member args) := by
    refine parsed.andThen ?_
    intro member _
    cases confidential with
    | true => exact Sending.callRaw_addresses unique rfl
    | false => exact Sending.callRaw_addresses unique rfl
  unfold Proxy.invoke
  exact program.attempt.bind (fun _ _ => trivial)

variable {client : BoundModuleClient}

theorem BoundModuleClient.callWithStream_addresses
    (unique : client.proxy.destination.isUnique = true) (member : String) (args : StreamRef → Value)
    (bytes : Chunk) (turns : List Bool) :
    (client.callWithStream member args bytes turns).Addresses client.proxy.destination
      (fun _ => True) := by
  have parsed : Sending.Addresses client.proxy.destination (fun _ => True)
      (Dialogue.ofExcept ((MemberName.new member).mapError Error.invalidName)) :=
    Dialogue.Ensures.ofExcept (fun _ _ => trivial)
  unfold BoundModuleClient.callWithStream
  refine parsed.andThen ?_
  intro member _
  exact Sending.callWithStream_addresses unique _ _ member args bytes turns

inductive BoundModuleClient.Derives (client : BoundModuleClient) : ModuleObjectClient → Prop
  | object {path : String} {object : ModuleObjectClient} :
      client.objectClient path = .ok object → Derives client object
  | sibling {object other : ModuleObjectClient} {path : String} :
      Derives client object → object.objectAt path = .ok other → Derives client other
  | pinned {object other : ModuleObjectClient} {router : Router} :
      Derives client object → Router.brokered.Reachable router →
        object.pinOwner (.ok (router.ownerOf object.proxy.destination)) = .ok other →
          Derives client other

theorem ModuleObjectClient.derive_destination {object other : ModuleObjectClient}
    {destination : BusName} {path : String}
    (derived : object.derive destination.text path = .ok other) :
    other.proxy.destination = destination := by
  unfold ModuleObjectClient.derive at derived
  dsimp only at derived
  split at derived
  · cases derived
  · rename_i proxy parsed
    cases derived
    have same : proxy.destination = destination := Proxy.parse_destination parsed
    exact same

theorem Router.ownerOf_unique {router : Router} (reached : Router.brokered.Reachable router)
    {name owner : BusName} (unique : name.isUnique = true)
    (owned : router.ownerOf name = some owner) : owner = name := by
  have consistent := Router.brokered_consistent reached
  rw [consistent.ownerOf_eq, Option.map_eq_some_iff] at owned
  obtain ⟨id, held, rfl⟩ := owned
  exact (consistent.uniqueOwner name id held unique).symm

theorem BoundModuleClient.Derives.destination {object : ModuleObjectClient}
    (unique : client.proxy.destination.isUnique = true) (derives : client.Derives object) :
    object.proxy.destination = client.proxy.destination := by
  induction derives with
  | @object path object made =>
      unfold BoundModuleClient.objectClient at made
      split at made
      · cases made
      · rename_i proxy parsed
        cases made
        have same : proxy.destination = client.proxy.destination :=
          Proxy.parse_destination parsed
        dsimp only
        cases client.timeout with
        | none => exact same
        | some timeout => exact same
  | @sibling object other path _ made ih =>
      rw [← ih]
      exact ModuleObjectClient.derive_destination made
  | @pinned object other router _ reached made ih =>
      rw [← ih]
      unfold ModuleObjectClient.pinOwner at made
      split at made
      · cases made
      · cases made
      · rename_i owner answer
        have owned := Router.ownerOf_unique reached (ih ▸ unique) (Except.ok.inj answer)
        rw [ModuleObjectClient.derive_destination made, owned]

/-- A client that keeps to one unique peer, with every object of it. -/
structure BoundModuleClient.Keeps (client : BoundModuleClient) (peer : BusName) : Prop where
  unique : peer.isUnique = true
  nobodyElse : ∀ router, Router.brokered.Reachable router → ∀ owner,
    router.ownerOf peer = some owner → owner = peer
  calls : ∀ member args, (client.callDetailed member args).Addresses peer (fun _ => True)
  confidentialCalls : ∀ member args,
    (client.callConfidentialDetailed member args).Addresses peer (fun _ => True)
  streamedCalls : ∀ member args bytes turns,
    (client.callWithStream member args bytes turns).Addresses peer (fun _ => True)
  objects : ∀ object, client.Derives object → object.proxy.destination = peer ∧
    (∀ member args, (object.callDetailed member args).Addresses peer (fun _ => True)) ∧
    ∀ member args, (object.callConfidential member args).Addresses peer (fun _ => True)

theorem BoundModuleClient.keeps_of_unique (unique : client.proxy.destination.isUnique = true) :
    client.Keeps client.proxy.destination where
  unique := unique
  nobodyElse := fun _ reached _ owned => Router.ownerOf_unique reached unique owned
  calls := fun member args => Proxy.invoke_addresses unique member args false
  confidentialCalls := fun member args => Proxy.invoke_addresses unique member args true
  streamedCalls := BoundModuleClient.callWithStream_addresses unique
  objects := by
    intro object derives
    have same := derives.destination unique
    rw [← same] at unique ⊢
    exact ⟨rfl, fun member args => Proxy.invoke_addresses unique member args false,
      fun member args => Proxy.invoke_addresses unique member args true⟩

end TinyBus
