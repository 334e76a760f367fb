/-
Every way in which a connection sends, and whether a private message with a
stream handle can leave through it.  Every call is checked before it is sent; a
ready message and the reply to a confidential call are not.
-/

import TinyBus.StreamHandles

namespace TinyBus

open Sending

/-- The public ways to send, with what they are given, and the serving of a call. -/
inductive SendingPath where
  | call (destination : BusName) (path : ObjectPath) (interface : InterfaceName)
      (member : MemberName) (args : Value)
  | callConfidential (destination : BusName) (path : ObjectPath)
      (interface : InterfaceName) (member : MemberName) (args : Value)
  | callSensitive (destination : BusName) (path : ObjectPath)
      (interface : InterfaceName) (member : MemberName) (args : Value)
  | callStreaming (destination : BusName) (path : ObjectPath)
      (interface : InterfaceName) (member : MemberName) (args : Value)
  | callRaw (message : Message)
  | callBus (member : MemberName) (args : Value)
  | callBusSensitive (member : MemberName) (args : Value)
  | openStream (destination : BusName) (descriptor : StreamDescriptor)
  | write (writer : StreamWriter) (bytes : Chunk)
  | finish (writer : StreamWriter)
  | abort (writer : StreamWriter)
  | callWithStream (destination : BusName) (path : ObjectPath)
      (interface : InterfaceName) (member : MemberName) (args : StreamRef → Value)
      (bytes : Chunk) (turns : List Bool)
  | emit (path : ObjectPath) (interface : InterfaceName) (member : MemberName)
      (body : Value)
  | emitTo (destination : BusName) (path : ObjectPath) (interface : InterfaceName)
      (member : MemberName) (body : Value)
  | tryEmit (path : ObjectPath) (interface : InterfaceName) (member : MemberName)
      (body : Value)
  | send (message : Message)
  | trySend (message : Message)
  | serve (service : Service) (header : Header) (body : Value)

namespace SendingPath

/-- What a path does, its result aside. -/
def program : SendingPath → Sending Unit
  | call destination path interface member args => do
      let _ ← Sending.call destination path interface member args
      return ()
  | callConfidential destination path interface member args => do
      let _ ← Sending.callConfidential destination path interface member args
      return ()
  | callSensitive destination path interface member args => do
      let _ ← Sending.callSensitive destination path interface member args
      return ()
  | callStreaming destination path interface member args => do
      let _ ← Sending.callStreaming destination path interface member args
      return ()
  | callRaw message => do
      let _ ← Sending.callRaw message
      return ()
  | callBus member args => do
      let _ ← Sending.callBus member args
      return ()
  | callBusSensitive member args => do
      let _ ← Sending.callBusSensitive member args
      return ()
  | openStream destination descriptor => do
      let _ ← Sending.openStream destination descriptor
      return ()
  | write writer bytes => do
      let _ ← writer.write bytes
      return ()
  | finish writer => do
      let _ ← writer.finish
      return ()
  | abort writer => writer.abort
  | callWithStream destination path interface member args bytes turns => do
      let _ ← Sending.callWithStream destination path interface member args bytes turns
      return ()
  | emit path interface member body => Sending.emit path interface member body
  | emitTo destination path interface member body =>
      Sending.emitTo destination path interface member body
  | tryEmit path interface member body => Sending.tryEmit path interface member body
  | send message => Sending.send message
  | trySend message => Sending.trySend message
  | serve service header body => handleCall service header body

def Puts (path : SendingPath) (message : Message) : Prop :=
  ∃ request, path.program.Asks request ∧ request.message = some message

/-- The message that the path is to send, or the reply it has to give, is private
and carries a handle. -/
def Offends : SendingPath → Prop
  | callRaw message => ¬ message.Guarded
  | callConfidential _ _ _ _ args => (toBody args).CarriesHandle
  | callSensitive _ _ _ _ args => (toBody args).CarriesHandle
  | callBusSensitive _ args => args.CarriesHandle
  | send message => ¬ message.Guarded
  | trySend message => ¬ message.Guarded
  | serve service header body =>
      header.confidential = true ∧
        ∃ value, service.Returns header body value ∧ value.CarriesHandle
  | _ => False

/-- No private message with a handle leaves, and what would be one is refused or
gives way to an error. -/
structure Upholds (path : SendingPath) : Prop where
  guarded : ∀ message, path.Puts message → message.Guarded
  refused : path.Offends → ∀ message, path.Puts message → message.header.kind = .error

/-- A ready message is refused for another reason or is not private with a handle;
a served call is not confidential, asked for a streamed reply, or no object returns
a handle for it.  Every other path is let through. -/
def Permitted : SendingPath → Prop
  | send message => message.validate = .ok () → message.Guarded
  | trySend message => message.validate = .ok () → message.Guarded
  | serve service header body =>
      header.confidential = true → header.streamReply = false →
        ∀ value, service.Returns header body value → ¬ value.CarriesHandle
  | _ => True

theorem puts_iff {path : SendingPath} {property : Message → Prop} :
    (∀ message, path.Puts message → property message) ↔
      path.program.Only (fun request => ∀ message, request.message = some message →
        property message) := by
  rw [Dialogue.only_iff]
  constructor
  · intro every request asks message carried
    exact every message ⟨request, asks, carried⟩
  · rintro every message ⟨request, asks, carried⟩
    exact every request asks message carried

end SendingPath

namespace Sending

variable {service : Service}

theorem handleCall_guarded {header : Header} {body : Value}
    (permitted : (SendingPath.serve service header body).Permitted) :
    (handleCall service header body).Only Request.Guarded := by
  have failed : ∀ error, ((do
      let _ ← sendReply (.errorReply header error)
      return ()) : Sending Unit).Only Request.Guarded :=
    fun error => (sendReply_guarded (errorReply_guarded header error)).andThen
      (fun _ _ => trivial)
  unfold handleCall
  by_cases both : (header.streamReply && header.confidential) = true
  · rw [if_pos both]
    exact failed _
  · rw [if_neg both]
    apply (dispatch_silent service header body (fun _ => .silent)).andThen
    intro result returns
    cases result with
    | error error => exact failed error
    | ok value =>
        dsimp only
        split
        · rename_i streamed
          have plain : header.confidential = false := by
            rw [streamed, Bool.true_and, Bool.not_eq_true] at both
            exact both
          apply (sendStreamedReply_guarded service value plain).attempt.andThen
          intro outcome _
          cases outcome with
          | ok _ => trivial
          | error error => exact failed error
        · rename_i ordinary
          rw [Bool.not_eq_true] at ordinary
          have guarded : (Message.methodReturn header value).Guarded := by
            intro flagged
            have confidential : header.confidential = true := by
              rwa [show ((Message.methodReturn header value).header.confidential ||
                (Message.methodReturn header value).header.sensitive) =
                  header.confidential from Bool.or_false _] at flagged
            rcases dispatch_returns returns with returned | plain
            · exact permitted confidential ordinary value returned
            · exact plain
          exact (sendReply_guarded guarded).andThen (fun _ _ => trivial)

theorem handleCall_refuses {header : Header} (body : Value)
    (both : (header.streamReply && header.confidential) = true) :
    (handleCall service header body).Only (fun request =>
      ∀ message, request.message = some message → message.header.kind = .error) := by
  unfold handleCall
  rw [if_pos both]
  refine ⟨fun message carried => (nomatch carried), fun serial => ⟨?_, fun _ => trivial⟩⟩
  intro message carried
  cases carried
  rfl

theorem handleCall_eq {header : Header} {body value : Value} (ordinary : header.streamReply = false)
    (returned : service.Returns header body value) :
    handleCall service header body = (do
      let _ ← sendReply (.methodReturn header value)
      return ()) := by
  have inner : (header.streamReply && header.confidential) = false := by
    rw [ordinary, Bool.false_and]
  unfold handleCall
  rw [if_neg (by rw [inner]; decide), dispatch_eq returned]
  change (if header.streamReply then _ else _) = _
  rw [if_neg (by rw [ordinary]; decide)]

theorem handOver_asks {message : Message} (valid : message.validate = .ok ()) :
    (handOver message).Asks (.post (message.numbered 1)) := by
  have checked : (message.numbered 1).validate = .ok () := valid
  refine .later (1 : Nat) ?_
  change ((Dialogue.ofExcept (message.numbered 1).validate).bind _).Asks _
  rw [checked]
  exact .here

theorem handleCall_asks {header : Header} {body value : Value}
    (ordinary : header.streamReply = false) (returned : service.Returns header body value) :
    (handleCall service header body).Asks
      (.post ((Message.methodReturn header value).numbered 1)) := by
  rw [handleCall_eq ordinary returned]
  exact .later (1 : Nat) .here

theorem callRaw_refuses {message : Message} (offending : ¬ message.Guarded)
    {admits : Request → Prop} : (Sending.callRaw message).Only admits := by
  obtain ⟨refusal, refused⟩ := Client.checkCall_refuses offending
  unfold Sending.callRaw callRawMessage
  rw [refused]
  trivial

theorem handOver_refuses {message : Message} (invalid : message.validate ≠ .ok ())
    {admits : Request → Prop} (silent : ∀ request, request.message = none → admits request) :
    (handOver message).Only admits := by
  refine ⟨silent _ rfl, fun serial => ?_⟩
  change ((Dialogue.ofExcept message.validate).bind _).Only admits
  cases checked : message.validate with
  | ok accepted => exact absurd checked invalid
  | error refusal => trivial

end Sending

namespace SendingPath

theorem program_guarded {path : SendingPath} (permitted : path.Permitted) :
    path.program.Only Request.Guarded := by
  cases path with
  | call destination path interface member args =>
      exact (callRaw_guarded _).andThen (fun _ _ => trivial)
  | callConfidential destination path interface member args =>
      exact (callRaw_guarded _).andThen (fun _ _ => trivial)
  | callSensitive destination path interface member args =>
      exact (callRaw_guarded _).andThen (fun _ _ => trivial)
  | callStreaming destination path interface member args =>
      exact (callRawMessage_guarded _).andThen (fun _ _ => trivial)
  | callRaw message => exact (callRaw_guarded _).andThen (fun _ _ => trivial)
  | callBus member args => exact (callRaw_guarded _).andThen (fun _ _ => trivial)
  | callBusSensitive member args => exact (callRaw_guarded _).andThen (fun _ _ => trivial)
  | openStream destination descriptor =>
      exact (openStream_guarded _ _).andThen (fun _ _ => trivial)
  | write writer bytes => exact (writeChunks_guarded _ _).andThen (fun _ _ => trivial)
  | finish writer => exact (finish_guarded _).andThen (fun _ _ => trivial)
  | abort writer => exact abort_guarded writer
  | callWithStream destination path interface member args bytes turns =>
      exact (callWithStream_guarded _ _ _ _ _ _ _).andThen (fun _ _ => trivial)
  | emit path interface member body => exact handOver_guarded (fun _ => .of_open rfl rfl)
  | emitTo destination path interface member body =>
      exact handOver_guarded (fun _ => .of_open rfl rfl)
  | tryEmit path interface member body =>
      exact handOver_guarded (fun _ => .of_open rfl rfl)
  | send message => exact handOver_guarded permitted
  | trySend message => exact handOver_guarded permitted
  | serve service header body => exact handleCall_guarded permitted

theorem program_refuses {path : SendingPath} (permitted : path.Permitted)
    (offends : path.Offends) :
    path.program.Only (fun request =>
      ∀ message, request.message = some message → message.header.kind = .error) := by
  have silent : ∀ request : Request, request.message = none →
      ∀ message, request.message = some message → message.header.kind = .error := by
    intro request none message some
    rw [none] at some
    cases some
  cases path with
  | callConfidential destination path interface member args =>
      have offending : ¬ (Message.confidentialCall destination path interface member (toBody args)).Guarded :=
        fun guarded => guarded rfl offends
      exact (callRaw_refuses offending).andThen (fun _ _ => trivial)
  | callSensitive destination path interface member args =>
      have offending : ¬ (Message.sensitiveControlCall destination path interface member
          (toBody args)).Guarded :=
        fun guarded => guarded rfl offends
      exact (callRaw_refuses offending).andThen (fun _ _ => trivial)
  | callRaw message => exact (callRaw_refuses offends).andThen (fun _ _ => trivial)
  | callBusSensitive member args =>
      have offending :
          ¬ (Message.sensitiveControlCall busName busPath busInterface member args).Guarded :=
        fun guarded => guarded rfl offends
      exact (callRaw_refuses offending).andThen (fun _ _ => trivial)
  | send message =>
      exact handOver_refuses (fun valid => offends (permitted valid)) silent
  | trySend message =>
      exact handOver_refuses (fun valid => offends (permitted valid)) silent
  | serve service header body =>
      obtain ⟨confidential, value, returned, carries⟩ := offends
      by_cases ordinary : header.streamReply = false
      · exact absurd carries (permitted confidential ordinary value returned)
      · rw [Bool.not_eq_false] at ordinary
        exact handleCall_refuses body (by rw [ordinary, confidential]; rfl)
  | _ => cases offends

theorem Upholds.permitted {path : SendingPath} (upholds : path.Upholds) :
    path.Permitted := by
  cases path with
  | send message =>
      intro valid
      exact upholds.guarded (message.numbered 1) ⟨_, handOver_asks valid, rfl⟩
  | trySend message =>
      intro valid
      exact upholds.guarded (message.numbered 1) ⟨_, handOver_asks valid, rfl⟩
  | serve service header body =>
      intro confidential ordinary value returned
      have guarded := upholds.guarded ((Message.methodReturn header value).numbered 1)
        ⟨_, handleCall_asks ordinary returned, rfl⟩
      apply guarded
      change (header.confidential || false) = true
      rw [confidential]
      rfl
  | _ => trivial

theorem upholds_iff (path : SendingPath) : path.Upholds ↔ path.Permitted := by
  constructor
  · exact Upholds.permitted
  · intro permitted
    exact ⟨puts_iff.mpr (program_guarded permitted),
      fun offends => puts_iff.mpr (program_refuses permitted offends)⟩

def upload : StreamRef := ⟨"s1", none, none⟩

/-- A confidential call made ready by hand, and sent without a reply. -/
def sealedUpload : Message :=
  .confidentialCall ⟨"org.example.Store", by rfl⟩ .root storeInterface ⟨"Put", by rfl⟩
    (.array [upload.toValue])

def storing : Service :=
  { invoke := fun _ _ _ _ _ => .ok upload.toValue
    encode := fun _ => [] }

theorem upload_carried : upload.toValue.CarriesHandle :=
  ⟨upload, upload.fields, .refl _, .here⟩

/-- Both a ready message and the reply to a confidential call take a handle along. -/
theorem handle_leaves :
    ¬ (SendingPath.send sealedUpload).Upholds ∧
      ¬ (SendingPath.serve storing sealedUpload.header sealedUpload.body).Upholds := by
  have carried : sealedUpload.body.CarriesHandle :=
    ⟨upload, upload.fields, .refl _, .item (List.mem_singleton_self _) .here⟩
  have returned : storing.Returns sealedUpload.header sealedUpload.body upload.toValue :=
    ⟨by decide, _, _, _, rfl, rfl, rfl, rfl⟩
  constructor
  · intro upholds
    exact upholds.permitted rfl rfl carried
  · intro upholds
    exact upholds.permitted rfl rfl _ returned upload_carried

end SendingPath

end TinyBus
