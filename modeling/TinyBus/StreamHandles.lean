/-
Private bodies and stream handles.  The bytes of a stream travel unflagged, so
no private message may carry the handle of one, however deep in its body.  The
programs below are looked at for what they send.
-/

import TinyBus.SendingPaths

namespace TinyBus

/-- A value is found at some depth of another. -/
inductive Value.Within (inner : Value) : Value → Prop
  | here : Within inner inner
  | item {items : List Value} {item : Value} : item ∈ items → Within inner item →
      Within inner (.array items)
  | field {fields : List (String × Value)} {key : String} {value : Value} :
      (key, value) ∈ fields → Within inner value → Within inner (.object fields)

/-- Some value in the body is a stream handle as it is written, its fields in
whatever order. -/
def Value.CarriesHandle (body : Value) : Prop :=
  ∃ (handle : StreamRef) (fields : List (String × Value)),
    fields.Perm handle.fields ∧ (Value.object fields).Within body

theorem Value.field?_of_mem {fields : List (String × Value)} {key : String}
    {value : Value} (distinct : (fields.map Prod.fst).Nodup)
    (member : (key, value) ∈ fields) : Value.field? fields key = some value := by
  induction fields with
  | nil => cases member
  | cons first rest ih =>
      rw [List.map_cons, List.nodup_cons] at distinct
      unfold Value.field?
      rcases List.mem_cons.mp member with rfl | later
      · rw [List.find?_cons_of_pos (by simp)]
        rfl
      · have different : (first.1 == key) = false := by
          rw [beq_eq_false_iff_ne]
          intro same
          exact distinct.1 (same ▸ List.mem_map_of_mem later)
        rw [List.find?_cons_of_neg (by simp [different])]
        exact ih distinct.2 later

theorem Value.mem_of_field? {fields : List (String × Value)} {key : String}
    {value : Value} (found : Value.field? fields key = some value) :
    (key, value) ∈ fields := by
  unfold Value.field? at found
  obtain ⟨entry, located, rfl⟩ := Option.map_eq_some_iff.mp found
  have named := List.find?_some located
  rw [beq_iff_eq] at named
  rw [← named]
  exact List.mem_of_find?_eq_some located

namespace StreamRef

theorem fields_distinct (handle : StreamRef) : (handle.fields.map Prod.fst).Nodup := by
  rcases handle with ⟨id, contentType, len⟩
  cases contentType with
  | none => cases len with
    | none => simp [fields]
    | some len => simp [fields]
  | some text => cases len with
    | none => simp [fields]
    | some len => simp [fields]

theorem mem_fields {handle : StreamRef} {key : String} {value : Value}
    (member : (key, value) ∈ handle.fields) :
    (key = "id" ∧ value = .string handle.id) ∨
      (key = "content_type" ∧ ∃ text, value = .string text) ∨
        (key = "len" ∧ ∃ len, value = .number (.posInt len)) := by
  simp only [fields, List.mem_cons, List.mem_append, List.mem_map, Prod.mk.injEq] at member
  rcases member with ⟨named, same⟩ | ⟨text, _, named, same⟩ | ⟨len, _, named, same⟩
  · exact .inl ⟨named, same⟩
  · exact .inr (.inl ⟨named.symm, text, same.symm⟩)
  · exact .inr (.inr ⟨named.symm, len, same.symm⟩)

theorem shape {handle : StreamRef} {fields : List (String × Value)}
    (written : fields.Perm handle.fields) : streamRefShape fields = true := by
  have distinct : (fields.map Prod.fst).Nodup :=
    (written.map Prod.fst).nodup_iff.mpr handle.fields_distinct
  have kind : ∀ key value, Value.field? fields key = some value →
      (key = "id" ∧ value = .string handle.id) ∨
        (key = "content_type" ∧ ∃ text, value = .string text) ∨
          (key = "len" ∧ ∃ len, value = .number (.posInt len)) :=
    fun key value found => mem_fields (written.subset (Value.mem_of_field? found))
  have named : Value.field? fields "id" = some (.string handle.id) :=
    Value.field?_of_mem distinct (written.symm.subset (List.mem_cons_self ..))
  unfold streamRefShape
  rw [Bool.and_eq_true, Bool.and_eq_true, Bool.and_eq_true]
  refine ⟨⟨⟨?_, ?_⟩, ?_⟩, ?_⟩
  · rw [List.all_eq_true]
    rintro ⟨key, value⟩ member
    rcases mem_fields (written.subset member) with ⟨rfl, _⟩ | ⟨rfl, _⟩ | ⟨rfl, _⟩
    · simp
    · simp
    · simp
  · rw [named]
    rfl
  · cases found : Value.field? fields "content_type" with
    | none => rfl
    | some value =>
        rcases kind _ _ found with ⟨wrong, _⟩ | ⟨_, text, rfl⟩ | ⟨wrong, _⟩
        · exact absurd wrong (by decide)
        · rfl
        · exact absurd wrong (by decide)
  · cases found : Value.field? fields "len" with
    | none => rfl
    | some value =>
        rcases kind _ _ found with ⟨wrong, _⟩ | ⟨wrong, _⟩ | ⟨_, len, rfl⟩
        · exact absurd wrong (by decide)
        · exact absurd wrong (by decide)
        · rfl

end StreamRef

theorem itemsContainStreamRef_of_mem {items : List Value} {item : Value}
    (member : item ∈ items) (contains : bodyContainsStreamRef item = true) :
    itemsContainStreamRef items = true := by
  induction items with
  | nil => cases member
  | cons first rest ih =>
      rw [itemsContainStreamRef, Bool.or_eq_true]
      rcases List.mem_cons.mp member with rfl | later
      · exact .inl contains
      · exact .inr (ih later)

theorem fieldsContainStreamRef_of_mem {fields : List (String × Value)} {key : String}
    {value : Value} (member : (key, value) ∈ fields)
    (contains : bodyContainsStreamRef value = true) :
    fieldsContainStreamRef fields = true := by
  induction fields with
  | nil => cases member
  | cons first rest ih =>
      rcases first with ⟨name, held⟩
      rw [fieldsContainStreamRef, Bool.or_eq_true]
      rcases List.mem_cons.mp member with same | later
      · cases same
        exact .inl contains
      · exact .inr (ih later)

theorem bodyContainsStreamRef_of_carries {body : Value} (carries : body.CarriesHandle) :
    bodyContainsStreamRef body = true := by
  obtain ⟨handle, fields, written, within⟩ := carries
  induction within with
  | here =>
      rw [bodyContainsStreamRef, StreamRef.shape written]
      rfl
  | item member _ ih =>
      rw [bodyContainsStreamRef]
      exact itemsContainStreamRef_of_mem member ih
  | field member _ ih =>
      rw [bodyContainsStreamRef, fieldsContainStreamRef_of_mem member ih, Bool.or_true]

/-- A message marked confidential or sensitive has no handle in its body. -/
def Message.Guarded (message : Message) : Prop :=
  (message.header.confidential || message.header.sensitive) = true →
    ¬ message.body.CarriesHandle

variable {message : Message}

theorem Message.Guarded.of_open (confidential : message.header.confidential = false)
    (sensitive : message.header.sensitive = false) : message.Guarded := by
  intro flagged
  rw [confidential, sensitive] at flagged
  cases flagged

theorem Client.guarded_of_checkCall (checked : Client.checkCall message = .ok ()) :
    message.Guarded := by
  intro flagged carries
  have found := bodyContainsStreamRef_of_carries carries
  unfold Client.checkCall at checked
  simp only [flagged, found, Bool.and_true, if_true] at checked
  split at checked
  · cases checked
  · split at checked
    · cases checked
    · cases checked

theorem Client.checkCall_refuses (offending : ¬ message.Guarded) :
    ∃ refusal, Client.checkCall message = .error refusal := by
  cases checked : Client.checkCall message with
  | error refusal => exact ⟨refusal, rfl⟩
  | ok accepted => exact absurd (Client.guarded_of_checkCall checked) offending

def Request.Guarded (request : Request) : Prop :=
  ∀ message, request.message = some message → message.Guarded

theorem Request.Guarded.carrying {request : Request} (carried : request.message = some message)
    (guarded : message.Guarded) :
    request.Guarded := by
  intro other same
  rw [carried] at same
  cases same
  exact guarded

theorem Request.Guarded.silent {request : Request} (silent : request.message = none) :
    request.Guarded := by
  intro other same
  rw [silent] at same
  cases same

namespace Sending

theorem transmit_guarded {message : Message} (guarded : message.Guarded) :
    (transmit message).Only Request.Guarded := by
  refine ⟨.silent rfl, fun serial => ⟨.carrying rfl guarded, fun reply => ?_⟩⟩
  exact .ofExcept reply

theorem callBusWithTimeout_guarded (member : MemberName) (body : Value) :
    (callBusWithTimeout member body).Only Request.Guarded := by
  apply Dialogue.Only.andThen (.ofExcept _)
  intro _ _
  have plain : (Client.busCall member body).Guarded := .of_open rfl rfl
  exact (transmit_guarded plain).andThen (fun _ _ => trivial)

theorem resolveCallTarget_guarded (destination : BusName) :
    (resolveCallTarget destination).Only Request.Guarded :=
  (callBusWithTimeout_guarded _ _).andThen (fun _ _ => .ofExcept _)

theorem address_guarded {message : Message} (guarded : message.Guarded) (named : Bool) :
    (address message named).Only Request.Guarded := by
  unfold address
  split
  · rename_i destination _
    apply (resolveCallTarget_guarded destination).andThen
    intro owner _
    split
    · trivial
    · split
      · trivial
      · exact transmit_guarded guarded
  · exact transmit_guarded guarded

theorem callRawMessage_guarded (message : Message) :
    (callRawMessage message).Only Request.Guarded := by
  apply Dialogue.Only.andThen (.ofExcept _)
  intro _ returns
  have guarded := Client.guarded_of_checkCall returns.ofExcept
  exact ⟨.silent rfl, fun name => address_guarded guarded name.isSome⟩

theorem callRaw_guarded (message : Message) : (callRaw message).Only Request.Guarded :=
  (callRawMessage_guarded message).andThen (fun _ _ => trivial)

theorem openStream_guarded (destination : BusName) (descriptor : StreamDescriptor) :
    (openStream destination descriptor).Only Request.Guarded := by
  apply (callRawMessage_guarded _).andThen
  intro reply _
  exact (Dialogue.Only.ofExcept _).andThen (fun _ _ => trivial)

theorem writeChunk_guarded (writer : StreamWriter) (chunk : Chunk) :
    (writer.writeChunk chunk).Only Request.Guarded := by
  unfold StreamWriter.writeChunk
  split
  · trivial
  · exact (callRawMessage_guarded _).andThen (fun _ _ => trivial)

theorem writeChunks_guarded (writer : StreamWriter) (chunks : List Chunk) :
    (writer.writeChunks chunks).Only Request.Guarded := by
  induction chunks generalizing writer with
  | nil => trivial
  | cons chunk rest ih =>
      exact (writeChunk_guarded writer chunk).andThen (fun written _ => ih written)

theorem finish_guarded (writer : StreamWriter) : writer.finish.Only Request.Guarded :=
  (callRawMessage_guarded _).andThen (fun _ _ => trivial)

theorem abort_guarded (writer : StreamWriter) : writer.abort.Only Request.Guarded :=
  (callRawMessage_guarded _).andThen (fun _ _ => trivial)

theorem callWithStream_guarded (destination : BusName) (path : ObjectPath)
    (interface : InterfaceName) (member : MemberName) (args : StreamRef → Value)
    (bytes : Chunk) (turns : List Bool) :
    (callWithStream destination path interface member args bytes turns).Only
      Request.Guarded := by
  apply (openStream_guarded destination _).andThen
  intro writer _
  have transfer := (writeChunks_guarded writer (bytes.toChunks maxChunkLen)).andThen
    (fun written _ => finish_guarded written)
  exact (Dialogue.Only.together turns (callRaw_guarded _) transfer).andThen
    (fun _ _ => trivial)

theorem handOver_guarded {message : Message}
    (permitted : message.validate = .ok () → message.Guarded) :
    (handOver message).Only Request.Guarded := by
  refine ⟨.silent rfl, fun serial => ?_⟩
  apply Dialogue.Only.bind (.ofExcept _)
  intro _ returns
  have guarded : message.Guarded := permitted returns.ofExcept
  exact ⟨.carrying rfl guarded, fun accepted => .ofExcept accepted⟩

theorem sendReply_guarded {reply : Message} (guarded : reply.Guarded) :
    (sendReply reply).Only Request.Guarded :=
  ⟨.silent rfl, fun _ => ⟨.carrying rfl guarded, fun _ => trivial⟩⟩

theorem sendStreamedReply_guarded (service : Service) {header : Header} (value : Value)
    (plain : header.confidential = false) :
    (sendStreamedReply service header value).Only Request.Guarded := by
  unfold sendStreamedReply
  split
  · trivial
  · apply (openStream_guarded _ _).andThen
    intro writer _
    apply (sendReply_guarded (.of_open plain rfl)).andThen
    intro accepted _
    split
    · have transfer := (writeChunks_guarded writer (service.encode value)).andThen
        (fun written _ => finish_guarded written)
      exact transfer.attempt.andThen (fun _ _ => trivial)
    · trivial

end Sending

/-- The stream interface answers with the name of a stream or with nothing. -/
def Progress.Plain (progress : Progress) : Prop :=
  ∀ value, progress = .done (.ok value) → value = .null ∨ ∃ id, value = .string id

theorem Progress.Plain.refused (error : Error) : (Progress.done (.error error)).Plain := by
  intro value same
  cases same

theorem Progress.Plain.waits : Progress.waiting.Plain := by
  intro value same
  cases same

theorem Progress.Plain.nothing : (Progress.done (.ok .null)).Plain := by
  intro value same
  cases same
  exact .inl rfl

namespace StreamRegistry

theorem enter_plain (registry : StreamRegistry) (now : Nat) (id : String)
    (stream : Inbound) (write : PendingWrite) :
    (registry.enter now id stream write).1.Plain := by
  unfold enter
  split
  · exact .refused _
  · exact .refused _
  · split
    · exact .refused _
    · exact .waits

theorem write_plain (registry : StreamRegistry) (now : Nat) (sender : Option BusName)
    (id : String) (seq : Nat) (data : String) :
    (registry.write now sender id seq data).1.Plain := by
  unfold write
  split
  · exact .refused _
  · split
    · exact .refused _
    · split
      · exact .refused _
      · dsimp only
        split
        · exact enter_plain _ _ _ _ _
        · exact .waits

theorem openStream_plain (registry : StreamRegistry) (now : Nat) (sender : Option BusName)
    (descriptor : StreamDescriptor) (order : List String) :
    (Progress.done (registry.openStream now sender descriptor order).1).Plain := by
  unfold openStream
  dsimp only
  split
  · exact .refused _
  · split
    · exact .refused _
    · intro value same
      cases same
      exact .inr ⟨_, rfl⟩

theorem close_plain (registry : StreamRegistry) (now : Nat) (sender : Option BusName)
    (id : String) (totalLen : Nat) :
    (Progress.done (registry.close now sender id totalLen).1).Plain := by
  unfold close
  split
  · exact .refused _
  · dsimp only
    split
    · exact .refused _
    · exact .nothing

theorem abort_plain (registry : StreamRegistry) (now : Nat) (sender : Option BusName)
    (id : String) : (Progress.done (registry.abort now sender id).1).Plain := by
  unfold abort
  split
  · exact .refused _
  · exact .nothing

theorem dispatch_plain (registry : StreamRegistry) (now : Nat) (header : Header)
    (body : Value) (order : List String) :
    (registry.dispatch now header body order).1.Plain := by
  unfold dispatch
  split
  · exact .refused _
  · rename_i call _
    cases call with
    | openStream descriptor => exact openStream_plain _ _ _ _ _
    | write id seq data => exact write_plain _ _ _ _ _ _
    | close id totalLen => exact close_plain _ _ _ _ _
    | abort id => exact abort_plain _ _ _ _

theorem takeGate_plain (registry : StreamRegistry) (now : Nat) (id : String) :
    (registry.takeGate now id).1.Plain := by
  unfold takeGate
  split
  · exact .waits
  · split
    · exact enter_plain _ _ _ _ _
    · exact .waits

theorem send_plain (registry : StreamRegistry) (now : Nat) (id : String) :
    (registry.send now id).1.Plain := by
  unfold send
  split
  · exact .waits
  · split
    · exact .waits
    · dsimp only
      split
      · exact .refused _
      · split
        · exact .refused _
        · split
          · exact .nothing
          · exact .waits

theorem Answers.plain {header : Header} {body value : Value}
    (answers : Answers header body (.ok value)) : ¬ value.CarriesHandle := by
  have scalar : value = .null ∨ ∃ id, value = .string id := by
    cases answers with
    | atOnce answered => exact dispatch_plain _ _ _ _ _ value (congrArg Prod.fst answered)
    | atGate answered => exact takeGate_plain _ _ _ value (congrArg Prod.fst answered)
    | atWindow answered => exact send_plain _ _ _ value (congrArg Prod.fst answered)
  intro carries
  have found := bodyContainsStreamRef_of_carries carries
  rcases scalar with rfl | ⟨id, rfl⟩
  · cases found
  · cases found

end StreamRegistry

def Service.Returns (service : Service) (header : Header) (body value : Value) : Prop :=
  StreamRegistry.handles header = false ∧
    ∃ path interface member, header.path = some path ∧
      header.interface = some interface ∧ header.member = some member ∧
        service.invoke path interface member header body = .ok value

namespace Sending

theorem dispatch_silent (service : Service) (header : Header) (body : Value)
    {admits : Request → Prop} (silent : ∀ request, request.message = none → admits request) :
    (dispatch service header body).Only admits := by
  unfold dispatch
  split
  · exact ⟨silent _ rfl, fun _ => trivial⟩
  · split
    · trivial
    · trivial

theorem dispatch_returns {service : Service} {header : Header} {body value : Value}
    (returns : Dialogue.Returns (.ok value) (dispatch service header body)) :
    service.Returns header body value ∨ ¬ value.CarriesHandle := by
  unfold dispatch at returns
  split at returns
  · cases returns with
    | later answer ended =>
        rcases answer with ⟨result, answers⟩
        cases ended
        exact .inr answers.plain
  · rename_i elsewhere
    split at returns
    · rename_i path interface member located named selected
      generalize same : service.invoke path interface member header body = result at returns
      cases returns
      rw [Bool.not_eq_true] at elsewhere
      exact .inl ⟨elsewhere, path, interface, member, located, named, selected, same⟩
    · cases returns

theorem dispatch_eq {service : Service} {header : Header} {body value : Value}
    (returned : service.Returns header body value) :
    dispatch service header body = .done (.ok value) := by
  obtain ⟨elsewhere, path, interface, member, located, named, selected, same⟩ := returned
  unfold dispatch
  rw [if_neg (by rw [elsewhere]; decide), located, named, selected]
  dsimp only
  rw [same]
  rfl

theorem errorReply_guarded (header : Header) (error : Error) :
    (Message.errorReply header error).Guarded := .of_open rfl rfl

end Sending

end TinyBus
