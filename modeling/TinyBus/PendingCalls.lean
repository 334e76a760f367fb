/-
The invariant of a connection's calls.  Serials are drawn once, so a call is at
one place at a time: numbered, pending or completed.  Frames on their way to
the connection can be traced to the message that the broker was handling, and
an answer that a slot accepts is thereby one that may end its call.
-/

import Mathlib.Data.List.Perm.Basic
import TinyBus.Connection
import TinyBus.Handling

namespace TinyBus

/-! ### What a call captured -/

structure Call.Captured (call : Call) : Prop where
  remote : ∀ owner, call.expected = some owner → call.busControl = false
  toBus : call.busControl = true → call.message.header.destination = some busName
  responder : ∀ owner, call.expected = some owner →
    call.message.header.destination = some owner ∧ owner.isUnique = true ∨
      call.message.header.expectedResponder = some owner
  unidentified : call.message.header.kind = .methodCall → call.expected = none →
    call.busControl = false → call.named = false

inductive Genuine (honest : PeerId) (call : Call) (parcel : Parcel) (brokered : Bool) :
    Prop
  /-- The broker routed and stamped it for the responder the call captured. -/
  | responder {source : PeerId} {message : Message}
      (expected : call.expected = some (BusName.unique source))
      (cause : parcel.cause = some (source, message))
      (routed : parcel.message = message.stamp (BusName.unique source))
  /-- The broker refused this call. -/
  | refused {error : Error} (cause : parcel.cause = some (honest, call.message))
      (answer : parcel.message = Broker.refusalReply call.message.header error)
  /-- The call addressed the bus, which answered it. -/
  | served {result : Except Error Value}
      (toBus : call.message.header.destination = some busName)
      (cause : parcel.cause = some (honest, call.message))
      (answer : parcel.message = Broker.busReplyMessage
        (call.message.stamp (BusName.unique honest)).header result)
  /-- The call captured nobody: it was begun before the connection had its name. -/
  | unidentified (early : call.named = false) (uncaptured : call.expected = none)
      (unproven : brokered = false)

/-- An answer to this call, and a confidential one where the call asks for it. -/
structure Answers (call : Call) (parcel : Parcel) : Prop where
  serial : parcel.message.header.replySerial = some call.serial
  kind : parcel.message.header.kind = .methodReturn ∨
    parcel.message.header.kind = .error
  secret : call.message.header.confidential = true →
    parcel.message.header.kind = .methodReturn →
      parcel.message.header.confidential = true

def Completion.Legitimate (honest : PeerId) (completion : Completion) : Prop :=
  match completion.ending with
  | .reply parcel brokered =>
      Answers completion.call parcel ∧
        (completion.call.message.header.kind = .methodCall →
          Genuine honest completion.call parcel brokered)
  | _ => True

def Slot.Faithful (slot : Slot) : Prop :=
  slot.waiter.expected = slot.call.expected ∧
    slot.waiter.busControl = slot.call.busControl ∧
    slot.waiter.confidential = slot.call.message.header.confidential

namespace Client

def Issued (log : Table Nat Message) (message : Message) : Prop :=
  log.lookup message.header.serial = some message

structure Drew (log : Table Nat Message) (call : Call) : Prop where
  issued : Issued log call.message
  captured : call.Captured

inductive Traced (log : Table Nat Message) (honest : PeerId) (parcel : Parcel) : Prop
  | forwarded {source : PeerId} {message : Message}
      (cause : parcel.cause = some (source, message))
      (routed : parcel.message = message.stamp (BusName.unique source))
  | refused {message : Message} {error : Error} (issued : Issued log message)
      (cause : parcel.cause = some (honest, message))
      (answer : parcel.message = Broker.refusalReply message.header error)
  | served {message : Message} {result : Except Error Value}
      (issued : Issued log message)
      (toBus : message.header.destination = some busName)
      (cause : parcel.cause = some (honest, message))
      (answer : parcel.message = Broker.busReplyMessage
        (message.stamp (BusName.unique honest)).header result)
  | announced (signal : parcel.message.header.kind = .signal)

/-! ### An accepted answer is genuine -/

theorem busReplyMessage_serial (call : Header) (result : Except Error Value) :
    (Broker.busReplyMessage call result).header.replySerial = some call.serial := by
  cases result with
  | ok value => rfl
  | error refusal => rfl

variable {log : Table Nat Message}

theorem Issued.same {left right : Message} (issued : Issued log left) (also : Issued log right)
    (serials : left.header.serial = right.header.serial) : left = right := by
  unfold Issued at issued also
  rw [serials, also] at issued
  exact (Option.some.inj issued).symm

theorem accepted_genuine {honest : PeerId} {slot : Slot} {parcel : Parcel} {brokered : Bool}
    (traced : Traced log honest parcel) (drew : Drew log slot.call) (faithful : slot.Faithful)
    (answers : Answers slot.call parcel) (call : slot.call.message.header.kind = .methodCall)
    (accepted : slot.waiter.accepts parcel.message brokered = true) :
    Genuine honest slot.call parcel brokered := by
  cases traced with
  | forwarded cause routed =>
      rename_i source message
      have sender : parcel.message.header.sender = some (BusName.unique source) := by
        rw [routed]
        rfl
      have stranger : BusName.unique source ≠ busName := unique_ne_busName source
      obtain ⟨expected, busControl, _⟩ := faithful
      unfold PendingReply.accepts PendingReply.identityMatches at accepted
      rw [Bool.and_eq_true, sender, expected, busControl] at accepted
      have identity := accepted.1
      cases control : slot.call.busControl with
      | true => simp [control, stranger] at identity
      | false =>
          cases captured : slot.call.expected with
          | none =>
              refine .unidentified (drew.captured.unidentified call captured control)
                captured ?_
              simpa [control, captured] using identity
          | some owner =>
              have same : BusName.unique source = owner := by
                simpa [control, captured, stranger] using identity
              exact .responder (by rw [captured, same]) cause routed
  | refused issued cause answer =>
      rename_i message error
      have serials : message.header.serial = slot.call.message.header.serial := by
        have replied := answers.serial
        rw [answer] at replied
        exact Option.some.inj replied
      have same := issued.same drew.issued serials
      subst same
      exact .refused cause answer
  | served issued toBus cause answer =>
      rename_i message result
      have serials : message.header.serial = slot.call.message.header.serial := by
        have replied := answers.serial
        rw [answer, busReplyMessage_serial] at replied
        exact Option.some.inj replied
      have same := issued.same drew.issued serials
      subst same
      exact .served toBus cause answer
  | announced signal =>
      rcases answers.kind with kind | kind
      · rw [signal] at kind
        cases kind
      · rw [signal] at kind
        cases kind

theorem Traced.mono {later : Table Nat Message} {honest : PeerId} {parcel : Parcel}
    (traced : Traced log honest parcel)
    (kept : ∀ message, Issued log message → Issued later message) :
    Traced later honest parcel := by
  cases traced with
  | forwarded cause routed => exact .forwarded cause routed
  | refused issued cause answer => exact .refused (kept _ issued) cause answer
  | served issued toBus cause answer => exact .served (kept _ issued) toBus cause answer
  | announced signal => exact .announced signal

theorem accepts_secret {waiter : PendingReply} {reply : Message} {brokered : Bool}
    (accepted : waiter.accepts reply brokered = true)
    (confidential : waiter.confidential = true)
    (success : reply.header.kind = .methodReturn) : reply.header.confidential = true := by
  unfold PendingReply.accepts at accepted
  rw [Bool.and_eq_true] at accepted
  simpa [confidential, success] using accepted.2

theorem accepts_responder {slot : Slot} {reply : Message} {responder : BusName}
    (faithful : slot.Faithful) (remote : slot.call.busControl = false)
    (expected : slot.call.expected = some responder)
    (sender : reply.header.sender = some responder)
    (kind : reply.header.kind = .error ∨
      slot.call.message.header.confidential = false ∨ reply.header.confidential = true)
    (brokered : Bool) : slot.waiter.accepts reply brokered = true := by
  obtain ⟨captured, control, confidential⟩ := faithful
  unfold PendingReply.accepts PendingReply.identityMatches
  rw [Bool.and_eq_true, captured, control, remote, expected, sender, confidential]
  refine ⟨by simp, ?_⟩
  rcases kind with error | plain | secret
  · simp [error]
  · simp [plain]
  · simp [secret]

/-! ### The invariant -/

structure Sound (honest : PeerId) (client : Client) : Prop where
  issued : ∀ serial message, client.issued.lookup serial = some message →
    message.header.serial = serial ∧ serial < client.serial
  numbered : ∀ call ∈ client.numbered, Drew client.issued call
  pending : ∀ serial slot, client.pending.lookup serial = some slot →
    slot.call.serial = serial ∧ Drew client.issued slot.call ∧ slot.Faithful
  entered : ∀ message ∈ client.entered, Issued client.issued message
  queued : ∀ message ∈ client.outbox, Issued client.issued message
  completed : ∀ completion ∈ client.completed,
    Drew client.issued completion.call ∧ completion.Legitimate honest
  once : (client.numbered.map Call.serial ++
    client.completed.map Completion.serial).Nodup
  apart : ∀ serial slot, client.pending.lookup serial = some slot →
    serial ∉ client.numbered.map Call.serial ++ client.completed.map Completion.serial

section

variable {client : Client} {honest : PeerId}

theorem Sound.attached : Sound honest Client.attached where
  issued := by
    intro serial message found
    simp [Client.attached] at found
  numbered := by simp [Client.attached]
  pending := by
    intro serial slot found
    simp [Client.attached] at found
  entered := by simp [Client.attached]
  queued := by simp [Client.attached]
  completed := by simp [Client.attached]
  once := by simp [Client.attached]
  apart := by simp [Client.attached]

theorem Drew.below {call : Call} (drew : Drew client.issued call) (sound : client.Sound honest) :
    call.serial < client.serial :=
  (sound.issued _ _ drew.issued).2

theorem Sound.spent_below (sound : client.Sound honest) {serial : Nat}
    (spent : serial ∈ client.numbered.map Call.serial ++
      client.completed.map Completion.serial) : serial < client.serial := by
  rcases List.mem_append.mp spent with numbered | completed
  · obtain ⟨call, member, rfl⟩ := List.mem_map.mp numbered
    exact (sound.numbered call member).below sound
  · obtain ⟨completion, member, rfl⟩ := List.mem_map.mp completed
    exact (sound.completed completion member).1.below sound

theorem Sound.frame {after : Client} (sound : client.Sound honest)
    (calls : after.numbered = client.numbered ∧ after.pending = client.pending ∧
      after.completed = client.completed)
    (serials : after.serial = client.serial ∧ after.issued = client.issued)
    (entered : ∀ message ∈ after.entered, Issued client.issued message)
    (queued : ∀ message ∈ after.outbox, Issued client.issued message) :
    after.Sound honest := by
  obtain ⟨numbered, pending, completed⟩ := calls
  obtain ⟨serial, issued⟩ := serials
  refine
    { issued := ?_, numbered := ?_, pending := ?_, entered := ?_, queued := ?_,
      completed := ?_, once := ?_, apart := ?_ }
  · rw [issued, serial]
    exact sound.issued
  · rw [numbered, issued]
    exact sound.numbered
  · rw [pending, issued]
    exact sound.pending
  · rw [issued]
    exact entered
  · rw [issued]
    exact queued
  · rw [completed, issued]
    exact sound.completed
  · rw [numbered, completed]
    exact sound.once
  · rw [numbered, completed, pending]
    exact sound.apart

/-! ### Drawing a serial -/

variable {message : Message}

theorem Issued.draw (issued : Issued client.issued message) (sound : client.Sound honest)
    (next : Message) :
    Issued (client.draw next).issued message := by
  have below := (sound.issued _ _ issued).2
  unfold Issued Client.draw
  rw [Table.lookup_insert_eq, if_neg (by omega)]
  exact issued

theorem draw_issued (client : Client) (message : Message) :
    Issued (client.draw message).issued (client.numberedMessage message) :=
  AList.lookup_insert _

theorem Sound.draw (sound : client.Sound honest) (message : Message) :
    (client.draw message).Sound honest where
  issued := by
    intro serial other found
    change (client.issued.insert client.serial _).lookup serial = some other at found
    rw [Table.lookup_insert_eq] at found
    change other.header.serial = serial ∧ serial < client.serial + 1
    split at found
    · rename_i same
      cases found
      exact ⟨same.symm, by omega⟩
    · obtain ⟨own, below⟩ := sound.issued serial other found
      exact ⟨own, by omega⟩
  numbered := by
    intro call member
    have drew := sound.numbered call member
    exact ⟨drew.issued.draw sound message, drew.captured⟩
  pending := by
    intro serial slot found
    obtain ⟨own, drew, faithful⟩ := sound.pending serial slot found
    exact ⟨own, ⟨drew.issued.draw sound message, drew.captured⟩, faithful⟩
  entered := fun other member => (sound.entered other member).draw sound message
  queued := fun other member => (sound.queued other member).draw sound message
  completed := by
    intro completion member
    obtain ⟨drew, legitimate⟩ := sound.completed completion member
    exact ⟨⟨drew.issued.draw sound message, drew.captured⟩, legitimate⟩
  once := sound.once
  apart := sound.apart

theorem Sound.start (sound : client.Sound honest) {expected : Option BusName} {busControl : Bool}
    {purpose : Purpose}
    (captured : Call.Captured ⟨client.numberedMessage message, expected, busControl,
      client.uniqueName.isSome, purpose⟩) :
    (client.start message expected busControl purpose).Sound honest := by
  have drawn := sound.draw message
  have fresh : client.serial ∉ client.numbered.map Call.serial ++
      client.completed.map Completion.serial := by
    intro spent
    have below := sound.spent_below spent
    omega
  refine
    { issued := drawn.issued, numbered := ?_, pending := drawn.pending,
      entered := drawn.entered, queued := drawn.queued, completed := drawn.completed,
      once := ?_, apart := ?_ }
  · intro call member
    rcases List.mem_append.mp member with old | new
    · exact drawn.numbered call old
    · cases List.mem_singleton.mp new
      exact ⟨draw_issued client message, captured⟩
  · change ((client.numbered ++ [_]).map Call.serial ++
      client.completed.map Completion.serial).Nodup
    rw [List.map_append, List.append_assoc]
    refine List.perm_middle.nodup_iff.mpr ?_
    exact List.nodup_cons.mpr ⟨fresh, sound.once⟩
  · intro serial slot found spent
    have absent := sound.apart serial slot found
    obtain ⟨own, drew, _⟩ := sound.pending serial slot found
    have below := drew.below sound
    change serial ∈ (client.numbered ++ [_]).map Call.serial ++
      client.completed.map Completion.serial at spent
    rw [List.map_append, List.append_assoc] at spent
    rcases List.mem_cons.mp (List.perm_middle.mem_iff.mp spent) with same | old
    · change serial = client.serial at same
      omega
    · exact absent old

theorem Sound.send (sound : client.Sound honest) (message : Message) :
    (client.send message).Sound honest := by
  have drawn := sound.draw message
  unfold Client.send
  dsimp only
  split
  · refine drawn.frame ⟨rfl, rfl, rfl⟩ ⟨rfl, rfl⟩ drawn.entered ?_
    intro other member
    rcases List.mem_append.mp member with old | new
    · exact drawn.queued other old
    · cases List.mem_singleton.mp new
      exact draw_issued client message
  · exact drawn

/-! ### Inserting and removing slots -/

theorem Sound.insertPending (sound : client.Sound honest) (index : Nat) :
    (client.insertPending index).Sound honest := by
  unfold Client.insertPending
  cases found : client.numbered[index]? with
  | none => exact sound
  | some call =>
      dsimp only
      obtain ⟨bound, same⟩ := List.getElem?_eq_some_iff.mp found
      have member : call ∈ client.numbered := List.mem_of_getElem? found
      have drew := sound.numbered call member
      have split : List.Perm client.numbered (call :: client.numbered.eraseIdx index) := by
        rw [← same]
        exact (List.getElem_cons_eraseIdx_perm bound).symm
      have serials : List.Perm
          (client.numbered.map Call.serial ++ client.completed.map Completion.serial)
          (call.serial :: ((client.numbered.eraseIdx index).map Call.serial ++
            client.completed.map Completion.serial)) :=
        (split.map Call.serial).append_right _
      obtain ⟨gone, once⟩ := List.nodup_cons.mp (serials.nodup_iff.mp sound.once)
      refine
        { issued := sound.issued, numbered := ?_, pending := ?_, entered := ?_,
          queued := sound.queued, completed := sound.completed, once := once,
          apart := ?_ }
      · exact fun other kept => sound.numbered other (List.mem_of_mem_eraseIdx kept)
      · intro serial slot pending
        rw [Table.lookup_insert_eq] at pending
        split at pending
        · rename_i own
          cases pending
          exact ⟨own.symm, drew, rfl, rfl, rfl⟩
        · exact sound.pending serial slot pending
      · intro message entered
        rcases List.mem_append.mp entered with old | new
        · exact sound.entered message old
        · cases List.mem_singleton.mp new
          exact drew.issued
      · intro serial slot pending
        rw [Table.lookup_insert_eq] at pending
        split at pending
        · rename_i own
          rw [own]
          exact gone
        · intro spent
          exact sound.apart serial slot pending
            (serials.mem_iff.mpr (List.mem_cons_of_mem _ spent))

theorem Sound.settle (sound : client.Sound honest) (serial : Nat) {ending : Ending}
    (legitimate : ∀ slot, client.pending.lookup serial = some slot →
      Completion.Legitimate honest ⟨slot.call, ending⟩) :
    (client.settle serial ending).Sound honest := by
  unfold Client.settle
  cases found : client.pending.lookup serial with
  | none => exact sound
  | some slot =>
      dsimp only
      obtain ⟨own, drew, _⟩ := sound.pending serial slot found
      have unspent := sound.apart serial slot found
      have grown : List.Perm
          (client.numbered.map Call.serial ++
            (client.completed ++ [Completion.mk slot.call ending]).map
              Completion.serial)
          (serial :: (client.numbered.map Call.serial ++
            client.completed.map Completion.serial)) := by
        rw [List.map_append, ← List.append_assoc, ← own]
        exact List.perm_append_singleton _ _
      refine
        { issued := sound.issued, numbered := sound.numbered, pending := ?_,
          entered := sound.entered, queued := sound.queued, completed := ?_,
          once := ?_, apart := ?_ }
      · intro other kept pending
        rw [Table.lookup_erase_eq] at pending
        split at pending
        · cases pending
        · exact sound.pending other kept pending
      · intro completion member
        rcases List.mem_append.mp member with old | new
        · exact sound.completed completion old
        · cases List.mem_singleton.mp new
          exact ⟨drew, legitimate slot found⟩
      · exact grown.nodup_iff.mpr (List.nodup_cons.mpr ⟨unspent, sound.once⟩)
      · intro other kept pending spent
        rw [Table.lookup_erase_eq] at pending
        split at pending
        · cases pending
        · rename_i different
          rcases List.mem_cons.mp (grown.mem_iff.mp spent) with same | old
          · exact different same
          · exact sound.apart other kept pending old

theorem Sound.enqueue (sound : client.Sound honest) (index : Nat) :
    (client.enqueue index).Sound honest := by
  unfold Client.enqueue
  cases found : client.entered[index]? with
  | none => exact sound
  | some message =>
      dsimp only
      have kept : ∀ other ∈ client.entered.eraseIdx index, Issued client.issued other :=
        fun other member => sound.entered other (List.mem_of_mem_eraseIdx member)
      split
      · refine sound.frame ⟨rfl, rfl, rfl⟩ ⟨rfl, rfl⟩ kept ?_
        intro other member
        rcases List.mem_append.mp member with old | new
        · exact sound.queued other old
        · rw [List.mem_singleton.mp new]
          exact sound.entered message (List.mem_of_getElem? found)
      · apply Sound.settle
        · exact sound.frame ⟨rfl, rfl, rfl⟩ ⟨rfl, rfl⟩ kept sound.queued
        · exact fun _ _ => trivial

theorem Sound.timeout (sound : client.Sound honest) (serial : Nat) :
    (client.timeout serial).Sound honest := by
  unfold Client.timeout
  split
  · exact sound
  · exact sound.settle serial (fun _ _ => trivial)

theorem Sound.readerEnds (sound : client.Sound honest) :
    client.readerEnds.Sound honest := by
  have drained : ∀ entry ∈ client.pending.pairs,
      client.pending.lookup entry.1 = some entry.2 := by
    intro entry member
    exact Table.mem_pairs_iff_lookup.mp member
  have keys : (client.pending.pairs.map (fun entry =>
      (⟨entry.2.call, .closed⟩ : Completion))).map Completion.serial =
        client.pending.pairs.map Prod.fst := by
    rw [List.map_map]
    apply List.map_congr_left
    intro entry member
    exact (sound.pending _ _ (drained entry member)).1
  refine
    { issued := sound.issued, numbered := sound.numbered, pending := ?_,
      entered := sound.entered, queued := sound.queued, completed := ?_,
      once := ?_, apart := ?_ }
  · intro serial slot pending
    cases pending
  · intro completion member
    rcases List.mem_append.mp member with old | new
    · exact sound.completed completion old
    · obtain ⟨entry, present, rfl⟩ := List.mem_map.mp new
      exact ⟨(sound.pending _ _ (drained entry present)).2.1, trivial⟩
  · change (client.numbered.map Call.serial ++
      (client.completed ++ _).map Completion.serial).Nodup
    rw [List.map_append, keys, ← List.append_assoc]
    refine sound.once.append client.pending.pairs_keys_nodup ?_
    intro serial spent pending
    obtain ⟨entry, present, rfl⟩ := List.mem_map.mp pending
    exact sound.apart _ _ (drained entry present) spent
  · intro serial slot pending
    cases pending

/-! ### The writer and the reader -/

theorem Sound.writerLoop (sound : client.Sound honest) (outcome : WriteOutcome) :
    (client.writerLoop outcome).1.Sound honest ∧
      ∀ message, (client.writerLoop outcome).2 = some message →
        Issued client.issued message := by
  unfold Client.writerLoop
  split
  · rename_i message rest _ queue
    have first : Issued client.issued message :=
      sound.queued message (by simp [queue])
    have others : ∀ other ∈ rest, Issued client.issued other :=
      fun other member => sound.queued other (by simp [queue, member])
    have taken : ({ client with outbox := rest } : Client).Sound honest :=
      sound.frame ⟨rfl, rfl, rfl⟩ ⟨rfl, rfl⟩ sound.entered others
    cases outcome with
    | sent =>
        refine ⟨taken, ?_⟩
        intro written same
        cases same
        exact first
    | refused reason =>
        dsimp only
        split
        · exact ⟨taken.settle _ (fun _ _ => trivial), by simp⟩
        · exact ⟨taken, by simp⟩
    | failed =>
        refine ⟨sound.frame ⟨rfl, rfl, rfl⟩ ⟨rfl, rfl⟩ sound.entered ?_, by simp⟩
        intro other member
        cases member
  · exact ⟨sound, by simp⟩

private theorem dispatchReply_cases (client : Client) (parcel : Parcel)
    (brokered : Bool) :
    (client.dispatchReply parcel brokered).pending = client.pending ∨
      ∃ serial slot, parcel.message.header.replySerial = some serial ∧
        client.pending.lookup serial = some slot ∧
        slot.waiter.accepts parcel.message brokered = true ∧
        (client.dispatchReply parcel brokered).pending = client.pending.erase serial ∧
        (client.dispatchReply parcel brokered).completed =
          client.completed ++ [⟨slot.call, .reply parcel brokered⟩] := by
  unfold Client.dispatchReply
  cases replied : parcel.message.header.replySerial with
  | none => exact .inl rfl
  | some serial =>
      cases found : client.pending.lookup serial with
      | none => simp [found]
      | some slot =>
          by_cases accepted : slot.waiter.accepts parcel.message brokered = true
          · refine .inr ⟨serial, slot, rfl, found, accepted, ?_, ?_⟩
            · simp [found, accepted, Client.settle]
            · simp [found, accepted, Client.settle]
          · simp [found, accepted]

theorem dispatch_cases (client : Client) (parcel : Parcel) (brokered : Bool) :
    (client.dispatch parcel brokered).pending = client.pending ∨
      ∃ serial slot, parcel.message.header.replySerial = some serial ∧
        (parcel.message.header.kind = .methodReturn ∨
          parcel.message.header.kind = .error) ∧
        client.pending.lookup serial = some slot ∧
        slot.waiter.accepts parcel.message brokered = true ∧
        (client.dispatch parcel brokered).pending = client.pending.erase serial ∧
        (client.dispatch parcel brokered).completed =
          client.completed ++ [⟨slot.call, .reply parcel brokered⟩] := by
  unfold Client.dispatch
  split
  · split
    · rename_i kind
      rcases dispatchReply_cases client parcel brokered with same |
        ⟨serial, slot, replied, found, accepted, pending, completed⟩
      · exact .inl same
      · exact .inr ⟨serial, slot, replied, .inl kind, found, accepted, pending, completed⟩
    · rename_i kind
      rcases dispatchReply_cases client parcel brokered with same |
        ⟨serial, slot, replied, found, accepted, pending, completed⟩
      · exact .inl same
      · exact .inr ⟨serial, slot, replied, .inr kind, found, accepted, pending, completed⟩
    · exact .inl rfl
  · exact .inl rfl

theorem Sound.accepted (sound : client.Sound honest) {parcel : Parcel}
    (traced : Traced client.issued honest parcel) {serial : Nat} {slot : Slot}
    (replied : parcel.message.header.replySerial = some serial)
    (kind : parcel.message.header.kind = .methodReturn ∨
      parcel.message.header.kind = .error)
    (found : client.pending.lookup serial = some slot) {brokered : Bool}
    (accepted : slot.waiter.accepts parcel.message brokered = true) :
    Answers slot.call parcel ∧ (slot.call.message.header.kind = .methodCall →
      Genuine honest slot.call parcel brokered) := by
  obtain ⟨own, drew, faithful⟩ := sound.pending serial slot found
  have answers : Answers slot.call parcel := by
    refine ⟨own ▸ replied, kind, ?_⟩
    intro secret success
    exact accepts_secret accepted (faithful.2.2.trans secret) success
  exact ⟨answers, fun call =>
    accepted_genuine traced drew faithful answers call accepted⟩

theorem Sound.dispatchReply (sound : client.Sound honest) {parcel : Parcel}
    (traced : Traced client.issued honest parcel)
    (reply : parcel.message.header.kind = .methodReturn ∨
      parcel.message.header.kind = .error) (brokered : Bool) :
    (client.dispatchReply parcel brokered).Sound honest := by
  unfold Client.dispatchReply
  split
  · exact sound
  · rename_i serial replied
    split
    · exact sound
    · rename_i slot found
      split
      · rename_i accepted
        have settled : (client.settle serial (.reply parcel brokered)).Sound honest := by
          apply sound.settle
          intro other pending
          rw [found] at pending
          cases pending
          exact sound.accepted traced replied reply found accepted
        exact settled.frame ⟨rfl, rfl, rfl⟩ ⟨rfl, rfl⟩ settled.entered settled.queued
      · exact sound

theorem Sound.dispatch (sound : client.Sound honest) {parcel : Parcel}
    (traced : Traced client.issued honest parcel) (brokered : Bool) :
    (client.dispatch parcel brokered).Sound honest := by
  unfold Client.dispatch
  split
  · split
    · rename_i kind
      exact sound.dispatchReply traced (.inl kind) brokered
    · rename_i kind
      exact sound.dispatchReply traced (.inr kind) brokered
    · exact sound
  · exact sound

/-! ### Beginning a call -/

theorem Sound.callBus (sound : client.Sound honest) (member : MemberName) (body : Value)
    (purpose : Purpose) : (client.callBus member body purpose).Sound honest := by
  unfold Client.callBus
  split
  · exact sound
  · apply sound.start
    exact ⟨by simp, fun _ => rfl, by simp, by simp⟩

theorem checkCall_destination (checked : checkCall message = .ok ())
    (call : message.header.kind = .methodCall) : message.header.destination ≠ none := by
  unfold checkCall at checked
  dsimp only at checked
  split at checked
  · cases checked
  · rename_i valid
    intro nowhere
    have kind := (Message.validate_ok_iff.mp valid).2.2.2
    simp [Message.checkKind, call, nowhere] at kind

theorem Sound.callRawMessage (sound : client.Sound honest) (message : Message) :
    (client.callRawMessage message).Sound honest := by
  unfold Client.callRawMessage
  split
  · exact sound
  · rename_i checked
    unfold callTarget
    cases addressed : message.header.destination with
    | none =>
        apply sound.start
        refine ⟨by simp, by simp, by simp, ?_⟩
        intro call _ _
        exact absurd addressed (checkCall_destination checked call)
    | some destination =>
        dsimp only
        by_cases toBus : destination = busName
        · rw [if_pos toBus]
          apply sound.start
          refine ⟨by simp, ?_, by simp, by simp⟩
          intro _
          rw [← toBus]
          exact addressed
        · rw [if_neg toBus]
          by_cases unique : destination.isUnique = true
          · rw [if_pos unique]
            apply sound.start
            refine ⟨by simp, by simp, ?_, by simp⟩
            intro owner captured
            cases captured
            exact .inl ⟨addressed, unique⟩
          · rw [if_neg unique]
            by_cases named : client.uniqueName.isSome = true
            · rw [if_pos named]
              exact sound.callBus _ _ _
            · rw [if_neg named]
              apply sound.start
              refine ⟨by simp, by simp, by simp, ?_⟩
              intro _ _ _
              simpa using named

theorem Sound.negotiated (sound : client.Sound honest) (waiting : Message)
    (body : Value) : (client.negotiated waiting body).Sound honest := by
  unfold Client.negotiated
  split
  · exact sound
  · rename_i owner _
    split
    · exact sound
    · split
      · exact sound
      · apply sound.start
        refine ⟨by simp, by simp, ?_, by simp⟩
        intro captured same
        exact .inr same

theorem Sound.resume (sound : client.Sound honest) (index : Nat) :
    (client.resume index).Sound honest := by
  have taken : ({ client with answered := client.answered.eraseIdx index } :
      Client).Sound honest :=
    sound.frame ⟨rfl, rfl, rfl⟩ ⟨rfl, rfl⟩ sound.entered sound.queued
  unfold Client.resume
  split
  · exact sound
  · rename_i purpose answer _
    dsimp only
    split
    · exact taken
    · cases purpose with
      | plain => exact taken
      | handshake =>
          dsimp only
          unfold Client.helloed
          split
          · exact taken
          · exact taken.frame ⟨rfl, rfl, rfl⟩ ⟨rfl, rfl⟩ taken.entered taken.queued
      | negotiation waiting => exact taken.negotiated waiting answer.body

/-! ### The log of drawn serials -/

inductive Logs (log : Table Nat Message) (serial : Nat) : Table Nat Message → Prop
  | same : Logs log serial log
  | drew (message : Message) : Logs log serial (log.insert serial message)

theorem Logs.kept {log : Table Nat Message} (logs : Logs client.issued client.serial log)
    (sound : client.Sound honest) (issued : Issued client.issued message) : Issued log message := by
  have below := (sound.issued _ _ issued).2
  cases logs with
  | same => exact issued
  | drew next =>
      unfold Issued
      rw [Table.lookup_insert_eq, if_neg (by omega)]
      exact issued

@[simp] theorem insertPending_issued (client : Client) (index : Nat) :
    (client.insertPending index).issued = client.issued := by
  unfold Client.insertPending
  split <;> rfl

@[simp] theorem settle_issued (client : Client) (serial : Nat) (ending : Ending) :
    (client.settle serial ending).issued = client.issued := by
  unfold Client.settle
  split <;> rfl

@[simp] theorem enqueue_issued (client : Client) (index : Nat) :
    (client.enqueue index).issued = client.issued := by
  unfold Client.enqueue
  split
  · rfl
  · dsimp only
    split <;> simp

@[simp] theorem timeout_issued (client : Client) (serial : Nat) :
    (client.timeout serial).issued = client.issued := by
  unfold Client.timeout
  split <;> simp

@[simp] theorem writerLoop_issued (client : Client) (outcome : WriteOutcome) :
    (client.writerLoop outcome).1.issued = client.issued := by
  unfold Client.writerLoop
  split
  · cases outcome with
    | sent => rfl
    | refused reason =>
        dsimp only
        split <;> simp
    | failed => rfl
  · rfl

@[simp] theorem dispatch_issued (client : Client) (parcel : Parcel) (brokered : Bool) :
    (client.dispatch parcel brokered).issued = client.issued := by
  have replied : (client.dispatchReply parcel brokered).issued = client.issued := by
    unfold Client.dispatchReply
    split
    · rfl
    · split
      · rfl
      · split <;> simp
  unfold Client.dispatch
  split
  · split <;> simp [replied]
  · rfl

theorem callBus_logs (client : Client) (member : MemberName) (body : Value)
    (purpose : Purpose) :
    Logs client.issued client.serial
      (client.callBus member body purpose).issued := by
  unfold Client.callBus
  split
  · exact .same
  · exact .drew _

theorem callRawMessage_logs (client : Client) (message : Message) :
    Logs client.issued client.serial (client.callRawMessage message).issued := by
  unfold Client.callRawMessage
  split
  · exact .same
  · split
    · exact .drew _
    · exact .drew _
    · exact .drew _
    · exact callBus_logs _ _ _ _

theorem send_logs (client : Client) (message : Message) :
    Logs client.issued client.serial (client.send message).issued := by
  unfold Client.send
  dsimp only
  split
  · exact .drew _
  · exact .drew _

theorem negotiated_logs (client : Client) (waiting : Message) (body : Value) :
    Logs client.issued client.serial (client.negotiated waiting body).issued := by
  unfold Client.negotiated
  split
  · exact .same
  · split
    · exact .same
    · split
      · exact .same
      · exact .drew _

theorem resume_logs (client : Client) (index : Nat) :
    Logs client.issued client.serial (client.resume index).issued := by
  unfold Client.resume
  split
  · exact .same
  · rename_i purpose answer _
    dsimp only
    split
    · exact .same
    · cases purpose with
      | plain => exact .same
      | handshake =>
          dsimp only
          unfold Client.helloed
          split
          · exact .same
          · exact .same
      | negotiation waiting =>
          exact negotiated_logs { client with answered := client.answered.eraseIdx index }
            waiting answer.body

end

end Client

end TinyBus
