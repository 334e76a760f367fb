/-
Messages: one flat header and an opaque body, the constructors that build
replies and signals, and the ingress check the broker relies on.
-/

import TinyBus.Error

namespace TinyBus

inductive MessageKind where
  | methodCall
  | methodReturn
  | error
  | signal
  | directedSignal
  deriving DecidableEq

inductive ModuleLifecycle where
  | initializing
  | unknown
  deriving DecidableEq

/-- Everything the router and the dispatcher need. -/
structure Header where
  kind : MessageKind
  serial : Nat
  replySerial : Option Nat
  sender : Option BusName
  expectedResponder : Option BusName
  destination : Option BusName
  path : Option ObjectPath
  interface : Option InterfaceName
  member : Option MemberName
  errorName : Option String
  moduleLifecycle : Option ModuleLifecycle
  confidential : Bool
  sensitive : Bool
  streamReply : Bool
  deriving DecidableEq

structure Message where
  header : Header
  body : Value

def Header.blank (kind : MessageKind) : Header :=
  { kind := kind, serial := 0, replySerial := none, sender := none,
    expectedResponder := none, destination := none, path := none,
    interface := none, member := none, errorName := none,
    moduleLifecycle := none, confidential := false, sensitive := false,
    streamReply := false }

namespace Message

def methodCall (destination : BusName) (path : ObjectPath)
    (interface : InterfaceName) (member : MemberName) (body : Value) : Message :=
  { header :=
      { Header.blank .methodCall with
        destination := some destination, path := some path,
        interface := some interface, member := some member }
    body := body }

/-- The successful reply; it inherits the confidentiality of the call. -/
def methodReturn (call : Header) (body : Value) : Message :=
  { header :=
      { Header.blank .methodReturn with
        replySerial := some call.serial, destination := call.sender,
        confidential := call.confidential }
    body := body }

/-- An error reports a module that is still initializing as a lifecycle. -/
def lifecycleOf : Error → Option ModuleLifecycle
  | .moduleUnavailable _ state _ =>
      if state.toLower = "initializing" then some .initializing else none
  | _ => none

/-- The failed reply; it is never confidential. -/
def errorReply (call : Header) (error : Error) : Message :=
  { header :=
      { Header.blank .error with
        replySerial := some call.serial, destination := call.sender,
        errorName := some error.wireName, moduleLifecycle := lifecycleOf error }
    body := .string error.wireMessage }

def signal (path : ObjectPath) (interface : InterfaceName)
    (member : MemberName) (body : Value) : Message :=
  { header :=
      { Header.blank .signal with
        path := some path, interface := some interface, member := some member }
    body := body }

def checkStreamReply (header : Header) : Except Error Unit :=
  if header.streamReply ∧ header.kind ≠ .methodCall then
    .error (.protocol "only a method call can request a streamed reply")
  else .ok ()

def checkExpectedResponder (header : Header) : Except Error Unit :=
  match header.expectedResponder with
  | none => .ok ()
  | some expected =>
      if header.kind ≠ .methodCall ∨ expected.isUnique = false then
        .error (.protocol
          "expected responder must be unique and only accompany a call")
      else .ok ()

def checkPrivate (header : Header) : Except Error Unit :=
  if header.confidential || header.sensitive then
    if header.kind = .signal ∨ header.kind = .directedSignal then
      .error (.protocol "signals cannot carry a private body")
    else if header.destination = none then
      .error (.protocol "a private message needs a destination")
    else .ok ()
  else .ok ()

def checkKind (header : Header) : Except Error Unit :=
  match header.kind with
  | .methodCall =>
      if header.destination = none then
        .error (.protocol "method call has no destination")
      else if header.path = none ∨ header.interface = none ∨
          header.member = none then
        .error (.protocol "method call needs a path, an interface and a member")
      else .ok ()
  | .methodReturn | .error =>
      if header.replySerial = none then
        .error (.protocol "reply has no reply_serial")
      else .ok ()
  | .signal =>
      if header.interface = none ∨ header.member = none then
        .error (.protocol "signal needs an interface and a member")
      else if header.destination.any (fun name => !name.isUnique) then
        .error (.protocol "a signal can only be addressed to a unique name")
      else .ok ()
  | .directedSignal =>
      if header.destination.all (fun name => !name.isUnique) then
        .error (.protocol "directed signal needs a unique destination")
      else if header.path = none ∨ header.interface = none ∨
          header.member = none then
        .error (.protocol
          "directed signal needs a path, an interface and a member")
      else if header.replySerial ≠ none ∨ header.errorName ≠ none ∨
          header.expectedResponder ≠ none ∨ header.streamReply then
        .error (.protocol "directed signal has invalid routing fields")
      else .ok ()

def validate (message : Message) : Except Error Unit := do
  checkStreamReply message.header
  checkExpectedResponder message.header
  checkPrivate message.header
  checkKind message.header

theorem validate_ok_iff {message : Message} :
    message.validate = .ok () ↔
      checkStreamReply message.header = .ok () ∧
        checkExpectedResponder message.header = .ok () ∧
        checkPrivate message.header = .ok () ∧ checkKind message.header = .ok () := by
  unfold validate
  cases checkStreamReply message.header with
  | error refusal => simp [bind, Except.bind]
  | ok _ =>
      cases checkExpectedResponder message.header with
      | error refusal => simp [bind, Except.bind]
      | ok _ =>
          cases checkPrivate message.header with
          | error refusal => simp [bind, Except.bind]
          | ok _ => simp [bind, Except.bind]

theorem signal_not_private {message : Message} (valid : message.validate = .ok ())
    (kind : message.header.kind = .signal ∨ message.header.kind = .directedSignal) :
    message.header.confidential = false ∧ message.header.sensitive = false := by
  obtain ⟨_, _, privacy, _⟩ := validate_ok_iff.mp valid
  unfold checkPrivate at privacy
  rw [if_pos kind] at privacy
  by_cases hidden : (message.header.confidential || message.header.sensitive) = true
  · rw [if_pos hidden] at privacy
    cases privacy
  · rw [Bool.or_eq_true, not_or, Bool.not_eq_true, Bool.not_eq_true] at hidden
    exact hidden

/-- The broker's stamp: whatever the peer wrote, the sender is the peer. -/
def stamp (message : Message) (sender : BusName) : Message :=
  { message with header := { message.header with sender := some sender } }

@[simp] theorem stamp_sender (message : Message) (sender : BusName) :
    (message.stamp sender).header.sender = some sender := rfl

@[simp] theorem stamp_kind (message : Message) (sender : BusName) :
    (message.stamp sender).header.kind = message.header.kind := rfl

@[simp] theorem stamp_destination (message : Message) (sender : BusName) :
    (message.stamp sender).header.destination = message.header.destination := rfl

@[simp] theorem stamp_confidential (message : Message) (sender : BusName) :
    (message.stamp sender).header.confidential = message.header.confidential :=
  rfl

end Message

end TinyBus
