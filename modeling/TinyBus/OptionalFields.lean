/-
The optional fields of a header: nine are read as absent where they are null, and three
flags are not.  What is written comes back, up to the depth of containers that is read.
-/

import TinyBus.MessageText

namespace TinyBus

open Record

inductive OptionalField where
  | replySerial
  | sender
  | expectedResponder
  | destination
  | path
  | interface
  | member
  | errorName
  | moduleLifecycle
  | confidential
  | sensitive
  | streamReply
  deriving DecidableEq, Repr

namespace OptionalField

def name : OptionalField → String
  | .replySerial => "reply_serial"
  | .sender => "sender"
  | .expectedResponder => "expected_responder"
  | .destination => "destination"
  | .path => "path"
  | .interface => "interface"
  | .member => "member"
  | .errorName => "error_name"
  | .moduleLifecycle => "module_lifecycle"
  | .confidential => "confidential"
  | .sensitive => "sensitive"
  | .streamReply => "stream_reply"

/-- A `bool` with a default, where the others are `Option`s. -/
def isFlag : OptionalField → Bool
  | .confidential | .sensitive | .streamReply => true
  | _ => false

end OptionalField

namespace Record

theorem lookup_twice {early late : List (List Char × Json)} {name : String}
    (again : name.toList ∈ (early ++ late).map Prod.fst) (value : Json) :
    lookup (early ++ (name.toList, value) :: late) name = none := by
  obtain ⟨entry, among, same⟩ := List.mem_map.mp again
  have found : ∀ fields : List (List Char × Json), entry ∈ fields →
      fields.filter (fun entry => entry.1 == name.toList) ≠ [] := by
    intro fields here nothing
    exact List.filter_eq_nil_iff.mp nothing entry here (beq_iff_eq.mpr same)
  unfold lookup
  rw [List.filter_append, List.filter_cons, if_pos (beq_self_eq_true name.toList)]
  cases front : early.filter (fun entry => entry.1 == name.toList) with
  | nil =>
      cases back : late.filter (fun entry => entry.1 == name.toList) with
      | nil =>
          rcases List.mem_append.mp among with before | after
          · exact absurd front (found early before)
          · exact absurd back (found late after)
      | cons _ _ => rfl
  | cons _ others =>
      cases others with
      | nil => rfl
      | cons _ _ => rfl

theorem optional_null {Value : Type} (decode : Json → Option Value) :
    optional decode (some (some .null)) = optional decode (some none) := rfl

end Record

namespace Header

variable (floats : FloatText) {look look' : String → Option (Option Json)}

theorem ofLookup_congr
    (fixed : ∀ name ∈ ["kind", "serial", "confidential", "sensitive", "stream_reply"],
      look name = look' name)
    (loose : ∀ {Value : Type} (decode : Json → Option Value) (name : String),
      Record.optional decode (look name) = Record.optional decode (look' name)) :
    ofLookup floats look = ofLookup floats look' := by
  unfold ofLookup
  rw [fixed "kind" (by decide), fixed "serial" (by decide), fixed "confidential" (by decide),
    fixed "sensitive" (by decide), fixed "stream_reply" (by decide)]
  simp only [loose]

theorem flags_of_ofLookup {header : Header} (read : ofLookup floats look = some header) :
    ∀ name ∈ ["confidential", "sensitive", "stream_reply"], Record.flag (look name) ≠ none := by
  unfold ofLookup at read
  -- The flags stand behind the eleven other fields.
  iterate 11 obtain ⟨_, _, read⟩ := Option.bind_eq_some_iff.mp read
  obtain ⟨_, first, read⟩ := Option.bind_eq_some_iff.mp read
  obtain ⟨_, second, read⟩ := Option.bind_eq_some_iff.mp read
  obtain ⟨_, third, _⟩ := Option.bind_eq_some_iff.mp read
  intro name among
  simp only [List.mem_cons, List.not_mem_nil, or_false] at among
  rcases among with rfl | rfl | rfl
  · exact Option.ne_none_iff_exists'.mpr ⟨_, first⟩
  · exact Option.ne_none_iff_exists'.mpr ⟨_, second⟩
  · exact Option.ne_none_iff_exists'.mpr ⟨_, third⟩

variable {early late : List (List Char × Json)} {field : OptionalField}

theorem ofJson_null (option : field.isFlag = false)
    (absent : field.name.toList ∉ (early ++ late).map Prod.fst) :
    ofJson floats (.object (early ++ (field.name.toList, .null) :: late)) =
      ofJson floats (.object (early ++ late)) := by
  have same : ∀ {name}, name ≠ field.name →
      lookup (early ++ (field.name.toList, .null) :: late) name = lookup (early ++ late) name :=
    fun other => lookup_insert_ne other .null
  refine ofLookup_congr floats ?_ ?_
  · intro name among
    refine same ?_
    rintro rfl
    revert among option
    cases field <;> decide
  · intro Value decode name
    by_cases here : name = field.name
    · rw [here, lookup_insert absent, lookup_none absent]
      exact optional_null decode
    · rw [same here]

theorem ofJson_null_flag (flag : field.isFlag = true)
    (absent : field.name.toList ∉ (early ++ late).map Prod.fst) :
    ofJson floats (.object (early ++ (field.name.toList, .null) :: late)) = none := by
  cases read : ofJson floats (.object (early ++ (field.name.toList, .null) :: late)) with
  | none => rfl
  | some header =>
      have among : field.name ∈ ["confidential", "sensitive", "stream_reply"] := by
        revert flag
        cases field <;> decide
      have filled := flags_of_ofLookup floats read field.name among
      rw [lookup_insert absent] at filled
      exact absurd rfl filled

end Header

inductive Around where
  | named (front back : List (List Char × Json))
  | listed (others : List Json)

namespace Around

def fill : Around → Json → Json
  | .named front back, header => .object (front ++ ("header".toList, header) :: back)
  | .listed others, header => .array (header :: others)

variable (floats : FloatText)

theorem required_header (front back : List (List Char × Json)) (header : Json) :
    required (Header.ofJson floats)
        (lookup (front ++ ("header".toList, header) :: back) "header") =
      if "header".toList ∈ (front ++ back).map Prod.fst then none
      else Header.ofJson floats header := by
  by_cases again : "header".toList ∈ (front ++ back).map Prod.fst
  · rw [lookup_twice again, if_pos again]
    rfl
  · rw [lookup_insert again, if_neg again]
    rfl

theorem ofLookup_congr {front back : List (List Char × Json)} {left right : Json}
    (same : Header.ofJson floats left = Header.ofJson floats right) :
    Message.ofLookup floats (lookup (front ++ ("header".toList, left) :: back)) =
      Message.ofLookup floats (lookup (front ++ ("header".toList, right) :: back)) := by
  unfold Message.ofLookup
  rw [required_header, required_header, same, lookup_insert_ne (by decide),
    lookup_insert_ne (by decide)]

theorem ofJson_fill {left right : Json}
    (same : Header.ofJson floats left = Header.ofJson floats right) (around : Around) :
    Message.ofJson floats (around.fill left) = Message.ofJson floats (around.fill right) := by
  cases around with
  | named front back => exact ofLookup_congr floats same
  | listed others =>
      unfold fill Message.ofJson
      dsimp only
      have alike := @ofLookup_congr floats [] (["body".toList].zip others) left right same
      exact congrArg (fun read => if others.length + 1 ≤ 2 then read else none) alike

theorem ofJson_fill_none {header : Json} (unread : Header.ofJson floats header = none)
    (around : Around) : Message.ofJson floats (around.fill header) = none := by
  have missing : ∀ front back, Message.ofLookup floats
      (lookup (front ++ ("header".toList, header) :: back)) = none := by
    intro front back
    unfold Message.ofLookup
    rw [required_header, unread, ite_self]
    rfl
  cases around with
  | named front back => exact missing front back
  | listed others =>
      unfold fill Message.ofJson
      dsimp only
      have nothing := missing [] (["body".toList].zip others)
      by_cases few : others.length + 1 ≤ 2
      · exact (if_pos few).trans nothing
      · exact if_neg few

end Around

/-- One payload's header has a field that is null, the other's is the same without it. -/
def Nulled (field : OptionalField) (payload other : Bytes) : Prop :=
  ∃ (around : Around) (early late : List (List Char × Json)),
    field.name.toList ∉ (early ++ late).map Prod.fst ∧
    Message.readText payload =
      some (around.fill (.object (early ++ (field.name.toList, .null) :: late))) ∧
    Message.readText other = some (around.fill (.object (early ++ late)))

section Frames

variable (floats : FloatText) (complaint : Bytes → String)

/-- What reading a frame's payload as a message gives. -/
def received (payload : Bytes) : Except Error Message :=
  Frame.decode (Message.fromSlice floats complaint) payload

theorem received_ok_iff {payload : Bytes} {message : Message} :
    received floats complaint payload = .ok message ↔
      (Message.readText payload).bind (Message.ofJson floats) = some message := by
  unfold received Frame.decode Message.fromSlice
  cases (Message.readText payload).bind (Message.ofJson floats) with
  | none => exact ⟨nofun, nofun⟩
  | some other => exact ⟨fun same => congrArg some (Except.ok.inj same),
      fun same => congrArg Except.ok (Option.some.inj same)⟩

/-- Messages come back as they were sent, where their bodies are not too deep; a field
that is null is a field that is absent, unless it is a flag. -/
theorem received_as_sent :
    (∀ (message : Message) (bytes : Bytes), message.header.Sized → message.body.Plain →
      Frame.encode (Message.toVec floats) message = .ok bytes →
        (received floats complaint (bytes.drop LENGTH_PREFIX_LEN) = .ok message ↔
          message.body.nesting < Message.DEPTH)) ∧
    ∀ (field : OptionalField) (payload other : Bytes), Nulled field payload other →
      (field.isFlag = false → ∀ message, received floats complaint payload = .ok message ↔
        received floats complaint other = .ok message) ∧
      ∀ message, received floats complaint other = .ok message →
        (received floats complaint payload = .ok message ↔ field.isFlag = false) := by
  constructor
  · intro message bytes sized plain encoded
    rw [received_ok_iff, Message.drop_encode floats encoded, Message.readText_toJson floats plain,
      Option.bind_some, Message.ofJson_toJson floats sized plain]
    by_cases shallow : message.body.nesting < Message.DEPTH
    · rw [if_pos shallow]
      exact ⟨fun _ => shallow, fun _ => rfl⟩
    · rw [if_neg shallow]
      exact ⟨nofun, fun deep => absurd deep shallow⟩
  · intro field payload other nulled
    obtain ⟨around, early, late, absent, read, plainly⟩ := nulled
    have kept : field.isFlag = false → ∀ message, received floats complaint payload = .ok message ↔
        received floats complaint other = .ok message := by
      intro option message
      have same := around.ofJson_fill floats (Header.ofJson_null floats option absent)
      rw [received_ok_iff, received_ok_iff, read, plainly, Option.bind_some, Option.bind_some, same]
    refine ⟨kept, ?_⟩
    intro message sent
    cases flag : field.isFlag with
    | false => exact ⟨fun _ => rfl, fun _ => (kept flag message).mpr sent⟩
    | true =>
        have refused := around.ofJson_fill_none floats (Header.ofJson_null_flag floats flag absent)
        rw [received_ok_iff, read, Option.bind_some, refused]
        exact ⟨nofun, nofun⟩

end Frames

def wholeNumbers : FloatText where
  write := fun _ => []
  read := fun _ => none

def bareSignal : Message where
  header := .blank .signal
  body := .null

/-- The same signal, but for a flag that is null. -/
def nullFlagged : Json :=
  .object [("header".toList, .object
    (write ((Header.blank .signal).fields ++ [("confidential", some .null)])))]

def textOf (tree : Json) : Bytes := Message.textBytes (Json.write tree)

theorem readText_textOf {tree : Json} (integral : Json.Integral tree) :
    Message.readText (textOf tree) = some tree :=
  (Message.readText_textBytes _).trans (Json.read_write_length integral)

theorem bareSignal_nulled : Nulled .confidential (textOf nullFlagged)
    (textOf (bareSignal.toJson wholeNumbers)) := by
  have integral : Json.Integral nullFlagged := by
    refine ⟨integralFields_write ?_, trivial⟩
    intro name value among
    rcases List.mem_append.mp among with header | flag
    · exact Header.integral_fields _ header
    · cases List.mem_singleton.mp flag
      trivial
  refine ⟨.named [] [], write (Header.blank .signal).fields, [], by decide +kernel, ?_, ?_⟩
  · exact readText_textOf integral
  · rw [List.append_nil]
    exact @Message.readText_toJson wholeNumbers bareSignal trivial

theorem sized_blank (kind : MessageKind) : (Header.blank kind).Sized :=
  ⟨Nat.two_pow_pos 64, nofun⟩

theorem bareSignal_received (complaint : Bytes → String) :
    received wholeNumbers complaint (textOf (bareSignal.toJson wholeNumbers)) = .ok bareSignal := by
  rw [received_ok_iff]
  unfold textOf
  rw [@Message.readText_toJson wholeNumbers bareSignal trivial, Option.bind_some,
    @Message.ofJson_toJson wholeNumbers bareSignal (sized_blank .signal) trivial]
  rfl

def nested : Nat → Value
  | 0 => .null
  | depth + 1 => .array [nested depth]

theorem nested_plain : ∀ depth, (nested depth).Plain
  | 0 => trivial
  | depth + 1 => ⟨nested_plain depth, trivial⟩

def deepSignal : Message where
  header := .blank .signal
  body := nested 127

theorem encode_of_fits {message : Message}
    (fits : (textOf (message.toJson wholeNumbers)).length ≤ MAX_FRAME_LEN) :
    Frame.encode (Message.toVec wholeNumbers) message =
      .ok (Frame.prefixed (textOf (message.toJson wholeNumbers))) := by
  change Frame.frame (textOf (message.toJson wholeNumbers)) = _
  unfold Frame.frame
  exact if_neg (Nat.not_lt.mpr fits)

/-- A flag that is null is refused, and a body that is too deep is written but not read. -/
theorem null_flag_refused :
    ∃ complaint : Bytes → String,
      (Nulled .confidential (textOf nullFlagged) (textOf (bareSignal.toJson wholeNumbers)) ∧
        received wholeNumbers complaint (textOf (bareSignal.toJson wholeNumbers)) =
          .ok bareSignal ∧
        received wholeNumbers complaint (textOf nullFlagged) ≠ .ok bareSignal) ∧
      ∃ bytes, Frame.encode (Message.toVec wholeNumbers) deepSignal = .ok bytes ∧
        received wholeNumbers complaint (bytes.drop LENGTH_PREFIX_LEN) ≠ .ok deepSignal := by
  refine ⟨fun _ => "", ⟨bareSignal_nulled, bareSignal_received _, ?_⟩, _,
    encode_of_fits (by decide +kernel), ?_⟩
  · intro read
    obtain ⟨around, early, late, absent, text, _⟩ := bareSignal_nulled
    rw [received_ok_iff, text, Option.bind_some,
      around.ofJson_fill_none wholeNumbers (Header.ofJson_null_flag wholeNumbers rfl absent)] at read
    cases read
  · intro read
    have plain : deepSignal.body.Plain := nested_plain 127
    have deep : ¬ deepSignal.body.nesting < Message.DEPTH := by decide +kernel
    rw [received_ok_iff, Message.drop_encode wholeNumbers (encode_of_fits (by decide +kernel)),
      Message.readText_toJson wholeNumbers plain, Option.bind_some,
      Message.ofJson_toJson wholeNumbers (sized_blank .signal) plain, if_neg deep] at read
    cases read

/-- A confidential call that answers another one, with a nested body. -/
def richCall : Message where
  header :=
    { Header.blank .methodCall with
      serial := 7, replySerial := some 3, sender := some (BusName.unique 2)
      destination := some (BusName.unique 1), path := some busPath, interface := some busInterface
      confidential := true }
  body := .array [.object [("count", .number (.posInt 3)), ("name", .string "daily")], nested 3]

theorem richCall_as_sent :
    received wholeNumbers (fun _ => "")
        ((Frame.prefixed (textOf (richCall.toJson wholeNumbers))).drop LENGTH_PREFIX_LEN) =
      .ok richCall ∧
    received wholeNumbers (fun _ => "") (textOf nullFlagged) ≠ .ok bareSignal := by
  have sent := received_as_sent wholeNumbers (fun _ => "")
  constructor
  · have sized : richCall.header.Sized := ⟨by decide, by decide⟩
    have plain : richCall.body.Plain :=
      ⟨⟨by decide, trivial, trivial, trivial⟩, nested_plain 3, trivial⟩
    exact (sent.1 richCall _ sized plain (encode_of_fits (by decide +kernel))).mpr (by decide)
  · intro read
    have flagged := ((sent.2 .confidential _ _ bareSignal_nulled).2 bareSignal
      (bareSignal_received _)).mp read
    exact absurd flagged (by decide)

end TinyBus
