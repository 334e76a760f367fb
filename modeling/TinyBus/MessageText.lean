/-
Messages as JSON, and as frames.  Fields that are absent are omitted; a reader takes a
field that is null for one that is absent, but for the three flags of the header.
-/

import TinyBus.Framing
import TinyBus.NameGrammar
import TinyBus.ValueText

namespace TinyBus

namespace Record

abbrev Fields := List (String × Option Json)

def write (fields : Fields) : List (List Char × Json) :=
  fields.filterMap (fun field => field.2.map (fun value => (field.1.toList, value)))

/-- A field of an object: none if it comes twice. -/
def lookup (fields : List (List Char × Json)) (name : String) : Option (Option Json) :=
  match fields.filter (fun entry => entry.1 == name.toList) with
  | [] => some none
  | [entry] => some (some entry.2)
  | _ => none

def required {Value : Type} (decode : Json → Option Value) :
    Option (Option Json) → Option Value
  | some (some value) => decode value
  | _ => none

/-- An `Option` with a default: null is read as absent. -/
def optional {Value : Type} (decode : Json → Option Value) :
    Option (Option Json) → Option (Option Value)
  | none => none
  | some none => some none
  | some (some .null) => some none
  | some (some value) => (decode value).map some

/-- A `bool` with a default. -/
def flag : Option (Option Json) → Option Bool
  | some none => some false
  | some (some (.bool value)) => some value
  | _ => none

end Record

open Record

namespace MessageKind

def text : MessageKind → String
  | .methodCall => "method_call"
  | .methodReturn => "method_return"
  | .error => "error"
  | .signal => "signal"
  | .directedSignal => "directed_signal"

def ofText (name : List Char) : Option MessageKind :=
  [methodCall, .methodReturn, .error, .signal, .directedSignal].find?
    (fun kind => kind.text.toList == name)

/-- A variant without data is its name, or an object of its name and null. -/
def ofJson : Json → Option MessageKind
  | .string name => ofText name
  | .object [(name, .null)] => ofText name
  | _ => none

end MessageKind

namespace ModuleLifecycle

def text : ModuleLifecycle → String
  | .initializing => "initializing"
  | .unknown => "unknown"

def ofJson : Json → Option ModuleLifecycle
  | .string name => some (if name = "initializing".toList then .initializing else .unknown)
  | _ => none

end ModuleLifecycle

namespace Header

variable (floats : FloatText)

def u64Json (value : Nat) : Json := .number (Nat.toDigits 10 value)

def u64OfJson : Json → Option Nat
  | .number token =>
      match Number.ofToken floats token with
      | some (.posInt value) => some value.toNat
      | _ => none
  | _ => none

def textJson (text : String) : Json := .string text.toList

def textOfJson : Json → Option String
  | .string text => some (String.ofList text)
  | _ => none

def nameOfJson {Name : Type} (parse : String → Except InvalidName Name) (value : Json) :
    Option Name :=
  (textOfJson value).bind (fun text => (parse text).toOption)

def flagJson (flag : Bool) : Option Json := if flag then some (.bool true) else none

def names : List String :=
  ["kind", "serial", "reply_serial", "sender", "expected_responder", "destination", "path",
    "interface", "member", "error_name", "module_lifecycle", "confidential", "sensitive",
    "stream_reply"]

def fields (header : Header) : Fields :=
  [("kind", some (textJson header.kind.text)),
    ("serial", some (u64Json header.serial)),
    ("reply_serial", header.replySerial.map u64Json),
    ("sender", header.sender.map (fun name => textJson name.text)),
    ("expected_responder", header.expectedResponder.map (fun name => textJson name.text)),
    ("destination", header.destination.map (fun name => textJson name.text)),
    ("path", header.path.map (fun path => textJson path.text)),
    ("interface", header.interface.map (fun name => textJson name.text)),
    ("member", header.member.map (fun name => textJson name.text)),
    ("error_name", header.errorName.map textJson),
    ("module_lifecycle", header.moduleLifecycle.map (fun state => textJson state.text)),
    ("confidential", flagJson header.confidential),
    ("sensitive", flagJson header.sensitive),
    ("stream_reply", flagJson header.streamReply)]

def toJson (header : Header) : Json := .object (write header.fields)

def ofLookup (look : String → Option (Option Json)) : Option Header := do
  let kind ← required MessageKind.ofJson (look "kind")
  let serial ← required (u64OfJson floats) (look "serial")
  let replySerial ← optional (u64OfJson floats) (look "reply_serial")
  let sender ← optional (nameOfJson BusName.new) (look "sender")
  let expectedResponder ← optional (nameOfJson BusName.new) (look "expected_responder")
  let destination ← optional (nameOfJson BusName.new) (look "destination")
  let path ← optional (nameOfJson ObjectPath.new) (look "path")
  let interface ← optional (nameOfJson InterfaceName.new) (look "interface")
  let member ← optional (nameOfJson MemberName.new) (look "member")
  let errorName ← optional textOfJson (look "error_name")
  let moduleLifecycle ← optional ModuleLifecycle.ofJson (look "module_lifecycle")
  let confidential ← flag (look "confidential")
  let sensitive ← flag (look "sensitive")
  let streamReply ← flag (look "stream_reply")
  return {
    kind := kind, serial := serial, replySerial := replySerial, sender := sender,
    expectedResponder := expectedResponder, destination := destination, path := path,
    interface := interface, member := member, errorName := errorName,
    moduleLifecycle := moduleLifecycle, confidential := confidential, sensitive := sensitive,
    streamReply := streamReply }

/-- A struct is read from an object, or from an array of its fields in order. -/
def ofJson : Json → Option Header
  | .object fields => ofLookup floats (lookup fields)
  | .array items =>
      if items.length ≤ names.length then
        ofLookup floats (lookup ((names.map String.toList).zip items))
      else none
  | _ => none

end Header

namespace Message

variable (floats : FloatText)

def bodyJson : Value → Option Json
  | .null => none
  | body => some (body.toJson floats)

def toJson (message : Message) : Json :=
  .object (write [("header", some message.header.toJson), ("body", bodyJson floats message.body)])

/-- The containers inside one another that the JSON library reads.  What it skips may
have more of them. -/
def DEPTH : Nat := 127

def bodyOfJson : Option (Option Json) → Option Value
  | none => none
  | some none => some .null
  | some (some value) => if value.nesting < DEPTH then Value.ofJson floats value else none

def ofLookup (look : String → Option (Option Json)) : Option Message := do
  let header ← required (Header.ofJson floats) (look "header")
  let body ← bodyOfJson floats (look "body")
  return { header := header, body := body }

def ofJson : Json → Option Message
  | .object fields => ofLookup floats (lookup fields)
  | .array items =>
      if items.length ≤ 2 then ofLookup floats (lookup (["header".toList, "body".toList].zip items))
      else none
  | _ => none

def textBytes (chars : List Char) : Bytes := chars.flatMap String.utf8EncodeChar

def readText (payload : Bytes) : Option Json :=
  match String.fromUTF8? ⟨payload.toArray⟩ with
  | none => none
  | some text => Json.read text.toList.length text.toList

def toVec (message : Message) : Except String Bytes :=
  .ok (textBytes (Json.write (message.toJson floats)))

def fromSlice (complaint : Bytes → String) (payload : Bytes) : Except String Message :=
  match (readText payload).bind (ofJson floats) with
  | none => .error (complaint payload)
  | some message => .ok message

end Message

namespace Record

theorem lookup_none {fields : List (List Char × Json)} {name : String}
    (absent : name.toList ∉ fields.map Prod.fst) : lookup fields name = some none := by
  have empty : fields.filter (fun entry => entry.1 == name.toList) = [] := by
    rw [List.filter_eq_nil_iff]
    intro entry among same
    exact absent (List.mem_map.mpr ⟨entry, among, beq_iff_eq.mp same⟩)
  unfold lookup
  rw [empty]

theorem lookup_insert_ne {early late : List (List Char × Json)} {name other : String}
    (different : other ≠ name) (value : Json) :
    lookup (early ++ (name.toList, value) :: late) other = lookup (early ++ late) other := by
  have apart : ((name.toList == other.toList) = true) → False := by
    intro same
    exact different (String.toList_inj.mp (beq_iff_eq.mp same)).symm
  unfold lookup
  rw [List.filter_append, List.filter_append, List.filter_cons, if_neg apart]

theorem lookup_insert {early late : List (List Char × Json)} {name : String}
    (absent : name.toList ∉ (early ++ late).map Prod.fst) (value : Json) :
    lookup (early ++ (name.toList, value) :: late) name = some (some value) := by
  have empty : ∀ fields : List (List Char × Json), fields ⊆ early ++ late →
      fields.filter (fun entry => entry.1 == name.toList) = [] := by
    intro fields within
    rw [List.filter_eq_nil_iff]
    intro entry among same
    exact absent (List.mem_map.mpr ⟨entry, within among, beq_iff_eq.mp same⟩)
  unfold lookup
  rw [List.filter_append, List.filter_cons, if_pos (beq_self_eq_true name.toList),
    empty early (List.subset_append_left _ _), empty late (List.subset_append_right _ _)]
  rfl

theorem write_append (early late : Fields) : write (early ++ late) = write early ++ write late :=
  List.filterMap_append

theorem mem_write {fields : Fields} {key : List Char}
    (among : key ∈ (write fields).map Prod.fst) : ∃ field ∈ fields, field.1.toList = key := by
  obtain ⟨entry, written, rfl⟩ := List.mem_map.mp among
  obtain ⟨field, here, same⟩ := List.mem_filterMap.mp written
  obtain ⟨value, _, rfl⟩ := Option.map_eq_some_iff.mp same
  exact ⟨field, here, rfl⟩

theorem lookup_write {fields : Fields} (distinct : (fields.map Prod.fst).Nodup)
    {name : String} {value : Option Json} (among : (name, value) ∈ fields) :
    lookup (write fields) name = some value := by
  obtain ⟨early, late, rfl⟩ := List.append_of_mem among
  have absent : name.toList ∉ (write early ++ write late).map Prod.fst := by
    intro written
    rw [List.map_append] at distinct written
    have parts := List.nodup_append.mp distinct
    rcases List.mem_append.mp written with before | after
    · obtain ⟨field, here, same⟩ := mem_write before
      exact parts.2.2 _ (List.mem_map_of_mem here) _ List.mem_cons_self (String.toList_inj.mp same)
    · obtain ⟨field, here, same⟩ := mem_write after
      exact (List.nodup_cons.mp parts.2.1).1
        (List.mem_map.mpr ⟨field, here, String.toList_inj.mp same⟩)
  rw [write_append]
  cases value with
  | none =>
      exact lookup_none absent
  | some value =>
      exact lookup_insert absent value

theorem optional_some {Value : Type} {decode : Json → Option Value} {value : Json}
    (other : value ≠ .null) : optional decode (some (some value)) = (decode value).map some := by
  unfold optional
  split <;> simp_all

end Record

namespace Header

variable (floats : FloatText)

/-- The numbers of a header are 64-bit integers. -/
def Sized (header : Header) : Prop :=
  header.serial < 2 ^ 64 ∧ ∀ serial ∈ header.replySerial, serial < 2 ^ 64

theorem u64OfJson_u64Json {value : Nat} (fits : value < 2 ^ 64) :
    u64OfJson floats (u64Json value) = some value := by
  have token : u64Json value = .number (Number.token floats (.posInt (.ofNat value))) := by
    unfold Number.token
    dsimp only
    rw [UInt64.toNat_ofNat_of_lt' fits]
    rfl
  rw [token]
  unfold u64OfJson
  dsimp only
  have plain : (Number.posInt (.ofNat value)).Plain := trivial
  rw [Number.ofToken_token floats plain]
  exact congrArg some (UInt64.toNat_ofNat_of_lt' fits)

theorem optional_map {Value : Type} {decode : Json → Option Value} {encode : Value → Json}
    {value : Option Value} (read : ∀ inner ∈ value, decode (encode inner) = some inner)
    (other : ∀ inner, encode inner ≠ .null) :
    Record.optional decode (some (value.map encode)) = some value := by
  cases value with
  | none => rfl
  | some inner =>
      rw [Option.map_some, optional_some (other inner), read inner rfl]
      rfl

theorem nameOfJson_text {Name : Type} {parse : String → Except InvalidName Name}
    {text : String} {name : Name} (parsed : parse text = .ok name) :
    nameOfJson parse (textJson text) = some name := by
  change (parse (String.ofList text.toList)).toOption = _
  rw [String.ofList_toList, parsed]
  rfl

theorem flag_flagJson (value : Bool) : Record.flag (some (flagJson value)) = some value := by
  cases value with
  | true => rfl
  | false => rfl

theorem kind_ofJson (kind : MessageKind) :
    MessageKind.ofJson (textJson kind.text) = some kind := by
  cases kind <;> decide

theorem lifecycle_ofJson (state : ModuleLifecycle) :
    ModuleLifecycle.ofJson (textJson state.text) = some state := by
  cases state <;> decide

theorem ofJson_toJson {header : Header} (sized : header.Sized) :
    ofJson floats header.toJson = some header := by
  have distinct : (header.fields.map Prod.fst).Nodup := by
    change names.Nodup
    decide
  have found : ∀ {name value}, (name, value) ∈ header.fields →
      lookup (write header.fields) name = some value := fun among => lookup_write distinct among
  have filled : ∀ text, textJson text ≠ .null := fun _ => nofun
  unfold ofJson toJson ofLookup
  dsimp only
  rw [@found "kind" (some (textJson header.kind.text)) (by simp [fields]),
    @found "serial" (some (u64Json header.serial)) (by simp [fields]),
    @found "reply_serial" (header.replySerial.map u64Json) (by simp [fields]),
    @found "sender" (header.sender.map (fun name => textJson name.text)) (by simp [fields]),
    @found "expected_responder" (header.expectedResponder.map (fun name => textJson name.text))
      (by simp [fields]),
    @found "destination" (header.destination.map (fun name => textJson name.text))
      (by simp [fields]),
    @found "path" (header.path.map (fun path => textJson path.text)) (by simp [fields]),
    @found "interface" (header.interface.map (fun name => textJson name.text))
      (by simp [fields]),
    @found "member" (header.member.map (fun name => textJson name.text)) (by simp [fields]),
    @found "error_name" (header.errorName.map textJson) (by simp [fields]),
    @found "module_lifecycle" (header.moduleLifecycle.map (fun state => textJson state.text))
      (by simp [fields]),
    @found "confidential" (flagJson header.confidential) (by simp [fields]),
    @found "sensitive" (flagJson header.sensitive) (by simp [fields]),
    @found "stream_reply" (flagJson header.streamReply) (by simp [fields])]
  have kind : required MessageKind.ofJson (some (some (textJson header.kind.text))) =
      some header.kind := kind_ofJson header.kind
  have serial : required (u64OfJson floats) (some (some (u64Json header.serial))) =
      some header.serial := u64OfJson_u64Json floats sized.1
  rw [kind, serial,
    optional_map (fun inner here => u64OfJson_u64Json floats (sized.2 inner here))
      (fun _ => nofun),
    optional_map (fun inner _ => nameOfJson_text (BusName.new_ok_iff.mpr rfl))
      (fun inner => filled inner.text),
    optional_map (fun inner _ => nameOfJson_text (BusName.new_ok_iff.mpr rfl))
      (fun inner => filled inner.text),
    optional_map (fun inner _ => nameOfJson_text (BusName.new_ok_iff.mpr rfl))
      (fun inner => filled inner.text),
    optional_map (fun inner _ => nameOfJson_text (ObjectPath.new_ok_iff.mpr rfl))
      (fun inner => filled inner.text),
    optional_map (fun inner _ => nameOfJson_text (InterfaceName.new_ok_iff.mpr rfl))
      (fun inner => filled inner.text),
    optional_map (fun inner _ => nameOfJson_text (MemberName.new_ok_iff.mpr rfl))
      (fun inner => filled inner.text),
    @optional_map _ textOfJson textJson _ (fun _ _ => congrArg some String.ofList_toList) filled,
    optional_map (fun inner _ => lifecycle_ofJson inner) (fun inner => filled inner.text),
    flag_flagJson, flag_flagJson, flag_flagJson]
  rfl

theorem integral_u64Json (value : Nat) : Json.Integral (u64Json value) :=
  ⟨[], _, .inl rfl, Decimal.canonical_toDigits value, rfl⟩

theorem integral_fields (header : Header) {name : String} {value : Json}
    (among : (name, some value) ∈ header.fields) : Json.Integral value := by
  have written : ∀ {Part : Type} {part : Option Part} {encode : Part → Json},
      (∀ inner, Json.Integral (encode inner)) → some value = part.map encode →
        Json.Integral value := by
    intro Part part encode every same
    obtain ⟨inner, _, rfl⟩ := Option.map_eq_some_iff.mp same.symm
    exact every inner
  have text : ∀ text, Json.Integral (textJson text) := fun _ => trivial
  have flag : ∀ {raised : Bool}, some value = flagJson raised → Json.Integral value := by
    intro raised same
    cases raised with
    | true => cases same; trivial
    | false => cases same
  simp only [fields, List.mem_cons, Prod.mk.injEq, List.not_mem_nil, or_false] at among
  rcases among with ⟨_, same⟩ | ⟨_, same⟩ | ⟨_, same⟩ | ⟨_, same⟩ | ⟨_, same⟩ | ⟨_, same⟩ |
    ⟨_, same⟩ | ⟨_, same⟩ | ⟨_, same⟩ | ⟨_, same⟩ | ⟨_, same⟩ | ⟨_, same⟩ | ⟨_, same⟩ | ⟨_, same⟩
  · cases same
    exact text _
  · cases same
    exact integral_u64Json _
  · exact written integral_u64Json same
  · exact written (fun _ => text _) same
  · exact written (fun _ => text _) same
  · exact written (fun _ => text _) same
  · exact written (fun _ => text _) same
  · exact written (fun _ => text _) same
  · exact written (fun _ => text _) same
  · exact written text same
  · exact written (fun _ => text _) same
  · exact flag same
  · exact flag same
  · exact flag same

end Header

namespace Record

theorem integralFields_write : ∀ {fields : Fields},
    (∀ {name value}, (name, some value) ∈ fields → Json.Integral value) →
      Json.IntegralFields (write fields)
  | [], _ => trivial
  | (_, none) :: rest, every =>
      @integralFields_write rest (fun among => every (List.mem_cons_of_mem _ among))
  | (_, some _) :: _, every =>
      ⟨every List.mem_cons_self,
        integralFields_write (fun among => every (List.mem_cons_of_mem _ among))⟩

end Record

namespace Message

variable (floats : FloatText)

theorem bodyJson_of_ne {body : Value} (filled : body ≠ .null) :
    bodyJson floats body = some (body.toJson floats) := by
  cases body with
  | null => exact absurd rfl filled
  | bool _ => rfl
  | number _ => rfl
  | string _ => rfl
  | array _ => rfl
  | object _ => rfl

theorem bodyOfJson_bodyJson {body : Value} (plain : body.Plain) :
    bodyOfJson floats (some (bodyJson floats body)) =
      if body.nesting < DEPTH then some body else none := by
  by_cases empty : body = .null
  · rw [empty]
    rfl
  · have read := Value.ofJson_toJson floats body plain
    rw [bodyJson_of_ne floats empty]
    unfold bodyOfJson
    dsimp only
    rw [Value.nesting_toJson, read]

variable {message : Message}

theorem integral_toJson (plain : message.body.Plain) :
    Json.Integral (message.toJson floats) := by
  refine integralFields_write ?_
  intro name value among
  simp only [List.mem_cons, Prod.mk.injEq, List.not_mem_nil, or_false] at among
  rcases among with ⟨_, same⟩ | ⟨_, same⟩
  · cases same
    exact integralFields_write message.header.integral_fields
  · by_cases empty : message.body = .null
    · rw [empty] at same
      cases same
    · rw [bodyJson_of_ne floats empty] at same
      cases same
      exact Value.integral_toJson floats _ plain

theorem ofJson_toJson (sized : message.header.Sized) (plain : message.body.Plain) :
    ofJson floats (message.toJson floats) =
      if message.body.nesting < DEPTH then some message else none := by
  have distinct : ([("header", some message.header.toJson),
      ("body", bodyJson floats message.body)].map Prod.fst).Nodup := by
    change ["header", "body"].Nodup
    decide
  have header : required (Header.ofJson floats) (some (some message.header.toJson)) =
      some message.header := Header.ofJson_toJson floats sized
  unfold ofJson toJson ofLookup
  dsimp only
  rw [@lookup_write _ distinct "header" (some message.header.toJson) List.mem_cons_self,
    @lookup_write _ distinct "body" (bodyJson floats message.body)
      (List.mem_cons_of_mem _ List.mem_cons_self),
    header, bodyOfJson_bodyJson floats plain]
  by_cases shallow : message.body.nesting < DEPTH
  · rw [if_pos shallow, if_pos shallow]
    rfl
  · rw [if_neg shallow, if_neg shallow]
    rfl

theorem readText_textBytes (chars : List Char) :
    readText (textBytes chars) = Json.read chars.length chars := by
  have bytes : (⟨(textBytes chars).toArray⟩ : ByteArray) = (String.ofList chars).toByteArray := by
    rw [String.toByteArray_ofList, List.utf8Encode]
    apply ByteArray.ext
    apply Array.toList_inj.mp
    rw [List.toList_data_toByteArray]
    rfl
  have text : String.fromUTF8? ⟨(textBytes chars).toArray⟩ = some (String.ofList chars) := by
    rw [bytes]
    exact dif_pos (String.ofList chars).isValidUTF8
  unfold readText
  rw [text]
  dsimp only
  rw [String.toList_ofList]

theorem drop_encode {bytes : Bytes} (encoded : Frame.encode (toVec floats) message = .ok bytes) :
    bytes.drop LENGTH_PREFIX_LEN = textBytes (Json.write (message.toJson floats)) := by
  have framed : Frame.frame (textBytes (Json.write (message.toJson floats))) = .ok bytes := encoded
  rw [(Frame.frame_ok framed).2]
  exact List.drop_left' (Frame.toBeBytes_length _)

theorem readText_toJson (plain : message.body.Plain) :
    readText (textBytes (Json.write (message.toJson floats))) = some (message.toJson floats) := by
  rw [readText_textBytes, Json.read_write_length (integral_toJson floats plain)]

end Message

end TinyBus
