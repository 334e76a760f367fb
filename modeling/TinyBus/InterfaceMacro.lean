/-
What the interface attribute makes of an `impl` block: the list of members for introspection,
the members that refuse ordinary delivery, and the dispatch by the name on the wire.
-/

import TinyBus.NameGrammar
import TinyBus.Error
import TinyBus.Version

namespace TinyBus

namespace InterfaceMacro

/-- One entry of a `#[tinybus(…)]` on a method. -/
inductive HelperAttr where
  | skip
  | name (value : String)
  | confidential
  | unknown

inductive Pattern where
  | wild
  | ident (name : String)
  | other

/-- A parameter of a method; `fromValue` reads a value of its type. -/
inductive FnArg (Arg : Type) where
  | receiver
  | typed (pattern : Pattern) (fromValue : Decoder Arg)

structure Method (Arg : Type) where
  ident : String
  attrs : List HelperAttr
  inputs : List (FnArg Arg)
  asyncness : Bool
  returns : Bool
  body : List Arg → Except Error (Except String Value)

inductive ImplItem (Arg : Type) where
  | fn (method : Method Arg)
  | other

/-- An argument of the attribute itself. -/
inductive Meta where
  | name (value : String)
  | other

inductive CompileError where
  | interfaceName
  | unknownAttribute
  | blocking
  | noResult
  | receiver
  | destructuring
  deriving DecidableEq

structure MethodAttrs where
  skip : Bool
  name : Option String
  confidential : Bool

def readAttr (read : MethodAttrs) : HelperAttr → Except CompileError MethodAttrs
  | .skip => .ok { read with skip := true }
  | .name value => .ok { read with name := some value }
  | .confidential => .ok { read with confidential := true }
  | .unknown => .error .unknownAttribute

def methodAttrs (attrs : List HelperAttr) : Except CompileError MethodAttrs :=
  attrs.foldlM readAttr { skip := false, name := none, confidential := false }

/-- `upper` is the uppercase of a character, which may be several. -/
def pascalFrom (toUppercase : Char → List Char) : Bool → List Char → List Char
  | _, [] => []
  | upper, c :: rest =>
      if c = '_' then pascalFrom toUppercase true rest
      else if upper then toUppercase c ++ pascalFrom toUppercase false rest
      else c :: pascalFrom toUppercase false rest

/-- `get_balance` becomes `GetBalance`. -/
def pascalCase (toUppercase : Char → List Char) (input : String) : String :=
  String.ofList (pascalFrom toUppercase true input.toList)

def interfaceName : List Meta → Except CompileError String
  | [] => .error .interfaceName
  | .name value :: _ => .ok value
  | .other :: rest => interfaceName rest

variable {Arg : Type}

def parameters : List (FnArg Arg) → Except CompileError (List (Decoder Arg))
  | [] => .ok []
  | .receiver :: _ => .error .receiver
  | .typed .other _ :: _ => .error .destructuring
  | .typed _ fromValue :: rest => do
      let more ← parameters rest
      return fromValue :: more

structure Arm (Arg : Type) where
  member : String
  params : List (Decoder Arg)
  method : Method Arg

structure Expansion (Arg : Type) where
  members : List String
  confidentialMembers : List String
  arms : List (Arm Arg)

def Method.hasReceiver (method : Method Arg) : Bool :=
  match method.inputs.head? with
  | some .receiver => true
  | _ => false

def visit (toUppercase : Char → List Char) (expansion : Expansion Arg) :
    ImplItem Arg → Except CompileError (Expansion Arg)
  | .other => .ok expansion
  | .fn method =>
      match methodAttrs method.attrs with
      | .error refusal => .error refusal
      | .ok attrs =>
          if attrs.skip then .ok expansion
          else if !method.hasReceiver then .ok expansion
          else if !method.asyncness then .error .blocking
          else if !method.returns then .error .noResult
          else
            let member := attrs.name.getD (pascalCase toUppercase method.ident)
            match parameters method.inputs.tail with
            | .error refusal => .error refusal
            | .ok params =>
                .ok {
                  members := expansion.members ++ [member]
                  confidentialMembers :=
                    if attrs.confidential then expansion.confidentialMembers ++ [member]
                    else expansion.confidentialMembers
                  arms := expansion.arms ++ [⟨member, params, method⟩] }

def expand (toUppercase : Char → List Char) (args : List Meta) (items : List (ImplItem Arg)) :
    Except CompileError (String × Expansion Arg) := do
  let name ← interfaceName args
  let expansion ← items.foldlM (visit toUppercase) ⟨[], [], []⟩
  return (name, expansion)

def decodeElements : List (Decoder Arg) → List Value → Nat → String → Except String (List Arg)
  | [], _, _, _ => .ok []
  | _ :: _, [], index, expected => .error (invalidLength index expected)
  | decode :: rest, value :: values, index, expected => do
      let first ← decode value
      let others ← decodeElements rest values (index + 1) expected
      return first :: others

def decodeTuple (params : List (Decoder Arg)) : Value → Except String (List Arg)
  | .array items => do
      let expected := "a tuple of size " ++ toString params.length
      let decoded ← decodeElements params items 0 expected
      if params.length < items.length then
        throw (invalidLength items.length "fewer elements in array")
      else return decoded
  | value => .error (invalidType value ("a tuple of size " ++ toString params.length))

def decodeArgs (params : List (Decoder Arg)) (member : MemberName) (args : Value) :
    Except Error (List Arg) :=
  parseArgs (decodeTuple params) member args

def encodeReply (value : Except String Value) : Except Error Value :=
  match value with
  | .ok value => .ok value
  | .error complaint => .error (.json complaint)

/-- A method without parameters does not look at the arguments. -/
def Arm.run (arm : Arm Arg) (member : MemberName) (args : Value) : Except Error Value := do
  let decoded ← if arm.params.isEmpty then pure [] else decodeArgs arm.params member args
  let value ← arm.method.body decoded
  encodeReply value

/-- An interface that is served; what is not there panicked. -/
structure Interface where
  name : Option InterfaceName
  members : Option (List MemberName)
  requiresConfidential : MemberName → Bool
  call : MemberName → Value → Option (Except Error Value)

def parseInterface (name : String) : Option InterfaceName := (InterfaceName.new name).toOption

def parseMember (name : String) : Option MemberName := (MemberName.new name).toOption

def unknownMethod (interface : String) (member : MemberName) : Option Error :=
  (parseInterface interface).map (fun name => .unknownMethod name member)

def Expansion.generated (name : String) (expansion : Expansion Arg) : Interface where
  name := parseInterface name
  members := expansion.members.mapM parseMember
  requiresConfidential member := expansion.confidentialMembers.contains member.text
  call member args :=
    match expansion.arms.find? (fun arm => arm.member == member.text) with
    | some arm => some (arm.run member args)
    | none => (unknownMethod name member).map .error

/-- The object tree invokes a target that it has found. -/
def invoke (target : Interface) (interface : InterfaceName) (member : MemberName) (args : Value)
    (confidential : Bool) : Option (Except Error Value) :=
  match target.members with
  | none => none
  | some members =>
      if !members.contains member then some (.error (.unknownMethod interface member))
      else if target.requiresConfidential member && !confidential then
        some (.error (.confidentialityRequired interface member))
      else target.call member args

/-- A method that goes on the bus, by what its annotations say. -/
structure Exported (Arg : Type) where
  arm : Arm Arg
  confidential : Bool

/-- Methods that are skipped and functions without an instance stay off the bus. -/
def exported (toUppercase : Char → List Char) : ImplItem Arg → Option (Exported Arg)
  | .other => none
  | .fn method =>
      match methodAttrs method.attrs, parameters method.inputs.tail with
      | .ok attrs, .ok params =>
          if attrs.skip || !method.hasReceiver then none
          else
            some {
              arm := ⟨attrs.name.getD (pascalCase toUppercase method.ident), params, method⟩
              confidential := attrs.confidential }
      | _, _ => none

/-- The first method of a name answers, and a name is confidential if any method of it is. -/
def meaning (methods : List (Exported Arg)) (interface : InterfaceName) (member : MemberName)
    (args : Value) (confidential : Bool) : Except Error Value :=
  match methods.find? (fun method => method.arm.member == member.text) with
  | none => .error (.unknownMethod interface member)
  | some method =>
      if methods.any (fun other => other.arm.member == member.text && other.confidential) &&
          !confidential then
        .error (.confidentialityRequired interface member)
      else method.arm.run member args

variable {toUppercase : Char → List Char}

structure Lists (methods : List (Exported Arg)) (expansion : Expansion Arg) : Prop where
  members : expansion.members = methods.map (fun method => method.arm.member)
  confidential : expansion.confidentialMembers =
    (methods.filter Exported.confidential).map (fun method => method.arm.member)
  arms : expansion.arms = methods.map Exported.arm

theorem visit_lists {methods : List (Exported Arg)} {expansion after : Expansion Arg}
    {item : ImplItem Arg} (lists : Lists methods expansion)
    (visited : visit toUppercase expansion item = .ok after) :
    Lists (methods ++ (exported toUppercase item).toList) after := by
  cases item with
  | other =>
      cases visited
      simpa [exported] using lists
  | fn method =>
      unfold visit at visited
      dsimp only at visited
      cases read : methodAttrs method.attrs with
      | error refusal =>
          rw [read] at visited
          cases visited
      | ok attrs =>
          rw [read] at visited
          dsimp only at visited
          by_cases off : (attrs.skip || !method.hasReceiver) = true
          · have none : exported toUppercase (.fn method) = none := by
              unfold exported
              dsimp only
              rw [read]
              cases parameters method.inputs.tail <;> simp [off]
            have same : expansion = after := by
              rcases Bool.or_eq_true_iff.mp off with skipped | bare
              · simpa [skipped] using visited
              · simpa [bare] using visited
            rw [none, ← same]
            simpa using lists
          · simp only [Bool.or_eq_true, not_or] at off
            rw [if_neg off.1, if_neg off.2] at visited
            split at visited
            · cases visited
            · split at visited
              · cases visited
              · cases taken : parameters method.inputs.tail with
                | error refusal =>
                    rw [taken] at visited
                    cases visited
                | ok params =>
                    rw [taken] at visited
                    cases visited
                    have some : exported toUppercase (.fn method) = some {
                        arm := ⟨attrs.name.getD (pascalCase toUppercase method.ident), params,
                          method⟩
                        confidential := attrs.confidential } := by
                      unfold exported
                      dsimp only
                      rw [read, taken]
                      simp [off.1, off.2]
                    rw [some]
                    constructor
                    · simp [lists.members]
                    · by_cases secret : attrs.confidential = true
                      · simp [secret, lists.confidential]
                      · simp [secret, lists.confidential]
                    · simp [lists.arms]

theorem visits_lists {items : List (ImplItem Arg)} {methods : List (Exported Arg)}
    {expansion after : Expansion Arg} (lists : Lists methods expansion)
    (visited : items.foldlM (visit toUppercase) expansion = .ok after) :
    Lists (methods ++ items.filterMap (exported toUppercase)) after := by
  induction items generalizing methods expansion with
  | nil =>
      cases visited
      simpa using lists
  | cons item rest ih =>
      rw [List.foldlM_cons] at visited
      cases one : visit toUppercase expansion item with
      | error refusal =>
          rw [one] at visited
          cases visited
      | ok middle =>
          rw [one] at visited
          have further := ih (visit_lists lists one) visited
          rw [List.append_assoc] at further
          cases found : exported toUppercase item with
          | none => simpa [found] using further
          | some method => simpa [found] using further

theorem expand_lists {args : List Meta} {items : List (ImplItem Arg)} {name : String}
    {expansion : Expansion Arg}
    (expanded : expand toUppercase args items = .ok (name, expansion)) :
    interfaceName args = .ok name ∧
      Lists (items.filterMap (exported toUppercase)) expansion := by
  unfold expand at expanded
  cases named : interfaceName args with
  | error refusal =>
      rw [named] at expanded
      cases expanded
  | ok given =>
      simp only [named, bind, Except.bind] at expanded
      split at expanded
      · cases expanded
      · rename_i visited
        cases expanded
        have lists : Lists ([] : List (Exported Arg)) ⟨[], [], []⟩ := ⟨rfl, rfl, rfl⟩
        exact ⟨rfl, by simpa using visits_lists lists visited⟩

theorem mapM_parseMember {names : List String} {members : List MemberName}
    (parsed : names.mapM parseMember = some members) : members.map MemberName.text = names := by
  induction names generalizing members with
  | nil =>
      cases parsed
      rfl
  | cons name rest ih =>
      rw [List.mapM_cons] at parsed
      simp only [Option.bind_eq_bind, Option.bind_eq_some_iff, Option.pure_def,
        Option.some.injEq] at parsed
      obtain ⟨member, one, others, more, rfl⟩ := parsed
      have text : member.text = name := by
        unfold parseMember at one
        cases made : MemberName.new name with
        | error refusal => simp [made, Except.toOption] at one
        | ok given =>
            simp only [made, Except.toOption, Option.some.injEq] at one
            rw [← one]
            exact MemberName.new_ok_iff.mp made
      rw [List.map_cons, text, ih more]

theorem find_arm (methods : List (Exported Arg)) (text : String) :
    (methods.map Exported.arm).find? (fun arm => arm.member == text) =
      (methods.find? (fun method => method.arm.member == text)).map Exported.arm := by
  rw [List.find?_map]
  rfl

theorem contains_confidential (methods : List (Exported Arg)) (text : String) :
    ((methods.filter Exported.confidential).map (fun method => method.arm.member)).contains text =
      methods.any (fun other => other.arm.member == text && other.confidential) := by
  rw [Bool.eq_iff_iff]
  simp only [List.contains_iff_mem, List.mem_map, List.mem_filter, List.any_eq_true,
    Bool.and_eq_true, beq_iff_eq]
  constructor
  · rintro ⟨method, ⟨member, secret⟩, same⟩
    exact ⟨method, member, same, secret⟩
  · rintro ⟨method, member, same, secret⟩
    exact ⟨method, ⟨member, secret⟩, same⟩

/-- What the object tree answers for the generated interface is what the annotated block
means: the first method with that name on the wire runs on the arguments by position, a name
that a confidential method has is refused to an ordinary call whichever method it is, and the
members for introspection are exactly the names that are answered. -/
theorem expand_preserves {args : List Meta} {items : List (ImplItem Arg)} {name : String}
    {expansion : Expansion Arg} {members : List MemberName}
    (expanded : expand toUppercase args items = .ok (name, expansion))
    (legal : (expansion.generated name).members = some members) (member : MemberName) :
    (member ∈ members ↔
      ∃ method ∈ items.filterMap (exported toUppercase), method.arm.member = member.text) ∧
      ∀ interface values confidential,
        invoke (expansion.generated name) interface member values confidential =
          some (meaning (items.filterMap (exported toUppercase)) interface member values
            confidential) := by
  obtain ⟨_, lists⟩ := expand_lists expanded
  have texts := mapM_parseMember legal
  have listed : member ∈ members ↔
      ∃ method ∈ items.filterMap (exported toUppercase), method.arm.member = member.text := by
    have same : member ∈ members ↔ member.text ∈ members.map MemberName.text := by
      constructor
      · exact fun present => List.mem_map_of_mem present
      · intro present
        obtain ⟨other, present, same⟩ := List.mem_map.mp present
        rw [show other = member by cases other; cases member; simp_all] at present
        exact present
    rw [same, texts, lists.members, List.mem_map]
  refine ⟨listed, ?_⟩
  intro interface values confidential
  have required : (expansion.generated name).requiresConfidential member =
      (items.filterMap (exported toUppercase)).any
        (fun other => other.arm.member == member.text && other.confidential) := by
    rw [← contains_confidential, ← lists.confidential]
    rfl
  unfold invoke meaning
  rw [legal, required]
  dsimp only
  cases found : (items.filterMap (exported toUppercase)).find?
      (fun method => method.arm.member == member.text) with
  | none =>
      have absent : members.contains member = false := by
        rw [← Bool.not_eq_true, List.contains_iff_mem, listed]
        rintro ⟨method, among, same⟩
        exact absurd (beq_iff_eq.mpr same) (by simpa using List.find?_eq_none.mp found method among)
      rw [absent]
      rfl
  | some method =>
      have present : members.contains member = true := by
        rw [List.contains_iff_mem, listed]
        refine ⟨method, List.mem_of_find?_eq_some found, ?_⟩
        simpa using List.find?_some found
      have called : (expansion.generated name).call member values =
          some (method.arm.run member values) := by
        change (match expansion.arms.find? (fun arm => arm.member == member.text) with
          | some arm => some (arm.run member values)
          | none => (unknownMethod name member).map Except.error) = _
        rw [lists.arms, find_arm, found]
        rfl
      simp only [present, Bool.not_true, Bool.false_eq_true, if_false, called]
      split <;> rfl

def asciiUppercase (c : Char) : List Char := [c.toUpper]

def answering (text : String) : List Value → Except Error (Except String Value) :=
  fun _ => .ok (.ok (.string text))

def voiceBlock : List (ImplItem Value) :=
  [.fn ⟨"new", [], [], false, true, answering "new"⟩,
    .fn ⟨"transcribe", [], [.receiver, .typed (.ident "path") .ok], true, true,
      answering "transcribed"⟩,
    .fn ⟨"read_key", [.confidential], [.receiver], true, true, answering "key"⟩,
    .fn ⟨"languages", [.name "Transcribe"], [.receiver], true, true, answering "english"⟩]

def voiceExpansion : Expansion Value :=
  match expand asciiUppercase [.name "ai.tinyhumans.openhuman.Voice"] voiceBlock with
  | .ok (_, expansion) => expansion
  | .error _ => ⟨[], [], []⟩

theorem voiceBlock_preserved :
    let target := voiceExpansion.generated "ai.tinyhumans.openhuman.Voice"
    let transcribe : MemberName := ⟨"Transcribe", by rfl⟩
    let readKey : MemberName := ⟨"ReadKey", by rfl⟩
    invoke target busInterface transcribe (.array [.string "a.wav"]) false =
        some (.ok (.string "transcribed")) ∧
      invoke target busInterface readKey (.array []) false =
        some (.error (.confidentialityRequired busInterface readKey)) := by
  have expanded : expand asciiUppercase [.name "ai.tinyhumans.openhuman.Voice"] voiceBlock =
      .ok ("ai.tinyhumans.openhuman.Voice", voiceExpansion) := by rfl
  have legal : (voiceExpansion.generated "ai.tinyhumans.openhuman.Voice").members =
      some [⟨"Transcribe", by rfl⟩, ⟨"ReadKey", by rfl⟩, ⟨"Transcribe", by rfl⟩] := by rfl
  refine ⟨?_, ?_⟩
  · rw [(expand_preserves expanded legal ⟨"Transcribe", by rfl⟩).2]
    rfl
  · rw [(expand_preserves expanded legal ⟨"ReadKey", by rfl⟩).2]
    rfl

end InterfaceMacro

end TinyBus
