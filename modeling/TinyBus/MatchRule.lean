/-
Subscription filters.  Unset fields match anything; set fields must all match.
-/

import TinyBus.Message

namespace TinyBus

structure MatchRule where
  kind : Option MessageKind
  sender : Option BusName
  interface : Option InterfaceName
  member : Option MemberName
  path : Option ObjectPath
  pathNamespace : Option ObjectPath
  deriving DecidableEq

namespace MatchRule

def addMember : MemberName := ⟨"AddMatch", by rfl⟩

def removeMember : MemberName := ⟨"RemoveMatch", by rfl⟩

/-- The empty rule, which every message satisfies. -/
def new : MatchRule := ⟨none, none, none, none, none, none⟩

def fieldMatches {α : Type} [DecidableEq α] (required found : Option α) : Bool :=
  match required with
  | none => true
  | some value => found == some value

def namespaceMatches (required found : Option ObjectPath) : Bool :=
  match required, found with
  | none, _ => true
  | some _, none => false
  | some parent, some path => path.startsWith parent

/-- Whether a message satisfies every set field. -/
def accepts (rule : MatchRule) (message : Message) : Bool :=
  fieldMatches rule.kind (some message.header.kind) &&
    fieldMatches rule.sender message.header.sender &&
    fieldMatches rule.interface message.header.interface &&
    fieldMatches rule.member message.header.member &&
    fieldMatches rule.path message.header.path &&
    namespaceMatches rule.pathNamespace message.header.path

/-- Every set field but the sender is satisfied. -/
def othersAccept (rule : MatchRule) (message : Message) : Bool :=
  fieldMatches rule.kind (some message.header.kind) &&
    fieldMatches rule.interface message.header.interface &&
    fieldMatches rule.member message.header.member &&
    fieldMatches rule.path message.header.path &&
    namespaceMatches rule.pathNamespace message.header.path

theorem fieldMatches_some_iff {α : Type} [DecidableEq α] {required : Option α}
    {value : α} :
    fieldMatches required (some value) = true ↔
      required = none ∨ required = some value := by
  cases required with
  | none => simp [fieldMatches]
  | some other =>
      simp only [fieldMatches, beq_iff_eq, Option.some.injEq, reduceCtorEq, false_or]
      exact eq_comm

theorem accepts_stamp_iff (rule : MatchRule) (message : Message)
    (sender : BusName) :
    rule.accepts (message.stamp sender) = true ↔
      rule.othersAccept message = true ∧
        (rule.sender = none ∨ rule.sender = some sender) := by
  unfold accepts othersAccept
  simp only [Message.stamp_sender, Bool.and_eq_true, fieldMatches_some_iff]
  constructor
  · rintro ⟨⟨⟨⟨⟨kind, named⟩, interface⟩, member⟩, path⟩, scope⟩
    exact ⟨⟨⟨⟨⟨kind, interface⟩, member⟩, path⟩, scope⟩, named⟩
  · rintro ⟨⟨⟨⟨⟨kind, interface⟩, member⟩, path⟩, scope⟩, named⟩
    exact ⟨⟨⟨⟨⟨kind, named⟩, interface⟩, member⟩, path⟩, scope⟩

def parseType (value : String) : Except Error MessageKind :=
  match value with
  | "signal" => .ok .signal
  | "directed_signal" => .ok .directedSignal
  | "method_call" => .ok .methodCall
  | "method_return" => .ok .methodReturn
  | "error" => .ok .error
  | other => .error (.protocol ("unknown message type `" ++ other ++ "`"))

def named {α : Type} (parsed : Except InvalidName α) : Except Error α :=
  parsed.mapError Error.invalidName

/-- Set the field that one `key=value` clause names. -/
def parseClause (rule : MatchRule) (clause : List Char) :
    Except Error MatchRule :=
  match clause.dropWhile (· != '=') with
  | [] =>
      .error (.protocol ("match clause `" ++ String.ofList clause ++
        "` has no `=`"))
  | _ :: rest =>
      let key := String.ofList (trimChars (clause.takeWhile (· != '=')))
      let value := String.ofList (trimChars rest)
      match key with
      | "type" => (parseType value).map (fun kind => { rule with kind := some kind })
      | "sender" =>
          (named (BusName.new value)).map (fun name => { rule with sender := some name })
      | "interface" =>
          (named (InterfaceName.new value)).map
            (fun name => { rule with interface := some name })
      | "member" =>
          (named (MemberName.new value)).map (fun name => { rule with member := some name })
      | "path" =>
          (named (ObjectPath.new value)).map (fun path => { rule with path := some path })
      | "path_namespace" =>
          (named (ObjectPath.new value)).map
            (fun path => { rule with pathNamespace := some path })
      | other => .error (.protocol ("unknown match key `" ++ other ++ "`"))

def parseClauses (rule : MatchRule) : List (List Char) → Except Error MatchRule
  | [] => .ok rule
  | clause :: rest =>
      match parseClause rule clause with
      | .ok extended => parseClauses extended rest
      | .error refusal => .error refusal

/-- Blank clauses are skipped. -/
def parse (input : String) : Except Error MatchRule :=
  parseClauses new
    ((input.toList.splitOn ',').filter (fun clause => !(trimChars clause).isEmpty))

end MatchRule

end TinyBus
