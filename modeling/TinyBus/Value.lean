/-
JSON values, and the deserializers that read a message body.  A deserializer
reports the text of its complaint; the caller decides which error carries it.
-/

import TinyBus.Name

namespace TinyBus

inductive Number where
  | posInt (value : UInt64)
  | negInt (value : Int64)
  | float (bits : UInt64)
  deriving DecidableEq

inductive Value where
  | null
  | bool (value : Bool)
  | number (value : Number)
  | string (value : String)
  | array (items : List Value)
  | object (fields : List (String × Value))

def hexDigits (value : Nat) : String := String.ofList (Nat.toDigits 16 value)

/-- One character of a debug-formatted string.  Characters above ASCII are
taken as printable. -/
def escapeDebug (c : Char) : String :=
  if c == '"' then "\\\""
  else if c == '\\' then "\\\\"
  else if c == '\t' then "\\t"
  else if c == '\n' then "\\n"
  else if c == '\r' then "\\r"
  else if c.toNat = 0 then "\\0"
  else if c.toNat < 32 || c.toNat = 127 then
    "\\u\x7b" ++ hexDigits c.toNat ++ "\x7d"
  else c.toString

def debugStr (text : String) : String :=
  "\"" ++ String.join (text.toList.map escapeDebug) ++ "\""

def InvalidName.message (refusal : InvalidName) : String :=
  "invalid " ++ refusal.kind ++ " " ++ debugStr refusal.input ++ ": " ++
    refusal.reason

def isWhitespace (c : Char) : Bool :=
  (9 ≤ c.toNat && c.toNat ≤ 13) || c.toNat = 0x20 || c.toNat = 0x85 ||
    c.toNat = 0xA0 || c.toNat = 0x1680 ||
    (0x2000 ≤ c.toNat && c.toNat ≤ 0x200A) || c.toNat = 0x2028 ||
    c.toNat = 0x2029 || c.toNat = 0x202F || c.toNat = 0x205F || c.toNat = 0x3000

def trimChars (characters : List Char) : List Char :=
  ((characters.dropWhile isWhitespace).reverse.dropWhile isWhitespace).reverse

def trim (input : String) : String := String.ofList (trimChars input.toList)

def Number.text : Number → String
  | .posInt value => "integer `" ++ toString value.toNat ++ "`"
  | .negInt value => "integer `" ++ toString value.toInt ++ "`"
  | .float bits => "floating point `" ++ toString bits.toNat ++ "`"

def Value.unexpected : Value → String
  | .null => "null"
  | .bool value => "boolean `" ++ toString value ++ "`"
  | .number value => value.text
  | .string value => "string " ++ debugStr value
  | .array _ => "sequence"
  | .object _ => "map"

abbrev Decoder (α : Type) := Value → Except String α

def invalidType (value : Value) (expected : String) : String :=
  "invalid type: " ++ value.unexpected ++ ", expected " ++ expected

def invalidLength (length : Nat) (expected : String) : String :=
  "invalid length " ++ toString length ++ ", expected " ++ expected

namespace Decoder

def string : Decoder String
  | .string text => .ok text
  | value => .error (invalidType value "a string")

def bool : Decoder Bool
  | .bool flag => .ok flag
  | value => .error (invalidType value "a boolean")

def uint64 : Decoder UInt64
  | .number (.posInt value) => .ok value
  | .number (.negInt value) =>
      .error ("invalid value: integer `" ++ toString value.toInt ++
        "`, expected u64")
  | value => .error (invalidType value "u64")

def tryFrom {α : Type} (parse : String → Except InvalidName α) : Decoder α :=
  fun value =>
    match string value with
    | .error complaint => .error complaint
    | .ok text =>
        match parse text with
        | .ok parsed => .ok parsed
        | .error refusal => .error refusal.message

def optional {α : Type} (decode : Decoder α) : Decoder (Option α)
  | .null => .ok none
  | value => (decode value).map some

def all {α : Type} (decode : Decoder α) : List Value → Except String (List α)
  | [] => .ok []
  | item :: rest =>
      match decode item with
      | .error complaint => .error complaint
      | .ok head => (all decode rest).map (head :: ·)

def list {α : Type} (decode : Decoder α) : Decoder (List α)
  | .array items => all decode items
  | value => .error (invalidType value "a sequence")

def one {α : Type} (decode : Decoder α) : Decoder α
  | .array [] => .error (invalidLength 0 "a tuple of size 1")
  | .array (first :: rest) =>
      match decode first with
      | .error complaint => .error complaint
      | .ok head =>
          if rest = [] then .ok head
          else .error (invalidLength (rest.length + 1) "fewer elements in array")
  | value => .error (invalidType value "a tuple of size 1")

def two {α β : Type} (left : Decoder α) (right : Decoder β) : Decoder (α × β)
  | .array [] => .error (invalidLength 0 "a tuple of size 2")
  | .array (first :: rest) =>
      match left first, rest with
      | .error complaint, _ => .error complaint
      | .ok _, [] => .error (invalidLength 1 "a tuple of size 2")
      | .ok head, second :: extra =>
          match right second with
          | .error complaint => .error complaint
          | .ok last =>
              if extra = [] then .ok (head, last)
              else .error
                (invalidLength (extra.length + 2) "fewer elements in array")
  | value => .error (invalidType value "a tuple of size 2")

/-- A path is read from a string. -/
def path : Decoder String
  | .string text => .ok text
  | value => .error (invalidType value "path string")

def any : Decoder Value := fun value => .ok value

/-- Three strings and a value: the arguments that pin a release asset. -/
def release : Decoder (String × String × String × Value)
  | .array items => do
      let url ← element items 0 string
      let asset ← element items 1 string
      let sha256 ← element items 2 string
      let config ← element items 3 any
      if 4 < items.length then
        throw (invalidLength items.length "fewer elements in array")
      return (url, asset, sha256, config)
  | value => .error (invalidType value "a tuple of size 4")
where
  element {α : Type} (items : List Value) (index : Nat) (decode : Decoder α) :
      Except String α :=
    match items[index]? with
    | some value => decode value
    | none => .error (invalidLength index "a tuple of size 4")

end Decoder

def Value.field? (fields : List (String × Value)) (key : String) :
    Option Value :=
  (fields.find? (fun entry => entry.1 == key)).map Prod.snd

end TinyBus
