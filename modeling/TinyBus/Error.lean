/-
The error type every fallible operation returns, its wire name and its wire
message.  An error crosses the bus as a stable dotted name beside prose; the
body it was raised about never travels with it.
-/

import TinyBus.Value

namespace TinyBus

inductive Error where
  | invalidName (refusal : InvalidName)
  | protocol (message : String)
  | transport (message : String)
  | connectionClosed
  | backpressure
  | nameHasNoOwner (name : BusName)
  | notAttested (name : BusName) (reason : String)
  | confidentialityRequired (interface : InterfaceName) (member : MemberName)
  | nameTaken (name owner : BusName)
  | unknownObject (path : ObjectPath)
  | unknownInterface (path : ObjectPath) (interface : InterfaceName)
  | unknownMethod (interface : InterfaceName) (member : MemberName)
  | invalidDomain (domain reason : String)
  | badArguments (member : MemberName) (reason : String)
  | incompatibleVersion (peer interface detail : String)
  | methodFailed (name message : String)
  | timeout (member : MemberName) (timeoutMs : Nat)
  | path (path message : String)
  | featureDisabled (what feature : String)
  | moduleRefused (file reason : String)
  | moduleUnavailable (module state detail : String)
  | unknownStream (id : String)
  | streamAborted (reason : String)
  | streamTooLarge (limit : Nat)
  | tooManyStreams (limit : Nat)
  | io (detail : String)
  | json (detail : String)
  deriving DecidableEq

namespace Error

def UNKNOWN_METHOD : String := "ai.tinyhumans.tinybus.Error.UnknownMethod"
def FAILED : String := "ai.tinyhumans.tinybus.Error.Failed"
def NOT_ATTESTED : String := "ai.tinyhumans.tinybus.Error.NotAttested"
def CONFIDENTIALITY_REQUIRED : String :=
  "ai.tinyhumans.tinybus.Error.ConfidentialityRequired"
def MODULE_UNAVAILABLE : String :=
  "ai.tinyhumans.tinybus.Error.ModuleUnavailable"

/-- The generic remote failure. -/
def failed (message : String) : Error := .methodFailed FAILED message

def display : Error → String
  | .invalidName refusal => refusal.message
  | .protocol message => "protocol: " ++ message
  | .transport message => "transport: " ++ message
  | .connectionClosed => "connection closed"
  | .backpressure => "outbound queue is full; message dropped"
  | .nameHasNoOwner name => "no peer owns the name `" ++ name.text ++ "`"
  | .notAttested name reason =>
      "`" ++ name.text ++ "` is not an attested recipient: " ++ reason
  | .confidentialityRequired interface member =>
      interface.text ++ "." ++ member.text ++ " requires a confidential call"
  | .nameTaken name owner =>
      "`" ++ name.text ++ "` is already owned by " ++ owner.text
  | .unknownObject object => "no object at `" ++ object.text ++ "`"
  | .unknownInterface object interface =>
      object.text ++ ": no interface `" ++ interface.text ++ "`"
  | .unknownMethod interface member =>
      interface.text ++ ": no member `" ++ member.text ++ "`"
  | .invalidDomain domain reason =>
      "event domain " ++ debugStr domain ++
        " is not a usable path element: " ++ reason
  | .badArguments member reason => member.text ++ ": bad arguments: " ++ reason
  | .incompatibleVersion peer interface detail =>
      peer ++ " is not compatible on " ++ interface ++ ": " ++ detail
  | .methodFailed name message => name ++ ": " ++ message
  | .timeout member timeoutMs =>
      "call to `" ++ member.text ++ "` timed out after " ++
        toString timeoutMs ++ "ms"
  | .path file message => file ++ ": " ++ message
  | .featureDisabled what feature =>
      what ++ " requires the `" ++ feature ++
        "` feature; rebuild with --features " ++ feature
  | .moduleRefused file reason => "module `" ++ file ++ "` refused: " ++ reason
  | .moduleUnavailable module state detail =>
      "module `" ++ module ++ "` is unavailable (" ++ state ++ "): " ++ detail
  | .unknownStream id => "no stream `" ++ id ++ "`"
  | .streamAborted reason => "stream aborted: " ++ reason
  | .streamTooLarge limit =>
      "stream exceeds the " ++ toString limit ++ "-byte limit"
  | .tooManyStreams limit =>
      "already at the limit of " ++ toString limit ++ " open streams"
  | .io detail => "io: " ++ detail
  | .json detail => "json: " ++ detail

/-- The prose half of an error, as it travels. -/
def wireMessage : Error → String
  | .methodFailed _ message => message
  | other => other.display

/-- The stable dotted name an error travels under. -/
def wireName : Error → String
  | .invalidName _ => "ai.tinyhumans.tinybus.Error.InvalidName"
  | .protocol _ => "ai.tinyhumans.tinybus.Error.Protocol"
  | .transport _ => "ai.tinyhumans.tinybus.Error.Transport"
  | .io _ => "ai.tinyhumans.tinybus.Error.Transport"
  | .connectionClosed => "ai.tinyhumans.tinybus.Error.ConnectionClosed"
  | .backpressure => "ai.tinyhumans.tinybus.Error.Backpressure"
  | .nameHasNoOwner _ => "ai.tinyhumans.tinybus.Error.NameHasNoOwner"
  | .notAttested _ _ => NOT_ATTESTED
  | .confidentialityRequired _ _ => CONFIDENTIALITY_REQUIRED
  | .nameTaken _ _ => "ai.tinyhumans.tinybus.Error.NameTaken"
  | .unknownObject _ => "ai.tinyhumans.tinybus.Error.UnknownObject"
  | .unknownInterface _ _ => "ai.tinyhumans.tinybus.Error.UnknownInterface"
  | .unknownMethod _ _ => UNKNOWN_METHOD
  | .badArguments _ _ => "ai.tinyhumans.tinybus.Error.BadArguments"
  | .invalidDomain _ _ => "ai.tinyhumans.tinybus.Error.InvalidDomain"
  | .timeout _ _ => "ai.tinyhumans.tinybus.Error.Timeout"
  | .incompatibleVersion _ _ _ =>
      "ai.tinyhumans.tinybus.Error.IncompatibleVersion"
  | .moduleRefused _ _ => "ai.tinyhumans.tinybus.Error.ModuleRefused"
  | .moduleUnavailable _ _ _ => MODULE_UNAVAILABLE
  | .path _ _ => "ai.tinyhumans.tinybus.Error.Path"
  | .unknownStream _ => "ai.tinyhumans.tinybus.Error.UnknownStream"
  | .streamAborted _ => "ai.tinyhumans.tinybus.Error.StreamAborted"
  | .streamTooLarge _ => "ai.tinyhumans.tinybus.Error.StreamTooLarge"
  | .tooManyStreams _ => "ai.tinyhumans.tinybus.Error.TooManyStreams"
  | .featureDisabled _ _ => "ai.tinyhumans.tinybus.Error.FeatureDisabled"
  | .json _ => "ai.tinyhumans.tinybus.Error.Json"
  | .methodFailed name _ => name

end Error

/-- The scanner's position: outside any quote, or inside one that a delimiter
opened, perhaps just after a backslash. -/
inductive Quoting where
  | outside
  | inside (delimiter : Char) (escaped : Bool)
  deriving DecidableEq

def redactFrom : Quoting → List Char → List Char
  | _, [] => []
  | .outside, c :: rest =>
      if c = '`' || c = '"' then
        c :: '…' :: redactFrom (.inside c false) rest
      else
        c :: redactFrom .outside rest
  | .inside delimiter escaped, c :: rest =>
      if delimiter = '"' && escaped then
        redactFrom (.inside delimiter false) rest
      else if delimiter = '"' && c = '\\' then
        redactFrom (.inside delimiter true) rest
      else if c = delimiter then
        delimiter :: redactFrom .outside rest
      else
        redactFrom (.inside delimiter escaped) rest

/-- Replace every backtick- or double-quoted span. -/
def redactValues (message : String) : String :=
  String.ofList (redactFrom .outside message.toList)

def Error.badArgumentsFrom (member : MemberName) (reason : String) : Error :=
  .badArguments member (redactValues reason)

/-- Deserialize a positional argument array, naming the member on failure. -/
def parseArgs {α : Type} (decode : Decoder α) (member : MemberName)
    (body : Value) : Except Error α :=
  match decode body with
  | .ok arguments => .ok arguments
  | .error complaint => .error (.badArgumentsFrom member complaint)

end TinyBus
