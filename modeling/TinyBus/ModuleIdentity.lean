import TinyBus.MappedImages
import TinyBus.HostRecords
import TinyBus.EnsureLoaded

/-
The identity of a module.  An id of up to 64 characters is checked against the
descriptor, but records are told apart by the sanitized name, which keeps 32 of
them: modules whose ids share so long a beginning are taken for one another.
-/

namespace TinyBus

def isNameChar (c : Char) : Bool :=
  c.isAlphanum || c == '.' || c == '_' || c == '+' || c == '-'

/-- An id has a byte for each character. -/
def canonicalModuleId (value : String) : Bool :=
  !value.toList.isEmpty && value.toList.length ≤ 64 && value.toList.all isNameChar

/-- A field of the descriptor that reads the same once it is sanitized. -/
def sanitizedField {size : Nat} (field : Vector UInt8 size) : Option String :=
  match String.fromUTF8? ⟨(fieldBytes field).toArray⟩ with
  | none => none
  | some raw =>
      if sanitizeUntrusted raw ≠ "" ∧ sanitizeUntrusted raw = raw then
        some (sanitizeUntrusted raw)
      else none

namespace ModuleHost

/-- The identity checks of a library that is loaded now; a failure carries the
reason of its refusal. -/
def validate (build : HostBuild) (strict : Bool) (file : String)
    (descriptor : TbAbiDescriptor) (manifest : ModuleManifest) : Except String ModuleInfo :=
  match gateDescriptor build file descriptor strict with
  | .error (.moduleRefused _ reason) => .error reason
  | .error other => .error other.display
  | .ok () =>
      match sanitizedField descriptor.rustcVersion with
      | none => .error "descriptor identity is invalid"
      | some rustc =>
          match String.fromUTF8? ⟨(fieldBytes descriptor.moduleName).toArray⟩ with
          | none => .error "descriptor identity is invalid"
          | some descriptorName =>
              if !canonicalModuleId manifest.module.name ∨
                  descriptorName ≠ manifest.module.name then
                .error "manifest identity does not match descriptor"
              else
                match sanitizedField descriptor.moduleVersion with
                | none => .error "descriptor identity is invalid"
                | some version =>
                    if manifest.schema ≠ manifestSchema ∨
                        sanitizeUntrusted manifest.module.version.text ≠ version ∨
                        64 < manifest.module.name.toList.length ∨
                        32 < manifest.module.version.text.toList.length then
                      .error "manifest identity does not match descriptor"
                    else
                      .ok { name := sanitizeUntrusted descriptorName, version := version,
                            file := file, state := .resolved, manifest := manifest,
                            rustcVersion := rustc,
                            rustcMismatch :=
                              decide (fieldBytes descriptor.rustcVersion ≠ build.rustcVersion),
                            enabled := true }

/-- The identity checks of a library that is mapped by its first call. -/
def provisionalInfo (file : String) (manifest : ModuleManifest) : Except String ModuleInfo :=
  let version := sanitizeUntrusted manifest.module.version.text
  if !manifest.lazyInit ∨ manifest.schema ≠ manifestSchema ∨
      !canonicalModuleId manifest.module.name ∨ version ≠ manifest.module.version.text ∨
      64 < manifest.module.name.toList.length ∨
      32 < manifest.module.version.text.toList.length then
    .error "lazy manifest identity is invalid"
  else
    .ok { name := sanitizeUntrusted manifest.module.name, version := version, file := file,
          state := .resolved, manifest := manifest, rustcVersion := "",
          rustcMismatch := false, enabled := true }

end ModuleHost

end TinyBus
