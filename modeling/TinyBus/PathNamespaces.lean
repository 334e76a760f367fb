/-
The test of two paths on their bytes, with the byte that it reads behind the other path.
A rule for a path and what lies beneath it rests on this test: it takes in the elements
below a path and nothing beside it.
-/

import TinyBus.Library.JsonWriting
import TinyBus.PathElements

namespace TinyBus

/-- An index that is not below the length; the source panics there. -/
structure IndexOutOfBounds where
  index : Nat
  length : Nat
  deriving DecidableEq

def byteAt (bytes : List UInt8) (index : Nat) : Except IndexOutOfBounds UInt8 :=
  match bytes[index]? with
  | some byte => .ok byte
  | none => .error ⟨index, bytes.length⟩

theorem byteAt_ok_iff {bytes : List UInt8} {index : Nat} {byte : UInt8} :
    byteAt bytes index = .ok byte ↔ bytes[index]? = some byte := by
  unfold byteAt
  cases bytes[index]? with
  | none => exact ⟨nofun, nofun⟩
  | some found => rw [Except.ok.injEq, Option.some.injEq]

theorem byteAt_exists_iff {bytes : List UInt8} {index : Nat} :
    (∃ byte, byteAt bytes index = .ok byte) ↔ index < bytes.length := by
  constructor
  · rintro ⟨byte, found⟩
    exact (List.getElem?_eq_some_iff.mp (byteAt_ok_iff.mp found)).1
  · intro within
    exact ⟨bytes[index], byteAt_ok_iff.mpr (List.getElem?_eq_getElem within)⟩

namespace ObjectPath

def asBytes (path : ObjectPath) : List UInt8 := path.text.toUTF8.data.toList

/-- `startsWith` as the source evaluates it: a byte is read only for two different paths
of which the one begins with the other. -/
def startsWithBytes (path other : ObjectPath) : Except IndexOutOfBounds Bool :=
  if other.text = "/" then .ok true
  else if path.text = other.text then .ok true
  else if other.asBytes.isPrefixOf path.asBytes then do
    let byte ← byteAt path.asBytes other.asBytes.length
    return byte == '/'.toUInt8
  else .ok false

variable {path other : ObjectPath}

theorem asBytes_eq (path : ObjectPath) : path.asBytes = Json.encode path.text.toList := by
  unfold asBytes String.toUTF8
  rw [← String.utf8Encode_toList, List.utf8Encode, List.toList_data_toByteArray]
  rfl

theorem asBytes_isPrefixOf_iff :
    other.asBytes.isPrefixOf path.asBytes = true ↔ other.text.toList <+: path.text.toList := by
  rw [List.isPrefixOf_iff_prefix, asBytes_eq, asBytes_eq, Json.encode_isPrefix_iff]

theorem text_of_begins (begins : other.text.toList <+: path.text.toList)
    (apart : path.text ≠ other.text) :
    ∃ c rest, path.text.toList = other.text.toList ++ c :: rest := by
  obtain ⟨tail, whole⟩ := begins
  cases tail with
  | nil => exact absurd (String.toList_inj.mp (whole.symm.trans (List.append_nil _))) apart
  | cons c rest => exact ⟨c, rest, whole.symm⟩

theorem byteAt_behind {c : Char} {rest : List Char}
    (whole : path.text.toList = other.text.toList ++ c :: rest) :
    ∃ byte, byteAt path.asBytes other.asBytes.length = .ok byte ∧
      (byte = '/'.toUInt8 ↔ c = '/') := by
  have within : other.asBytes.length < path.asBytes.length := by
    rw [asBytes_eq, asBytes_eq, whole, Json.encode_append, List.length_append, Json.encode_cons,
      List.length_append, String.length_utf8EncodeChar]
    have wide := c.utf8Size_pos
    omega
  obtain ⟨byte, found⟩ := byteAt_exists_iff.mpr within
  refine ⟨byte, found, ?_⟩
  have next := byteAt_ok_iff.mp found
  rw [asBytes_eq, asBytes_eq, whole] at next
  have slash := @Json.encode_next_iff other.text.toList rest c '/' (by decide)
  rw [next, Option.some.injEq] at slash
  exact slash

theorem startsWithBytes_eq (path other : ObjectPath) :
    path.startsWithBytes other = .ok (path.startsWith other) := by
  unfold startsWithBytes startsWith
  by_cases root : other.text = "/"
  · rw [if_pos root, if_pos root]
  · rw [if_neg root, if_neg root]
    by_cases same : path.text = other.text
    · rw [if_pos same, decide_eq_true same, Bool.true_or]
    · rw [if_neg same, decide_eq_false same, Bool.false_or]
      by_cases begins : other.text.toList <+: path.text.toList
      · obtain ⟨c, rest, whole⟩ := text_of_begins begins same
        obtain ⟨byte, found, slash⟩ := byteAt_behind whole
        rw [if_pos (asBytes_isPrefixOf_iff.mpr begins), found,
          List.isPrefixOf_iff_prefix.mpr begins, Bool.true_and, whole,
          List.getElem?_append_right (Nat.le_refl _), Nat.sub_self, List.getElem?_cons_zero]
        refine congrArg Except.ok (Bool.eq_iff_iff.mpr ?_)
        rw [beq_iff_eq, beq_iff_eq, Option.some.injEq]
        exact slash
      · have away := mt asBytes_isPrefixOf_iff.mp begins
        have apart := mt List.isPrefixOf_iff_prefix.mp begins
        rw [if_neg away, Bool.eq_false_iff.mpr apart, Bool.false_and]

theorem elements_sibling {upper below : List (List Char)} {name more : List Char}
    (longer : more ≠ []) (parent : other.elements = upper ++ [name])
    (sibling : path.elements = upper ++ (name ++ more) :: below) :
    ¬ other.elements <+: path.elements := by
  rw [parent, sibling, List.prefix_append_right_inj, List.cons_prefix_cons]
  rintro ⟨same, _⟩
  exact longer (List.self_eq_append_right.mp same)

end ObjectPath

namespace MatchRule

variable {rule : MatchRule} {message : Message} {parent path : ObjectPath}

theorem namespaceMatches_elements :
    namespaceMatches (some parent) (some path) = true ↔ parent.elements <+: path.elements :=
  ObjectPath.startsWith_elements

theorem accepts_elements (asks : rule.pathNamespace = some parent)
    (lies : message.header.path = some path) (accepted : rule.accepts message = true) :
    parent.elements <+: path.elements := by
  unfold accepts at accepted
  rw [Bool.and_eq_true, asks, lies] at accepted
  exact namespaceMatches_elements.mp accepted.2

end MatchRule

/-- The test of two paths never reads past the end and compares lists of elements: a rule
for a path and what lies beneath it does not match a sibling with a longer name. -/
theorem paths_nest_by_elements :
    (∀ path other : ObjectPath, path.startsWithBytes other = .ok (path.startsWith other) ∧
      (path.startsWith other = true ↔ other.elements <+: path.elements)) ∧
    (∀ path : ObjectPath, ObjectPath.root.elements <+: path.elements ∧
      path.startsWithBytes .root = .ok true) ∧
    ∀ (rule : MatchRule) (message : Message) (parent path : ObjectPath),
      rule.pathNamespace = some parent → message.header.path = some path →
        (rule.accepts message = true → parent.elements <+: path.elements) ∧
        ∀ upper name more below, more ≠ [] → parent.elements = upper ++ [name] →
          path.elements = upper ++ (name ++ more) :: below → rule.accepts message = false := by
  refine ⟨fun path other => ⟨path.startsWithBytes_eq other, ObjectPath.startsWith_elements⟩,
    fun path => ⟨?_, rfl⟩, ?_⟩
  · rw [ObjectPath.elements_root rfl]
    exact List.nil_prefix
  · intro rule message parent path asks lies
    refine ⟨MatchRule.accepts_elements asks lies, ?_⟩
    intro upper name more below longer last sibling
    refine Bool.eq_false_iff.mpr fun accepted => ?_
    exact ObjectPath.elements_sibling longer last sibling
      (MatchRule.accepts_elements asks lies accepted)

def mailPath : ObjectPath := ⟨"/ai/Mail", by rfl⟩

def mailboxPath : ObjectPath := ⟨"/ai/Mailbox/inbox", by rfl⟩

def mailRule : MatchRule := { MatchRule.new with pathNamespace := some mailPath }

def mailboxSignal : Message := ⟨{ Header.blank .signal with path := some mailboxPath }, .null⟩

/-- A rule for the mails does not match a signal of the mailboxes. -/
theorem mailbox_beside_mail :
    mailboxPath.startsWithBytes mailPath = .ok (mailboxPath.startsWith mailPath) ∧
      mailRule.accepts mailboxSignal = false :=
  ⟨(paths_nest_by_elements.1 mailboxPath mailPath).1,
    (paths_nest_by_elements.2.2 mailRule mailboxSignal mailPath mailboxPath rfl rfl).2
      ["ai".toList] "Mail".toList "box".toList ["inbox".toList] nofun (by decide) (by decide)⟩

end TinyBus
