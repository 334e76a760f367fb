import TinyBus.Broker
import TinyBus.MatchClauses

/-
The wire form of a rule, as a client writes it.  The names of a rule contain neither commas
nor white space, so the broker reads back the rule that was written, and takes back exactly
the subscriptions that were made with it.
-/

namespace TinyBus

namespace MatchRule

/-- `key=value` for a field that is set. -/
def wireClause (key : String) (value : Option String) : List String :=
  value.toList.map (fun value => key ++ "=" ++ value)

def wireClauses (rule : MatchRule) : List String :=
  wireClause "type" (rule.kind.map MessageKind.ruleName) ++
    wireClause "sender" (rule.sender.map BusName.text) ++
    wireClause "interface" (rule.interface.map InterfaceName.text) ++
    wireClause "member" (rule.member.map MemberName.text) ++
    wireClause "path" (rule.path.map ObjectPath.text) ++
    wireClause "path_namespace" (rule.pathNamespace.map ObjectPath.text)

/-- Render a rule into its wire form. -/
def ruleToWire (rule : MatchRule) : String := ",".intercalate rule.wireClauses

structure Inert (c : Char) : Prop where
  dark : isWhitespace c = false
  comma : c ≠ ','
  equals : c ≠ '='

theorem inert_of_range {c : Char} (low : 45 ≤ c.toNat) (high : c.toNat ≤ 122) (equals : c ≠ '=') :
    Inert c := by
  refine ⟨?_, ?_, equals⟩
  · unfold isWhitespace
    simp only [Bool.or_eq_false_iff, Bool.and_eq_false_iff, decide_eq_false_iff_not]
    omega
  · rintro rfl
    exact absurd low (by decide)

theorem toNat_le_of_le {low high : Char} (ordered : low ≤ high) : low.toNat ≤ high.toNat := ordered

theorem inert_of_plain {c : Char} (plain : Grammar.Plain c) : Inert c := by
  have equals : c ≠ '=' := by
    rintro rfl
    rw [← isWordChar_iff] at plain
    exact absurd plain (by decide)
  have range : 48 ≤ c.toNat ∧ c.toNat ≤ 122 := by
    rcases plain with (⟨low, high⟩ | ⟨low, high⟩) | ⟨low, high⟩ | rfl
    · exact ⟨Nat.le_trans (by decide) (toNat_le_of_le low),
        Nat.le_trans (toNat_le_of_le high) (by decide)⟩
    · exact ⟨Nat.le_trans (by decide) (toNat_le_of_le low),
        Nat.le_trans (toNat_le_of_le high) (by decide)⟩
    · exact ⟨Nat.le_trans (by decide) (toNat_le_of_le low),
        Nat.le_trans (toNat_le_of_le high) (by decide)⟩
    · decide
  exact inert_of_range (by omega) range.2 equals

theorem inert_dot : Inert '.' := inert_of_range (by decide) (by decide) (by decide)

theorem inert_colon : Inert ':' := inert_of_range (by decide) (by decide) (by decide)

theorem inert_slash : Inert '/' := inert_of_range (by decide) (by decide) (by decide)

theorem inert_hyphen : Inert '-' := inert_of_range (by decide) (by decide) (by decide)

theorem inert_of_hyphenated {c : Char} (hyphenated : Grammar.Hyphenated c) : Inert c := by
  rcases hyphenated with plain | rfl
  · exact inert_of_plain plain
  · exact inert_hyphen

theorem inert_of_start {c : Char} (start : Grammar.Start c) : Inert c :=
  inert_of_plain (start.imp_right .inr)

variable {text : List Char}

theorem inert_of_word {Of : Char → Prop} (inert : ∀ c, Of c → Inert c)
    (word : Grammar.Word Of text) : ∀ c ∈ text, Inert c := by
  obtain ⟨first, rest, rfl, starts, others⟩ := word
  intro c among
  rcases List.mem_cons.mp among with rfl | later
  · exact inert_of_start starts
  · exact inert c (others c later)

theorem inert_of_dotted (dotted : Grammar.Dotted text) :
    ∀ c ∈ text, Inert c := by
  obtain ⟨_, _, separated⟩ := dotted
  intro c among
  rcases separated.mem among with rfl | ⟨part, word, within⟩
  · exact inert_dot
  · exact inert_of_word (fun _ => inert_of_hyphenated) word c within

theorem busName_inert (name : BusName) : ∀ c ∈ name.text.toList, Inert c := by
  rcases busName_check_iff.mp name.valid with ⟨_, rest, begins, separated⟩ | dotted
  · intro c among
    rw [begins] at among
    rcases List.mem_cons.mp among with rfl | later
    · exact inert_colon
    · rcases separated.mem later with rfl | ⟨part, run, within⟩
      · exact inert_dot
      · exact inert_of_plain (.inr (.inl (run.2 c within)))
  · exact inert_of_dotted dotted.form

theorem interfaceName_inert (name : InterfaceName) : ∀ c ∈ name.text.toList, Inert c :=
  inert_of_dotted (validateDotted_ok_iff.mp name.valid).form

theorem memberName_inert (name : MemberName) : ∀ c ∈ name.text.toList, Inert c :=
  inert_of_word (fun _ => inert_of_plain) (memberName_check_iff.mp name.valid).form

theorem objectPath_inert (path : ObjectPath) : ∀ c ∈ path.text.toList, Inert c := by
  rcases (objectPath_check_iff.mp path.valid).form with root | ⟨_, rest, begins, separated⟩
  · rw [root]
    intro c among
    rw [List.mem_singleton.mp among]
    exact inert_slash
  · intro c among
    rw [begins] at among
    rcases List.mem_cons.mp among with rfl | later
    · exact inert_slash
    · rcases separated.mem later with rfl | ⟨part, run, within⟩
      · exact inert_slash
      · exact inert_of_plain (run.2 c within)

theorem inert_of_checked {text : String} (checked : MemberName.check text = .ok ()) :
    ∀ c ∈ text.toList, Inert c :=
  inert_of_word (fun _ => inert_of_plain) (memberName_check_iff.mp checked).form

theorem ruleName_inert (kind : MessageKind) : ∀ c ∈ kind.ruleName.toList, Inert c := by
  apply inert_of_checked
  cases kind <;> rfl

theorem dropWhile_dark (dark : ∀ c ∈ text, isWhitespace c = false) :
    text.dropWhile isWhitespace = text := by
  cases text with
  | nil => rfl
  | cons first rest =>
      rw [List.dropWhile_cons_of_neg]
      rw [dark first List.mem_cons_self]
      decide

theorem trimChars_eq_self (dark : ∀ c ∈ text, isWhitespace c = false) :
    trimChars text = text := by
  unfold trimChars
  rw [dropWhile_dark dark, dropWhile_dark, List.reverse_reverse]
  intro c among
  exact dark c (List.mem_reverse.mp among)

def clauseText (clause : MatchClause) : String := clause.key ++ "=" ++ clause.value

structure SoundClause (clause : MatchClause) : Prop where
  key : ∀ c ∈ clause.key.toList, Inert c
  value : ∀ c ∈ clause.value.toList, Inert c

variable {clause : MatchClause}

theorem clauseText_toList (clause : MatchClause) :
    (clauseText clause).toList = clause.key.toList ++ '=' :: clause.value.toList := by
  unfold clauseText
  rw [String.toList_append, String.toList_append, List.append_assoc]
  rfl

theorem SoundClause.dark (sound : SoundClause clause) :
    ∀ c ∈ (clauseText clause).toList, isWhitespace c = false ∧ c ≠ ',' := by
  intro c among
  rw [clauseText_toList] at among
  rcases List.mem_append.mp among with inKey | later
  · exact ⟨(sound.key c inKey).dark, (sound.key c inKey).comma⟩
  · rcases List.mem_cons.mp later with rfl | inValue
    · decide
    · exact ⟨(sound.value c inValue).dark, (sound.value c inValue).comma⟩

theorem takeWhile_key {key value : List Char} (inert : ∀ c ∈ key, Inert c) :
    (key ++ '=' :: value).takeWhile (· != '=') = key := by
  have every : ∀ c ∈ key, (c != '=') = true := fun c among => bne_iff_ne.mpr (inert c among).equals
  rw [List.takeWhile_append_of_pos every, List.takeWhile_cons_of_neg (by decide), List.append_nil]

theorem dropWhile_key {key value : List Char} (inert : ∀ c ∈ key, Inert c) :
    (key ++ '=' :: value).dropWhile (· != '=') = '=' :: value := by
  have every : ∀ c ∈ key, (c != '=') = true := fun c among => bne_iff_ne.mpr (inert c among).equals
  rw [List.dropWhile_append_of_pos every, List.dropWhile_cons_of_neg (by decide)]

theorem SoundClause.assigns (sound : SoundClause clause) :
    (clauseText clause).toList.dropWhile (· != '=') ≠ [] := by
  rw [clauseText_toList, dropWhile_key sound.key]
  exact List.cons_ne_nil _ _

theorem SoundClause.read (sound : SoundClause clause) :
    readClause (clauseText clause).toList = clause := by
  unfold readClause
  rw [clauseText_toList, takeWhile_key sound.key, dropWhile_key sound.key, List.tail_cons,
    trimChars_eq_self fun c among => (sound.key c among).dark,
    trimChars_eq_self fun c among => (sound.value c among).dark, String.ofList_toList,
    String.ofList_toList]

theorem pieces_of_sound {clauses : List MatchClause}
    (sound : ∀ clause ∈ clauses, SoundClause clause) :
    pieces (",".intercalate (clauses.map clauseText)) =
      clauses.map (fun clause => (clauseText clause).toList) := by
  unfold pieces
  rw [String.toList_intercalate, List.map_map]
  cases clauses with
  | nil => decide
  | cons first rest =>
      have free : ∀ piece ∈ (first :: rest).map (String.toList ∘ clauseText), ',' ∉ piece := by
        intro piece among comma
        obtain ⟨clause, member, rfl⟩ := List.mem_map.mp among
        exact ((sound clause member).dark ',' comma).2 rfl
      have split := List.splitOn_intercalate ',' free (by simp)
      have comma : (",": String).toList = [','] := rfl
      rw [comma, split, List.filter_eq_self.mpr]
      · rfl
      · intro piece among
        obtain ⟨clause, member, rfl⟩ := List.mem_map.mp among
        have dark := fun c within => ((sound clause member).dark c within).1
        dsimp only [Function.comp]
        rw [trimChars_eq_self dark, clauseText_toList]
        cases clause.key.toList <;> rfl

theorem parse_of_sound {clauses : List MatchClause}
    (sound : ∀ clause ∈ clauses, SoundClause clause) :
    parse (",".intercalate (clauses.map clauseText)) = new.setFields clauses := by
  have read : (pieces (",".intercalate (clauses.map clauseText))).map readClause = clauses := by
    rw [pieces_of_sound sound, List.map_map]
    calc
      clauses.map (readClause ∘ fun clause => (clauseText clause).toList)
          = clauses.map id := List.map_congr_left fun clause among => (sound clause among).read
      _ = clauses := List.map_id clauses
  have assign : ∀ piece ∈ pieces (",".intercalate (clauses.map clauseText)),
      piece.dropWhile (· != '=') ≠ [] := by
    intro piece among
    rw [pieces_of_sound sound] at among
    obtain ⟨clause, member, rfl⟩ := List.mem_map.mp among
    exact (sound clause member).assigns
  calc
    parse (",".intercalate (clauses.map clauseText))
        = new.setFields ((pieces (",".intercalate (clauses.map clauseText))).map readClause) :=
          parseClauses_eq assign
    _ = new.setFields clauses := by rw [read]

def fieldClause (key : String) (value : Option String) : List MatchClause :=
  value.toList.map (fun value => ⟨key, value⟩)

def fieldClauses (rule : MatchRule) : List MatchClause :=
  fieldClause "type" (rule.kind.map MessageKind.ruleName) ++
    fieldClause "sender" (rule.sender.map BusName.text) ++
    fieldClause "interface" (rule.interface.map InterfaceName.text) ++
    fieldClause "member" (rule.member.map MemberName.text) ++
    fieldClause "path" (rule.path.map ObjectPath.text) ++
    fieldClause "path_namespace" (rule.pathNamespace.map ObjectPath.text)

theorem wireClause_eq (key : String) (value : Option String) :
    wireClause key value = (fieldClause key value).map clauseText := by
  unfold wireClause fieldClause
  rw [List.map_map]
  rfl

theorem wireClauses_eq (rule : MatchRule) :
    rule.wireClauses = rule.fieldClauses.map clauseText := by
  unfold wireClauses fieldClauses
  simp only [wireClause_eq, List.map_append]

theorem sound_of_fieldClause {key : String} (checked : MemberName.check key = .ok ())
    {value : Option String} (inert : ∀ text, value = some text → ∀ c ∈ text.toList, Inert c) :
    ∀ clause ∈ fieldClause key value, SoundClause clause := by
  intro clause among
  unfold fieldClause at among
  obtain ⟨text, set, rfl⟩ := List.mem_map.mp among
  exact ⟨inert_of_checked checked, inert text (Option.mem_toList.mp set)⟩

theorem inert_of_map {Name : Type} {text : Name → String}
    (inert : ∀ name, ∀ c ∈ (text name).toList, Inert c) {name : Option Name} :
    ∀ value, name.map text = some value → ∀ c ∈ value.toList, Inert c := by
  intro value set
  obtain ⟨name, _, rfl⟩ := Option.map_eq_some_iff.mp set
  exact inert name

theorem fieldClauses_sound (rule : MatchRule) :
    ∀ clause ∈ rule.fieldClauses, SoundClause clause := by
  unfold fieldClauses
  simp only [List.forall_mem_append]
  refine ⟨⟨⟨⟨⟨?_, ?_⟩, ?_⟩, ?_⟩, ?_⟩, ?_⟩
  · exact sound_of_fieldClause rfl (inert_of_map ruleName_inert)
  · exact sound_of_fieldClause rfl (inert_of_map busName_inert)
  · exact sound_of_fieldClause rfl (inert_of_map interfaceName_inert)
  · exact sound_of_fieldClause rfl (inert_of_map memberName_inert)
  · exact sound_of_fieldClause rfl (inert_of_map objectPath_inert)
  · exact sound_of_fieldClause rfl (inert_of_map objectPath_inert)

theorem setFields_append {rule middle : MatchRule} {first second : List MatchClause}
    (set : rule.setFields first = .ok middle) :
    rule.setFields (first ++ second) = middle.setFields second := by
  unfold setFields at set ⊢
  rw [List.foldlM_append, set]
  rfl

theorem setFields_field {Name : Type} {key : String} {text : Name → String} {rule : MatchRule}
    (update : Option Name → MatchRule) (unset : update none = rule)
    (set : ∀ name, rule.setField ⟨key, text name⟩ = .ok (update (some name)))
    (value : Option Name) :
    rule.setFields (fieldClause key (value.map text)) = .ok (update value) := by
  cases value with
  | none => exact congrArg Except.ok unset.symm
  | some name =>
      unfold setFields fieldClause
      rw [Option.map_some, Option.toList_some, List.map_singleton, List.foldlM_cons, set]
      rfl

theorem parseType_ruleName (kind : MessageKind) : parseType kind.ruleName = .ok kind := by
  cases kind <;> rfl

theorem setField_type (rule : MatchRule) (kind : MessageKind) :
    rule.setField ⟨"type", kind.ruleName⟩ = .ok { rule with kind := some kind } := by
  unfold setField
  dsimp only
  rw [parseType_ruleName]
  rfl

theorem setField_sender (rule : MatchRule) (name : BusName) :
    rule.setField ⟨"sender", name.text⟩ = .ok { rule with sender := some name } := by
  unfold setField
  dsimp only
  rw [BusName.new_ok_iff.mpr rfl]
  rfl

theorem setField_interface (rule : MatchRule) (name : InterfaceName) :
    rule.setField ⟨"interface", name.text⟩ = .ok { rule with interface := some name } := by
  unfold setField
  dsimp only
  rw [InterfaceName.new_ok_iff.mpr rfl]
  rfl

theorem setField_member (rule : MatchRule) (name : MemberName) :
    rule.setField ⟨"member", name.text⟩ = .ok { rule with member := some name } := by
  unfold setField
  dsimp only
  rw [MemberName.new_ok_iff.mpr rfl]
  rfl

theorem setField_path (rule : MatchRule) (path : ObjectPath) :
    rule.setField ⟨"path", path.text⟩ = .ok { rule with path := some path } := by
  unfold setField
  dsimp only
  rw [ObjectPath.new_ok_iff.mpr rfl]
  rfl

theorem setField_namespace (rule : MatchRule) (path : ObjectPath) :
    rule.setField ⟨"path_namespace", path.text⟩ =
      .ok { rule with pathNamespace := some path } := by
  unfold setField
  dsimp only
  rw [ObjectPath.new_ok_iff.mpr rfl]
  rfl

theorem setFields_fields (rule : MatchRule) : new.setFields rule.fieldClauses = .ok rule := by
  obtain ⟨kind, sender, interface, member, path, scope⟩ := rule
  have kindSet := setFields_field (fun kind => ⟨kind, none, none, none, none, none⟩) rfl
    (setField_type _) kind
  have senderSet := setFields_field (fun sender => ⟨kind, sender, none, none, none, none⟩) rfl
    (setField_sender _) sender
  have interfaceSet := setFields_field
    (fun interface => ⟨kind, sender, interface, none, none, none⟩) rfl
    (setField_interface _) interface
  have memberSet := setFields_field
    (fun member => ⟨kind, sender, interface, member, none, none⟩) rfl
    (setField_member _) member
  have pathSet := setFields_field
    (fun path => ⟨kind, sender, interface, member, path, none⟩) rfl (setField_path _) path
  have scopeSet := setFields_field
    (fun scope => ⟨kind, sender, interface, member, path, scope⟩) rfl
    (setField_namespace _) scope
  have two := (setFields_append kindSet).trans senderSet
  have three := (setFields_append two).trans interfaceSet
  have four := (setFields_append three).trans memberSet
  have five := (setFields_append four).trans pathSet
  exact (setFields_append five).trans scopeSet

theorem parse_ruleToWire (rule : MatchRule) : parse rule.ruleToWire = .ok rule := by
  unfold ruleToWire
  rw [wireClauses_eq, parse_of_sound rule.fieldClauses_sound, setFields_fields]

end MatchRule

namespace Router

def subscriptions (router : Router) (id : PeerId) : Option (List MatchRule) :=
  (router.peers.lookup id).map Peer.matchRules

theorem subscriptions_modify {router : Router} {id : PeerId} {update : Peer → Peer}
    {change : List MatchRule → List MatchRule}
    (changes : ∀ peer, (update peer).matchRules = change peer.matchRules) (other : PeerId) :
    (router.modifyPeer id update).subscriptions other =
      (router.subscriptions other).map (fun rules => if other = id then change rules else rules) := by
  unfold subscriptions modifyPeer
  rw [Table.lookup_modify, Option.map_map]
  by_cases same : other = id
  · subst same
    cases router.peers.lookup other with
    | none => simp
    | some peer => simp [changes]
  · cases router.peers.lookup other with
    | none => simp [same]
    | some peer => simp [same]

def ruleCall (id : String) (router : Router) (source : PeerId) (sourceName : BusName)
    (member : MemberName) (rule : MatchRule) : Broker.TableReply :=
  Broker.tableMethod id router source sourceName member (.array [.string rule.ruleToWire])

end Router

namespace MatchRule

theorem matchReply_wire (router : Router) (member : MemberName) (rule : MatchRule)
    (apply : MatchRule → Router) :
    Broker.matchReply router member (.array [.string rule.ruleToWire]) apply =
      Broker.answer (apply rule) (.ok .null) := by
  have argument : parseArgs (Decoder.one Decoder.string) member
      (.array [.string rule.ruleToWire]) = .ok rule.ruleToWire := rfl
  unfold Broker.matchReply
  rw [argument]
  dsimp only
  rw [parse_ruleToWire]

/-- The wire form of a rule stands for this rule, also where it is registered and where
it is taken back. -/
structure StandsFor (rule : MatchRule) : Prop where
  read : parse rule.ruleToWire = .ok rule
  added : ∀ id router source sourceName,
    (Router.ruleCall id router source sourceName addMember rule).result = .ok .null ∧
      ∀ peer, (Router.ruleCall id router source sourceName addMember rule).router.subscriptions
        peer = (router.subscriptions peer).map
          (fun rules => if peer = source then rules ++ [rule] else rules)
  removed : ∀ id router source sourceName,
    (Router.ruleCall id router source sourceName removeMember rule).result = .ok .null ∧
      ∀ peer, (Router.ruleCall id router source sourceName removeMember rule).router.subscriptions
        peer = (router.subscriptions peer).map
          (fun rules => if peer = source then rules.filter (· ≠ rule) else rules)

theorem ruleToWire_standsFor (rule : MatchRule) : StandsFor rule where
  read := parse_ruleToWire rule
  added := by
    intro id router source sourceName
    have reply : Router.ruleCall id router source sourceName addMember rule =
        Broker.answer (router.addMatch source rule) (.ok .null) :=
      matchReply_wire router addMember rule _
    rw [reply]
    exact ⟨rfl, Router.subscriptions_modify (fun _ => rfl)⟩
  removed := by
    intro id router source sourceName
    have reply : Router.ruleCall id router source sourceName removeMember rule =
        Broker.answer (router.removeMatch source rule) (.ok .null) :=
      matchReply_wire router removeMember rule _
    rw [reply]
    refine ⟨rfl, Router.subscriptions_modify (fun peer => ?_)⟩
    apply List.filter_congr
    intro other _
    by_cases same : other = rule <;> simp [same]

end MatchRule

end TinyBus
