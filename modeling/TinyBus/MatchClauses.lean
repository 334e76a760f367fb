import TinyBus.MatchRule
import TinyBus.NameGrammar

/-
What a rule string says, clause by clause, and what the parsed rule matches.  Each clause
sets one field of the rule, so of the clauses with one key the last is the one that counts;
the string and the rule agree where the clauses that were overridden ask for nothing more.
-/

namespace TinyBus

/-- A `key=value` clause, trimmed. -/
structure MatchClause where
  key : String
  value : String
  deriving DecidableEq

def MessageKind.ruleName : MessageKind → String
  | .signal => "signal"
  | .directedSignal => "directed_signal"
  | .methodCall => "method_call"
  | .methodReturn => "method_return"
  | .error => "error"

def Beneath (path parent : String) : Prop :=
  parent = "/" ∨ path = parent ∨ ∃ rest, path = parent ++ "/" ++ rest

/-- What a clause asks of a message. -/
def MatchClause.Satisfied (clause : MatchClause) (message : Message) : Prop :=
  match clause.key with
  | "type" => message.header.kind.ruleName = clause.value
  | "sender" => message.header.sender.map BusName.text = some clause.value
  | "interface" => message.header.interface.map InterfaceName.text = some clause.value
  | "member" => message.header.member.map MemberName.text = some clause.value
  | "path" => message.header.path.map ObjectPath.text = some clause.value
  | "path_namespace" =>
      ∃ path, message.header.path = some path ∧ Beneath path.text clause.value
  | _ => False

namespace MatchRule

def pieces (input : String) : List (List Char) :=
  (input.toList.splitOn ',').filter (fun clause => !(trimChars clause).isEmpty)

def readClause (piece : List Char) : MatchClause :=
  ⟨String.ofList (trimChars (piece.takeWhile (· != '='))),
    String.ofList (trimChars (piece.dropWhile (· != '=')).tail)⟩

/-- The clauses that are written in a rule string, in order. -/
def written (input : String) : List MatchClause := (pieces input).map readClause

def setField (rule : MatchRule) (clause : MatchClause) : Except Error MatchRule :=
  match clause.key with
  | "type" => (parseType clause.value).map (fun kind => { rule with kind := some kind })
  | "sender" =>
      (named (BusName.new clause.value)).map (fun name => { rule with sender := some name })
  | "interface" =>
      (named (InterfaceName.new clause.value)).map
        (fun name => { rule with interface := some name })
  | "member" =>
      (named (MemberName.new clause.value)).map (fun name => { rule with member := some name })
  | "path" =>
      (named (ObjectPath.new clause.value)).map (fun path => { rule with path := some path })
  | "path_namespace" =>
      (named (ObjectPath.new clause.value)).map
        (fun path => { rule with pathNamespace := some path })
  | other => .error (.protocol ("unknown match key `" ++ other ++ "`"))

def setFields (rule : MatchRule) (clauses : List MatchClause) : Except Error MatchRule :=
  clauses.foldlM setField rule

theorem parseClause_eq {rule : MatchRule} {piece : List Char}
    (assigns : piece.dropWhile (· != '=') ≠ []) :
    parseClause rule piece = rule.setField (readClause piece) := by
  unfold parseClause setField readClause
  cases rest : piece.dropWhile (· != '=') with
  | nil => exact absurd rest assigns
  | cons _ value => rfl

theorem parseClauses_eq {rule : MatchRule} {pieces : List (List Char)}
    (assign : ∀ piece ∈ pieces, piece.dropWhile (· != '=') ≠ []) :
    parseClauses rule pieces = rule.setFields (pieces.map readClause) := by
  induction pieces generalizing rule with
  | nil => rfl
  | cons piece rest ih =>
      unfold parseClauses setFields
      rw [parseClause_eq (assign piece List.mem_cons_self), List.map_cons, List.foldlM_cons]
      cases rule.setField (readClause piece) with
      | error refusal => rfl
      | ok extended => exact ih (fun other among => assign other (List.mem_cons_of_mem _ among))

theorem parseClauses_ok {rule after : MatchRule} {pieces : List (List Char)}
    (parsed : parseClauses rule pieces = .ok after) :
    rule.setFields (pieces.map readClause) = .ok after := by
  induction pieces generalizing rule with
  | nil => exact parsed
  | cons piece rest ih =>
      unfold parseClauses at parsed
      cases one : parseClause rule piece with
      | error refusal =>
          rw [one] at parsed
          cases parsed
      | ok extended =>
          rw [one] at parsed
          have assigns : piece.dropWhile (· != '=') ≠ [] := by
            intro empty
            unfold parseClause at one
            rw [empty] at one
            cases one
          rw [parseClause_eq assigns] at one
          have later := ih parsed
          unfold setFields at later ⊢
          rw [List.map_cons, List.foldlM_cons, one]
          exact later

theorem parse_ok {input : String} {rule : MatchRule} (parsed : parse input = .ok rule) :
    new.setFields (written input) = .ok rule :=
  parseClauses_ok parsed

def fieldText (rule : MatchRule) : String → Option String
  | "type" => rule.kind.map MessageKind.ruleName
  | "sender" => rule.sender.map BusName.text
  | "interface" => rule.interface.map InterfaceName.text
  | "member" => rule.member.map MemberName.text
  | "path" => rule.path.map ObjectPath.text
  | "path_namespace" => rule.pathNamespace.map ObjectPath.text
  | _ => none

theorem parseType_ok {value : String} {kind : MessageKind} (parsed : parseType value = .ok kind) :
    kind.ruleName = value := by
  unfold parseType at parsed
  split at parsed <;> cases parsed <;> rfl

theorem map_ok {Value Result : Type} {known : Except Error Value} {f : Value → Result}
    {result : Result} (mapped : known.map f = .ok result) :
    ∃ value, known = .ok value ∧ result = f value := by
  cases known with
  | ok value =>
      cases mapped
      exact ⟨value, rfl, rfl⟩
  | error refusal => cases mapped

theorem named_ok {Name : Type} {parsed : Except InvalidName Name} {name : Name}
    (accepted : named parsed = .ok name) : parsed = .ok name := by
  cases parsed with
  | ok value =>
      cases accepted
      rfl
  | error refusal => cases accepted

variable {clause : MatchClause} {message : Message} {clauses : List MatchClause}

theorem setField_fieldText {rule after : MatchRule} (set : rule.setField clause = .ok after)
    (key : String) :
    after.fieldText key = if key = clause.key then some clause.value else rule.fieldText key := by
  obtain ⟨name, value⟩ := clause
  unfold setField at set
  dsimp only at set ⊢
  split at set
  · obtain ⟨kind, parsed, rfl⟩ := map_ok set
    rw [← parseType_ok parsed]
    unfold fieldText
    split <;> simp_all
  · obtain ⟨sender, parsed, rfl⟩ := map_ok set
    rw [← BusName.new_ok_iff.mp (named_ok parsed)]
    unfold fieldText
    split <;> simp_all
  · obtain ⟨interface, parsed, rfl⟩ := map_ok set
    rw [← InterfaceName.new_ok_iff.mp (named_ok parsed)]
    unfold fieldText
    split <;> simp_all
  · obtain ⟨member, parsed, rfl⟩ := map_ok set
    rw [← MemberName.new_ok_iff.mp (named_ok parsed)]
    unfold fieldText
    split <;> simp_all
  · obtain ⟨path, parsed, rfl⟩ := map_ok set
    rw [← ObjectPath.new_ok_iff.mp (named_ok parsed)]
    unfold fieldText
    split <;> simp_all
  · obtain ⟨path, parsed, rfl⟩ := map_ok set
    rw [← ObjectPath.new_ok_iff.mp (named_ok parsed)]
    unfold fieldText
    split <;> simp_all
  · cases set

theorem fieldMatches_text_iff {Name : Type} [DecidableEq Name] {text : Name → String}
    (injective : Function.Injective text) {required found : Option Name} :
    fieldMatches required found = true ↔
      ∀ value, required.map text = some value → found.map text = some value := by
  cases required with
  | none => simp [fieldMatches]
  | some name =>
      unfold fieldMatches
      rw [beq_iff_eq]
      constructor
      · rintro rfl value same
        exact same
      · intro same
        exact Option.map_injective injective (same (text name) rfl)

theorem ruleName_injective : Function.Injective MessageKind.ruleName := by
  intro left right same
  cases left <;> cases right <;> first | rfl | exact absurd same (by decide)

theorem objectPath_text_injective : Function.Injective ObjectPath.text := by
  rintro ⟨left, _⟩ ⟨right, _⟩ same
  cases same
  rfl

theorem interfaceName_text_injective : Function.Injective InterfaceName.text := by
  rintro ⟨left, _⟩ ⟨right, _⟩ same
  cases same
  rfl

theorem memberName_text_injective : Function.Injective MemberName.text := by
  rintro ⟨left, _⟩ ⟨right, _⟩ same
  cases same
  rfl

theorem busName_text_injective : Function.Injective BusName.text := fun _ _ => BusName.ext

theorem startsWith_iff {path parent : ObjectPath} :
    path.startsWith parent = true ↔ Beneath path.text parent.text := by
  unfold ObjectPath.startsWith Beneath
  by_cases root : parent.text = "/"
  · simp [root]
  · rw [if_neg root]
    simp only [Bool.or_eq_true, decide_eq_true_eq, Bool.and_eq_true, beq_iff_eq, root, false_or]
    apply or_congr_right
    rw [List.isPrefixOf_iff_prefix]
    constructor
    · rintro ⟨⟨tail, whole⟩, slash⟩
      rw [← whole, List.getElem?_append_right (Nat.le_refl _), Nat.sub_self] at slash
      obtain ⟨rest, rfl⟩ : ∃ rest, tail = '/' :: rest := by
        cases tail with
        | nil => cases slash
        | cons first rest =>
            cases slash
            exact ⟨rest, rfl⟩
      refine ⟨String.ofList rest, String.toList_inj.mp ?_⟩
      rw [← whole, String.toList_append, String.toList_append, List.append_assoc]
      show _ = _ ++ '/' :: (String.ofList rest).toList
      rw [String.toList_ofList]
    · rintro ⟨rest, whole⟩
      have characters : path.text.toList = parent.text.toList ++ '/' :: rest.toList := by
        rw [whole, String.toList_append, String.toList_append, List.append_assoc]
        rfl
      rw [characters]
      refine ⟨⟨_, rfl⟩, ?_⟩
      rw [List.getElem?_append_right (Nat.le_refl _), Nat.sub_self]
      rfl

theorem namespaceMatches_iff {required found : Option ObjectPath} :
    namespaceMatches required found = true ↔
      ∀ value, required.map ObjectPath.text = some value →
        ∃ path, found = some path ∧ Beneath path.text value := by
  cases required with
  | none => simp [namespaceMatches]
  | some parent =>
      cases found with
      | none => simp [namespaceMatches]
      | some path => simp [namespaceMatches, startsWith_iff]

theorem accepts_iff {rule : MatchRule} :
    rule.accepts message = true ↔ ∀ key value, rule.fieldText key = some value →
      (⟨key, value⟩ : MatchClause).Satisfied message := by
  unfold accepts
  simp only [Bool.and_eq_true, fieldMatches_text_iff ruleName_injective,
    fieldMatches_text_iff busName_text_injective,
    fieldMatches_text_iff interfaceName_text_injective,
    fieldMatches_text_iff memberName_text_injective,
    fieldMatches_text_iff objectPath_text_injective, namespaceMatches_iff]
  constructor
  · rintro ⟨⟨⟨⟨⟨kind, sender⟩, interface⟩, member⟩, path⟩, scope⟩ key value set
    unfold fieldText at set
    split at set
    · exact Option.some.inj (kind value set)
    · exact sender value set
    · exact interface value set
    · exact member value set
    · exact path value set
    · exact scope value set
    · cases set
  · intro every
    refine ⟨⟨⟨⟨⟨?_, ?_⟩, ?_⟩, ?_⟩, ?_⟩, ?_⟩
    · exact fun value set => congrArg some (every "type" value set)
    · exact fun value set => every "sender" value set
    · exact fun value set => every "interface" value set
    · exact fun value set => every "member" value set
    · exact fun value set => every "path" value set
    · exact fun value set => every "path_namespace" value set

def lastValue (clauses : List MatchClause) (key : String) : Option String :=
  (clauses.reverse.find? (fun clause => clause.key = key)).map MatchClause.value

theorem lastValue_cons (clause : MatchClause) (rest : List MatchClause) (key : String) :
    lastValue (clause :: rest) key =
      (lastValue rest key).or (if clause.key = key then some clause.value else none) := by
  unfold lastValue
  rw [List.reverse_cons, List.find?_append]
  by_cases same : clause.key = key
  · cases rest.reverse.find? (fun clause => decide (clause.key = key)) with
    | none => simp [same]
    | some later => simp [same]
  · cases rest.reverse.find? (fun clause => decide (clause.key = key)) with
    | none => simp [same]
    | some later => simp [same]

theorem setFields_fieldText {rule after : MatchRule} (set : rule.setFields clauses = .ok after)
    (key : String) :
    after.fieldText key = (lastValue clauses key).or (rule.fieldText key) := by
  induction clauses generalizing rule with
  | nil =>
      cases set
      rfl
  | cons clause rest ih =>
      unfold setFields at set
      rw [List.foldlM_cons] at set
      cases one : rule.setField clause with
      | error refusal =>
          rw [one] at set
          cases set
      | ok extended =>
          rw [one] at set
          rw [ih set, setField_fieldText one, lastValue_cons]
          by_cases same : key = clause.key
          · rw [if_pos same, if_pos same.symm, Option.or_assoc, Option.some_or]
          · rw [if_neg same, if_neg (fun other => same other.symm), Option.or_none]

theorem parse_fieldText {input : String} {rule : MatchRule} (parsed : parse input = .ok rule)
    (key : String) : rule.fieldText key = lastValue (written input) key := by
  have blank : new.fieldText key = none := by
    unfold fieldText
    split <;> rfl
  rw [setFields_fieldText (parse_ok parsed), blank, Option.or_none]

theorem mem_of_lastValue {key value : String}
    (last : lastValue clauses key = some value) : ⟨key, value⟩ ∈ clauses := by
  obtain ⟨⟨_, _⟩, found, rfl⟩ := Option.map_eq_some_iff.mp last
  have same := List.find?_some found
  rw [decide_eq_true_iff] at same
  cases same
  exact List.mem_reverse.mp (List.mem_of_find?_eq_some found)

theorem exists_lastValue (among : clause ∈ clauses) :
    ∃ value, lastValue clauses clause.key = some value := by
  unfold lastValue
  cases found : clauses.reverse.find? (fun other => decide (other.key = clause.key)) with
  | none =>
      have missing := List.find?_eq_none.mp found clause (List.mem_reverse.mpr among)
      exact absurd (decide_eq_true rfl) missing
  | some other => exact ⟨other.value, rfl⟩

/-- The rule matches exactly what satisfies every clause of its string. -/
def SaysAll (input : String) (rule : MatchRule) : Prop :=
  ∀ message, rule.accepts message = true ↔
    ∀ clause ∈ written input, clause.Satisfied message

def Contradictory (clauses : List MatchClause) : Prop :=
  ∃ path parent, lastValue clauses "path" = some path ∧
    lastValue clauses "path_namespace" = some parent ∧ ¬ Beneath path parent

def Implied (clauses : List MatchClause) (clause : MatchClause) : Prop :=
  lastValue clauses clause.key = some clause.value ∨
    (clause.key = "path_namespace" ∧
      match lastValue clauses "path" with
      | some path => Beneath path clause.value
      | none => ∃ parent, lastValue clauses "path_namespace" = some parent ∧
          Beneath parent clause.value)

def Settled (clauses : List MatchClause) : Prop :=
  Contradictory clauses ∨ ∀ clause ∈ clauses, Implied clauses clause

theorem accepts_iff_last {input : String} {rule : MatchRule} (parsed : parse input = .ok rule) :
    rule.accepts message = true ↔ ∀ key value, lastValue (written input) key = some value →
      (⟨key, value⟩ : MatchClause).Satisfied message := by
  rw [accepts_iff]
  simp only [parse_fieldText parsed]

theorem objectPath_begins (path : ObjectPath) : ∃ rest, path.text = "/" ++ rest := by
  have begins : ∃ rest, path.text.toList = '/' :: rest := by
    rcases (objectPath_check_iff.mp path.valid).form with root | ⟨_, rest, same, _⟩
    · exact ⟨[], root⟩
    · exact ⟨rest, same⟩
  obtain ⟨rest, same⟩ := begins
  refine ⟨String.ofList rest, String.toList_inj.mp ?_⟩
  rw [same, String.toList_append]
  show _ = '/' :: (String.ofList rest).toList
  rw [String.toList_ofList]

theorem Beneath.trans {path : ObjectPath} {middle top : String} (first : Beneath path.text middle)
    (second : Beneath middle top) : Beneath path.text top := by
  rcases second with root | rfl | ⟨below, inside⟩
  · exact .inl root
  · exact first
  · rcases first with root | same | ⟨rest, whole⟩
    · -- Beneath a root that is itself inside, only the empty parent is left.
      have lengths := congrArg (fun text => text.toList.length) (root.symm.trans inside)
      simp only [String.toList_append, List.length_append] at lengths
      have one : ("/" : String).toList.length = 1 := rfl
      have empty : top.toList = [] := List.eq_nil_of_length_eq_zero (by omega)
      obtain ⟨rest, begins⟩ := objectPath_begins path
      refine .inr (.inr ⟨rest, ?_⟩)
      rw [begins, String.toList_inj.mp (empty.trans String.toList_empty.symm)]
      rfl
    · exact .inr (.inr ⟨below, same.trans inside⟩)
    · refine .inr (.inr ⟨below ++ "/" ++ rest, ?_⟩)
      rw [whole, inside]
      simp only [String.append_assoc]

def wanted (rule : MatchRule) : Message :=
  { header :=
      { Header.blank (rule.kind.getD .signal) with
        sender := rule.sender, interface := rule.interface, member := rule.member
        path := rule.path.or rule.pathNamespace }
    body := .null }

variable {input : String} {rule : MatchRule}

theorem accepts_wanted (parsed : parse input = .ok rule)
    (possible : ¬ Contradictory (written input)) : rule.accepts rule.wanted = true := by
  rw [accepts_iff]
  intro key value set
  unfold fieldText at set
  unfold MatchClause.Satisfied
  split at set
  · obtain ⟨kind, same, rfl⟩ := Option.map_eq_some_iff.mp set
    show (rule.kind.getD .signal).ruleName = _
    rw [same]
    rfl
  · exact set
  · exact set
  · exact set
  · obtain ⟨path, same, rfl⟩ := Option.map_eq_some_iff.mp set
    show (rule.path.or rule.pathNamespace).map ObjectPath.text = _
    rw [same]
    rfl
  · obtain ⟨parent, same, rfl⟩ := Option.map_eq_some_iff.mp set
    show ∃ path, rule.path.or rule.pathNamespace = some path ∧ _
    cases exact : rule.path with
    | none => exact ⟨parent, same, .inr (.inl rfl)⟩
    | some path =>
        refine ⟨path, rfl, Classical.byContradiction fun outside => possible ?_⟩
        refine ⟨path.text, parent.text, ?_, ?_, outside⟩
        · rw [← parse_fieldText parsed]
          exact congrArg (Option.map ObjectPath.text) exact
        · rw [← parse_fieldText parsed]
          exact set
  · cases set

theorem implied_of_wanted (parsed : parse input = .ok rule) (among : clause ∈ written input)
    (satisfied : clause.Satisfied rule.wanted) :
    Implied (written input) clause := by
  obtain ⟨last, counts⟩ := exists_lastValue among
  have field := parse_fieldText parsed
  obtain ⟨key, value⟩ := clause
  unfold Implied
  dsimp only at counts ⊢
  rw [← field] at counts
  simp only [← field]
  unfold MatchClause.Satisfied at satisfied
  dsimp only at satisfied
  split at satisfied
  · obtain ⟨kind, same, _⟩ := Option.map_eq_some_iff.mp counts
    have text : (rule.kind.getD .signal).ruleName = value := satisfied
    rw [same] at text
    exact .inl ((congrArg (Option.map MessageKind.ruleName) same).trans (congrArg some text))
  · exact .inl satisfied
  · exact .inl satisfied
  · exact .inl satisfied
  · obtain ⟨path, same, _⟩ := Option.map_eq_some_iff.mp counts
    have text : (rule.path.or rule.pathNamespace).map ObjectPath.text = some value := satisfied
    rw [same] at text
    exact .inl ((congrArg (Option.map ObjectPath.text) same).trans text)
  · refine .inr ⟨rfl, ?_⟩
    obtain ⟨path, place, beneath⟩ := satisfied
    have place : rule.path.or rule.pathNamespace = some path := place
    cases exact : rule.path with
    | none =>
        rw [exact, Option.none_or] at place
        have unset : rule.fieldText "path" = none :=
          congrArg (Option.map ObjectPath.text) exact
        rw [unset]
        exact ⟨path.text, congrArg (Option.map ObjectPath.text) place, beneath⟩
    | some own =>
        rw [exact, Option.some_or, Option.some.injEq] at place
        have set : rule.fieldText "path" = some own.text :=
          congrArg (Option.map ObjectPath.text) exact
        rw [set, place]
        exact beneath
  · exact satisfied.elim

theorem satisfied_of_implied (parsed : parse input = .ok rule) (among : clause ∈ written input)
    (implied : Implied (written input) clause) (accepted : rule.accepts message = true) :
    clause.Satisfied message := by
  have asks := (accepts_iff_last parsed).mp accepted
  obtain ⟨key, value⟩ := clause
  rcases implied with last | ⟨namespaced, inside⟩
  · exact asks key value last
  · cases namespaced
    obtain ⟨parent, counts⟩ := exists_lastValue among
    obtain ⟨place, found, beneath⟩ := asks "path_namespace" parent counts
    refine ⟨place, found, ?_⟩
    dsimp only at inside beneath ⊢
    cases exact : lastValue (written input) "path" with
    | none =>
        rw [exact] at inside
        obtain ⟨other, same, inside⟩ := inside
        cases counts.symm.trans same
        exact Beneath.trans beneath inside
    | some path =>
        rw [exact] at inside
        have text : message.header.path.map ObjectPath.text = some path := asks "path" path exact
        rw [found] at text
        cases text
        exact inside

theorem not_accepts_of_contradictory (parsed : parse input = .ok rule)
    (impossible : Contradictory (written input)) :
    ¬ rule.accepts message = true := by
  intro accepted
  obtain ⟨path, parent, exact, scope, outside⟩ := impossible
  have asks := (accepts_iff_last parsed).mp accepted
  have text : message.header.path.map ObjectPath.text = some path := asks "path" path exact
  obtain ⟨place, found, beneath⟩ := asks "path_namespace" parent scope
  rw [found] at text
  cases text
  exact outside beneath

/-- A rule string is matched as it is written if no clause that a later one of its key
overrides asks for more, or if nothing can match. -/
theorem saysAll_iff (parsed : parse input = .ok rule) :
    SaysAll input rule ↔ Settled (written input) := by
  constructor
  · intro every
    by_cases impossible : Contradictory (written input)
    · exact .inl impossible
    · right
      intro clause among
      have accepted := accepts_wanted parsed impossible
      exact implied_of_wanted parsed among ((every rule.wanted).mp accepted clause among)
  · intro settled message
    constructor
    · intro accepted clause among
      rcases settled with impossible | implied
      · exact absurd accepted (not_accepts_of_contradictory parsed impossible)
      · exact satisfied_of_implied parsed among (implied clause among) accepted
    · intro every
      refine (accepts_iff_last parsed).mpr ?_
      intro key value last
      exact every ⟨key, value⟩ (mem_of_lastValue last)

/-- Of two namespaces the last one lies beneath the first, which is not missed. -/
theorem narrowedNamespace_saysAll : ∃ rule,
    parse "path_namespace=/a,path_namespace=/a/b" = .ok rule ∧
      SaysAll "path_namespace=/a,path_namespace=/a/b" rule := by
  refine ⟨{ new with pathNamespace := some ⟨"/a/b", by rfl⟩ }, rfl, ?_⟩
  refine (saysAll_iff rfl).mpr (.inr ?_)
  intro clause among
  have given : written "path_namespace=/a,path_namespace=/a/b" =
      [⟨"path_namespace", "/a"⟩, ⟨"path_namespace", "/a/b"⟩] := by rfl
  rw [given] at among ⊢
  rcases List.mem_cons.mp among with rfl | last
  · exact .inr ⟨rfl, "/a/b", rfl, .inr (.inr ⟨"b", rfl⟩)⟩
  · rw [List.mem_singleton.mp last]
    exact .inl rfl

/-- Of two members that are asked for, the first is forgotten. -/
theorem repeatedMember_overrides : ∃ rule message,
    parse "member=Left,member=Right" = .ok rule ∧ rule.accepts message = true ∧
      ∃ clause ∈ written "member=Left,member=Right", ¬ clause.Satisfied message := by
  let right : MemberName := ⟨"Right", by rfl⟩
  refine ⟨{ new with member := some right },
    Message.signal busPath busInterface right .null, rfl, rfl, ⟨"member", "Left"⟩, ?_, ?_⟩
  · exact List.mem_cons_self
  · intro satisfied
    have same : some "Right" = some "Left" := satisfied
    exact absurd same (by decide)

end MatchRule

end TinyBus
