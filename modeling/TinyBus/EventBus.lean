import TinyBus.PathElements

/-
Typed events over the bus.  The domain of an event becomes the last element of the path its
signal is published at, and that is what the subscriptions of the peers select by.
-/

namespace TinyBus

open Grammar

/-- An event that can travel on the bus, with its routing key. -/
class Event (E : Type) where
  domain : E → String
  toValue : E → Except String Value
  fromValue : Value → Option E

/-- The member every published event travels under. -/
def PUBLISHED : String := "Published"

def publishedMember : MemberName := ⟨PUBLISHED, by rfl⟩

/-- Where a catalog lives on the bus. -/
structure EventBusConfig where
  root : ObjectPath
  interface : InterfaceName
  deriving DecidableEq

namespace EventBusConfig

def new (root interface : String) : Except Error EventBusConfig :=
  match ObjectPath.new root with
  | .error refusal => .error (.invalidName refusal)
  | .ok root =>
      match InterfaceName.new interface with
      | .error refusal => .error (.invalidName refusal)
      | .ok interface => .ok ⟨root, interface⟩

def catalogRule (config : EventBusConfig) : MatchRule :=
  { MatchRule.new with
    kind := some .signal
    interface := some config.interface
    pathNamespace := some config.root }

def joined (config : EventBusConfig) (domain : String) : String :=
  if config.root.text = "/" then "/" ++ domain else config.root.text ++ "/" ++ domain

/-- The object path a given domain's events are published at. -/
def pathFor (config : EventBusConfig) (domain : String) : Except Error ObjectPath :=
  match ObjectPath.new (config.joined domain) with
  | .ok path => .ok path
  | .error refusal => .error (.invalidDomain domain refusal.message)

variable {E : Type} [Event E]

/-- Build the signal one event travels as. -/
def signalFor (config : EventBusConfig) (event : E) : Except Error Message :=
  match config.pathFor (Event.domain event) with
  | .error refusal => .error refusal
  | .ok path =>
      match Event.toValue event with
      | .error detail => .error (.json detail)
      | .ok value => .ok (Message.signal path config.interface publishedMember (.array [value]))

def firstOf : Value → Option Value
  | .array items => items.head?
  | _ => none

/-- Decode a signal into an event, where it is one of the catalog's. -/
def decode (config : EventBusConfig) (message : Message) : Option E :=
  if message.header.interface ≠ some config.interface then none
  else if message.header.member.map MemberName.text ≠ some PUBLISHED then none
  else
    match message.header.path with
    | none => none
    | some path =>
        if path.startsWith config.root then (firstOf message.body).bind Event.fromValue
        else none

/-- What the stream of a connection yields to a subscriber. -/
inductive SignalItem where
  | message (message : Message)
  | lagged (skipped : Nat)

/-- The events the dispatch loop hands to a handler with a filter. -/
def dispatched (config : EventBusConfig) (domains : Option (List String)) :
    List SignalItem → List E
  | [] => []
  | .lagged _ :: rest => dispatched config domains rest
  | .message message :: rest =>
      match config.decode message with
      | none => dispatched config domains rest
      | some event =>
          if domains.any (fun allowed => !allowed.contains (Event.domain event)) then
            dispatched config domains rest
          else event :: dispatched config domains rest

theorem dispatched_allowed {config : EventBusConfig} {allowed : List String}
    {stream : List SignalItem} {event : E}
    (among : event ∈ dispatched config (some allowed) stream) :
    Event.domain event ∈ allowed := by
  induction stream with
  | nil => cases among
  | cons item rest ih =>
      cases item with
      | lagged skipped => exact ih among
      | message message =>
          rw [dispatched] at among
          split at among
          · exact ih among
          · rename_i decoded _
            split at among
            · exact ih among
            · rename_i passed
              rcases List.mem_cons.mp among with rfl | later
              · simpa using passed
              · exact ih later

end EventBusConfig

namespace EventBusConfig

variable {config : EventBusConfig}

variable {domain : String} {path : ObjectPath}

theorem pathFor_text (accepted : config.pathFor domain = .ok path) :
    path.text = config.joined domain := by
  unfold pathFor at accepted
  split at accepted
  · rename_i made
    cases accepted
    exact ObjectPath.new_ok_iff.mp made
  · cases accepted

theorem pathFor_ok (text : path.text = config.joined domain) :
    config.pathFor domain = .ok path := by
  unfold pathFor
  rw [ObjectPath.new_ok_iff.mpr text]

theorem pathFor_of_legal (legal : Grammar.ObjectPath (config.joined domain)) :
    ∃ path, config.pathFor domain = .ok path := by
  have text : (⟨config.joined domain, objectPath_check_iff.mpr legal⟩ : ObjectPath).text =
      config.joined domain := rfl
  exact ⟨_, pathFor_ok text⟩

theorem pathFor_refused (illegal : ∀ path, config.pathFor domain ≠ .ok path) :
    ∃ reason, config.pathFor domain = .error (.invalidDomain domain reason) := by
  cases made : ObjectPath.new (config.joined domain) with
  | ok path => exact absurd (by rw [pathFor, made]) (illegal path)
  | error refusal => exact ⟨refusal.message, by rw [pathFor, made]⟩

theorem toList_joined (config : EventBusConfig) (domain : String) :
    (config.joined domain).toList =
      if config.root.text = "/" then '/' :: domain.toList
      else config.root.text.toList ++ '/' :: domain.toList := by
  unfold joined
  split
  · rw [String.toList_append]
    rfl
  · rw [String.toList_append, String.toList_append, List.append_assoc]
    rfl

theorem pathFor_elements (accepted : config.pathFor domain = .ok path)
    (some : domain ≠ "" ∨ config.root.text ≠ "/") :
    path.elements = config.root.elements ++ domain.toList.splitOn '/' := by
  have whole := (congrArg String.toList (pathFor_text accepted)).trans (toList_joined config domain)
  by_cases root : config.root.text = "/"
  · rw [if_pos root] at whole
    have other : path.text ≠ "/" := by
      intro same
      rw [same] at whole
      have empty : domain.toList = [] := (List.cons.inj whole).2.symm
      exact some.elim (fun named => named (String.toList_inj.mp empty)) (fun other => other root)
    rw [ObjectPath.elements_root root, List.nil_append]
    unfold ObjectPath.elements
    rw [if_neg other, whole, List.tail_cons]
  · rw [if_neg root] at whole
    exact ObjectPath.elements_append root whole

theorem joined_legal (some : domain ≠ "")
    (runs : ∀ element ∈ domain.toList.splitOn '/', Run Plain element)
    (fits : (config.joined domain).utf8ByteSize ≤ maxNameLen) :
    Grammar.ObjectPath (config.joined domain) := by
  have characters : domain.toList ≠ [] := fun empty => some (String.toList_inj.mp empty)
  refine ⟨?_, fits⟩
  rw [toList_joined]
  by_cases root : config.root.text = "/"
  · rw [if_pos root]
    exact (path_cons characters).mpr runs
  · obtain ⟨upper, begins, parts, plain⟩ := ObjectPath.text_of_ne_root config.root root
    rw [if_neg root, begins, List.cons_append]
    refine (path_cons (by simp)).mpr ?_
    rw [List.splitOn_append_cons_self]
    intro element among
    rcases List.mem_append.mp among with above | own
    · exact plain element (parts ▸ above)
    · exact runs element own

structure Addressed (config : EventBusConfig) (domain : String) (path : ObjectPath) : Prop where
  element : Run Plain domain.toList
  last : path.elements = config.root.elements ++ [domain.toList]

structure OwnPath (config : EventBusConfig) (domain : String) : Prop where
  addressed : ∀ path, config.pathFor domain = .ok path → Addressed config domain path
  refused : ¬ Run Plain domain.toList →
    ∃ reason, config.pathFor domain = .error (.invalidDomain domain reason)

/-- A domain that goes through without being an element: none at all, where the root of the
catalog is that of the bus, or several elements. -/
def Spliced (config : EventBusConfig) (domain : String) : Prop :=
  domain = "" ∧ config.root.text = "/" ∨
    (∃ count, 2 ≤ count ∧ Separated '/' (Run Plain) count domain.toList) ∧
      (config.joined domain).utf8ByteSize ≤ maxNameLen

theorem Spliced.accepted (spliced : Spliced config domain) :
    ∃ path, config.pathFor domain = .ok path := by
  rcases spliced with ⟨rfl, root⟩ | ⟨⟨count, _, separated⟩, fits⟩
  · refine pathFor_of_legal ⟨?_, ?_⟩
    · rw [toList_joined, if_pos root]
      exact .inl rfl
    · rw [joined, if_pos root]
      decide
  · obtain ⟨_, runs⟩ := (Separated.iff_splitOn fun _ => slashless_of_run).mp separated
    refine pathFor_of_legal (joined_legal ?_ runs fits)
    rintro rfl
    exact (runs [] (by simp)).1 rfl

theorem Spliced.not_run (spliced : Spliced config domain) :
    ¬ Run Plain domain.toList := by
  intro run
  rcases spliced with ⟨rfl, _⟩ | ⟨⟨count, several, separated⟩, _⟩
  · exact run.1 rfl
  · obtain ⟨parts, _⟩ := (Separated.iff_splitOn fun _ => slashless_of_run).mp separated
    rw [List.splitOn_eq_singleton (slashless_of_run run)] at parts
    rw [← parts, List.length_singleton] at several
    exact absurd several (by decide)

theorem addressed_of_not_spliced (accepted : config.pathFor domain = .ok path)
    (whole : ¬ Spliced config domain) :
    Addressed config domain path := by
  have some : domain ≠ "" ∨ config.root.text ≠ "/" := by
    refine Decidable.byContradiction fun neither => whole (.inl ?_)
    rw [not_or, Decidable.not_not, Decidable.not_not] at neither
    exact neither
  have elements := pathFor_elements accepted some
  have runs : ∀ element ∈ domain.toList.splitOn '/', Run Plain element := fun element among =>
    ObjectPath.elements_plain path element (elements ▸ List.mem_append_right _ among)
  have fits : (config.joined domain).utf8ByteSize ≤ maxNameLen :=
    pathFor_text accepted ▸ (objectPath_check_iff.mp path.valid).capped
  have one : '/' ∉ domain.toList := by
    intro cut
    obtain ⟨front, back, parts⟩ := List.append_of_mem cut
    refine whole (.inr ⟨⟨(domain.toList.splitOn '/').length, ?_,
      (Separated.iff_splitOn fun _ => slashless_of_run).mpr ⟨rfl, runs⟩⟩, fits⟩)
    rw [parts, List.splitOn_append_cons_self, List.length_append]
    have left := List.length_pos_iff.mpr (List.splitOn_ne_nil '/' front)
    have right := List.length_pos_iff.mpr (List.splitOn_ne_nil '/' back)
    omega
  rw [List.splitOn_eq_singleton one] at elements runs
  exact ⟨runs _ List.mem_cons_self, elements⟩

theorem ownPath_iff (config : EventBusConfig) (domain : String) :
    OwnPath config domain ↔ ¬ Spliced config domain := by
  constructor
  · intro own spliced
    obtain ⟨path, accepted⟩ := spliced.accepted
    exact spliced.not_run (own.addressed path accepted).element
  · intro whole
    refine ⟨fun path accepted => addressed_of_not_spliced accepted whole, ?_⟩
    intro illegal
    exact pathFor_refused fun path accepted =>
      illegal (addressed_of_not_spliced accepted whole).element

theorem Addressed.apart {first second : String} {other : ObjectPath}
    (one : Addressed config first path) (two : Addressed config second other)
    (different : first ≠ second) : path.startsWith other = false := by
  refine Bool.eq_false_iff.mpr fun beneath => different ?_
  rw [ObjectPath.startsWith_elements, one.last, two.last, List.prefix_append_right_inj] at beneath
  have same : second.toList = first.toList := by
    simpa using beneath.eq_of_length rfl
  exact (String.toList_inj.mp same).symm

theorem accepts_elsewhere {rule : MatchRule} {message : Message} {other : ObjectPath}
    (asks : rule.path = some path ∨ rule.pathNamespace = some path)
    (lies : message.header.path = some other) (apart : other.startsWith path = false) :
    rule.accepts message = false := by
  refine Bool.eq_false_iff.mpr fun accepted => ?_
  unfold MatchRule.accepts at accepted
  simp only [Bool.and_eq_true, lies] at accepted
  obtain ⟨⟨_, exact⟩, scope⟩ := accepted
  rcases asks with same | beneath
  · rw [same, MatchRule.fieldMatches_some_iff, Option.some.injEq] at exact
    have equal : path = other := exact.resolve_left (Option.some_ne_none _)
    rw [equal, ObjectPath.startsWith_elements.mpr (List.prefix_refl _)] at apart
    cases apart
  · rw [beneath] at scope
    rw [MatchRule.namespaceMatches, apart] at scope
    cases scope

theorem signalFor_path {E : Type} [Event E] {event : E} {message : Message}
    (sent : config.signalFor event = .ok message) :
    ∃ path, config.pathFor (Event.domain event) = .ok path ∧
      message.header.path = some path := by
  unfold signalFor at sent
  split at sent
  · cases sent
  · rename_i path accepted
    split at sent
    · cases sent
    · cases sent
      exact ⟨path, accepted, rfl⟩

/-- Two domains keep to themselves: each has a path of its own or none, and who asks for the
one, by its path or with a filter, gets nothing of the other. -/
structure Separate (E : Type) [Event E] (config : EventBusConfig) (first second : String) :
    Prop where
  own : OwnPath config first
  other : OwnPath config second
  apart : ∀ path other, config.pathFor first = .ok path → config.pathFor second = .ok other →
    first ≠ second → path ≠ other ∧ path.startsWith other = false ∧ other.startsWith path = false
  unheard : ∀ path (event : E) message (rule : MatchRule), config.pathFor first = .ok path →
    Event.domain event = second → config.signalFor event = .ok message → first ≠ second →
      rule.path = some path ∨ rule.pathNamespace = some path → rule.accepts message = false
  unhandled : ∀ stream (event : E), event ∈ dispatched config (some [first]) stream →
    first ≠ second → Event.domain event ≠ second

end EventBusConfig

open EventBusConfig

/-- The domains of a catalog keep to themselves as far as none of them is spliced into its
path as anything but one element. -/
theorem domains_separate_iff (E : Type) [Event E] (config : EventBusConfig)
    (first second : String) :
    Separate E config first second ↔ ¬ Spliced config first ∧ ¬ Spliced config second := by
  constructor
  · intro separate
    exact ⟨(ownPath_iff config first).mp separate.own, (ownPath_iff config second).mp separate.other⟩
  · rintro ⟨whole, entire⟩
    refine ⟨(ownPath_iff config first).mpr whole, (ownPath_iff config second).mpr entire,
      ?_, ?_, ?_⟩
    · intro path other accepted admitted different
      have one := addressed_of_not_spliced accepted whole
      have two := addressed_of_not_spliced admitted entire
      have away := one.apart two different
      refine ⟨?_, away, two.apart one (Ne.symm different)⟩
      rintro rfl
      rw [ObjectPath.startsWith_elements.mpr (List.prefix_refl _)] at away
      cases away
    · intro path event message rule accepted named sent different asks
      obtain ⟨other, admitted, lies⟩ := signalFor_path sent
      rw [named] at admitted
      have one := addressed_of_not_spliced accepted whole
      have two := addressed_of_not_spliced admitted entire
      exact accepts_elsewhere asks lies (two.apart one (Ne.symm different))
    · intro stream event among different same
      have allowed := dispatched_allowed among
      rw [same] at allowed
      exact different (List.mem_singleton.mp allowed).symm

/-- A catalog, and an event of it that is nothing but its domain. -/
def openhumanEvents : EventBusConfig :=
  ⟨⟨"/ai/tinyhumans/openhuman/events", by rfl⟩, ⟨"ai.tinyhumans.openhuman.Events", by rfl⟩⟩

structure BareEvent where
  domain : String

instance : Event BareEvent where
  domain := BareEvent.domain
  toValue := fun event => .ok (.string event.domain)
  fromValue := fun value =>
    match value with
    | .string domain => some ⟨domain⟩
    | _ => none

def cronPath : ObjectPath := ⟨"/ai/tinyhumans/openhuman/events/cron", by rfl⟩

def cronDailyPath : ObjectPath := ⟨"/ai/tinyhumans/openhuman/events/cron/daily", by rfl⟩

def cronDailySignal : Message :=
  Message.signal cronDailyPath openhumanEvents.interface publishedMember
    (.array [.string "cron/daily"])

/-- A domain of two elements is published beneath another one, and heard there. -/
theorem spliced_domain_heard :
    openhumanEvents.pathFor "cron" = .ok cronPath ∧
      openhumanEvents.pathFor "cron/daily" = .ok cronDailyPath ∧
      ¬ Run Plain "cron/daily".toList ∧ cronDailyPath.startsWith cronPath = true ∧
      openhumanEvents.signalFor (⟨"cron/daily"⟩ : BareEvent) = .ok cronDailySignal ∧
      { MatchRule.new with pathNamespace := some cronPath }.accepts cronDailySignal = true := by
  refine ⟨pathFor_ok rfl, pathFor_ok rfl, ?_, by decide +kernel, ?_, by decide +kernel⟩
  · exact fun run => slashless_of_run run (by decide +kernel)
  · have accepted : openhumanEvents.pathFor "cron/daily" = .ok cronDailyPath := pathFor_ok rfl
    change (match openhumanEvents.pathFor "cron/daily" with
      | .error refusal => .error refusal
      | .ok path => .ok (Message.signal path openhumanEvents.interface publishedMember
          (.array [.string "cron/daily"]))) = Except.ok cronDailySignal
    rw [accepted]
    rfl

end TinyBus
