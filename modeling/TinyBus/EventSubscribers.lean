/-
The loop of one event subscriber.  Everything its connection delivers comes by, and only what
decodes as an event of the catalog and is of its domains is handled, one event at a time.  A
handler that panics costs that event only; falling behind costs what was dropped.
-/

import TinyBus.Broker
import TinyBus.EventBus
import TinyBus.Library.Broadcast

namespace TinyBus

open TransitionSystem

inductive SignalOrigin where
  | unverified
  | brokered
  | «local»
  deriving DecidableEq

/-- `localPublisher` is the connection that a signal was published on to itself. -/
structure SignalContext where
  origin : SignalOrigin
  sender : Option BusName
  localPublisher : Option Outbox
  deriving DecidableEq

structure SignalDelivery where
  message : Message
  context : SignalContext

namespace SignalDelivery

def unverified (message : Message) : SignalDelivery :=
  { message := message
    context := { origin := .unverified, sender := none, localPublisher := none } }

def received (message : Message) (brokered : Bool) : SignalDelivery :=
  if brokered then
    { message := message
      context :=
        { origin := .brokered
          sender := message.header.sender.filter BusName.isUnique
          localPublisher := none } }
  else unverified message

end SignalDelivery

namespace EventSubscriber

def SIGNAL_BUFFER : Nat := 256

variable {E : Type} [Event E]

/-- The event of a delivery that a handler with these domains is given. -/
def accepts (config : EventBusConfig) (domains : Option (List String))
    (delivery : SignalDelivery) : Option (E × SignalContext) :=
  match config.decode delivery.message with
  | none => none
  | some event =>
      if domains.any (fun allowed => !allowed.contains (Event.domain event)) then none
      else some (event, delivery.context)

inductive Stage where
  | waiting
  | handling
  | exited
  | aborted
  deriving DecidableEq

/-- `handled` is what the handler was given, `panics` how often it panicked. -/
structure Subscriber (E : Type) where
  broadcast : Broadcast SignalDelivery
  receiver : Broadcast.Receiver SignalDelivery
  stage : Stage
  handled : List (E × SignalContext)
  panics : Nat

def Subscriber.spawned : Subscriber E :=
  { broadcast := .empty, receiver := .new, stage := .waiting, handled := [], panics := 0 }

inductive SubscriberEvent where
  | send (delivery : SignalDelivery)
  | hangUp
  | poll
  | finish (panicked : Bool)
  | abort

def poll (config : EventBusConfig) (domains : Option (List String)) (state : Subscriber E) :
    Subscriber E :=
  match state.broadcast.recv SIGNAL_BUFFER state.receiver with
  | (.value delivery, receiver) =>
      match accepts config domains delivery with
      | none => { state with receiver := receiver }
      | some given =>
          { state with
            receiver := receiver, stage := .handling, handled := state.handled ++ [given] }
  | (.lagged _, receiver) => { state with receiver := receiver }
  | (.empty, _) => state
  | (.closed, _) => { state with stage := .exited }

/-- The task is aborted where it waits, for a signal or for the handler. -/
def next (config : EventBusConfig) (domains : Option (List String)) (state : Subscriber E) :
    SubscriberEvent → Subscriber E
  | .send delivery => { state with broadcast := state.broadcast.send delivery }
  | .hangUp => { state with broadcast := state.broadcast.close }
  | .poll =>
      match state.stage with
      | .waiting => poll config domains state
      | _ => state
  | .finish panicked =>
      match state.stage with
      | .handling =>
          { state with
            stage := .waiting, panics := if panicked then state.panics + 1 else state.panics }
      | _ => state
  | .abort =>
      match state.stage with
      | .exited => state
      | _ => { state with stage := .aborted }

def system (E : Type) [Event E] (config : EventBusConfig) (domains : Option (List String)) :
    System (Subscriber E) SubscriberEvent :=
  System.ofFunction (fun state => state = .spawned) (next config domains)

variable {config : EventBusConfig} {domains : Option (List String)}

structure Sound (config : EventBusConfig) (domains : Option (List String))
    (state : Subscriber E) : Prop where
  lawful : Broadcast.Lawful SIGNAL_BUFFER state.broadcast state.receiver
  handled : state.handled = state.receiver.taken.filterMap (accepts config domains)
  exited : state.stage = .exited →
    state.broadcast.closed = true ∧ state.receiver.next = state.broadcast.sent.length
  panics : state.panics + (if state.stage = .handling then 1 else 0) ≤ state.handled.length

theorem sound_spawned : Sound config domains (.spawned : Subscriber E) := by
  constructor
  · exact Broadcast.lawful_new
  · rfl
  · intro exited
    cases exited
  · simp [Subscriber.spawned]

variable {state : Subscriber E}

theorem Sound.poll (sound : Sound config domains state)
    (waiting : state.stage = .waiting) : Sound config domains (poll config domains state) := by
  obtain ⟨lawful, handled, exited, panics⟩ := sound
  have received := lawful.recv
  have step := Broadcast.recv_step SIGNAL_BUFFER state.broadcast state.receiver
  unfold EventSubscriber.poll
  generalize state.broadcast.recv SIGNAL_BUFFER state.receiver = result at received step ⊢
  cases step with
  | lagged behind some =>
      refine ⟨received, handled, ?_, panics⟩
      simp [waiting]
  | @value delivery found =>
      dsimp only
      split
      · rename_i passed
        refine ⟨received, ?_, ?_, panics⟩
        · simp [handled, passed]
        · simp [waiting]
      · rename_i given passed
        refine ⟨received, ?_, nofun, ?_⟩
        · simp [handled, passed]
        · simp only [waiting, reduceCtorEq, if_false, if_true, List.length_append,
            List.length_singleton] at panics ⊢
          omega
  | empty caught running => exact ⟨lawful, handled, exited, panics⟩
  | closed caught ended =>
      refine ⟨lawful, handled, ?_, ?_⟩
      · exact fun _ => ⟨ended, Nat.le_antisymm lawful.bound caught⟩
      · simpa [waiting] using panics

theorem Sound.next (sound : Sound config domains state) (event : SubscriberEvent) :
    Sound config domains (next config domains state event) := by
  cases event with
  | send delivery =>
      refine ⟨sound.lawful.send delivery, sound.handled, ?_, sound.panics⟩
      intro exited
      have ended := sound.exited exited
      change (state.broadcast.send delivery).closed = true ∧
        state.receiver.next = (state.broadcast.send delivery).sent.length
      simp [Broadcast.send, ended.1, ended.2]
  | hangUp =>
      refine ⟨sound.lawful.close, sound.handled, ?_, sound.panics⟩
      exact fun exited => ⟨rfl, (sound.exited exited).2⟩
  | poll =>
      unfold EventSubscriber.next
      dsimp only
      split
      · rename_i waiting
        exact sound.poll waiting
      · exact sound
  | finish panicked =>
      unfold EventSubscriber.next
      dsimp only
      split
      · rename_i handling
        refine ⟨sound.lawful, sound.handled, ?_, ?_⟩
        · intro exited
          cases exited
        · have panics := sound.panics
          rw [if_pos handling] at panics
          cases panicked <;> simp <;> omega
      · exact sound
  | abort =>
      unfold EventSubscriber.next
      dsimp only
      split
      · exact sound
      · refine ⟨sound.lawful, sound.handled, ?_, ?_⟩
        · intro exited
          cases exited
        · have panics := sound.panics
          dsimp only
          simp only [reduceCtorEq, if_false, Nat.add_zero]
          exact Nat.le_trans (Nat.le_add_right _ _) panics

theorem reachable_sound (reached : (system E config domains).Reachable state) :
    Sound config domains state := by
  apply reached.invariant
  · rintro first rfl
    exact sound_spawned
  · rintro before event after rfl sound
    exact sound.next event

theorem accepts_dispatched (config : EventBusConfig) (domains : Option (List String))
    (deliveries : List SignalDelivery) :
    (deliveries.filterMap (accepts (E := E) config domains)).map Prod.fst =
      config.dispatched domains (deliveries.map (fun delivery => .message delivery.message)) := by
  induction deliveries with
  | nil => rfl
  | cons delivery rest ih =>
      rw [List.map_cons, EventBusConfig.dispatched, List.filterMap_cons, accepts]
      cases (config.decode delivery.message : Option E) with
      | none => exact ih
      | some event =>
          dsimp only
          by_cases filtered :
              domains.any (fun allowed => !allowed.contains (Event.domain event)) = true
          · rw [if_pos filtered, if_pos filtered]
            exact ih
          · rw [if_neg filtered, if_neg filtered]
            exact congrArg (event :: ·) ih

theorem accepts_own {delivery : SignalDelivery} {given : E × SignalContext}
    (passed : accepts config domains delivery = some given) :
    config.decode delivery.message = some given.1 ∧ given.2 = delivery.context := by
  unfold accepts at passed
  split at passed
  · cases passed
  · rename_i decoded
    split at passed
    · cases passed
    · cases passed
      exact ⟨decoded, rfl⟩

theorem accepts_contexts (config : EventBusConfig) (domains : Option (List String))
    (deliveries : List SignalDelivery) :
    ∃ own, own.Sublist deliveries ∧ List.Forall₂ (fun given delivery =>
      config.decode delivery.message = some given.1 ∧ given.2 = delivery.context)
        (deliveries.filterMap (accepts (E := E) config domains)) own := by
  induction deliveries with
  | nil => exact ⟨[], .slnil, .nil⟩
  | cons delivery rest ih =>
      obtain ⟨own, among, contexts⟩ := ih
      rw [List.filterMap_cons]
      cases passed : accepts (E := E) config domains delivery with
      | none => exact ⟨own, among.cons delivery, contexts⟩
      | some given =>
          exact ⟨delivery :: own, among.cons_cons delivery, .cons (accepts_own passed) contexts⟩

/-- A handler is given, in the order they were sent and each once, exactly the events of its
catalog and domains among the deliveries that its subscriber took, each with the context it
was delivered with; the others are those the subscriber was told it missed.  A handler that
panics changes nothing of that, and the subscriber ends by itself only after the connection
is gone and everything kept for it was taken. -/
theorem events_handled {state : Subscriber E}
    (reached : (system E config domains).Reachable state) :
    state.handled = state.receiver.taken.filterMap (accepts config domains) ∧
      state.handled.map Prod.fst = config.dispatched domains
        (state.receiver.taken.map (fun delivery => .message delivery.message)) ∧
      state.receiver.taken.Sublist (state.broadcast.sent.take state.receiver.next) ∧
      state.receiver.taken.length + state.receiver.skipped = state.receiver.next ∧
      (state.receiver.skipped = 0 →
        state.receiver.taken = state.broadcast.sent.take state.receiver.next) ∧
      (state.receiver.skipped = 0 ∨
        state.receiver.skipped + SIGNAL_BUFFER ≤ state.broadcast.sent.length) ∧
      state.panics ≤ state.handled.length ∧
      (state.stage = .exited →
        state.broadcast.closed = true ∧ state.receiver.next = state.broadcast.sent.length) ∧
      ∃ own, own.Sublist state.receiver.taken ∧ List.Forall₂ (fun given delivery =>
        config.decode delivery.message = some given.1 ∧ given.2 = delivery.context)
          state.handled own := by
  have sound := reachable_sound reached
  refine ⟨sound.handled, ?_, sound.lawful.taken, sound.lawful.counted, sound.lawful.taken_all,
    sound.lawful.skipped.symm, ?_, sound.exited, ?_⟩
  · rw [sound.handled]
    exact accepts_dispatched config domains state.receiver.taken
  · exact Nat.le_trans (Nat.le_add_right _ _) sound.panics
  · rw [sound.handled]
    exact accepts_contexts config domains state.receiver.taken

def cronDaily : SignalDelivery := .received cronDailySignal true

def cronWeekly : SignalDelivery :=
  .received (Message.signal cronDailyPath openhumanEvents.interface publishedMember
    (.array [.string "cron/weekly"])) true

/-- The subscriber is two deliveries too far behind, skips an event of another domain, and its
handler panics on the next one. -/
def daily : List SubscriberEvent :=
  List.replicate 2 (.send cronDaily) ++ .send cronWeekly ::
    List.replicate 255 (.send cronDaily) ++ [.hangUp, .poll, .poll, .poll, .finish true]

theorem daily_handled :
    let state := daily.foldl (next openhumanEvents (some ["cron/daily"]))
      (.spawned : Subscriber BareEvent)
    state.panics = 1 ∧ state.receiver.skipped = 2 ∧ state.receiver.next = 4 ∧
      state.handled.length = 1 ∧ state.receiver.taken.length = 2 ∧
      ∃ own, own.Sublist state.receiver.taken ∧ List.Forall₂ (fun given delivery =>
        openhumanEvents.decode delivery.message = some given.1 ∧ given.2 = delivery.context)
          state.handled own := by
  have reached : (system BareEvent openhumanEvents (some ["cron/daily"])).Reachable
      (daily.foldl (next openhumanEvents (some ["cron/daily"])) .spawned) :=
    ⟨_, daily, rfl, .of_foldl daily⟩
  obtain ⟨_, _, _, counted, _, _, _, _, contexts⟩ := events_handled reached
  have skipped : (daily.foldl (next openhumanEvents (some ["cron/daily"]))
      (.spawned : Subscriber BareEvent)).receiver.skipped = 2 := by decide +kernel
  have place : (daily.foldl (next openhumanEvents (some ["cron/daily"]))
      (.spawned : Subscriber BareEvent)).receiver.next = 4 := by decide +kernel
  exact ⟨by decide +kernel, skipped, place, by decide +kernel, by omega, contexts⟩

/-- A turn of the loop: a poll, and the end of the handler where one was called. -/
def turn (panicked : Bool) : List SubscriberEvent := [.poll, .finish panicked]

def turns (outcomes : List Bool) : List SubscriberEvent := outcomes.flatMap turn

theorem turns_cons (panicked : Bool) (rest : List Bool) (state : Subscriber E) :
    (turns (panicked :: rest)).foldl (next config domains) state =
      (turns rest).foldl (next config domains)
        ((turn panicked).foldl (next config domains) state) := by
  unfold turns
  rw [List.flatMap_cons, List.foldl_append]

/-- The subscriber waits again and has come further, or its connection is gone and nothing is
left. -/
theorem turn_advances (waiting : state.stage = .waiting)
    (bound : state.receiver.next ≤ state.broadcast.sent.length) (panicked : Bool) :
    let after := (turn panicked).foldl (next config domains) state
    after.broadcast = state.broadcast ∧
      (after.stage = .waiting ∧ (state.receiver.next < after.receiver.next ∨
          after.receiver.next = state.broadcast.sent.length) ∨
        after.stage = .exited ∧ state.broadcast.closed = true ∧
          after.receiver.next = state.broadcast.sent.length) := by
  have polled : next config domains state .poll = poll config domains state := by
    simp only [next, waiting]
  have step := Broadcast.recv_step SIGNAL_BUFFER state.broadcast state.receiver
  unfold turn
  rw [List.foldl_cons, List.foldl_cons, List.foldl_nil, polled]
  unfold EventSubscriber.poll
  generalize state.broadcast.recv SIGNAL_BUFFER state.receiver = result at step
  cases step with
  | lagged distance some =>
      simp only [next, waiting, true_and]
      exact .inl (.inl (Nat.lt_add_of_pos_right some))
  | value found =>
      dsimp only
      split
      · simp [next, waiting]
      · simp [next]
  | empty caught running =>
      simp only [next, waiting, true_and]
      exact .inl (.inr (Nat.le_antisymm bound caught))
  | closed caught ended =>
      simp only [next, true_and]
      exact .inr ⟨ended, Nat.le_antisymm bound caught⟩

theorem turns_exited (outcomes : List Bool) (exited : state.stage = .exited) :
    (turns outcomes).foldl (next config domains) state = state := by
  induction outcomes with
  | nil => rfl
  | cons panicked rest ih =>
      have still : (turn panicked).foldl (next config domains) state = state := by
        simp [turn, next, exited]
      rw [turns_cons, still, ih]

/-- As long as it was not aborted, a subscriber catches up with what was sent, whether its
handler panics or not each time it is called: after as many turns as it is behind it waits for
the next signal, or has ended with its connection. -/
theorem catches_up (outcomes : List Bool) {state : Subscriber E}
    (reached : (system E config domains).Reachable state) (waiting : state.stage = .waiting)
    (enough : state.broadcast.sent.length - state.receiver.next ≤ outcomes.length) :
    let later := (turns outcomes).foldl (next config domains) state
    later.broadcast = state.broadcast ∧
      later.receiver.next = state.broadcast.sent.length ∧
      (later.stage = .waiting ∨ later.stage = .exited ∧ state.broadcast.closed = true) := by
  have bound := (reachable_sound reached).lawful.bound
  induction outcomes generalizing state with
  | nil =>
      rw [List.length_nil] at enough
      exact ⟨rfl, Nat.le_antisymm bound (Nat.sub_eq_zero_iff_le.mp (Nat.le_zero.mp enough)),
        .inl waiting⟩
  | cons panicked rest ih =>
      have advances := @turn_advances E _ config domains state waiting bound panicked
      have further : (system E config domains).Reachable
          ((turn panicked).foldl (next config domains) state) := by
        obtain ⟨first, before, initial, run⟩ := reached
        exact ⟨first, before ++ turn panicked, initial,
          run.append (System.Run.of_foldl (turn panicked))⟩
      rw [turns_cons]
      generalize (turn panicked).foldl (next config domains) state = middle
        at advances further ⊢
      obtain ⟨same, ⟨idle, ahead⟩ | ⟨exited, gone, caught⟩⟩ := advances
      · have closer : middle.broadcast.sent.length - middle.receiver.next ≤ rest.length := by
          rw [List.length_cons] at enough
          rw [same]
          omega
        obtain ⟨kept, caught, ended⟩ :=
          ih further idle closer (reachable_sound further).lawful.bound
        rw [same] at kept caught ended
        exact ⟨kept, caught, ended⟩
      · rw [turns_exited rest exited]
        exact ⟨same, caught, .inr ⟨exited, gone⟩⟩

theorem daily_catches_up :
    let later := (turns [true, false, true]).foldl (next openhumanEvents none)
      ([.send cronDaily, .send cronDaily, .hangUp].foldl (next openhumanEvents none)
        (.spawned : Subscriber BareEvent))
    later.receiver.next = 2 ∧ later.panics = 1 ∧ later.stage = .exited := by
  have reached : (system BareEvent openhumanEvents none).Reachable
      ([.send cronDaily, .send cronDaily, .hangUp].foldl (next openhumanEvents none) .spawned) :=
    ⟨_, [.send cronDaily, .send cronDaily, .hangUp], rfl, .of_foldl _⟩
  have caught := catches_up [true, false, true] reached rfl (by decide)
  exact ⟨caught.2.1, by rfl, by rfl⟩

end EventSubscriber

end TinyBus
