import TinyBus.Library.Transition

/-!
A broadcast that keeps a bounded number of the latest values, as one of its receivers sees it.

The receiver takes the values one after another.  When it falls further behind than the
values that are kept, it is told how many it missed and goes on with the oldest that is
left.  What is sent is counted from when the receiver was made.
-/

universe u

structure Broadcast (Value : Type u) where
  sent : List Value
  closed : Bool

namespace Broadcast

variable {Value : Type u}

def empty : Broadcast Value := { sent := [], closed := false }

/-- A broadcast that was closed has nobody left who sends. -/
def send (broadcast : Broadcast Value) (value : Value) : Broadcast Value :=
  if broadcast.closed then broadcast else { broadcast with sent := broadcast.sent ++ [value] }

def close (broadcast : Broadcast Value) : Broadcast Value := { broadcast with closed := true }

inductive Received (Value : Type u) where
  | value (value : Value)
  | lagged (skipped : Nat)
  | empty
  | closed

/-- A receiver with what it took so far and how many values it missed. -/
structure Receiver (Value : Type u) where
  next : Nat
  taken : List Value
  skipped : Nat

def Receiver.new : Receiver Value := { next := 0, taken := [], skipped := 0 }

def recv (capacity : Nat) (broadcast : Broadcast Value) (receiver : Receiver Value) :
    Received Value × Receiver Value :=
  if receiver.next + capacity < broadcast.sent.length then
    let oldest := broadcast.sent.length - capacity
    (.lagged (oldest - receiver.next),
      { receiver with
        next := oldest
        skipped := receiver.skipped + (oldest - receiver.next) })
  else
    match broadcast.sent[receiver.next]? with
    | some value =>
        (.value value,
          { receiver with next := receiver.next + 1, taken := receiver.taken ++ [value] })
    | none => (if broadcast.closed then .closed else .empty, receiver)

/-- The receiver took values that were sent, in the order they were sent and each once, and
knows how many it did not. -/
structure Lawful (capacity : Nat) (broadcast : Broadcast Value) (receiver : Receiver Value) :
    Prop where
  bound : receiver.next ≤ broadcast.sent.length
  taken : receiver.taken.Sublist (broadcast.sent.take receiver.next)
  counted : receiver.taken.length + receiver.skipped = receiver.next
  skipped : receiver.skipped + capacity ≤ broadcast.sent.length ∨ receiver.skipped = 0

variable {capacity : Nat} {broadcast : Broadcast Value} {receiver : Receiver Value}

theorem lawful_new : Lawful capacity (empty : Broadcast Value) .new := by
  constructor <;> simp [empty, Receiver.new]

theorem Lawful.send (lawful : Lawful capacity broadcast receiver) (value : Value) :
    Lawful capacity (broadcast.send value) receiver := by
  unfold Broadcast.send
  split
  · exact lawful
  · have bound := lawful.bound
    constructor
    · simp only [List.length_append, List.length_singleton]
      omega
    · simp only [List.take_append_of_le_length bound]
      exact lawful.taken
    · exact lawful.counted
    · have skipped := lawful.skipped
      simp only [List.length_append, List.length_singleton]
      omega

theorem Lawful.close (lawful : Lawful capacity broadcast receiver) :
    Lawful capacity broadcast.close receiver :=
  ⟨lawful.bound, lawful.taken, lawful.counted, lawful.skipped⟩

/-- What a receiver may be told. -/
inductive Step (capacity : Nat) (broadcast : Broadcast Value) (receiver : Receiver Value) :
    Received Value × Receiver Value → Prop
  | lagged {missed : Nat} (behind : receiver.next + missed + capacity = broadcast.sent.length)
      (some : 0 < missed) :
      Step capacity broadcast receiver
        (.lagged missed,
          { receiver with
            next := receiver.next + missed, skipped := receiver.skipped + missed })
  | value {value : Value} (found : broadcast.sent[receiver.next]? = some value) :
      Step capacity broadcast receiver
        (.value value,
          { receiver with next := receiver.next + 1, taken := receiver.taken ++ [value] })
  | empty (caught : broadcast.sent.length ≤ receiver.next) (running : broadcast.closed = false) :
      Step capacity broadcast receiver (.empty, receiver)
  | closed (caught : broadcast.sent.length ≤ receiver.next) (ended : broadcast.closed = true) :
      Step capacity broadcast receiver (.closed, receiver)

theorem recv_step (capacity : Nat) (broadcast : Broadcast Value) (receiver : Receiver Value) :
    Step capacity broadcast receiver (recv capacity broadcast receiver) := by
  unfold recv
  split
  · rename_i behind
    have ahead : broadcast.sent.length - capacity =
        receiver.next + (broadcast.sent.length - capacity - receiver.next) := by
      omega
    dsimp only
    rw [ahead, Nat.add_sub_cancel_left]
    exact .lagged (by omega) (by omega)
  · split
    · rename_i value found
      exact .value found
    · rename_i missing
      have caught := List.getElem?_eq_none_iff.mp missing
      split
      · rename_i ended
        exact .closed caught ended
      · rename_i running
        exact .empty caught (by simpa using running)

theorem Lawful.recv (lawful : Lawful capacity broadcast receiver) :
    Lawful capacity broadcast (recv capacity broadcast receiver).2 := by
  have step := recv_step capacity broadcast receiver
  obtain ⟨bound, taken, counted, skipped⟩ := lawful
  generalize Broadcast.recv capacity broadcast receiver = result at step
  cases step with
  | @lagged missed behind some =>
      constructor
      · dsimp only
        omega
      · apply taken.trans
        exact (List.take_prefix_take_left (Nat.le_add_right _ _)).sublist
      · dsimp only
        omega
      · dsimp only
        omega
  | @value value found =>
      obtain ⟨within, same⟩ := List.getElem?_eq_some_iff.mp found
      constructor
      · exact within
      · rw [List.take_succ_eq_append_getElem within, same]
        exact taken.append (.refl _)
      · simp only [List.length_append, List.length_singleton]
        omega
      · exact skipped
  | empty => exact ⟨bound, taken, counted, skipped⟩
  | closed => exact ⟨bound, taken, counted, skipped⟩

theorem Lawful.taken_all (lawful : Lawful capacity broadcast receiver)
    (complete : receiver.skipped = 0) : receiver.taken = broadcast.sent.take receiver.next := by
  apply lawful.taken.eq_of_length
  have counted := lawful.counted
  have bound := lawful.bound
  rw [List.length_take]
  omega

end Broadcast
