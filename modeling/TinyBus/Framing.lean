/-
The frames of the Unix transport: four bytes of length, the most significant
first, and then so many bytes of payload.  A reader takes one frame after
another, however the bytes arrive, until the stream ends or is found broken.

How a payload is written and read as JSON is a parameter.
-/

import Mathlib.Algebra.Group.Nat.Defs
import TinyBus.Message
import TinyBus.Library.Arrivals

namespace TinyBus

abbrev Bytes := List UInt8

def MAX_FRAME_LEN : Nat := 16 * 1024 * 1024

def LENGTH_PREFIX_LEN : Nat := 4

namespace Frame

def toBeBytes (length : Nat) : Bytes :=
  [UInt8.ofNat (length / 2 ^ 24), UInt8.ofNat (length / 2 ^ 16),
    UInt8.ofNat (length / 2 ^ 8), UInt8.ofNat length]

def fromBeBytes (lead : Bytes) : Nat :=
  lead.foldl (fun length byte => length * 2 ^ 8 + byte.toNat) 0

def prefixed (payload : Bytes) : Bytes :=
  toBeBytes payload.length ++ payload

def frame (payload : Bytes) : Except Error Bytes :=
  if MAX_FRAME_LEN < payload.length then
    .error (.protocol ("frame of " ++ toString payload.length ++ " bytes exceeds the " ++
      toString MAX_FRAME_LEN ++ "-byte cap"))
  else .ok (prefixed payload)

/-- `toVec` writes a message as JSON. -/
def encode (toVec : Message → Except String Bytes) (message : Message) :
    Except Error Bytes :=
  match toVec message with
  | .error detail => .error (.json detail)
  | .ok payload => frame payload

def decodeLength (lead : Bytes) : Except Error Nat :=
  let length := fromBeBytes lead
  if MAX_FRAME_LEN < length then
    .error (.protocol ("peer announced a " ++ toString length ++ "-byte frame, over the " ++
      toString MAX_FRAME_LEN ++ "-byte cap"))
  else .ok length

/-- `fromSlice` reads a message from JSON. -/
def decode (fromSlice : Bytes → Except String Message) (payload : Bytes) :
    Except Error Message :=
  (fromSlice payload).mapError Error.json

variable (fromSlice : Bytes → Except String Message)

/-- Read one frame.  The stream may end before a frame, which is no error. -/
def recv (arrivals : List Bytes) : Except Error (Option Message) × List Bytes :=
  match Arrivals.readExact LENGTH_PREFIX_LEN arrivals with
  | none => (.ok none, [])
  | some (lead, rest) =>
      match decodeLength lead with
      | .error refusal => (.error refusal, rest)
      | .ok length =>
          match Arrivals.readExact length rest with
          | none => (.error (.protocol "peer disappeared mid-frame"), [])
          | some (payload, left) => ((decode fromSlice payload).map some, left)

inductive Ending where
  | clean
  | failed (error : Error)

inductive Receives : List Bytes → List Message → Ending → Prop
  | clean {arrivals rest : List Bytes}
      (ended : recv fromSlice arrivals = (.ok none, rest)) :
      Receives arrivals [] .clean
  | failed {arrivals rest : List Bytes} {error : Error}
      (refused : recv fromSlice arrivals = (.error error, rest)) :
      Receives arrivals [] (.failed error)
  | next {arrivals rest : List Bytes} {message : Message} {messages : List Message}
      {ending : Ending} (received : recv fromSlice arrivals = (.ok (some message), rest))
      (others : Receives rest messages ending) :
      Receives arrivals (message :: messages) ending

inductive Frames : List Message → Bytes → Prop
  | nil : Frames [] []
  | cons {message : Message} {messages : List Message} {payload rest : Bytes}
      (fits : payload.length ≤ MAX_FRAME_LEN)
      (decoded : decode fromSlice payload = .ok message) (others : Frames messages rest) :
      Frames (message :: messages) (prefixed payload ++ rest)

def StartsFrame (bytes : Bytes) : Prop :=
  ∃ payload rest message, bytes = prefixed payload ++ rest ∧
    payload.length ≤ MAX_FRAME_LEN ∧ decode fromSlice payload = .ok message

/-- Reading gives exactly the messages whose frames the stream begins with, and a
clean end exactly where nothing follows them. -/
def Faithful (arrivals : List Bytes) : Prop :=
  ∃ messages ending framed tail, Receives fromSlice arrivals messages ending ∧
    arrivals.flatten = framed ++ tail ∧ Frames fromSlice messages framed ∧
    ¬ StartsFrame fromSlice tail ∧ (ending = .clean ↔ tail = [])

/-- After whole frames, the stream ends one to three bytes into a length. -/
def EndsInPrefix (bytes : Bytes) : Prop :=
  ∃ messages framed tail, bytes = framed ++ tail ∧ Frames fromSlice messages framed ∧
    0 < tail.length ∧ tail.length < LENGTH_PREFIX_LEN

theorem toBeBytes_length (length : Nat) :
    (toBeBytes length).length = LENGTH_PREFIX_LEN := rfl

theorem fromBeBytes_toBeBytes {length : Nat} (fits : length < 2 ^ 32) :
    fromBeBytes (toBeBytes length) = length := by
  simp only [fromBeBytes, toBeBytes, List.foldl_cons, List.foldl_nil, UInt8.toNat_ofNat']
  omega

theorem frame_ok {payload bytes : Bytes} (framed : frame payload = .ok bytes) :
    payload.length ≤ MAX_FRAME_LEN ∧ bytes = prefixed payload := by
  unfold frame at framed
  split at framed
  · cases framed
  · cases framed
    exact ⟨by omega, rfl⟩

theorem toBeBytes_fromBeBytes {lead : Bytes} (four : lead.length = LENGTH_PREFIX_LEN) :
    toBeBytes (fromBeBytes lead) = lead := by
  match lead, four with
  | [first, second, third, fourth], _ =>
      have boundFirst := first.toNat_lt
      have boundSecond := second.toNat_lt
      have boundThird := third.toNat_lt
      have boundFourth := fourth.toNat_lt
      simp only [fromBeBytes, toBeBytes, List.foldl_cons, List.foldl_nil, List.cons.injEq,
        and_true]
      refine ⟨?_, ?_, ?_, ?_⟩
      all_goals
        rw [← UInt8.toNat_inj, UInt8.toNat_ofNat']
        omega

theorem small_of_fits {length : Nat} (fits : length ≤ MAX_FRAME_LEN) :
    length < 2 ^ 32 := by
  unfold MAX_FRAME_LEN at fits
  omega

theorem prefixed_inj {left right early late : Bytes}
    (fits : left.length ≤ MAX_FRAME_LEN) (fits' : right.length ≤ MAX_FRAME_LEN)
    (same : prefixed left ++ early = prefixed right ++ late) :
    left = right ∧ early = late := by
  unfold prefixed at same
  rw [List.append_assoc, List.append_assoc] at same
  obtain ⟨leads, rest⟩ := List.append_inj same rfl
  have lengths : left.length = right.length := by
    have read := congrArg fromBeBytes leads
    rw [fromBeBytes_toBeBytes (small_of_fits fits),
      fromBeBytes_toBeBytes (small_of_fits fits')] at read
    exact read
  exact List.append_inj rest lengths

theorem prefixed_length (payload : Bytes) :
    (prefixed payload).length = LENGTH_PREFIX_LEN + payload.length := by
  unfold prefixed
  rw [List.length_append, toBeBytes_length]

/-- The inversion of a read: the stream begins with a frame, ends before the length
is whole, or is broken. -/
inductive Received (arrivals : List Bytes) :
    Except Error (Option Message) × List Bytes → Prop
  | framed {payload : Bytes} {left : List Bytes} (fits : payload.length ≤ MAX_FRAME_LEN)
      (content : arrivals.flatten = prefixed payload ++ left.flatten) :
      Received arrivals ((decode fromSlice payload).map some, left)
  | ended (short : arrivals.flatten.length < LENGTH_PREFIX_LEN) :
      Received arrivals (.ok none, [])
  | broken {error : Error} {left : List Bytes}
      (whole : LENGTH_PREFIX_LEN ≤ arrivals.flatten.length)
      (unframed : ∀ payload rest, arrivals.flatten = prefixed payload ++ rest →
        MAX_FRAME_LEN < payload.length) :
      Received arrivals (.error error, left)

theorem recv_received (arrivals : List Bytes) :
    Received fromSlice arrivals (recv fromSlice arrivals) := by
  unfold recv
  cases opening : Arrivals.readExact LENGTH_PREFIX_LEN arrivals with
  | none => exact .ended (Arrivals.readExact_none_iff.mp opening)
  | some read =>
      obtain ⟨lead, rest⟩ := read
      obtain ⟨content, four⟩ := Arrivals.readExact_some opening
      have whole : LENGTH_PREFIX_LEN ≤ arrivals.flatten.length := by
        rw [content, List.length_append]
        omega
      -- A frame at the start has the length that was read.
      have announced : ∀ payload tail, arrivals.flatten = prefixed payload ++ tail →
          payload.length ≤ MAX_FRAME_LEN →
            fromBeBytes lead = payload.length ∧ rest.flatten = payload ++ tail := by
        intro payload tail starts fits
        rw [content, prefixed, List.append_assoc] at starts
        obtain ⟨leads, others⟩ := List.append_inj starts four
        rw [leads]
        exact ⟨fromBeBytes_toBeBytes (small_of_fits fits), others⟩
      dsimp only
      unfold decodeLength
      dsimp only
      by_cases large : MAX_FRAME_LEN < fromBeBytes lead
      · rw [if_pos large]
        apply Received.broken whole
        intro payload tail starts
        by_contra small
        obtain ⟨length, _⟩ := announced payload tail starts (Nat.le_of_not_lt small)
        omega
      · rw [if_neg large]
        dsimp only
        cases body : Arrivals.readExact (fromBeBytes lead) rest with
        | none =>
            have few := Arrivals.readExact_none_iff.mp body
            apply Received.broken whole
            intro payload tail starts
            by_contra small
            obtain ⟨length, others⟩ := announced payload tail starts (Nat.le_of_not_lt small)
            rw [others, List.length_append] at few
            omega
        | some found =>
            obtain ⟨payload, left⟩ := found
            obtain ⟨payloadContent, length⟩ := Arrivals.readExact_some body
            have fits : payload.length ≤ MAX_FRAME_LEN := by
              omega
            apply Received.framed fits
            rw [content, payloadContent, prefixed, length, toBeBytes_fromBeBytes four,
              List.append_assoc]

theorem encode_frames {toVec : Message → Except String Bytes} {message : Message}
    {messages : List Message} {bytes rest : Bytes}
    (decodes : ∀ payload, toVec message = .ok payload →
      decode fromSlice payload = .ok message)
    (encoded : encode toVec message = .ok bytes) (others : Frames fromSlice messages rest) :
    Frames fromSlice (message :: messages) (bytes ++ rest) := by
  unfold encode at encoded
  split at encoded
  · cases encoded
  · rename_i payload written
    obtain ⟨fits, rfl⟩ := frame_ok encoded
    exact .cons fits (decodes payload written) others

theorem not_startsFrame_of_short {bytes : Bytes}
    (short : bytes.length < LENGTH_PREFIX_LEN) : ¬ StartsFrame fromSlice bytes := by
  rintro ⟨payload, rest, _, rfl, _, _⟩
  rw [List.length_append, prefixed_length] at short
  omega

section

variable {fromSlice : Bytes → Except String Message}

theorem Frames.unique {messages messages' : List Message} {framed framed' tail tail' : Bytes}
    (frames : Frames fromSlice messages framed) (frames' : Frames fromSlice messages' framed')
    (stuck : ¬ StartsFrame fromSlice tail) (stuck' : ¬ StartsFrame fromSlice tail')
    (same : framed ++ tail = framed' ++ tail') :
    messages = messages' ∧ tail = tail' := by
  induction frames generalizing messages' framed' with
  | nil =>
      cases frames' with
      | nil => exact ⟨rfl, same⟩
      | cons fits decoded others =>
          rw [List.append_assoc] at same
          exact absurd ⟨_, _, _, same, fits, decoded⟩ stuck
  | cons fits decoded _ ih =>
      cases frames' with
      | nil =>
          rw [List.append_assoc] at same
          exact absurd ⟨_, _, _, same.symm, fits, decoded⟩ stuck'
      | cons fits' decoded' others' =>
          rw [List.append_assoc, List.append_assoc] at same
          obtain ⟨payloads, rests⟩ := prefixed_inj fits fits' same
          rw [payloads, decoded'] at decoded
          obtain ⟨rest, tails⟩ := ih others' rests
          exact ⟨by rw [Except.ok.inj decoded, rest], tails⟩

theorem Receives.unique {arrivals : List Bytes} {messages messages' : List Message}
    {ending ending' : Ending} (receives : Receives fromSlice arrivals messages ending)
    (receives' : Receives fromSlice arrivals messages' ending') :
    messages = messages' ∧ ending = ending' := by
  induction receives generalizing messages' with
  | clean ended =>
      cases receives' with
      | clean _ => exact ⟨rfl, rfl⟩
      | failed refused =>
          rw [ended] at refused
          cases refused
      | next received _ =>
          rw [ended] at received
          cases received
  | failed refused =>
      cases receives' with
      | clean ended =>
          rw [refused] at ended
          cases ended
      | failed refused' =>
          rw [refused] at refused'
          cases refused'
          exact ⟨rfl, rfl⟩
      | next received _ =>
          rw [refused] at received
          cases received
  | next received _ ih =>
      cases receives' with
      | clean ended =>
          rw [received] at ended
          cases ended
      | failed refused =>
          rw [received] at refused
          cases refused
      | next received' others' =>
          rw [received] at received'
          cases received'
          obtain ⟨rest, endings⟩ := ih others'
          exact ⟨by rw [rest], endings⟩

end

theorem receives_frames (arrivals : List Bytes) :
    ∃ messages ending framed tail, Receives fromSlice arrivals messages ending ∧
      arrivals.flatten = framed ++ tail ∧ Frames fromSlice messages framed ∧
      ¬ StartsFrame fromSlice tail ∧
      (ending = .clean ↔ tail.length < LENGTH_PREFIX_LEN) := by
  induction measured : arrivals.flatten.length using Nat.strongRecOn
    generalizing arrivals with
  | ind size ih =>
      have received := recv_received fromSlice arrivals
      generalize read : recv fromSlice arrivals = outcome at received
      cases received with
      | ended short =>
          refine ⟨[], .clean, [], arrivals.flatten, .clean read, rfl, .nil,
            not_startsFrame_of_short fromSlice short, ?_⟩
          exact iff_of_true rfl short
      | broken whole unframed =>
          refine ⟨[], _, [], arrivals.flatten, .failed read, rfl, .nil, ?_, ?_⟩
          · rintro ⟨payload, rest, _, starts, fits, _⟩
            have large := unframed payload rest starts
            omega
          · apply iff_of_false
            · intro impossible
              cases impossible
            · omega
      | @framed payload left fits content =>
          cases decoded : decode fromSlice payload with
          | error refusal =>
              rw [decoded] at read
              refine ⟨[], _, [], arrivals.flatten, .failed read, rfl, .nil, ?_, ?_⟩
              · rintro ⟨other, rest, message, starts, fits', decoded'⟩
                rw [content] at starts
                obtain ⟨rfl, _⟩ := prefixed_inj fits fits' starts
                rw [decoded] at decoded'
                cases decoded'
              · apply iff_of_false
                · intro impossible
                  cases impossible
                · rw [content, List.length_append, prefixed_length]
                  omega
          | ok message =>
              rw [decoded] at read
              have smaller : left.flatten.length < size := by
                rw [← measured, content, List.length_append, prefixed_length]
                unfold LENGTH_PREFIX_LEN
                omega
              obtain ⟨messages, ending, framed, tail, receives, split, frames, stuck,
                ends⟩ := ih _ smaller left rfl
              refine ⟨message :: messages, ending, prefixed payload ++ framed, tail,
                .next read receives, ?_, .cons fits decoded frames, stuck, ends⟩
              rw [content, split, List.append_assoc]

theorem unfaithful_of_endsInPrefix {arrivals : List Bytes}
    (inside : EndsInPrefix fromSlice arrivals.flatten) : ¬ Faithful fromSlice arrivals := by
  obtain ⟨messages, ending, framed, tail, receives, split, frames, stuck, ends⟩ :=
    receives_frames fromSlice arrivals
  obtain ⟨_, framed'', tail'', split'', frames'', nonempty, short⟩ := inside
  rintro ⟨_, ending', framed', tail', receives', split', frames', stuck', clean⟩
  have stuck'' := not_startsFrame_of_short fromSlice short
  obtain ⟨_, same⟩ := frames.unique frames'' stuck stuck'' (split.symm.trans split'')
  obtain ⟨_, same'⟩ := frames'.unique frames'' stuck' stuck'' (split'.symm.trans split'')
  have finished : ending' = .clean := by
    rw [← (receives.unique receives').2, ends, same]
    exact short
  rw [← same', clean.mp finished] at nonempty
  exact absurd nonempty (Nat.lt_irrefl 0)

/-- Reading is faithful to exactly the streams that do not end inside a length. -/
theorem faithful_iff (arrivals : List Bytes) :
    Faithful fromSlice arrivals ↔ ¬ EndsInPrefix fromSlice arrivals.flatten := by
  constructor
  · intro faithful inside
    exact unfaithful_of_endsInPrefix fromSlice inside faithful
  · intro apart
    obtain ⟨messages, ending, framed, tail, receives, split, frames, stuck, ends⟩ :=
      receives_frames fromSlice arrivals
    refine ⟨messages, ending, framed, tail, receives, split, frames, stuck, ?_⟩
    constructor
    · intro finished
      by_contra more
      exact apart ⟨messages, framed, tail, split, frames,
        List.length_pos_iff.mpr more, ends.mp finished⟩
    · intro nothing
      rw [ends, nothing]
      decide

/-- A stream that ends after the first byte of a length ends cleanly. -/
theorem partialLength_unfaithful :
    (∀ fromSlice, recv fromSlice [[0]] = (.ok none, [])) ∧
      ∀ fromSlice, ¬ Faithful fromSlice [[0]] := by
  constructor
  · intro fromSlice
    rfl
  · intro fromSlice
    exact unfaithful_of_endsInPrefix fromSlice
      ⟨[], [], [0], rfl, .nil, by decide, by decide⟩

end Frame

end TinyBus
