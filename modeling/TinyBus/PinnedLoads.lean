import TinyBus.MappedImages

/-
Pinned loads over whole histories.  An entry of the table tells which call
mapped the image first, so a proof that a later call reports is one about that
call.  The recorded pin is compared as it is spelled and the file without
regard to case: two histories that differ in the case of a pin agree as long
as every call spells its pin as the call did that mapped its image first.
-/

namespace TinyBus

open TransitionSystem

/-! ### Spellings -/

def SamePin : Option String → Option String → Prop
  | none, none => True
  | some left, some right => eqIgnoreAsciiCase left right = true
  | _, _ => False

theorem SamePin.refl (pin : Option String) : SamePin pin pin := by
  cases pin with
  | none => exact trivial
  | some pin => exact eqIgnoreAsciiCase_refl pin

theorem SamePin.symm {left right : Option String} (same : SamePin left right) :
    SamePin right left := by
  cases left with
  | none =>
      cases right with
      | none => exact trivial
      | some right => exact same.elim
  | some left =>
      cases right with
      | none => exact same.elim
      | some right => exact eqIgnoreAsciiCase_symm same

namespace LibraryLoad

/-- The same call with its pin spelled in another case. -/
structure Respelled (call other : LibraryLoad) : Prop where
  pin : SamePin call.expectedLibrarySha256 other.expectedLibrarySha256
  rest : other = { call with expectedLibrarySha256 := other.expectedLibrarySha256 }

def contents (call : LibraryLoad) : List UInt8 :=
  match call.file with
  | .bytes contents => contents
  | _ => []

def maps (sha256 : Sha256) (handle : Nat) (call : LibraryLoad) : Bool :=
  match call.checkedSha256 sha256, call.opened with
  | .ok _, .ok opened => opened = handle
  | _, _ => false

def image (sha256 : Sha256) (call : LibraryLoad) : MappedImage :=
  ⟨fileHex sha256 call.contents, call.expectedLibrarySha256⟩

end LibraryLoad

def firstMapping (sha256 : Sha256) (calls : List LibraryLoad) (handle : Nat) :
    Option LibraryLoad :=
  calls.find? (LibraryLoad.maps sha256 handle)

/-! ### What is claimed of a call after a history -/

def ProvesImage (sha256 : Sha256) (calls : List LibraryLoad) (call : LibraryLoad)
    (result : Except Error LoadedArtifact) : Prop :=
  ∀ artifact digest, result = .ok artifact → artifact.librarySha256 = some digest →
    ∃ handle first bytes, call.opened = .ok handle ∧
      firstMapping sha256 (calls ++ [call]) handle = some first ∧
      first.expectedLibrarySha256 = some digest ∧ first.file = .bytes bytes ∧
      eqIgnoreAsciiCase (fileHex sha256 bytes) digest = true

/-- A pinned call does not get an image that was mapped without its pin or from
other bytes. -/
def RefusesOthers (sha256 : Sha256) (calls : List LibraryLoad) (call : LibraryLoad)
    (result : Except Error LoadedArtifact) : Prop :=
  ∀ pin handle first, call.expectedLibrarySha256 = some pin → call.opened = .ok handle →
    firstMapping sha256 calls handle = some first →
    ¬ SamePin first.expectedLibrarySha256 (some pin) ∨
      ¬ eqIgnoreAsciiCase (fileHex sha256 first.contents) pin = true →
    ∃ refusal, result = .error refusal

def SameOutcome : Except Error LoadedArtifact → Except Error LoadedArtifact → Prop
  | .error left, .error right => left = right
  | .ok left, .ok right =>
      left.descriptor = right.descriptor ∧ left.manifest = right.manifest ∧
        SamePin left.librarySha256 right.librarySha256
  | _, _ => False

variable (sha256 : Sha256) (host : HostBuild) (parse : List UInt8 → Option ModuleManifest)

/-- Two histories of calls that differ in the case of their pins alone. -/
def respelledLoads : System (MappedImages × MappedImages) (LibraryLoad × LibraryLoad) :=
  (System.ofFunction (· = (∅, ∅)) (fun images calls =>
    ((loadVerified sha256 host parse images.1 calls.1).2,
      (loadVerified sha256 host parse images.2 calls.2).2))).restrict
    (fun _ calls => calls.1.Respelled calls.2)

/-- The three parts of the claim, for the next calls of two such histories. -/
structure PinsHold (calls : List (LibraryLoad × LibraryLoad))
    (images : MappedImages × MappedImages) (next : LibraryLoad × LibraryLoad) : Prop where
  proves : ProvesImage sha256 (calls.map Prod.fst) next.1
    (loadVerified sha256 host parse images.1 next.1).1
  refuses : RefusesOthers sha256 (calls.map Prod.fst) next.1
    (loadVerified sha256 host parse images.1 next.1).1
  neutral : SameOutcome (loadVerified sha256 host parse images.1 next.1).1
    (loadVerified sha256 host parse images.2 next.2).1

def Spelled (images : MappedImages) (call : LibraryLoad) : Prop :=
  ∀ pin handle mapped trusted, call.expectedLibrarySha256 = some pin →
    call.maps sha256 handle = true → images.lookup handle = some mapped →
    mapped.trustedLibrarySha256 = some trusted →
    eqIgnoreAsciiCase pin trusted = true → pin = trusted

def BothSpelled (images : MappedImages × MappedImages) (calls : LibraryLoad × LibraryLoad) :
    Prop :=
  Spelled sha256 images.1 calls.1 ∧ Spelled sha256 images.2 calls.2

variable {sha256 host parse}

/-! ### One load -/

variable {call : LibraryLoad} {handle : Nat} {calls : List LibraryLoad}
  {images : MappedImages × MappedImages}

theorem checkedSha256_ok {actual : String} (checked : call.checkedSha256 sha256 = .ok actual) :
    call.file = .bytes call.contents ∧ actual = fileHex sha256 call.contents ∧
      ∀ pin, call.expectedLibrarySha256 = some pin →
        eqIgnoreAsciiCase (fileHex sha256 call.contents) pin = true := by
  unfold LibraryLoad.checkedSha256 at checked
  unfold LibraryLoad.contents
  cases file : call.file with
  | absent =>
      rw [file] at checked
      cases checked
  | unreadable =>
      rw [file] at checked
      cases checked
  | bytes contents =>
      rw [file] at checked
      cases pinned : call.expectedLibrarySha256 with
      | none =>
          rw [pinned] at checked
          cases checked
          exact ⟨rfl, rfl, fun pin absent => by cases absent⟩
      | some expected =>
          simp only [pinned] at checked
          split at checked
          · cases checked
          · split at checked
            · cases checked
            · rename_i matching
              cases checked
              refine ⟨rfl, rfl, ?_⟩
              intro pin same
              cases same
              simpa using matching

theorem recordMappedImage_new {images : MappedImages} (absent : images.lookup handle = none)
    (actual : String) (pin : Option String) :
    recordMappedImage images handle actual pin =
      (.ok pin, images.insert handle ⟨actual, pin⟩) := by
  unfold recordMappedImage
  rw [absent]

theorem recordMappedImage_mapped {images : MappedImages} {mapped : MappedImage}
    (present : images.lookup handle = some mapped) (actual : String) (pin : Option String) :
    (recordMappedImage images handle actual pin).2 = images := by
  unfold recordMappedImage
  rw [present]
  dsimp only
  split
  · rfl
  · split <;> rfl

theorem recordMappedImage_ok {images : MappedImages} {mapped : MappedImage}
    (present : images.lookup handle = some mapped) {actual : String} {pin proof : Option String}
    (recorded : (recordMappedImage images handle actual pin).1 = .ok proof) :
    proof = pin ∧ mapped.fileSha256 = actual ∧
      ∀ expected, pin = some expected → mapped.trustedLibrarySha256 = some expected := by
  unfold recordMappedImage at recorded
  rw [present] at recorded
  dsimp only at recorded
  split at recorded
  · cases recorded
  · rename_i same
    split at recorded
    · cases recorded
    · rename_i fits
      cases recorded
      refine ⟨rfl, not_not.mp same, ?_⟩
      intro expected pinned
      subst pinned
      simpa using fits

def LibraryLoad.conclude (host : HostBuild) (parse : List UInt8 → Option ModuleManifest)
    (call : LibraryLoad) : Except String (Option String) → Except Error LoadedArtifact
  | .error reason => .error (call.refused reason)
  | .ok librarySha256 => (call.exported host parse).map
      (fun (descriptor, manifest) => ⟨descriptor, manifest, librarySha256⟩)

theorem loadVerified_mapped {images : MappedImages} {actual : String}
    (checked : call.checkedSha256 sha256 = .ok actual) (opened : call.opened = .ok handle) :
    loadVerified sha256 host parse images call =
      (call.conclude host parse
          (recordMappedImage images handle actual call.expectedLibrarySha256).1,
        (recordMappedImage images handle actual call.expectedLibrarySha256).2) := by
  unfold loadVerified
  rw [checked, opened]
  dsimp only
  generalize recordMappedImage images handle actual call.expectedLibrarySha256 = answer
  obtain ⟨result, after⟩ := answer
  cases result <;> rfl

theorem loadVerified_unmapped (unmapped : ¬ ∃ handle, call.maps sha256 handle = true) :
    ∃ refusal, ∀ host parse images,
      loadVerified sha256 host parse images call = (.error refusal, images) := by
  unfold loadVerified
  unfold LibraryLoad.maps at unmapped
  cases checked : call.checkedSha256 sha256 with
  | error refusal => exact ⟨refusal, fun _ _ _ => rfl⟩
  | ok actual =>
      cases opened : call.opened with
      | error refusal => exact ⟨refusal, fun _ _ _ => rfl⟩
      | ok handle =>
          rw [checked, opened] at unmapped
          exact absurd ⟨handle, by simp⟩ unmapped

theorem maps_iff :
    call.maps sha256 handle = true ↔
      call.checkedSha256 sha256 = .ok (fileHex sha256 call.contents) ∧
        call.opened = .ok handle := by
  unfold LibraryLoad.maps
  cases checked : call.checkedSha256 sha256 with
  | error refusal => simp
  | ok actual =>
      rw [(checkedSha256_ok checked).2.1]
      cases opened : call.opened with
      | error refusal => simp
      | ok other => simp

theorem loadVerified_ok {images : MappedImages} {artifact : LoadedArtifact}
    (loaded : (loadVerified sha256 host parse images call).1 = .ok artifact) :
    ∃ handle, call.maps sha256 handle = true ∧
      (recordMappedImage images handle (fileHex sha256 call.contents)
        call.expectedLibrarySha256).1 = .ok artifact.librarySha256 := by
  by_cases mapped : ∃ handle, call.maps sha256 handle = true
  · obtain ⟨handle, mapped⟩ := mapped
    refine ⟨handle, mapped, ?_⟩
    obtain ⟨checked, opened⟩ := maps_iff.mp mapped
    rw [loadVerified_mapped checked opened] at loaded
    dsimp only at loaded
    generalize (recordMappedImage images handle (fileHex sha256 call.contents)
      call.expectedLibrarySha256).1 = answer at loaded
    cases answer with
    | error reason => cases loaded
    | ok proof =>
        unfold LibraryLoad.conclude at loaded
        cases exports : call.exported host parse with
        | error refusal =>
            rw [exports] at loaded
            cases loaded
        | ok found =>
            rw [exports] at loaded
            cases loaded
            rfl
  · obtain ⟨refusal, refused⟩ := loadVerified_unmapped mapped
    rw [refused host parse images] at loaded
    cases loaded

/-! ### The table tells the first call of each image -/

def Recorded (sha256 : Sha256) (calls : List LibraryLoad) (images : MappedImages) : Prop :=
  ∀ handle, images.lookup handle =
    (firstMapping sha256 calls handle).map (LibraryLoad.image sha256)

theorem firstMapping_snoc (calls : List LibraryLoad) (call : LibraryLoad) (handle : Nat) :
    firstMapping sha256 (calls ++ [call]) handle =
      (firstMapping sha256 calls handle).or
        (if call.maps sha256 handle then some call else none) := by
  unfold firstMapping
  rw [List.find?_append, List.find?_singleton]

theorem Recorded.load {images : MappedImages} (recorded : Recorded sha256 calls images)
    (call : LibraryLoad) :
    Recorded sha256 (calls ++ [call]) (loadVerified sha256 host parse images call).2 := by
  intro other
  rw [firstMapping_snoc]
  by_cases mapped : ∃ handle, call.maps sha256 handle = true
  · obtain ⟨handle, mapped⟩ := mapped
    obtain ⟨checked, opened⟩ := maps_iff.mp mapped
    have only : call.maps sha256 other = true → other = handle := by
      intro also
      have same := (maps_iff.mp also).2
      rw [opened] at same
      cases same
      rfl
    rw [loadVerified_mapped checked opened]
    dsimp only
    cases found : images.lookup handle with
    | none =>
        rw [recordMappedImage_new found]
        dsimp only
        by_cases same : other = handle
        · subst same
          have absent := recorded other
          rw [found] at absent
          rw [AList.lookup_insert, if_pos mapped, Option.map_eq_none_iff.mp absent.symm]
          rfl
        · have unmapped : ¬ call.maps sha256 other = true := fun also => same (only also)
          rw [AList.lookup_insert_ne same, if_neg unmapped, Option.or_none]
          exact recorded other
    | some held =>
        rw [recordMappedImage_mapped found, recorded other]
        by_cases same : other = handle
        · subst same
          rw [recorded other] at found
          obtain ⟨first, earlier, _⟩ := Option.map_eq_some_iff.mp found
          rw [earlier]
          rfl
        · have unmapped : ¬ call.maps sha256 other = true := fun also => same (only also)
          rw [if_neg unmapped, Option.or_none]
  · obtain ⟨refusal, refused⟩ := loadVerified_unmapped mapped
    have unmapped : ¬ call.maps sha256 other = true := fun mapping => mapped ⟨other, mapping⟩
    rw [refused host parse images, if_neg unmapped, Option.or_none]
    exact recorded other

/-! ### Proofs and refusals -/

theorem Recorded.proves {images : MappedImages} (recorded : Recorded sha256 calls images)
    (call : LibraryLoad) :
    ProvesImage sha256 calls call (loadVerified sha256 host parse images call).1 := by
  intro artifact digest loaded proof
  obtain ⟨handle, mapped, answered⟩ := loadVerified_ok loaded
  obtain ⟨checked, opened⟩ := maps_iff.mp mapped
  obtain ⟨file, _, pinned⟩ := checkedSha256_ok checked
  rw [proof] at answered
  cases found : images.lookup handle with
  | none =>
      rw [recordMappedImage_new found] at answered
      have own : call.expectedLibrarySha256 = some digest := Except.ok.inj answered
      have absent := recorded handle
      rw [found] at absent
      have first : firstMapping sha256 (calls ++ [call]) handle = some call := by
        rw [firstMapping_snoc, Option.map_eq_none_iff.mp absent.symm, if_pos mapped]
        rfl
      exact ⟨handle, call, call.contents, opened, first, own, file, pinned digest own⟩
  | some held =>
      obtain ⟨own, same, trusted⟩ := recordMappedImage_ok found answered
      rw [recorded handle] at found
      obtain ⟨first, earlier, image⟩ := Option.map_eq_some_iff.mp found
      subst image
      have stays : firstMapping sha256 (calls ++ [call]) handle = some first := by
        rw [firstMapping_snoc, earlier]
        rfl
      -- The first call hashed bytes: it got to the table.
      have mapping := maps_iff.mp (List.find?_some earlier)
      have bytes := (checkedSha256_ok mapping.1).1
      have firstPin : first.expectedLibrarySha256 = some digest := trusted digest own.symm
      exact ⟨handle, first, first.contents, opened, stays, firstPin, bytes,
        (checkedSha256_ok mapping.1).2.2 digest firstPin⟩

theorem Recorded.refuses {images : MappedImages} (recorded : Recorded sha256 calls images)
    (call : LibraryLoad) :
    RefusesOthers sha256 calls call (loadVerified sha256 host parse images call).1 := by
  intro pin handle first pinned opened earlier other
  cases result : (loadVerified sha256 host parse images call).1 with
  | error refusal => exact ⟨refusal, rfl⟩
  | ok artifact =>
      obtain ⟨opening, mapped, answered⟩ := loadVerified_ok result
      obtain ⟨checked, same⟩ := maps_iff.mp mapped
      rw [opened] at same
      cases same
      have found : images.lookup handle = some (first.image sha256) := by
        rw [recorded handle, earlier]
        rfl
      obtain ⟨_, bytes, trusted⟩ := recordMappedImage_ok found answered
      have firstPin : first.expectedLibrarySha256 = some pin := trusted pin pinned
      rcases other with otherPin | otherBytes
      · rw [firstPin] at otherPin
        exact absurd (SamePin.refl (some pin)) otherPin
      · have hashed : fileHex sha256 first.contents = fileHex sha256 call.contents := bytes
        rw [hashed] at otherBytes
        exact absurd ((checkedSha256_ok checked).2.2 pin pinned) otherBytes

/-! ### Respelled histories -/

def AlikeImage : Option MappedImage → Option MappedImage → Prop
  | none, none => True
  | some left, some right => left.fileSha256 = right.fileSha256 ∧
      SamePin left.trustedLibrarySha256 right.trustedLibrarySha256
  | _, _ => False

def Alike (images : MappedImages × MappedImages) : Prop :=
  ∀ handle, AlikeImage (images.1.lookup handle) (images.2.lookup handle)

theorem Alike.insert (alike : Alike images) (handle : Nat) (actual : String)
    {left right : Option String} (same : SamePin left right) :
    Alike (images.1.insert handle ⟨actual, left⟩, images.2.insert handle ⟨actual, right⟩) := by
  intro other
  by_cases equal : other = handle
  · subst equal
    rw [AList.lookup_insert, AList.lookup_insert]
    exact ⟨rfl, same⟩
  · rw [AList.lookup_insert_ne equal, AList.lookup_insert_ne equal]
    exact alike other

theorem checkedSha256_respelled (sha256 : Sha256) {other : LibraryLoad}
    (respelled : call.Respelled other) :
    other.checkedSha256 sha256 = call.checkedSha256 sha256 := by
  obtain ⟨same, rest⟩ := respelled
  rw [rest]
  unfold LibraryLoad.checkedSha256 LibraryLoad.refused
  cases call.file with
  | absent => rfl
  | unreadable => rfl
  | bytes contents =>
      cases left : call.expectedLibrarySha256 with
      | none =>
          cases right : other.expectedLibrarySha256 with
          | none => rfl
          | some pin =>
              rw [left, right] at same
              exact same.elim
      | some pin =>
          cases right : other.expectedLibrarySha256 with
          | none =>
              rw [left, right] at same
              exact same.elim
          | some spelled =>
              rw [left, right] at same
              have hex := isHexSha256_congr same
              have fits := eqIgnoreAsciiCase_congr
                (eqIgnoreAsciiCase_refl (fileHex sha256 contents)) same
              dsimp only
              rw [hex, fits]

def SameAnswer : Except String (Option String) → Except String (Option String) → Prop
  | .error left, .error right => left = right
  | .ok left, .ok right => SamePin left right
  | _, _ => False

theorem conclude_respelled {other : LibraryLoad} (respelled : call.Respelled other)
    {left right : Except String (Option String)} (same : SameAnswer left right) :
    SameOutcome (call.conclude host parse left) (other.conclude host parse right) := by
  have exports : other.exported host parse = call.exported host parse := by
    rw [respelled.rest]
    rfl
  have path : other.path = call.path := by rw [respelled.rest]
  unfold LibraryLoad.conclude
  cases left with
  | error reason =>
      cases right with
      | error other =>
          have equal : reason = other := same
          unfold LibraryLoad.refused
          rw [equal, path]
          rfl
      | ok proof => exact same.elim
  | ok proof =>
      cases right with
      | error reason => exact same.elim
      | ok other =>
          rw [exports]
          cases call.exported host parse with
          | error refusal => exact rfl
          | ok found => exact ⟨rfl, rfl, same⟩

theorem fits_respelled {left right : MappedImage} (alike : AlikeImage (some left) (some right))
    {pin other : String} (same : eqIgnoreAsciiCase pin other = true)
    (spelled : ∀ trusted, right.trustedLibrarySha256 = some trusted →
      eqIgnoreAsciiCase other trusted = true → other = trusted)
    (fits : left.trustedLibrarySha256 = some pin) : right.trustedLibrarySha256 = some other := by
  have pins := alike.2
  rw [fits] at pins
  cases trusted : right.trustedLibrarySha256 with
  | none =>
      rw [trusted] at pins
      exact pins.elim
  | some text =>
      rw [trusted] at pins
      rw [spelled text trusted (eqIgnoreAsciiCase_trans (eqIgnoreAsciiCase_symm same) pins)]

theorem AlikeImage.symm {left right : Option MappedImage} (alike : AlikeImage left right) :
    AlikeImage right left := by
  cases left with
  | none =>
      cases right with
      | none => exact trivial
      | some right => exact alike.elim
  | some left =>
      cases right with
      | none => exact alike.elim
      | some right => exact ⟨alike.1.symm, alike.2.symm⟩

theorem answer_respelled (alike : Alike images) (actual : String) {pin other : Option String}
    (same : SamePin pin other) (left : ∀ expected mapped trusted, pin = some expected →
      images.1.lookup handle = some mapped → mapped.trustedLibrarySha256 = some trusted →
      eqIgnoreAsciiCase expected trusted = true → expected = trusted)
    (right : ∀ expected mapped trusted, other = some expected →
      images.2.lookup handle = some mapped → mapped.trustedLibrarySha256 = some trusted →
      eqIgnoreAsciiCase expected trusted = true → expected = trusted) :
    SameAnswer (recordMappedImage images.1 handle actual pin).1
      (recordMappedImage images.2 handle actual other).1 := by
  have here := alike handle
  unfold recordMappedImage
  cases first : images.1.lookup handle with
  | none =>
      cases second : images.2.lookup handle with
      | none => exact same
      | some held =>
          rw [first, second] at here
          exact here.elim
  | some held =>
      cases second : images.2.lookup handle with
      | none =>
          rw [first, second] at here
          exact here.elim
      | some found =>
          rw [first, second] at here
          have bytes := here.1
          dsimp only
          rw [← bytes]
          by_cases equal : held.fileSha256 = actual
          · rw [if_neg (not_not.mpr equal), if_neg (not_not.mpr equal)]
            cases pin with
            | none =>
                cases other with
                | none => exact trivial
                | some spelled => exact same.elim
            | some expected =>
                cases other with
                | none => exact same.elim
                | some spelled =>
                    have fits : held.trustedLibrarySha256 = some expected ↔
                        found.trustedLibrarySha256 = some spelled := by
                      constructor
                      · exact fits_respelled here same
                          (fun trusted => right spelled found trusted rfl second)
                      · exact fits_respelled here.symm (eqIgnoreAsciiCase_symm same)
                          (fun trusted => left expected held trusted rfl first)
                    rw [Option.any_some, Option.any_some]
                    by_cases fit : held.trustedLibrarySha256 = some expected
                    · rw [if_neg (by simpa using fit), if_neg (by simpa using fits.mp fit)]
                      exact same
                    · have unfit : ¬ found.trustedLibrarySha256 = some spelled :=
                        fun other => fit (fits.mpr other)
                      rw [if_pos (by simpa using fit), if_pos (by simpa using unfit)]
                      exact rfl
          · rw [if_pos equal, if_pos equal]
            exact rfl

theorem Alike.load (alike : Alike images) {calls : LibraryLoad × LibraryLoad}
    (respelled : calls.1.Respelled calls.2) (spelled : BothSpelled sha256 images calls) :
    SameOutcome (loadVerified sha256 host parse images.1 calls.1).1
        (loadVerified sha256 host parse images.2 calls.2).1 ∧
      Alike ((loadVerified sha256 host parse images.1 calls.1).2,
        (loadVerified sha256 host parse images.2 calls.2).2) := by
  have checks := checkedSha256_respelled sha256 respelled
  have handles : calls.2.opened = calls.1.opened := by rw [respelled.rest]
  by_cases mapped : ∃ handle, calls.1.maps sha256 handle = true
  · obtain ⟨handle, mapped⟩ := mapped
    obtain ⟨checked, opened⟩ := maps_iff.mp mapped
    have otherChecked := checks.trans checked
    have otherOpened := handles.trans opened
    have otherMapped : calls.2.maps sha256 handle = true := by
      unfold LibraryLoad.maps at mapped ⊢
      rwa [checks, handles]
    rw [loadVerified_mapped checked opened, loadVerified_mapped otherChecked otherOpened]
    constructor
    · refine conclude_respelled respelled (answer_respelled alike _ respelled.pin ?_ ?_)
      · intro expected held trusted pinned found recorded
        exact spelled.1 expected handle held trusted pinned mapped found recorded
      · intro expected held trusted pinned found recorded
        exact spelled.2 expected handle held trusted pinned otherMapped found recorded
    · have here := alike handle
      cases first : images.1.lookup handle with
      | none =>
          cases second : images.2.lookup handle with
          | none =>
              rw [recordMappedImage_new first, recordMappedImage_new second]
              exact alike.insert handle _ respelled.pin
          | some held =>
              rw [first, second] at here
              exact here.elim
      | some held =>
          cases second : images.2.lookup handle with
          | none =>
              rw [first, second] at here
              exact here.elim
          | some found =>
              rw [recordMappedImage_mapped first, recordMappedImage_mapped second]
              exact alike
  · unfold LibraryLoad.maps at mapped
    unfold loadVerified
    rw [checks, handles]
    cases checked : calls.1.checkedSha256 sha256 with
    | error refusal => exact ⟨rfl, alike⟩
    | ok actual =>
        cases opened : calls.1.opened with
        | error refusal => exact ⟨rfl, alike⟩
        | ok handle =>
            rw [checked, opened] at mapped
            exact absurd ⟨handle, by simp⟩ mapped

theorem respelled_run {calls : List (LibraryLoad × LibraryLoad)}
    (run : ((respelledLoads sha256 host parse).restrict (BothSpelled sha256)).Run (∅, ∅) calls images)
    :
    Recorded sha256 (calls.map Prod.fst) images.1 ∧ Alike images := by
  induction run with
  | nil =>
      constructor
      · intro handle
        rfl
      · intro handle
        exact trivial
  | @snoc middle last events event earlier stepped ih =>
      obtain ⟨recorded, alike⟩ := ih
      obtain ⟨spelled, respelled, moved⟩ := stepped
      subst moved
      rw [List.map_append]
      exact ⟨recorded.load event.1, (alike.load respelled spelled).2⟩

/-- In every two histories that differ in the case of their pins, and in which
each call spells its pin as the first call of its image did, the pins hold. -/
theorem spelled_pins_hold {calls : List (LibraryLoad × LibraryLoad)}
    {images : MappedImages × MappedImages}
    (run : ((respelledLoads sha256 host parse).restrict (BothSpelled sha256)).Run (∅, ∅) calls images)
    {next : LibraryLoad × LibraryLoad} (respelled : next.1.Respelled next.2)
    (spelled : BothSpelled sha256 images next) : PinsHold sha256 host parse calls images next := by
  obtain ⟨recorded, alike⟩ := respelled_run run
  exact { proves := recorded.proves next.1
          refuses := recorded.refuses next.1
          neutral := (alike.load respelled spelled).1 }

/-! ### Two spellings of one pin -/

theorem checkedSha256_pinned {bytes : List UInt8} {pin : String} (file : call.file = .bytes bytes)
    (pinned : call.expectedLibrarySha256 = some pin) (hex : isHexSha256 pin = true)
    (fits : eqIgnoreAsciiCase (fileHex sha256 bytes) pin = true) :
    call.checkedSha256 sha256 = .ok (fileHex sha256 bytes) := by
  unfold LibraryLoad.checkedSha256
  rw [file]
  simp [pinned, hex, fits]

def padded (size : Nat) (bytes : List UInt8) : Vector UInt8 size :=
  Vector.ofFn (fun index => bytes.getD index 0)

/-- The bytes of `x86_64-unknown-linux-gnu`. -/
def linuxTarget : List UInt8 :=
  [120, 56, 54, 95, 54, 52, 45, 117, 110, 107, 110, 111, 119, 110, 45, 108, 105, 110, 117, 120,
    45, 103, 110, 117]

def linuxBuild : HostBuild :=
  { pointerWidth := 64, littleEndian := true, target := linuxTarget,
    rustcVersion := [49, 46, 56, 53, 46, 48], version := ⟨0, 3, 12, none⟩, featureBits := 8 }

def speechDescriptor : TbAbiDescriptor :=
  { magic := ABI_MAGIC, abiRevision := 1, descriptorSize := 256, flags := 5, pointerWidth := 64,
    tinybusMajor := 0, tinybusMinor := 3, tinybusPatch := 12, tinybusFeatureBits := 8,
    targetTriple := padded 64 linuxTarget, rustcVersion := padded 48 linuxBuild.rustcVersion,
    moduleName := padded 64 [], moduleVersion := padded 32 [] }

/-- The digest of the four bytes that stand for a library. -/
def elfSha256 : Sha256 := fun _ => elfDigest

def lowerPin : String := "3bdbb4fe8397cd2b842430b39ccff01a8663c751945ef5e9a09e267fb8b1d359"
def upperPin : String := "3BDBB4FE8397CD2B842430B39CCFF01A8663C751945EF5E9A09E267FB8B1D359"

/-- A load of the library, which the platform has under one handle. -/
def elfLoad (pin : String) : LibraryLoad :=
  { path := "speech.so", strict := true, expectedLibrarySha256 := some pin,
    file := .bytes [127, 69, 76, 70], opened := .ok 1,
    exports := ⟨some speechDescriptor, some (some []), true⟩ }

def speechModule : ModuleManifest :=
  { schema := 1, module := ⟨"speech", ⟨1, 0, 0, none⟩, "", none, ""⟩
    busName := ModuleHost.speechName
    objectPath := ⟨"/ai/tinyhumans/openhuman/speech", by rfl⟩
    provides := [], requires := [], environment := [], capabilities := []
    lazyInit := false, workerThreads := 1, onPanic := .detach }

def speechParse : List UInt8 → Option ModuleManifest := fun _ => some speechModule

theorem elf_fileHex : fileHex elfSha256 [127, 69, 76, 70] = lowerPin := by decide

theorem pins_same : eqIgnoreAsciiCase lowerPin upperPin = true :=
  eqIgnoreAsciiCase_iff.mpr (by decide)

theorem elfLoad_checked {pin : String} (hex : isHexSha256 pin = true)
    (fits : eqIgnoreAsciiCase lowerPin pin = true) :
    (elfLoad pin).checkedSha256 elfSha256 = .ok lowerPin := by
  have matching : eqIgnoreAsciiCase (fileHex elfSha256 [127, 69, 76, 70]) pin = true := by
    rw [elf_fileHex]
    exact fits
  have checked : (elfLoad pin).checkedSha256 elfSha256 =
      .ok (fileHex elfSha256 [127, 69, 76, 70]) := checkedSha256_pinned rfl rfl hex matching
  rw [checked, elf_fileHex]

structure Spells (pin : String) : Prop where
  hex : isHexSha256 pin = true
  digits : eqIgnoreAsciiCase lowerPin pin = true

theorem lowerPin_spells : Spells lowerPin := ⟨by decide, eqIgnoreAsciiCase_refl lowerPin⟩

theorem upperPin_spells : Spells upperPin := ⟨by decide, pins_same⟩

theorem Spells.load {pin : String} (spells : Spells pin) (images : MappedImages) :
    loadVerified elfSha256 linuxBuild speechParse images (elfLoad pin) =
      ((elfLoad pin).conclude linuxBuild speechParse
          (recordMappedImage images 1 lowerPin (some pin)).1,
        (recordMappedImage images 1 lowerPin (some pin)).2) :=
  loadVerified_mapped (elfLoad_checked spells.hex spells.digits) rfl

/-- The table after one load of the library with a pin. -/
def elfImages (pin : String) : MappedImages := AList.insert 1 ⟨lowerPin, some pin⟩ ∅

theorem spelled_empty (pin : String) : Spelled elfSha256 ∅ (elfLoad pin) := by
  intro expected handle mapped trusted pinned maps found
  cases found

theorem spelled_again (pin : String) : Spelled elfSha256 (elfImages pin) (elfLoad pin) := by
  intro expected handle mapped trusted pinned maps found recorded same
  cases pinned
  cases (maps_iff.mp maps).2
  cases found
  cases recorded
  rfl

theorem elf_run {left right : String} (first : Spells left) (second : Spells right) :
    ((respelledLoads elfSha256 linuxBuild speechParse).restrict (BothSpelled elfSha256)).Run (∅, ∅)
      [(elfLoad left, elfLoad right)] (elfImages left, elfImages right) := by
  have digits : eqIgnoreAsciiCase left right = true :=
    eqIgnoreAsciiCase_trans (eqIgnoreAsciiCase_symm first.digits) second.digits
  refine .single ⟨⟨spelled_empty left, spelled_empty right⟩, ⟨digits, rfl⟩, ?_⟩
  change _ = ((loadVerified elfSha256 linuxBuild speechParse ∅ (elfLoad left)).2,
    (loadVerified elfSha256 linuxBuild speechParse ∅ (elfLoad right)).2)
  rw [first.load, second.load]
  rfl

/-- The first call spells the pin in lower case in one history and in upper
case in the other; the second call, in lower case in both, is refused there. -/
theorem respelledPin_refused :
    ¬ ∀ calls images next,
      (respelledLoads elfSha256 linuxBuild speechParse).Run (∅, ∅) calls images →
      LibraryLoad.Respelled next.1 next.2 →
      PinsHold elfSha256 linuxBuild speechParse calls images next := by
  intro holds
  have held := holds _ _ (elfLoad lowerPin, elfLoad lowerPin)
    (elf_run lowerPin_spells upperPin_spells).of_restrict ⟨SamePin.refl _, rfl⟩
  have neutral := held.neutral
  rw [lowerPin_spells.load, lowerPin_spells.load] at neutral
  exact neutral

/-- Both histories spell the pin in their own way throughout. -/
theorem respelledPin_holds :
    PinsHold elfSha256 linuxBuild speechParse [(elfLoad lowerPin, elfLoad upperPin)]
      (elfImages lowerPin, elfImages upperPin) (elfLoad lowerPin, elfLoad upperPin) :=
  spelled_pins_hold (elf_run lowerPin_spells upperPin_spells) ⟨pins_same, rfl⟩
    ⟨spelled_again lowerPin, spelled_again upperPin⟩

end TinyBus
