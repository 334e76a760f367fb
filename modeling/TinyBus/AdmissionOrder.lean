import TinyBus.FirstAdmitted

/-
The two loops over the candidates of a release.  The one with callbacks follows the
plain one candidate by candidate, until a preparation or the retention fails; and
neither goes on to the release cache once a bundle is refused for its content.
-/

namespace TinyBus

variable {Info Binding Left : Type}

/-- How the loop with callbacks ends beside the plain one: as it does, or earlier with
a preparation that failed, or with callbacks that were not retained. -/
inductive Follows (callbacks : CallbackSupply Binding) (plan : ReleasePlan) :
    Nat → List Candidate × (Left ⊕ Info) →
      List Candidate × Except String ((Nat × Left) ⊕ (Info × Binding)) → Prop
  | goesOn (attempt : Nat) (tried : List Candidate) (left : Left) :
      Follows callbacks plan attempt (tried, .inl left)
        (tried, .ok (.inl (attempt + tried.length, left)))
  | admits (attempt : Nat) (tried : List Candidate) (info : Info) (binding : Binding) :
      Follows callbacks plan attempt (tried, .inr info) (tried, .ok (.inr (info, binding)))
  | unprepared (attempt : Nat) (tried rest : List Candidate) (next : Candidate)
      (outcome : Left ⊕ Info) (reason : String)
      (fails : callbacks.prepare (attempt + tried.length) = .error reason) :
      Follows callbacks plan attempt (tried ++ next :: rest, outcome) (tried, .error reason)
  | unretained (attempt : Nat) (tried : List Candidate) (info : Info) (binding : Binding)
      (error : Error) (fails : callbacks.retain binding = .error error) :
      Follows callbacks plan attempt (tried, .inr info)
        (tried, .error (retentionText plan.id error))

variable {host : AdmissionOracle Info} {callbacks : CallbackSupply Binding} {plan : ReleasePlan}

theorem Follows.cons {attempt : Nat} {plain : List Candidate × (Left ⊕ Info)}
    {other : List Candidate × Except String ((Nat × Left) ⊕ (Info × Binding))}
    (follows : Follows callbacks plan (attempt + 1) plain other) (candidate : Candidate) :
    Follows callbacks plan attempt (candidate :: plain.1, plain.2)
      (candidate :: other.1, other.2) := by
  cases follows with
  | goesOn tried left =>
      have length : attempt + 1 + tried.length = attempt + (candidate :: tried).length := by
        rw [List.length_cons]
        omega
      rw [length]
      exact .goesOn attempt (candidate :: tried) left
  | admits tried info binding => exact .admits attempt (candidate :: tried) info binding
  | unprepared tried rest next outcome reason fails =>
      refine .unprepared attempt (candidate :: tried) rest next outcome reason ?_
      rw [List.length_cons, show attempt + (tried.length + 1) = attempt + 1 + tried.length by omega]
      exact fails
  | unretained tried info binding error fails =>
      exact .unretained attempt (candidate :: tried) info binding error fails

variable {candidate : Candidate} {assets : List ReleasePlan.Asset}

theorem Follows.of_unprepared {attempt : Nat} {plain : List Candidate × (Left ⊕ Info)}
    {rest : List Candidate} (tries : plain.1 = candidate :: rest) {reason : String}
    (fails : callbacks.prepare attempt = .error reason) :
    Follows callbacks plan attempt plain ([], .error reason) := by
  obtain ⟨tried, outcome⟩ := plain
  dsimp only at tries
  rw [tries]
  exact .unprepared attempt [] rest candidate outcome reason fails

theorem Follows.of_admitted (attempt : Nat) (candidate : Candidate) (info : Info)
    (binding : Binding) :
    Follows callbacks plan attempt (([candidate], .inr info) : List Candidate × (Left ⊕ Info))
      ([candidate], (retained callbacks plan info binding).map .inr) := by
  unfold retained
  cases kept : callbacks.retain binding with
  | ok done => exact .admits attempt [candidate] info binding
  | error error => exact .unretained attempt [candidate] info binding error kept

theorem tryBundled_follows (root : Place) (assets : List ReleasePlan.Asset) (attempt : Nat)
    (scan : BundleScan) :
    Follows callbacks plan attempt (tryBundled host plan root assets scan)
      (tryBundledWith host callbacks plan root assets attempt scan) := by
  induction assets generalizing attempt scan with
  | nil => exact .goesOn attempt [] scan
  | cons asset rest ih =>
      unfold tryBundled tryBundledWith
      cases artifactDir root plan.id plan.version asset.hostKey with
      | none => exact ih attempt scan
      | some dir =>
          dsimp only
          split
          · exact ih attempt scan
          · cases prepared : callbacks.prepare attempt with
            | error reason =>
                cases host.load _ with
                | ok info => exact .of_unprepared rfl prepared
                | error error => exact .of_unprepared rfl prepared
            | ok binding =>
                cases host.load _ with
                | ok info => exact .of_admitted attempt _ info binding
                | error error => exact (ih (attempt + 1) (scan.refused error)).cons _

theorem tryReleases_follows (assets : List ReleasePlan.Asset) (attempt : Nat)
    (lastError : String) :
    Follows callbacks plan attempt (tryReleases host plan assets lastError)
      (tryReleasesWith host callbacks plan assets attempt lastError) := by
  induction assets generalizing attempt lastError with
  | nil => exact .goesOn attempt [] lastError
  | cons asset rest ih =>
      unfold tryReleases tryReleasesWith
      cases artifactDir plan.installRoot plan.id plan.version asset.hostKey with
      | none => exact ih attempt CACHE_PATH_TEXT
      | some dir =>
          dsimp only
          cases prepared : callbacks.prepare attempt with
          | error reason =>
              cases host.load _ with
              | ok info => exact .of_unprepared rfl prepared
              | error error => exact .of_unprepared rfl prepared
          | ok binding =>
              cases host.load _ with
              | ok info => exact .of_admitted attempt _ info binding
              | error error => exact (ih (attempt + 1) error.display).cons _

theorem tryBundle_follows :
    Follows callbacks plan 0 (tryBundle host plan) (tryBundleWith host callbacks plan) := by
  unfold tryBundle tryBundleWith
  cases plan.bundledRoot with
  | none => exact .goesOn 0 [] BundleScan.start
  | some root => exact tryBundled_follows root plan.assets 0 BundleScan.start

/-- How a load with callbacks ends beside a plain one. -/
inductive Ends (callbacks : CallbackSupply Binding) (plan : ReleasePlan) :
    Nat → List Candidate × Except String Info →
      List Candidate × Except String (Info × Binding) → Prop
  | fails (attempt : Nat) (tried : List Candidate) (reason : String) :
      Ends callbacks plan attempt (tried, .error reason) (tried, .error reason)
  | admits (attempt : Nat) (tried : List Candidate) (info : Info) (binding : Binding) :
      Ends callbacks plan attempt (tried, .ok info) (tried, .ok (info, binding))
  | unprepared (attempt : Nat) (tried rest : List Candidate) (next : Candidate)
      (result : Except String Info) (reason : String)
      (fails : callbacks.prepare (attempt + tried.length) = .error reason) :
      Ends callbacks plan attempt (tried ++ next :: rest, result) (tried, .error reason)
  | unretained (attempt : Nat) (tried : List Candidate) (info : Info) (binding : Binding)
      (error : Error) (fails : callbacks.retain binding = .error error) :
      Ends callbacks plan attempt (tried, .ok info) (tried, .error (retentionText plan.id error))

theorem Ends.append {attempt : Nat} {tried : List Candidate}
    {plain : List Candidate × Except String Info}
    {other : List Candidate × Except String (Info × Binding)}
    (ends : Ends callbacks plan (attempt + tried.length) plain other) :
    Ends callbacks plan attempt (tried ++ plain.1, plain.2) (tried ++ other.1, other.2) := by
  cases ends with
  | fails more reason => exact .fails attempt (tried ++ more) reason
  | admits more info binding => exact .admits attempt (tried ++ more) info binding
  | unprepared more rest next result reason fails =>
      have same : tried ++ (more ++ next :: rest) = (tried ++ more) ++ next :: rest := by
        rw [List.append_assoc]
      rw [same]
      refine .unprepared attempt (tried ++ more) rest next result reason ?_
      rw [List.length_append, ← Nat.add_assoc]
      exact fails
  | unretained more info binding error fails =>
      exact .unretained attempt (tried ++ more) info binding error fails

theorem tryReleaseCache_ends (attempt : Nat) (lastError : String) :
    Ends callbacks plan attempt (tryReleaseCache host plan lastError)
      (tryReleaseCacheWith host callbacks plan attempt lastError) := by
  have follows : Follows callbacks plan attempt (tryReleases host plan plan.assets lastError)
      (tryReleasesWith host callbacks plan plan.assets attempt lastError) :=
    tryReleases_follows plan.assets attempt lastError
  unfold tryReleaseCache tryReleaseCacheWith
  generalize tryReleases host plan plan.assets lastError = plain at follows
  generalize tryReleasesWith host callbacks plan plan.assets attempt lastError = other at follows
  cases follows with
  | goesOn tried last => exact .fails attempt tried _
  | admits tried info binding => exact .admits attempt tried info binding
  | unprepared tried rest next outcome reason fails =>
      cases outcome with
      | inl last => exact .unprepared attempt tried rest next _ reason fails
      | inr info => exact .unprepared attempt tried rest next _ reason fails
  | unretained tried info binding error fails =>
      exact .unretained attempt tried info binding error fails

theorem loadFirstAdmitted_ends :
    Ends callbacks plan 0 (loadFirstAdmitted host plan)
      (loadFirstAdmittedWithHostCallbacks host callbacks plan) := by
  have follows : Follows callbacks plan 0 (tryBundle host plan)
      (tryBundleWith host callbacks plan) := tryBundle_follows
  unfold loadFirstAdmitted loadFirstAdmittedWithHostCallbacks
  split
  · exact .fails 0 [] _
  · generalize tryBundle host plan = plain at follows
    generalize tryBundleWith host callbacks plan = other at follows
    cases follows with
    | goesOn tried scan =>
        dsimp only
        have cached : Ends callbacks plan (0 + tried.length)
            (tryReleaseCache host plan scan.lastError)
            (tryReleaseCacheWith host callbacks plan (0 + tried.length) scan.lastError) :=
          tryReleaseCache_ends (0 + tried.length) scan.lastError
        have onward := cached.append
        cases scan.foundBundled <;> cases scan.placementOnly
        · exact onward
        · exact onward
        · exact .fails 0 tried _
        · exact onward
    | admits tried info binding => exact .admits 0 tried info binding
    | unprepared tried rest next outcome reason fails =>
        cases outcome with
        | inr info => exact .unprepared 0 tried rest next _ reason fails
        | inl scan =>
            dsimp only
            have later (more : List Candidate) (result : Except String Info) :
                Ends callbacks plan 0 (tried ++ next :: rest ++ more, result)
                  (tried, .error reason) := by
              rw [List.append_assoc]
              exact .unprepared 0 tried (rest ++ more) next result reason fails
            split
            · exact later _ _
            · split
              · exact .unprepared 0 tried rest next _ reason fails
              · exact later _ _
    | unretained tried info binding error fails =>
        exact .unretained 0 tried info binding error fails

theorem Ends.tried_prefix {attempt : Nat} {plain : List Candidate × Except String Info}
    {other : List Candidate × Except String (Info × Binding)}
    (ends : Ends callbacks plan attempt plain other) : other.1 <+: plain.1 := by
  cases ends with
  | fails tried reason => exact List.prefix_refl tried
  | admits tried info binding => exact List.prefix_refl tried
  | unprepared tried rest next result reason fails => exact List.prefix_append tried _
  | unretained tried info binding error fails => exact List.prefix_refl tried

/-- The candidate is refused for what it is, not for where it is. -/
def ContentRefused (host : AdmissionOracle Info) (candidate : Candidate) : Prop :=
  ∃ error, host.load candidate = .error error ∧ isPlacementRefusal error = false

def refusedForPlace (host : AdmissionOracle Info) (candidate : Candidate) : Bool :=
  match host.load candidate with
  | .ok _ => true
  | .error error => isPlacementRefusal error

theorem tryBundled_left {root : Place} {scan last : BundleScan}
    (left : (tryBundled host plan root assets scan).2 = .inl last) :
    last.placementOnly =
        (scan.placementOnly && (tryBundled host plan root assets scan).1.all (refusedForPlace host)) ∧
      last.foundBundled =
        (scan.foundBundled || !(tryBundled host plan root assets scan).1.isEmpty) := by
  induction assets generalizing scan with
  | nil =>
      cases left
      exact ⟨(Bool.and_true _).symm, (Bool.or_false _).symm⟩
  | cons asset rest ih =>
      unfold tryBundled at left ⊢
      cases named : artifactDir root plan.id plan.version asset.hostKey with
      | none =>
          rw [named] at left
          exact ih left
      | some dir =>
          rw [named] at left
          dsimp only at left ⊢
          split
          · rename_i absent
            rw [if_pos absent] at left
            exact ih left
          · rename_i present
            rw [if_neg present] at left
            generalize (⟨.bundle, if host.isFile (dir ++ [asset.archive]) then _ else _⟩ :
              Candidate) = candidate at left ⊢
            cases loads : host.load candidate with
            | ok info =>
                rw [loads] at left
                cases left
            | error error =>
                rw [loads] at left
                obtain ⟨placed, found⟩ := ih left
                refine ⟨?_, ?_⟩
                · rw [placed]
                  simp [BundleScan.refused, refusedForPlace, loads, Bool.and_assoc]
                · rw [found]
                  simp [BundleScan.refused]

theorem tryBundled_source {root : Place} {scan : BundleScan}
    (among : candidate ∈ (tryBundled host plan root assets scan).1) :
    candidate.source = .bundle := by
  induction assets generalizing scan with
  | nil => cases among
  | cons asset rest ih =>
      unfold tryBundled at among
      split at among
      · exact ih among
      · dsimp only at among
        split at among
        · exact ih among
        · split at among
          · rw [List.mem_singleton.mp among]
          · rcases List.mem_cons.mp among with here | later
            · rw [here]
            · exact ih later

theorem tryReleases_source {lastError : String}
    (among : candidate ∈ (tryReleases host plan assets lastError).1) :
    candidate.source = .releaseCache := by
  induction assets generalizing lastError with
  | nil => cases among
  | cons asset rest ih =>
      unfold tryReleases at among
      split at among
      · exact ih among
      · dsimp only at among
        split at among
        · rw [List.mem_singleton.mp among]
        · rcases List.mem_cons.mp among with here | later
          · rw [here]
          · exact ih later

theorem tryBundle_source (among : candidate ∈ (tryBundle host plan).1) :
    candidate.source = .bundle := by
  unfold tryBundle at among
  split at among
  · cases among
  · exact tryBundled_source among

theorem tryBundle_left {last : BundleScan} (left : (tryBundle host plan).2 = .inl last)
    (among : candidate ∈ (tryBundle host plan).1) (refused : ContentRefused host candidate) :
    last.placementOnly = false ∧ last.foundBundled = true := by
  unfold tryBundle at left among
  split at left
  · rename_i none
    rw [none] at among
    cases among
  · rename_i root some
    rw [some] at among
    dsimp only at among
    obtain ⟨placed, found⟩ := tryBundled_left left
    obtain ⟨error, loads, content⟩ := refused
    have not : refusedForPlace host candidate = false := by
      unfold refusedForPlace
      rw [loads]
      exact content
    refine ⟨?_, ?_⟩
    · rw [placed, Bool.and_eq_false_iff]
      right
      rw [List.all_eq_false]
      exact ⟨candidate, among, by rw [not]; exact Bool.false_ne_true⟩
    · rw [found]
      cases tried : (tryBundled host plan root plan.assets .start).1 with
      | nil =>
          rw [tried] at among
          cases among
      | cons first rest => simp

theorem tryReleaseCache_source {lastError : String}
    (among : candidate ∈ (tryReleaseCache host plan lastError).1) :
    candidate.source = .releaseCache := by
  have same : (tryReleaseCache host plan lastError).1 =
      (tryReleases host plan plan.assets lastError).1 := by
    unfold tryReleaseCache
    split <;> rename_i tries <;> rw [tries]
  rw [same] at among
  exact tryReleases_source among

theorem loadFirstAdmitted_bundle (among : candidate ∈ (loadFirstAdmitted host plan).1)
    (bundled : candidate.source = .bundle) (refused : ContentRefused host candidate) :
    ∀ other ∈ (loadFirstAdmitted host plan).1, other.source = .bundle := by
  unfold loadFirstAdmitted at among ⊢
  split
  · intro other tried
    cases tried
  · rename_i listed
    rw [if_neg listed] at among
    have sources (other : Candidate) (tried : other ∈ (tryBundle host plan).1) :
        other.source = .bundle := tryBundle_source tried
    have ended (last : BundleScan) (left : (tryBundle host plan).2 = .inl last)
        (tried : candidate ∈ (tryBundle host plan).1) :
        last.placementOnly = false ∧ last.foundBundled = true := tryBundle_left left tried refused
    generalize tryBundle host plan = bundle at among sources ended ⊢
    obtain ⟨tried, outcome⟩ := bundle
    cases outcome with
    | inr info => exact sources
    | inl last =>
        have notCached (lastError : String)
            (later : candidate ∈ tried ++ (tryReleaseCache host plan lastError).1) :
            candidate ∈ tried := by
          rcases List.mem_append.mp later with here | cached
          · exact here
          · rw [tryReleaseCache_source cached] at bundled
            cases bundled
        have here : candidate ∈ tried := by
          dsimp only at among
          split at among
          · exact notCached last.lastError among
          · split at among
            · exact among
            · exact notCached last.lastError among
        obtain ⟨notPlaced, found⟩ := ended last rfl here
        dsimp only
        rw [notPlaced, found]
        exact sources

/-- Where callbacks are prepared for every candidate that is tried, and retained, the two
loaders try the same candidates in the same order and end alike.  In any case, a bundle
that is refused for its content keeps both of them from the release cache. -/
theorem loaders_agree (host : AdmissionOracle Info) (callbacks : CallbackSupply Binding)
    (plan : ReleasePlan) :
    ((∀ attempt < (loadFirstAdmitted host plan).1.length,
        ∃ binding, callbacks.prepare attempt = .ok binding) →
      (∀ binding, callbacks.retain binding = .ok ()) →
        (loadFirstAdmittedWithHostCallbacks host callbacks plan).1 =
            (loadFirstAdmitted host plan).1 ∧
          (loadFirstAdmittedWithHostCallbacks host callbacks plan).2.map Prod.fst =
            (loadFirstAdmitted host plan).2) ∧
    ∀ candidate, candidate.source = .bundle → ContentRefused host candidate →
      (candidate ∈ (loadFirstAdmitted host plan).1 →
        ∀ other ∈ (loadFirstAdmitted host plan).1, other.source = .bundle) ∧
      (candidate ∈ (loadFirstAdmittedWithHostCallbacks host callbacks plan).1 →
        ∀ other ∈ (loadFirstAdmittedWithHostCallbacks host callbacks plan).1,
          other.source = .bundle) := by
  have ends : Ends callbacks plan 0 (loadFirstAdmitted host plan)
      (loadFirstAdmittedWithHostCallbacks host callbacks plan) := loadFirstAdmitted_ends
  refine ⟨?_, ?_⟩
  · intro prepared retains
    generalize loadFirstAdmitted host plan = plain at ends prepared
    generalize loadFirstAdmittedWithHostCallbacks host callbacks plan = other at ends
    cases ends with
    | fails tried reason => exact ⟨rfl, rfl⟩
    | admits tried info binding => exact ⟨rfl, rfl⟩
    | unprepared tried rest next result reason fails =>
        obtain ⟨binding, prepares⟩ := prepared tried.length (by simp)
        rw [Nat.zero_add, prepares] at fails
        cases fails
    | unretained tried info binding error fails =>
        rw [retains binding] at fails
        cases fails
  · intro candidate bundled refused
    refine ⟨fun among => loadFirstAdmitted_bundle among bundled refused, ?_⟩
    intro among other tried
    have subset := ends.tried_prefix.subset
    exact loadFirstAdmitted_bundle (subset among) bundled refused other (subset tried)

def speechPlan : ReleasePlan :=
  { id := "speech", version := "1", releaseUrl := "https://github.com/o/r/releases/tag/v1"
    assets := [⟨"linux", "speech.tar", "00", none⟩], installRoot := ["cache"]
    bundledRoot := some ["bundle"], allowDownload := true }

/-- The host refuses the bundle for its directory and admits the release. -/
def speechAdmission : AdmissionOracle Nat :=
  { isFile := fun _ => true
    load := fun candidate =>
      match candidate.source with
      | .bundle => .error (.moduleRefused "speech.so" "module directory is owned by another user")
      | .releaseCache => .ok 7 }

def supplied : CallbackSupply Unit :=
  { prepare := fun _ => .ok (), retain := fun _ => .ok () }

def suppliedOnce : CallbackSupply Unit :=
  { prepare := fun attempt => if attempt = 0 then .ok () else .error "no callbacks"
    retain := fun _ => .ok () }

theorem speechLoaders_agree :
    (loadFirstAdmittedWithHostCallbacks speechAdmission supplied speechPlan).2.map Prod.fst =
      (loadFirstAdmitted speechAdmission speechPlan).2 :=
  ((loaders_agree speechAdmission supplied speechPlan).1 (fun _ _ => ⟨(), rfl⟩)
    (fun _ => rfl)).2

/-- Without callbacks the release is loaded; with callbacks that are not prepared again
the load ends before it. -/
theorem unpreparedLoader_differs :
    ¬ ∀ (host : AdmissionOracle Nat) (callbacks : CallbackSupply Unit) (plan : ReleasePlan),
      (loadFirstAdmittedWithHostCallbacks host callbacks plan).1 =
          (loadFirstAdmitted host plan).1 ∧
        (loadFirstAdmittedWithHostCallbacks host callbacks plan).2.map Prod.fst =
          (loadFirstAdmitted host plan).2 := by
  intro every
  have same := (every speechAdmission suppliedOnce speechPlan).2
  have plain : (loadFirstAdmitted speechAdmission speechPlan).2 = .ok 7 := by rfl
  have other : (loadFirstAdmittedWithHostCallbacks speechAdmission suppliedOnce speechPlan).2 =
      .error "no callbacks" := by
    rfl
  rw [plain, other] at same
  cases same

end TinyBus
