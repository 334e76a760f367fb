import TinyBus.HostObjects
import TinyBus.Library.Weights
import TinyBus.RouterOwnership

/-
The names of host objects.  What the broker, the registry and the guards say about one
name agrees at every moment, as long as nobody else asks for the name or releases it on
the runtime's connection: the lease counts the guards, and the connection owns the name
for them, for a call that claimed it, or as it did before.
-/

namespace TinyBus

open TransitionSystem

universe u

variable {Served : Type u} {id : Nat} {conn : PeerId} {name : BusName} {pre : Bool}

namespace HostObjectPhase

def locked : HostObjectPhase → Bool
  | .asking _ => true
  | .claiming _ => true
  | .registering _ _ => true
  | .replacing _ _ _ => true
  | .withdrawing _ => true
  | .withdrawn _ => true
  | _ => false

def claimed : HostObjectPhase → Bool
  | .registering _ _ => true
  | .replacing _ _ _ => true
  | _ => false

/-- A guard that its owner still has. -/
def live : HostObjectPhase → Bool
  | .serving _ => true
  | _ => false

def leaving : HostObjectPhase → Bool
  | .dropped _ => true
  | .withdrawing _ => true
  | .withdrawn _ => true
  | _ => false

def releases : HostObjectPhase → Option Bool
  | .registering releaseWhenEmpty _ => some releaseWhenEmpty
  | .replacing releaseWhenEmpty _ _ => some releaseWhenEmpty
  | _ => none

def before : HostObjectPhase → Option Bool
  | .asking before => some before
  | .claiming before => some before
  | .registering _ before => some before
  | .replacing _ before _ => some before
  | _ => none

def registration : HostObjectPhase → Option ObjectRegistration
  | .replacing _ _ registration => some registration
  | .serving registration => some registration
  | .dropped registration => some registration
  | .withdrawing registration => some registration
  | .withdrawn registration => some registration
  | _ => none

def guards (phase : HostObjectPhase) : Nat :=
  phase.live.toNat + phase.leaving.toNat

def claims (phase : HostObjectPhase) : Nat :=
  phase.claimed.toNat

end HostObjectPhase

namespace HostObjects

/-! ### What a step does -/

inductive Stepping (id : Nat) (objects : HostObjects Served) (task : HostObjectTask Served) :
    HostObjects Served × HostObjectPhase → Prop
  | entered (here : task.phase = .waiting) (free : objects.lock = none) :
      Stepping id objects task (objects.enter id task.name)
  | unanswered {before : Bool} (error : Error) (here : task.phase = .asking before) :
      Stepping id objects task (objects.unlock, .failed error)
  | answered {before : Bool} (here : task.phase = .asking before) :
      Stepping id objects task (objects, .claiming before)
  | claimed {before : Bool} (here : task.phase = .claiming before) :
      Stepping id objects task (objects.claim task.name before)
  | panicked {releaseWhenEmpty before : Bool}
      (here : task.phase = .registering releaseWhenEmpty before) :
      Stepping id objects task
        ((objects.refuse task.name releaseWhenEmpty).unlock,
          .failed (.failed "host object interface registration task failed"))
  | registered {releaseWhenEmpty before : Bool} (interface : InterfaceName)
      (here : task.phase = .registering releaseWhenEmpty before) :
      Stepping id objects task (objects.register task releaseWhenEmpty before interface)
  | counted {releaseWhenEmpty before : Bool} {registration : ObjectRegistration}
      (here : task.phase = .replacing releaseWhenEmpty before registration) :
      Stepping id objects task
        ((objects.share task.name releaseWhenEmpty).unlock, .serving registration)
  | dropped {registration : ObjectRegistration} (here : task.phase = .serving registration) :
      Stepping id objects task (objects, .dropped registration)
  | began {registration : ObjectRegistration} (here : task.phase = .dropped registration)
      (free : objects.lock = none) :
      Stepping id objects task ({ objects with lock := some id }, .withdrawing registration)
  | taken {registration : ObjectRegistration} (here : task.phase = .withdrawing registration) :
      Stepping id objects task
        ({ objects with tree := (objects.tree.takeIfOwned registration).2 },
          .withdrawn registration)
  | settled {registration : ObjectRegistration} (here : task.phase = .withdrawn registration) :
      Stepping id objects task ((objects.settle task.name).unlock, .removed)

variable {after first : HostObjects Served} {task : HostObjectTask Served}
  {reached : HostObjects Served × HostObjectPhase} {phase : HostObjectPhase}

theorem step_stepping {choice : HostObjectChoice} {objects : HostObjects Served}
    {stepped : HostObjectTask Served}
    (taken : step id choice objects task = some (after, stepped)) :
    ∃ phase, stepped = { task with phase := phase } ∧ Stepping id objects task (after, phase) := by
  have goes {reached : HostObjects Served × HostObjectPhase}
      (went : goTo task reached = some (after, stepped))
      (stepping : Stepping id objects task reached) :
      ∃ phase, stepped = { task with phase := phase } ∧
        Stepping id objects task (after, phase) := by
    cases went
    exact ⟨reached.2, rfl, stepping⟩
  unfold step at taken
  split at taken
  · case _ here =>
      split at taken
      · case isTrue free => exact goes taken (.entered here free)
      · cases taken
  · case _ here => exact goes taken (.unanswered _ here)
  · case _ here => exact goes taken (.answered here)
  · case _ here => exact goes taken (.claimed here)
  · case _ here => exact goes taken (.panicked here)
  · case _ here => exact goes taken (.registered _ here)
  · case _ here => exact goes taken (.counted here)
  · case _ here => exact goes taken (.dropped here)
  · case _ here =>
      split at taken
      · case isTrue free => exact goes taken (.began here free)
      · cases taken
  · case _ here => exact goes taken (.taken here)
  · case _ here => exact goes taken (.settled here)
  · cases taken

/-! ### The broker under the registry -/

theorem claimHostName_cases {router : Router} (consistent : router.Consistent)
    (attached : router.names.lookup (BusName.unique conn) = some conn) (name : BusName) :
    (∃ error, router.claimHostName (BusName.unique conn) name = (.error error, router)) ∨
      (router.names.lookup name = some conn ∧
        router.claimHostName (BusName.unique conn) name = (.ok false, router)) ∨
      (router.names.lookup name = none ∧ name.isUnique = false ∧ name ≠ busName ∧
        router.claimHostName (BusName.unique conn) name =
          (.ok true, { router with names := router.names.insert name conn })) := by
  obtain ⟨peer, present⟩ := consistent.ownersAttached _ conn attached
  unfold Router.claimHostName Router.requestNameForUnique
  rw [attached]
  dsimp only
  unfold Router.requestName
  by_cases unique : name.isUnique = true
  · rw [if_pos unique]
    exact .inl ⟨_, rfl⟩
  · rw [if_neg unique]
    by_cases reserved : name = busName
    · rw [if_pos reserved]
      exact .inl ⟨_, rfl⟩
    · rw [if_neg reserved]
      cases found : router.names.lookup name with
      | none =>
          have claimant : ({ router with names := router.names.insert name conn } :
              Router).uniqueOf conn = .ok peer.unique := Router.uniqueOf_present present
          dsimp only
          rw [claimant]
          exact .inr (.inr ⟨rfl, Bool.not_eq_true _ ▸ unique, reserved, rfl⟩)
      | some owner =>
          by_cases own : owner = conn
          · subst own
            dsimp only
            rw [if_pos rfl, Router.uniqueOf_present present]
            exact .inr (.inl ⟨rfl, rfl⟩)
          · obtain ⟨holder, held⟩ := consistent.ownersAttached name owner found
            dsimp only
            rw [if_neg own, Router.uniqueOf_present held]
            exact .inl ⟨_, rfl⟩

theorem releaseHostName_cases {router : Router} (consistent : router.Consistent)
    (attached : router.names.lookup (BusName.unique conn) = some conn) (name : BusName) :
    (name.isUnique = false ∧ router.names.lookup name = some conn ∧
        (router.releaseHostName (BusName.unique conn) name).2 =
          { router with names := router.names.erase name }) ∨
      ((name.isUnique = true ∨ router.names.lookup name ≠ some conn) ∧
        (router.releaseHostName (BusName.unique conn) name).2 = router) := by
  obtain ⟨peer, present⟩ := consistent.ownersAttached _ conn attached
  have checked : router.ensurePeerAttached conn (BusName.unique conn) = .ok () := by
    rw [Router.ensurePeerAttached_ok_iff, Router.isAttached_iff]
    exact ⟨attached, peer, present, (consistent.ownsUnique conn peer present).1⟩
  unfold Router.releaseHostName Router.releaseNameForUnique
  rw [attached]
  dsimp only
  rw [checked]
  dsimp only
  unfold Router.releaseName
  by_cases unique : name.isUnique = true
  · rw [if_pos unique]
    exact .inr ⟨.inl unique, rfl⟩
  · rw [if_neg unique]
    cases found : router.names.lookup name with
    | none => exact .inr ⟨.inr (fun owned => by cases owned), rfl⟩
    | some owner =>
        by_cases own : owner = conn
        · subst own
          dsimp only
          rw [if_pos rfl]
          exact .inl ⟨Bool.not_eq_true _ ▸ unique, rfl, rfl⟩
        · dsimp only
          rw [if_neg own]
          exact .inr ⟨.inr (fun owned => own (Option.some.inj owned)), rfl⟩

/-! ### The runtime's connection -/

structure Grounded (conn : PeerId) (objects : HostObjects Served) : Prop where
  consistent : objects.router.Consistent
  unique : objects.unique = some (BusName.unique conn)
  attached : objects.router.names.lookup (BusName.unique conn) = some conn

variable {objects : HostObjects Served}

abbrev Owns (conn : PeerId) (objects : HostObjects Served) (name : BusName) : Prop :=
  objects.router.names.lookup name = some conn

theorem Grounded.holds_iff (grounded : Grounded conn objects) (name : BusName) :
    objects.holds name = true ↔ Owns conn objects name := by
  unfold holds Owns
  rw [grounded.unique, Option.any_some, beq_iff_eq, grounded.consistent.ownerOf_eq]
  cases objects.router.names.lookup name with
  | none => simp
  | some owner => simp

def claiming (conn : PeerId) (objects : HostObjects Served) (name : BusName) :
    HostObjects Served :=
  { objects with router := { objects.router with names := objects.router.names.insert name conn } }

def releasing (objects : HostObjects Served) (name : BusName) : HostObjects Served :=
  { objects with router := { objects.router with names := objects.router.names.erase name } }

theorem claim_cases (grounded : Grounded conn objects) (name : BusName) (before : Bool) :
    (∃ error, objects.claim name before = (objects.unlock, .failed error)) ∨
      (Owns conn objects name ∧ objects.claim name before =
        (objects, .registering
          ((objects.names.lookup name).any HostNameLease.releaseWhenEmpty) before)) ∨
      (objects.router.names.lookup name = none ∧ name.isUnique = false ∧ name ≠ busName ∧
        objects.claim name before =
          (claiming conn objects name, .registering true before)) := by
  unfold claim
  split
  · case _ missing =>
      rw [grounded.unique] at missing
      cases missing
  · case _ unique found =>
      rw [grounded.unique] at found
      cases found
      rcases claimHostName_cases grounded.consistent grounded.attached name with
        ⟨error, refused⟩ | ⟨owned, kept⟩ | ⟨free, plain, unreserved, claimed⟩
      · rw [refused]
        exact .inl ⟨_, rfl⟩
      · rw [kept]
        exact .inr (.inl ⟨owned, rfl⟩)
      · rw [claimed]
        exact .inr (.inr ⟨free, plain, unreserved, rfl⟩)

theorem release_cases (grounded : Grounded conn objects) (name : BusName) :
    (name.isUnique = false ∧ Owns conn objects name ∧
        objects.release name = releasing objects name) ∨
      ((name.isUnique = true ∨ ¬ Owns conn objects name) ∧ objects.release name = objects) := by
  unfold release
  split
  · case _ unique found =>
      rw [grounded.unique] at found
      cases found
      rcases releaseHostName_cases grounded.consistent grounded.attached name with
        ⟨plain, owned, released⟩ | ⟨other, kept⟩
      · rw [released]
        exact .inl ⟨plain, owned, rfl⟩
      · rw [kept]
        exact .inr ⟨other, rfl⟩
  · case _ missing =>
      rw [grounded.unique] at missing
      cases missing

theorem Grounded.claiming (grounded : Grounded conn objects) (plain : name.isUnique = false)
    (unreserved : name ≠ busName) : Grounded conn (claiming conn objects name) := by
  obtain ⟨peer, present⟩ := grounded.consistent.ownersAttached _ conn grounded.attached
  refine ⟨grounded.consistent.claim present plain unreserved, grounded.unique, ?_⟩
  change (objects.router.names.insert name conn).lookup _ = some conn
  rw [Table.lookup_insert_eq]
  split
  · rfl
  · exact grounded.attached

theorem Grounded.releasing (grounded : Grounded conn objects) (plain : name.isUnique = false) :
    Grounded conn (releasing objects name) := by
  refine ⟨grounded.consistent.release plain, grounded.unique, ?_⟩
  change (objects.router.names.erase name).lookup _ = some conn
  rw [Table.lookup_erase_eq, if_neg]
  · exact grounded.attached
  · intro same
    rw [← same, BusName.isUnique_unique] at plain
    cases plain

theorem Grounded.release (grounded : Grounded conn objects) (name : BusName) :
    Grounded conn (objects.release name) := by
  rcases release_cases grounded name with ⟨plain, _, released⟩ | ⟨_, kept⟩
  · rw [released]
    exact grounded.releasing plain
  · rw [kept]
    exact grounded

theorem Grounded.claim (grounded : Grounded conn objects) (name : BusName) (before : Bool) :
    Grounded conn (objects.claim name before).1 := by
  rcases claim_cases grounded name before with
    ⟨error, refused⟩ | ⟨_, kept⟩ | ⟨_, plain, unreserved, claimed⟩
  · rw [refused]
    exact ⟨grounded.consistent, grounded.unique, grounded.attached⟩
  · rw [kept]
    exact grounded
  · rw [claimed]
    exact grounded.claiming plain unreserved

theorem Grounded.congr (grounded : Grounded conn objects) (router : after.router = objects.router)
    (unique : after.unique = objects.unique) :
    Grounded conn after := by
  refine ⟨?_, unique.trans grounded.unique, ?_⟩
  · rw [router]
    exact grounded.consistent
  · rw [router]
    exact grounded.attached

theorem Grounded.refuse (grounded : Grounded conn objects) (name : BusName)
    (releaseWhenEmpty : Bool) : Grounded conn (objects.refuse name releaseWhenEmpty) := by
  unfold HostObjects.refuse
  split
  · split
    · exact grounded.congr rfl rfl
    · exact grounded.release name
  · exact grounded

theorem Grounded.register (grounded : Grounded conn objects) (task : HostObjectTask Served)
    (releaseWhenEmpty before : Bool) (interface : InterfaceName) :
    Grounded conn (objects.register task releaseWhenEmpty before interface).1 := by
  unfold HostObjects.register
  split
  · exact (grounded.refuse task.name releaseWhenEmpty).congr rfl rfl
  · exact grounded.congr rfl rfl

theorem Grounded.settle (grounded : Grounded conn objects) (name : BusName) :
    Grounded conn (objects.settle name) := by
  unfold HostObjects.settle
  split
  · exact grounded
  · split
    · dsimp only
      have forgotten : Grounded conn { objects with names := objects.names.erase name } :=
        grounded.congr rfl rfl
      split
      · exact forgotten.release name
      · exact forgotten
    · exact grounded.congr rfl rfl

theorem enter_cases (grounded : Grounded conn objects) (id : Nat) (name : BusName) :
    objects.enter id name = ({ objects with lock := some id }, .asking (objects.holds name)) := by
  unfold enter
  split
  · case _ missing =>
      rw [grounded.unique] at missing
      cases missing
  · rfl

theorem Stepping.grounded (stepping : Stepping id objects task reached)
    (grounded : Grounded conn objects) :
    Grounded conn reached.1 := by
  cases stepping with
  | entered here free =>
      rw [enter_cases grounded]
      exact grounded.congr rfl rfl
  | unanswered error here => exact grounded.congr rfl rfl
  | answered here => exact grounded
  | claimed here => exact grounded.claim task.name _
  | panicked here => exact (grounded.refuse task.name _).congr rfl rfl
  | registered interface here => exact grounded.register task _ _ interface
  | counted here => exact grounded.congr rfl rfl
  | dropped here => exact grounded
  | began here free => exact grounded.congr rfl rfl
  | taken here => exact grounded.congr rfl rfl
  | settled here => exact (grounded.settle task.name).congr rfl rfl

/-! ### The account of a name -/

def LeaseFits (pre : Bool) (guards : Nat) : Option HostNameLease → Prop
  | none => guards = 0
  | some lease =>
      lease.registrations = guards ∧ 0 < guards ∧ lease.releaseWhenEmpty = !pre

structure Balanced (conn : PeerId) (name : BusName) (pre : Bool) (objects : HostObjects Served)
    (guards claims : Nat) : Prop where
  counted : LeaseFits pre guards (objects.names.lookup name)
  owned : Owns conn objects name ↔ pre = true ∨ 0 < guards ∨ 0 < claims

variable {guards claims : Nat}

theorem Balanced.congr (balanced : Balanced conn name pre objects guards claims)
    (names : after.names.lookup name = objects.names.lookup name)
    (owns : Owns conn after name ↔ Owns conn objects name) :
    Balanced conn name pre after guards claims := by
  refine ⟨?_, owns.trans balanced.owned⟩
  rw [names]
  exact balanced.counted

theorem LeaseFits.isSome_iff {lease : Option HostNameLease} (fits : LeaseFits pre guards lease) :
    lease.isSome = true ↔ 0 < guards := by
  cases lease with
  | none =>
      have empty : guards = 0 := fits
      simp [empty]
  | some lease =>
      obtain ⟨_, some, _⟩ := fits
      simp [some]

theorem Balanced.holds (balanced : Balanced conn name pre objects guards 0)
    (grounded : Grounded conn objects) :
    objects.holds name = (pre || (objects.names.lookup name).isSome) := by
  rw [Bool.eq_iff_iff, grounded.holds_iff, balanced.owned, Bool.or_eq_true,
    balanced.counted.isSome_iff]
  simp

theorem Grounded.plain (grounded : Grounded conn objects)
    (named : name = BusName.unique conn → pre = true) (owned : Owns conn objects name)
    (claimed : pre = false) : name.isUnique = false := by
  by_contra unique
  have same := grounded.consistent.uniqueOwner name conn owned (Bool.not_eq_false _ ▸ unique)
  rw [named same] at claimed
  cases claimed

theorem Balanced.claim (balanced : Balanced conn name pre objects guards 0)
    (grounded : Grounded conn objects) (before : Bool) :
    (∃ error, (objects.claim name before).2 = .failed error ∧
      Balanced conn name pre (objects.claim name before).1 guards 0) ∨
    (objects.claim name before).2 = .registering (!pre) before ∧
      Balanced conn name pre (objects.claim name before).1 guards 1 := by
  rcases claim_cases grounded name before with
    ⟨error, refused⟩ | ⟨owned, kept⟩ | ⟨free, plain, unreserved, claimed⟩
  · rw [refused]
    exact .inl ⟨error, rfl, balanced.congr rfl Iff.rfl⟩
  · rw [kept]
    have counted := balanced.counted
    have held := balanced.owned.mp owned
    have flag : (objects.names.lookup name).any HostNameLease.releaseWhenEmpty = !pre := by
      cases found : objects.names.lookup name with
      | none =>
          rw [found] at counted
          have empty : guards = 0 := counted
          have own : pre = true := by simpa [empty] using held
          rw [own]
          rfl
      | some lease =>
          rw [found] at counted
          exact counted.2.2
    rw [flag]
    exact .inr ⟨rfl, counted, iff_of_true owned (.inr (.inr Nat.one_pos))⟩
  · rw [claimed]
    have unowned : ¬ Owns conn objects name := by
      intro owned
      rw [Owns, free] at owned
      cases owned
    have fresh : pre = false := by
      rw [← Bool.not_eq_true]
      exact fun own => unowned (balanced.owned.mpr (.inl own))
    rw [fresh]
    refine .inr ⟨rfl, fresh ▸ balanced.counted, iff_of_true ?_ (.inr (.inr Nat.one_pos))⟩
    exact AList.lookup_insert objects.router.names

theorem release_unowned (grounded : Grounded conn objects) (plain : name.isUnique = false) :
    ¬ Owns conn (objects.release name) name := by
  rcases release_cases grounded name with ⟨_, _, released⟩ | ⟨other, kept⟩
  · rw [released]
    intro owned
    have gone : (objects.router.names.erase name).lookup name = none := AList.lookup_erase _ _
    rw [Owns, releasing, gone] at owned
    cases owned
  · rw [kept]
    rcases other with unique | unowned
    · rw [plain] at unique
      cases unique
    · exact unowned

theorem release_names (objects : HostObjects Served) (name : BusName) :
    (objects.release name).names = objects.names := by
  unfold release
  split <;> rfl

theorem Balanced.refuse (balanced : Balanced conn name pre objects guards 1)
    (grounded : Grounded conn objects) (named : name = BusName.unique conn → pre = true) :
    Balanced conn name pre (objects.refuse name (!pre)) guards 0 := by
  have owned : Owns conn objects name := balanced.owned.mpr (.inr (.inr Nat.one_pos))
  have counted := balanced.counted
  unfold HostObjects.refuse
  cases pre with
  | true => exact ⟨counted, iff_of_true owned (.inl rfl)⟩
  | false =>
      cases found : objects.names.lookup name with
      | none =>
          rw [found] at counted
          have empty : guards = 0 := counted
          refine ⟨?_, iff_of_false ?_ ?_⟩
          · change LeaseFits false guards ((objects.release name).names.lookup name)
            rw [release_names, found]
            exact counted
          · exact release_unowned grounded (grounded.plain named owned rfl)
          · simp [empty]
      | some lease =>
          rw [found] at counted
          obtain ⟨count, some, flag⟩ := counted
          refine ⟨?_, iff_of_true owned (.inr (.inl some))⟩
          change LeaseFits false guards ((objects.names.insert name _).lookup name)
          rw [AList.lookup_insert]
          exact ⟨count, some, rfl⟩

theorem Balanced.share (balanced : Balanced conn name pre objects guards 1) :
    Balanced conn name pre (objects.share name (!pre)) (1 + guards) 0 := by
  have owned : Owns conn objects name := balanced.owned.mpr (.inr (.inr Nat.one_pos))
  have counted := balanced.counted
  refine ⟨?_, iff_of_true owned (.inr (.inl (by omega)))⟩
  unfold HostObjects.share
  dsimp only
  rw [AList.lookup_insert]
  cases found : objects.names.lookup name with
  | none =>
      rw [found] at counted
      have empty : guards = 0 := counted
      exact ⟨by rw [empty]; rfl, by omega, Bool.or_self _⟩
  | some lease =>
      rw [found] at counted
      obtain ⟨count, some, flag⟩ := counted
      refine ⟨?_, by omega, ?_⟩
      · dsimp only [Option.getD_some]
        omega
      · dsimp only [Option.getD_some]
        rw [flag, Bool.or_self]

theorem Balanced.settle (balanced : Balanced conn name pre objects (1 + guards) 0)
    (grounded : Grounded conn objects) (named : name = BusName.unique conn → pre = true) :
    Balanced conn name pre (objects.settle name) guards 0 := by
  have owned : Owns conn objects name := balanced.owned.mpr (.inr (.inl (by omega)))
  have counted := balanced.counted
  unfold HostObjects.settle
  cases found : objects.names.lookup name with
  | none =>
      rw [found] at counted
      have empty : 1 + guards = 0 := counted
      omega
  | some lease =>
      rw [found] at counted
      obtain ⟨count, _, flag⟩ := counted
      dsimp only
      by_cases last : lease.registrations - 1 = 0
      · have empty : guards = 0 := by omega
        have erased : (objects.names.erase name).lookup name = none := AList.lookup_erase _ _
        rw [if_pos last, flag]
        cases pre with
        | true =>
            refine ⟨?_, iff_of_true owned (.inl rfl)⟩
            change LeaseFits true guards ((objects.names.erase name).lookup name)
            rw [erased]
            exact empty
        | false =>
            have forgotten : Grounded conn { objects with names := objects.names.erase name } :=
              grounded.congr rfl rfl
            refine ⟨?_, iff_of_false ?_ ?_⟩
            · change LeaseFits false guards
                ((({ objects with names := objects.names.erase name } :
                  HostObjects Served).release name).names.lookup name)
              rw [release_names, erased]
              exact empty
            · exact release_unowned forgotten (grounded.plain named owned rfl)
            · simp [empty]
      · rw [if_neg last]
        refine ⟨?_, iff_of_true owned (.inr (.inl (by omega)))⟩
        change LeaseFits pre guards ((objects.names.insert name _).lookup name)
        rw [AList.lookup_insert]
        exact ⟨by dsimp only; omega, by omega, flag⟩

/-! ### Steps for other names -/

structure Elsewhere (conn : PeerId) (name : BusName) (objects after : HostObjects Served) :
    Prop where
  names : after.names.lookup name = objects.names.lookup name
  owns : Owns conn after name ↔ Owns conn objects name

variable {other : BusName}

theorem Elsewhere.refl (objects : HostObjects Served) : Elsewhere conn name objects objects :=
  ⟨rfl, Iff.rfl⟩

theorem Elsewhere.claiming (different : name ≠ other) :
    Elsewhere conn name objects (claiming conn objects other) := by
  refine ⟨rfl, ?_⟩
  unfold Owns HostObjects.claiming
  rw [AList.lookup_insert_ne different]

theorem Elsewhere.release (grounded : Grounded conn objects) (different : name ≠ other) :
    Elsewhere conn name objects (objects.release other) := by
  rcases release_cases grounded other with ⟨_, _, released⟩ | ⟨_, kept⟩
  · rw [released]
    refine ⟨rfl, ?_⟩
    unfold Owns releasing
    rw [AList.lookup_erase_ne different]
  · rw [kept]
    exact .refl objects

theorem Elsewhere.claim (grounded : Grounded conn objects) (different : name ≠ other)
    (before : Bool) : Elsewhere conn name objects (objects.claim other before).1 := by
  rcases claim_cases grounded other before with ⟨error, refused⟩ | ⟨_, kept⟩ | ⟨_, _, _, claimed⟩
  · rw [refused]
    exact ⟨rfl, Iff.rfl⟩
  · rw [kept]
    exact .refl objects
  · rw [claimed]
    exact .claiming different

theorem Elsewhere.refuse (grounded : Grounded conn objects) (different : name ≠ other)
    (releaseWhenEmpty : Bool) :
    Elsewhere conn name objects (objects.refuse other releaseWhenEmpty) := by
  unfold HostObjects.refuse
  split
  · split
    · exact ⟨AList.lookup_insert_ne different, Iff.rfl⟩
    · exact .release grounded different
  · exact .refl objects

theorem Elsewhere.settle (grounded : Grounded conn objects) (different : name ≠ other) :
    Elsewhere conn name objects (objects.settle other) := by
  have erased : (objects.names.erase other).lookup name = objects.names.lookup name :=
    AList.lookup_erase_ne different
  unfold HostObjects.settle
  split
  · exact .refl objects
  · split
    · dsimp only
      split
      · have forgotten : Grounded conn { objects with names := objects.names.erase other } :=
          grounded.congr rfl rfl
        obtain ⟨names, owns⟩ := Elsewhere.release forgotten different
        exact ⟨names.trans erased, owns⟩
      · exact ⟨erased, Iff.rfl⟩
    · exact ⟨AList.lookup_insert_ne different, Iff.rfl⟩

theorem Stepping.elsewhere (stepping : Stepping id objects task reached)
    (grounded : Grounded conn objects) (different : name ≠ task.name) :
    Elsewhere conn name objects reached.1 := by
  cases stepping with
  | entered here free =>
      rw [enter_cases grounded]
      exact ⟨rfl, Iff.rfl⟩
  | unanswered error here => exact ⟨rfl, Iff.rfl⟩
  | answered here => exact .refl objects
  | claimed here => exact .claim grounded different _
  | panicked here =>
      obtain ⟨names, owns⟩ := Elsewhere.refuse grounded different _
      exact ⟨names, owns⟩
  | registered interface here =>
      unfold register
      split
      · obtain ⟨names, owns⟩ := Elsewhere.refuse grounded different _
        exact ⟨names, owns⟩
      · exact ⟨rfl, Iff.rfl⟩
  | counted here => exact ⟨AList.lookup_insert_ne different, Iff.rfl⟩
  | dropped here => exact .refl objects
  | began here free => exact ⟨rfl, Iff.rfl⟩
  | taken here => exact ⟨rfl, Iff.rfl⟩
  | settled here =>
      obtain ⟨names, owns⟩ := Elsewhere.settle grounded different
      exact ⟨names, owns⟩

/-! ### Steps for the name -/

structure Knows (pre : Bool) (objects : HostObjects Served) (name : BusName)
    (phase : HostObjectPhase) : Prop where
  releases : ∀ releaseWhenEmpty, phase.releases = some releaseWhenEmpty → releaseWhenEmpty = !pre
  before : ∀ before, phase.before = some before →
    before = (pre || (objects.names.lookup name).isSome)

theorem Knows.of_silent (releases : phase.releases = none)
    (before : phase.before = none) : Knows pre objects name phase := by
  refine ⟨?_, ?_⟩
  · intro flag known
    rw [releases] at known
    cases known
  · intro flag known
    rw [before] at known
    cases known

theorem Stepping.balanced (stepping : Stepping id objects task reached)
    (grounded : Grounded conn objects) (named : task.name = BusName.unique conn → pre = true)
    (knows : Knows pre objects task.name task.phase)
    (balanced : Balanced conn task.name pre objects (task.phase.guards + guards)
      (task.phase.claims + 0)) :
    Balanced conn task.name pre reached.1 (reached.2.guards + guards) (reached.2.claims + 0) ∧
      Knows pre reached.1 task.name reached.2 := by
  cases stepping with
  | entered here free =>
      rw [here] at balanced
      have alone : Balanced conn task.name pre objects guards 0 :=
        (Nat.zero_add guards) ▸ balanced
      rw [enter_cases grounded]
      refine ⟨balanced.congr rfl Iff.rfl, nofun, ?_⟩
      intro before known
      cases known
      exact alone.holds grounded
  | unanswered error here =>
      rw [here] at balanced
      exact ⟨balanced.congr rfl Iff.rfl, .of_silent rfl rfl⟩
  | answered here =>
      rw [here] at balanced knows
      exact ⟨balanced, nofun, knows.before⟩
  | @claimed before here =>
      rw [here] at balanced knows
      have alone : Balanced conn task.name pre objects guards 0 :=
        (Nat.zero_add guards) ▸ balanced
      have names : (objects.claim task.name before).1.names = objects.names := by
        unfold claim
        split
        · rfl
        · dsimp only
          split <;> rfl
      rcases alone.claim grounded before with ⟨error, failed, left⟩ | ⟨went, left⟩
      · rw [failed]
        refine ⟨?_, .of_silent rfl rfl⟩
        change Balanced conn task.name pre _ (0 + guards) 0
        rw [Nat.zero_add]
        exact left
      · rw [went]
        refine ⟨?_, ?_, ?_⟩
        · change Balanced conn task.name pre _ (0 + guards) 1
          rw [Nat.zero_add]
          exact left
        · intro flag known
          cases known
          rfl
        · intro seen known
          rw [names]
          exact knows.before seen known
  | panicked here =>
      rw [here] at balanced knows
      rw [knows.releases _ rfl]
      refine ⟨?_, .of_silent rfl rfl⟩
      exact (Balanced.refuse balanced grounded named).congr rfl Iff.rfl
  | registered interface here =>
      rw [here] at balanced knows
      unfold register
      split
      · rw [knows.releases _ rfl]
        refine ⟨?_, .of_silent rfl rfl⟩
        exact (Balanced.refuse balanced grounded named).congr rfl Iff.rfl
      · exact ⟨balanced.congr rfl Iff.rfl, knows.releases, knows.before⟩
  | counted here =>
      rw [here] at balanced knows
      rw [knows.releases _ rfl]
      refine ⟨?_, .of_silent rfl rfl⟩
      have alone : Balanced conn task.name pre objects guards 1 :=
        (Nat.zero_add guards) ▸ balanced
      exact alone.share.congr rfl Iff.rfl
  | dropped here =>
      rw [here] at balanced
      exact ⟨balanced, .of_silent rfl rfl⟩
  | began here free =>
      rw [here] at balanced
      exact ⟨balanced.congr rfl Iff.rfl, .of_silent rfl rfl⟩
  | taken here =>
      rw [here] at balanced
      exact ⟨balanced.congr rfl Iff.rfl, .of_silent rfl rfl⟩
  | settled here =>
      rw [here] at balanced
      refine ⟨?_, .of_silent rfl rfl⟩
      change Balanced conn task.name pre _ (0 + guards) 0
      rw [Nat.zero_add]
      exact (Balanced.settle balanced grounded named).congr rfl Iff.rfl

/-! ### The lock and the exports -/

theorem Stepping.locked (stepping : Stepping id objects task reached)
    (grounded : Grounded conn objects)
    (locked : task.phase.locked = true ↔ objects.lock = some id) :
    (reached.2.locked = true ↔ reached.1.lock = some id) ∧
      ∀ other, other ≠ id → (reached.1.lock = some other ↔ objects.lock = some other) := by
  have taken (free : objects.lock = none) (other : Nat) (different : other ≠ id) :
      some id = some other ↔ objects.lock = some other := by
    rw [free]
    exact iff_of_false (fun same => different (Option.some.inj same).symm) nofun
  have given (mine : objects.lock = some id) (other : Nat) (different : other ≠ id) :
      none = some other ↔ objects.lock = some other := by
    rw [mine]
    exact iff_of_false nofun (fun same => different (Option.some.inj same).symm)
  cases stepping with
  | entered here free =>
      rw [enter_cases grounded]
      exact ⟨iff_of_true rfl rfl, taken free⟩
  | unanswered error here =>
      rw [here] at locked
      exact ⟨iff_of_false nofun nofun, given (locked.mp rfl)⟩
  | answered here =>
      rw [here] at locked
      exact ⟨locked, fun _ _ => Iff.rfl⟩
  | @claimed before here =>
      rw [here] at locked
      rcases claim_cases grounded task.name before with
        ⟨error, refused⟩ | ⟨_, kept⟩ | ⟨_, _, _, claimed⟩
      · rw [refused]
        exact ⟨iff_of_false nofun nofun, given (locked.mp rfl)⟩
      · rw [kept]
        exact ⟨locked, fun _ _ => Iff.rfl⟩
      · rw [claimed]
        exact ⟨locked, fun _ _ => Iff.rfl⟩
  | panicked here =>
      rw [here] at locked
      exact ⟨iff_of_false nofun nofun, given (locked.mp rfl)⟩
  | registered interface here =>
      rw [here] at locked
      unfold register
      split
      · exact ⟨iff_of_false nofun nofun, given (locked.mp rfl)⟩
      · exact ⟨locked, fun _ _ => Iff.rfl⟩
  | counted here =>
      rw [here] at locked
      exact ⟨iff_of_false nofun nofun, given (locked.mp rfl)⟩
  | dropped here =>
      rw [here] at locked
      exact ⟨locked, fun _ _ => Iff.rfl⟩
  | began here free => exact ⟨iff_of_true rfl rfl, taken free⟩
  | taken here =>
      rw [here] at locked
      exact ⟨locked, fun _ _ => Iff.rfl⟩
  | settled here =>
      rw [here] at locked
      exact ⟨iff_of_false nofun nofun, given (locked.mp rfl)⟩

theorem Stepping.names (stepping : Stepping id objects task reached)
    (grounded : Grounded conn objects) (unlocked : task.phase.locked = false) :
    reached.1.names = objects.names := by
  cases stepping with
  | entered here free =>
      rw [enter_cases grounded]
  | dropped here => rfl
  | began here free => rfl
  | unanswered error here => rfl
  | answered here => rfl
  | taken here => rfl
  | registered interface here =>
      rw [here] at unlocked
      cases unlocked
  | _ here =>
      rw [here] at unlocked
      cases unlocked

theorem refuse_tree (objects : HostObjects Served) (name : BusName) (releaseWhenEmpty : Bool) :
    (objects.refuse name releaseWhenEmpty).tree = objects.tree := by
  unfold refuse release
  split
  · split
    · rfl
    · split <;> rfl
  · rfl

theorem settle_tree (objects : HostObjects Served) (name : BusName) :
    (objects.settle name).tree = objects.tree := by
  unfold settle release
  split
  · rfl
  · split
    · dsimp only
      split
      · split <;> rfl
      · rfl
    · rfl

theorem claim_tree (objects : HostObjects Served) (name : BusName) (before : Bool) :
    (objects.claim name before).1.tree = objects.tree := by
  unfold claim
  split
  · rfl
  · dsimp only
    split <;> rfl

theorem Stepping.tree (stepping : Stepping id objects task reached)
    (grounded : Grounded conn objects) :
    reached.1.tree = objects.tree ∨
      (∃ registration, reached.2.registration = some registration ∧
        task.phase.registration = none ∧
        ∃ replaced, objects.tree.insertOwned task.path registration.interface task.interface =
          some ((registration.id, replaced), reached.1.tree) ∧ registration.path = task.path) ∨
      ∃ registration, task.phase = .withdrawing registration ∧
        reached.2 = .withdrawn registration ∧
        reached.1.tree = (objects.tree.takeIfOwned registration).2 := by
  cases stepping with
  | entered here free =>
      rw [enter_cases grounded]
      exact .inl rfl
  | claimed here => exact .inl (objects.claim_tree task.name _)
  | panicked here => exact .inl (objects.refuse_tree task.name _)
  | @registered releaseWhenEmpty before interface here =>
      unfold register
      split
      · exact .inl (objects.refuse_tree task.name _)
      · case _ made replaced tree inserted =>
          refine .inr (.inl ⟨⟨task.path, interface, made⟩, rfl, ?_, replaced, inserted, rfl⟩)
          rw [here]
          rfl
  | taken here => exact .inr (.inr ⟨_, here, rfl, rfl⟩)
  | settled here => exact .inl (objects.settle_tree task.name)
  | _ here => exact .inl rfl

theorem Stepping.taking (stepping : Stepping id objects task reached)
    {registration : ObjectRegistration} (phase : task.phase = .withdrawing registration) :
    reached.1.tree = (objects.tree.takeIfOwned registration).2 := by
  cases stepping with
  | taken here =>
      rw [phase] at here
      cases here
      rfl
  | entered here free =>
      rw [phase] at here
      cases here
  | began here free =>
      rw [phase] at here
      cases here
  | registered interface here =>
      rw [phase] at here
      cases here
  | unanswered error here =>
      rw [phase] at here
      cases here
  | _ here =>
      rw [phase] at here
      cases here

structure Registered (tree : ObjectTree Served) (interface : Served)
    (registration : ObjectRegistration) : Prop where
  issued : registration.id ≤ tree.nextRegistration
  own : ∀ path, ∀ entry ∈ tree.exportsAt path, entry.id = registration.id →
    path = registration.path ∧ entry.name = registration.interface ∧
      entry.interface = interface

theorem Registered.succeeds {tree after : ObjectTree Served} {interface : Served}
    {registration : ObjectRegistration} (registered : Registered tree interface registration)
    (succeeds : tree.Succeeds after) : Registered after interface registration := by
  refine ⟨Nat.le_trans registered.issued succeeds.later, ?_⟩
  intro path entry among same
  rcases succeeds.old path entry among with old | new
  · exact registered.own path entry old same
  · have issued := registered.issued
    omega

theorem Registered.made {tree after : ObjectTree Served} {registration : ObjectRegistration}
    {replaced : List Served}
    (inserted : tree.insertOwned task.path registration.interface task.interface =
      some ((registration.id, replaced), after)) (path : registration.path = task.path) :
    Registered after task.interface registration := by
  obtain ⟨fresh, next, left⟩ := ObjectTree.insertOwned_exportsAt inserted
  refine ⟨Nat.le_of_eq next.symm, ?_⟩
  intro other entry among same
  rw [left other] at among
  have old (place : ObjectPath) (before : entry ∈ tree.exportsAt place) : False := by
    have issued := tree.issued place entry before
    omega
  split at among
  · case _ here =>
      rcases ObjectTree.mem_replaceAt.mp among with ⟨before, _⟩ | rfl
      · exact (old _ before).elim
      · exact ⟨here.trans path.symm, rfl, rfl⟩
  · exact (old other among).elim

/-! ### The invariant -/

def guardsOf (name : BusName) (_ : Nat) (task : HostObjectTask Served) : Nat :=
  if task.name = name then task.phase.guards else 0

def claimsOf (name : BusName) (_ : Nat) (task : HostObjectTask Served) : Nat :=
  if task.name = name then task.phase.claims else 0

structure Accounts (conn : PeerId) (name : BusName) (pre : Bool)
    (state : Tasks (HostObjects Served) (HostObjectTask Served)) : Prop where
  grounded : Grounded conn state.shared
  balanced : Balanced conn name pre state.shared
    (Tasks.weight (guardsOf name) state.tasks) (Tasks.weight (claimsOf name) state.tasks)
  holder : ∀ id, state.shared.lock = some id → ∃ task, state.tasks.lookup id = some task

structure Fits (name : BusName) (pre : Bool) (id : Nat) (objects : HostObjects Served)
    (task : HostObjectTask Served) : Prop where
  locked : task.phase.locked = true ↔ objects.lock = some id
  knows : task.name = name → Knows pre objects name task.phase
  registered : ∀ registration, task.phase.registration = some registration →
    Registered objects.tree task.interface registration

abbrev State (Served : Type u) := Tasks (HostObjects Served) (HostObjectTask Served)

abbrev Event (Served : Type u) :=
  Tasks.Event (HostObjectCall Served) HostObjectChoice (HostObjectOutside Served)

/-- Nobody else requests the name or releases it on the runtime's connection, which
stays attached. -/
def Undisturbed (conn : PeerId) (name : BusName) (state : State Served) :
    Event Served → Prop
  | .outside (.route op) =>
      op.Issued state.shared.router ∧ ¬ op.Frees state.shared.router name conn ∧
        ¬ op.Requests state.shared.router conn name
  | _ => True

variable {state : State Served}

theorem claims_alone (sound : Tasks.Sound (Accounts conn name pre) (Fits name pre) state)
    (mine : state.shared.lock = none ∨ state.shared.lock = some id) :
    Tasks.weight (claimsOf name) (state.tasks.erase id) = 0 := by
  apply Tasks.weight_eq_zero
  intro other bystander found
  rw [Table.lookup_erase_eq] at found
  split at found
  · cases found
  · case _ different =>
      have locked := (sound.own other bystander found).locked
      unfold claimsOf HostObjectPhase.claims
      split
      · cases phase : bystander.phase with
        | registering flag before =>
            rw [phase] at locked
            rw [locked.mp rfl] at mine
            rcases mine with free | same
            · cases free
            · exact absurd (Option.some.inj same) different
        | replacing flag before registration =>
            rw [phase] at locked
            rw [locked.mp rfl] at mine
            rcases mine with free | same
            · cases free
            · exact absurd (Option.some.inj same) different
        | _ => rfl
      · rfl

theorem Stepping.mine (stepping : Stepping id objects task reached)
    (locked : task.phase.locked = true ↔ objects.lock = some id) :
    (objects.lock = none ∨ objects.lock = some id) ∨
      ∃ registration, task.phase = .serving registration ∧
        reached = (objects, .dropped registration) := by
  cases stepping with
  | entered here free => exact .inl (.inl free)
  | began here free => exact .inl (.inl free)
  | dropped here => exact .inr ⟨_, here, rfl⟩
  | registered interface here =>
      rw [here] at locked
      exact .inl (.inr (locked.mp rfl))
  | unanswered error here =>
      rw [here] at locked
      exact .inl (.inr (locked.mp rfl))
  | _ here =>
      rw [here] at locked
      exact .inl (.inr (locked.mp rfl))

theorem Stepping.accounts (stepping : Stepping id state.shared task (after, phase))
    (named : name = BusName.unique conn → pre = true)
    (sound : Tasks.Sound (Accounts conn name pre) (Fits name pre) state)
    (present : state.tasks.lookup id = some task) :
    Balanced conn name pre after
        (Tasks.weight (guardsOf name) (state.tasks.insert id { task with phase := phase }))
        (Tasks.weight (claimsOf name) (state.tasks.insert id { task with phase := phase })) ∧
      (task.name = name → Knows pre after name phase) := by
  have balanced := sound.common.balanced
  have fits := sound.own id task present
  rw [Tasks.weight_erase _ present, Tasks.weight_erase _ present] at balanced
  rw [Tasks.weight_insert, Tasks.weight_insert]
  by_cases same : task.name = name
  · subst same
    unfold guardsOf claimsOf at balanced ⊢
    rw [if_pos rfl, if_pos rfl] at balanced
    dsimp only
    rw [if_pos rfl, if_pos rfl]
    rcases stepping.mine fits.locked with mine | ⟨registration, here, dropped⟩
    · have alone : Tasks.weight (claimsOf task.name) (state.tasks.erase id) = 0 :=
        claims_alone sound mine
      unfold claimsOf at alone
      rw [alone] at balanced ⊢
      obtain ⟨left, knows⟩ :=
        stepping.balanced sound.common.grounded named (fits.knows rfl) balanced
      exact ⟨left, fun _ => knows⟩
    · cases dropped
      rw [here] at balanced
      exact ⟨balanced, fun _ => .of_silent rfl rfl⟩
  · obtain ⟨names, owns⟩ := stepping.elsewhere sound.common.grounded (Ne.symm same)
    refine ⟨?_, fun same' => absurd same' same⟩
    unfold guardsOf claimsOf at balanced ⊢
    rw [if_neg same, if_neg same] at balanced
    dsimp only
    rw [if_neg same, if_neg same]
    exact balanced.congr names owns

theorem Stepping.succeeds (stepping : Stepping id objects task reached)
    (grounded : Grounded conn objects) : objects.tree.Succeeds reached.1.tree := by
  rcases stepping.tree grounded with
    kept | ⟨registration, _, _, replaced, inserted, _⟩ | ⟨registration, _, _, taken⟩
  · rw [kept]
    exact .refl _
  · exact ObjectTree.insertOwned_succeeds inserted
  · rw [taken]
    exact objects.tree.takeIfOwned_succeeds registration

theorem Stepping.registration (stepping : Stepping id objects task reached)
    (grounded : Grounded conn objects) {registration : ObjectRegistration}
    (left : reached.2.registration = some registration) :
    task.phase.registration = some registration ∨
      ∃ replaced, objects.tree.insertOwned task.path registration.interface task.interface =
        some ((registration.id, replaced), reached.1.tree) ∧ registration.path = task.path := by
  cases stepping with
  | entered here free =>
      rw [enter_cases grounded] at left
      cases left
  | unanswered error here => cases left
  | answered here => cases left
  | @claimed before here =>
      rcases claim_cases grounded task.name before with
        ⟨error, refused⟩ | ⟨_, kept⟩ | ⟨_, _, _, claimed⟩
      · rw [refused] at left
        cases left
      · rw [kept] at left
        cases left
      · rw [claimed] at left
        cases left
  | panicked here => cases left
  | registered interface here =>
      unfold register at left ⊢
      split at left
      · cases left
      · case _ made replaced tree inserted =>
          cases left
          rw [inserted]
          exact .inr ⟨replaced, rfl, rfl⟩
  | counted here =>
      rw [here]
      exact .inl left
  | dropped here =>
      rw [here]
      exact .inl left
  | began here free =>
      rw [here]
      exact .inl left
  | taken here =>
      rw [here]
      exact .inl left
  | settled here => cases left

/-! ### The surroundings -/

theorem releaseName_unique (router : Router) (id : PeerId) (number : PeerId) :
    (router.releaseName id (BusName.unique number)).2 = router := by
  unfold Router.releaseName
  rw [if_pos (BusName.isUnique_unique number)]

theorem releaseNameForUnique_unique (router : Router) (unique : BusName) (number : PeerId) :
    (router.releaseNameForUnique unique (BusName.unique number)).2 = router := by
  unfold Router.releaseNameForUnique
  split
  · rfl
  · split
    · rfl
    · exact releaseName_unique router _ number

theorem Grounded.perform (grounded : Grounded conn objects) {op : RouterOp}
    (issued : op.Issued objects.router) (kept : ¬ op.Frees objects.router name conn) :
    Grounded conn { objects with router := (objects.router.perform op).2 } := by
  refine ⟨?_, grounded.unique, ?_⟩
  · exact (Router.perform_performed grounded.consistent op issued).consistent grounded.consistent
  · by_contra lost
    have freed := Router.frees_of_lost grounded.consistent op grounded.attached lost
    apply lost
    cases op with
    | detach id => exact absurd freed kept
    | detachUnique unique => exact absurd freed kept
    | releaseName id released =>
        obtain ⟨_, rfl⟩ := freed
        change (objects.router.releaseName id (BusName.unique conn)).2.names.lookup _ = some conn
        rw [releaseName_unique]
        exact grounded.attached
    | releaseNameForUnique unique released =>
        obtain ⟨_, rfl⟩ := freed
        change (objects.router.releaseNameForUnique unique
          (BusName.unique conn)).2.names.lookup _ = some conn
        rw [releaseNameForUnique_unique]
        exact grounded.attached
    | _ => cases freed

theorem owns_perform (grounded : Grounded conn objects) {op : RouterOp}
    (issued : op.Issued objects.router) (kept : ¬ op.Frees objects.router name conn)
    (unasked : ¬ op.Requests objects.router conn name) :
    Owns conn { objects with router := (objects.router.perform op).2 } name ↔
      Owns conn objects name := by
  have left := grounded.perform issued kept
  constructor
  · intro owned
    by_cases plain : name.isUnique = false
    · rcases Router.perform_plain_owner plain owned with before | ⟨_, asked⟩
      · exact before
      · exact absurd asked unasked
    · have same := left.consistent.uniqueOwner name conn owned (Bool.not_eq_false _ ▸ plain)
      rw [same]
      exact grounded.attached
  · intro owned
    by_contra lost
    exact kept (Router.frees_of_lost grounded.consistent op owned lost)

theorem outside_succeeds (event : HostObjectOutside Served) (state : State Served) :
    state.shared.tree.Succeeds (outside event state).tree := by
  cases event with
  | route op => exact .refl _
  | serveAt path name interface => exact state.shared.tree.insert_succeeds path name interface
  | tryServeAt path name interface =>
      exact state.shared.tree.insertIfAbsent_succeeds path name interface
  | unserve path => exact state.shared.tree.remove_succeeds path

theorem outside_accounts {event : HostObjectOutside Served}
    (accounts : Accounts conn name pre state)
    (undisturbed : Undisturbed conn name state (.outside event)) :
    Accounts conn name pre { state with shared := outside event state } := by
  obtain ⟨grounded, balanced, holder⟩ := accounts
  cases event with
  | route op =>
      obtain ⟨issued, kept, unasked⟩ := undisturbed
      exact ⟨grounded.perform issued kept,
        balanced.congr rfl (owns_perform grounded issued kept unasked), holder⟩
  | serveAt path name interface => exact ⟨grounded.congr rfl rfl, balanced.congr rfl Iff.rfl, holder⟩
  | tryServeAt path name interface =>
      exact ⟨grounded.congr rfl rfl, balanced.congr rfl Iff.rfl, holder⟩
  | unserve path => exact ⟨grounded.congr rfl rfl, balanced.congr rfl Iff.rfl, holder⟩

theorem outside_keeps (event : HostObjectOutside Served) (state : State Served) :
    (outside event state).names = state.shared.names ∧
      (outside event state).lock = state.shared.lock := by
  cases event <;> exact ⟨rfl, rfl⟩

theorem Knows.congr (knows : Knows pre objects name phase)
    (names : after.names = objects.names) : Knows pre after name phase := by
  refine ⟨knows.releases, ?_⟩
  rw [names]
  exact knows.before

theorem Knows.of_unlocked (unlocked : phase.locked = false) :
    Knows pre objects name phase := by
  cases phase <;> first | exact .of_silent rfl rfl | cases unlocked

theorem keeps (named : name = BusName.unique conn → pre = true) :
    Tasks.Keeps (kind : Tasks.Kind (HostObjects Served) _ _ _ _) (Accounts conn name pre) (Fits name pre)
      (Undisturbed conn name) where
  start := by
    intro state id call sound _ vacant
    obtain ⟨grounded, balanced, holder⟩ := sound.common
    have nothing (measure : Nat → HostObjectTask Served → Nat)
        (zero : measure id (kind.start call) = 0) :
        Tasks.weight measure (state.tasks.insert id (kind.start call)) =
          Tasks.weight measure state.tasks := by
      rw [Tasks.weight_insert_vacant measure vacant, zero, Nat.zero_add]
    refine ⟨⟨grounded, ?_, ?_⟩, ?_, fun _ => .of_silent rfl rfl, nofun⟩
    · rw [nothing (guardsOf name) (ite_self 0), nothing (claimsOf name) (ite_self 0)]
      exact balanced
    · intro owner locked
      obtain ⟨task, found⟩ := holder owner locked
      refine ⟨task, ?_⟩
      dsimp only
      rw [Table.lookup_insert_eq, if_neg]
      · exact found
      · intro same
        rw [same, vacant] at found
        cases found
    · refine iff_of_false nofun ?_
      intro locked
      obtain ⟨task, found⟩ := holder id locked
      rw [vacant] at found
      cases found
  step := by
    intro state id choice task shared stepped sound _ present taken
    obtain ⟨phase, rfl, stepping⟩ := step_stepping taken
    have grounded := sound.common.grounded
    have fits := sound.own id task present
    obtain ⟨balanced, knows⟩ := stepping.accounts named sound present
    obtain ⟨locked, others⟩ := stepping.locked grounded fits.locked
    refine ⟨⟨stepping.grounded grounded, balanced, ?_⟩, locked, knows, ?_⟩
    · intro owner held
      dsimp only
      rw [Table.lookup_insert_eq]
      by_cases mine : owner = id
      · rw [if_pos mine]
        exact ⟨_, rfl⟩
      · rw [if_neg mine]
        exact sound.common.holder owner ((others owner mine).mp held)
    · intro registration left
      rcases stepping.registration grounded left with before | ⟨replaced, inserted, path⟩
      · exact (fits.registered registration before).succeeds (stepping.succeeds grounded)
      · exact .made inserted path
  other := by
    intro state id choice task shared stepped other bystander sound _ present taken different found
    obtain ⟨phase, rfl, stepping⟩ := step_stepping taken
    have grounded := sound.common.grounded
    have fits := sound.own id task present
    obtain ⟨mine, knows, registered⟩ := sound.own other bystander found
    obtain ⟨_, others⟩ := stepping.locked grounded fits.locked
    refine ⟨mine.trans (others other different).symm, ?_, ?_⟩
    · intro same
      cases theirs : bystander.phase.locked with
      | false => exact .of_unlocked theirs
      | true =>
          -- The lease cannot change under the lock of another task.
          have unlocked : task.phase.locked = false := by
            rw [← Bool.not_eq_true]
            intro locked
            have both := (fits.locked.mp locked).symm.trans (mine.mp theirs)
            exact different (Option.some.inj both).symm
          exact (knows same).congr (stepping.names grounded unlocked)
    · intro registration left
      exact (registered registration left).succeeds (stepping.succeeds grounded)
  outside := by
    intro state event sound undisturbed
    obtain ⟨names, lock⟩ := outside_keeps event state
    refine ⟨outside_accounts sound.common undisturbed, ?_⟩
    intro id task found
    obtain ⟨locked, knows, registered⟩ := sound.own id task found
    refine ⟨?_, fun same => (knows same).congr names, ?_⟩
    · dsimp only [kind]
      rw [lock]
      exact locked
    · intro registration left
      exact (registered registration left).succeeds (outside_succeeds event state)

/-! ### Runs -/

/-- A runtime whose connection is attached, before any call. -/
structure Fresh (conn : PeerId) (objects : HostObjects Served) : Prop where
  grounded : Grounded conn objects
  names : objects.names = ∅
  unlocked : objects.lock = none

def system (first : HostObjects Served) : System (State Served) (Event Served) :=
  Tasks.system kind (fun objects => objects = first)

/-- The guards of a name that their owners have. -/
def liveGuards (state : State Served) (name : BusName) : Nat :=
  Tasks.weight (fun _ task => if task.name = name then task.phase.live.toNat else 0) state.tasks

def leavingGuards (state : State Served) (name : BusName) : Nat :=
  Tasks.weight (fun _ task => if task.name = name then task.phase.leaving.toNat else 0) state.tasks

/-- The calls that have claimed a name and go on. -/
def runningClaims (state : State Served) (name : BusName) : Nat :=
  Tasks.weight (claimsOf name) state.tasks

def registrations (objects : HostObjects Served) (name : BusName) : Nat :=
  ((objects.names.lookup name).map HostNameLease.registrations).getD 0

theorem weight_guardsOf (state : State Served) (name : BusName) :
    Tasks.weight (guardsOf name) state.tasks = liveGuards state name + leavingGuards state name := by
  unfold liveGuards leavingGuards
  rw [← Tasks.weight_add]
  congr 1
  funext id task
  unfold guardsOf HostObjectPhase.guards
  split <;> rfl

/-- How the broker, the registry and the exports stand to the guards and the calls of a
name, and what the next step of any task does. -/
structure Agree (first : HostObjects Served) (name : BusName) (state : State Served) : Prop where
  owned : state.shared.holds name = true ↔ first.holds name = true ∨
    0 < liveGuards state name + leavingGuards state name ∨ 0 < runningClaims state name
  counted : registrations state.shared name = liveGuards state name + leavingGuards state name
  own : ∀ id task registration, state.tasks.lookup id = some task →
    task.phase.registration = some registration →
      ∀ path, ∀ entry ∈ state.shared.tree.exportsAt path, entry.id = registration.id →
        path = registration.path ∧ entry.name = registration.interface ∧
          entry.interface = task.interface
  removed : ∀ id choice task shared stepped registration, state.tasks.lookup id = some task →
    step id choice state.shared task = some (shared, stepped) →
      task.phase = .withdrawing registration →
        ∀ path, shared.tree.exportsAt path =
          (state.shared.tree.exportsAt path).filter (fun entry => entry.id != registration.id)
  kept : ∀ id choice task shared stepped, state.tasks.lookup id = some task →
    step id choice state.shared task = some (shared, stepped) →
      (∀ registration, task.phase ≠ .withdrawing registration) →
        shared.tree = state.shared.tree ∨
          task.phase.registration = none ∧ stepped.phase.registration ≠ none
  failed : ∀ id choice task shared stepped error, state.tasks.lookup id = some task →
    step id choice state.shared task = some (shared, stepped) →
      stepped.phase = .failed error → shared.tree = state.shared.tree ∧
        task.phase.registration = none ∧
          (task.name = name → task.phase.before = some (shared.holds name))
  others : ∀ id choice task shared stepped, state.tasks.lookup id = some task →
    step id choice state.shared task = some (shared, stepped) → task.name ≠ name →
      shared.holds name = state.shared.holds name

theorem fresh_accounts (fresh : Fresh conn first) (name : BusName) {state : State Served}
    (begins : state.shared = first) (empty : state.tasks = ∅) :
    Accounts conn name (first.holds name) state := by
  obtain ⟨first, tasks⟩ := state
  dsimp only at begins empty
  subst begins empty
  refine ⟨fresh.grounded, ⟨?_, ?_⟩, ?_⟩
  · dsimp only
    rw [fresh.names]
    exact rfl
  · rw [← fresh.grounded.holds_iff]
    change _ ↔ _ ∨ 0 < 0 ∨ 0 < 0
    simp
  · intro id locked
    rw [fresh.unlocked] at locked
    cases locked

theorem sound_of_reachable (fresh : Fresh conn first)
    (reached : ((system first).restrict (Undisturbed conn name)).Reachable state) :
    Tasks.Sound (Accounts conn name (first.holds name)) (Fits name (first.holds name)) state := by
  have named : name = BusName.unique conn → first.holds name = true := by
    rintro rfl
    exact (fresh.grounded.holds_iff _).mpr fresh.grounded.attached
  refine Tasks.sound_of_keeps (keeps named) ?_ reached
  intro state begins empty
  exact fresh_accounts fresh name begins empty

theorem LeaseFits.registrations_eq (fits : LeaseFits pre guards (first.names.lookup name)) :
    registrations first name = guards := by
  unfold registrations
  cases found : first.names.lookup name with
  | none =>
      rw [found] at fits
      have empty : guards = 0 := fits
      rw [empty]
      rfl
  | some lease =>
      rw [found] at fits
      exact fits.1

theorem Stepping.failing {error : Error}
    (stepping : Stepping id objects task (after, .failed error))
    (grounded : Grounded conn objects) :
    task.phase.locked = true ∧ task.phase.guards = 0 ∧ task.phase.registration = none ∧
      ∃ before, task.phase.before = some before := by
  generalize reaches : (after, HostObjectPhase.failed error) = reached at stepping
  cases stepping with
  | entered here free =>
      rw [enter_cases grounded] at reaches
      cases reaches
  | unanswered error here =>
      rw [here]
      exact ⟨rfl, rfl, rfl, _, rfl⟩
  | claimed here =>
      rw [here]
      exact ⟨rfl, rfl, rfl, _, rfl⟩
  | panicked here =>
      rw [here]
      exact ⟨rfl, rfl, rfl, _, rfl⟩
  | registered interface here =>
      rw [here]
      exact ⟨rfl, rfl, rfl, _, rfl⟩
  | _ here => cases reaches

theorem Stepping.restores {error : Error}
    (stepping : Stepping id state.shared task (after, .failed error))
    (named : task.name = BusName.unique conn → pre = true)
    (sound : Tasks.Sound (Accounts conn task.name pre) (Fits task.name pre) state)
    (present : state.tasks.lookup id = some task) :
    task.phase.before = some (after.holds task.name) := by
  have grounded := sound.common.grounded
  have fits := sound.own id task present
  obtain ⟨locked, guards, _, before, known⟩ := stepping.failing grounded
  have alone : Tasks.weight (claimsOf task.name) (state.tasks.erase id) = 0 :=
    claims_alone sound (.inr (fits.locked.mp locked))
  obtain ⟨left, _⟩ := stepping.accounts named sound present
  have counted := sound.common.balanced.counted.isSome_iff
  rw [Tasks.weight_erase _ present] at counted
  rw [Tasks.weight_insert, Tasks.weight_insert, alone] at left
  unfold guardsOf at counted
  unfold guardsOf claimsOf at left
  rw [if_pos rfl, guards] at counted
  rw [if_pos rfl, if_pos rfl] at left
  have holds := (stepping.grounded grounded).holds_iff task.name
  rw [known, (fits.knows rfl).before before known]
  congr 1
  rw [Bool.eq_iff_iff, Bool.or_eq_true, counted, holds, left.owned]
  unfold HostObjectPhase.guards HostObjectPhase.claims
  simp [HostObjectPhase.live, HostObjectPhase.leaving, HostObjectPhase.claimed]

/-- Whatever the calls, the drops of guards and the other peers do, and in any order: the
name is owned for its guards and calls, or as before; its lease counts its guards, each
of them until its removal has ended; a removal takes out the export of its guard alone;
and a call that fails leaves the exports and the ownership of names as they were. -/
theorem host_objects_agree {first : HostObjects Served} (fresh : Fresh conn first)
    (reached : ((system first).restrict (Undisturbed conn name)).Reachable state) :
    Agree first name state := by
  have sound := sound_of_reachable fresh reached
  have grounded := sound.common.grounded
  have balanced := sound.common.balanced
  have named : name = BusName.unique conn → first.holds name = true := by
    rintro rfl
    exact (fresh.grounded.holds_iff _).mpr fresh.grounded.attached
  constructor
  · rw [grounded.holds_iff, balanced.owned, weight_guardsOf]
    rfl
  · rw [balanced.counted.registrations_eq, weight_guardsOf]
  · intro id task registration present known
    exact ((sound.own id task present).registered registration known).own
  · intro id choice task shared stepped registration present taken here path
    obtain ⟨phase, rfl, stepping⟩ := step_stepping taken
    have registered := (sound.own id task present).registered registration (by rw [here]; rfl)
    have left := stepping.taking here
    dsimp only at left
    rw [left]
    refine ObjectTree.takeIfOwned_exportsAt ?_ path
    intro place entry among same
    obtain ⟨path, name, _⟩ := registered.own place entry among same
    exact ⟨path, name⟩
  · intro id choice task shared stepped present taken elsewhere
    obtain ⟨phase, rfl, stepping⟩ := step_stepping taken
    rcases stepping.tree grounded with kept | ⟨registration, made, none, _⟩ | ⟨registration, here, _⟩
    · exact .inl kept
    · refine .inr ⟨none, ?_⟩
      dsimp only at made ⊢
      rw [made]
      exact nofun
    · exact absurd here (elsewhere registration)
  · intro id choice task shared stepped error present taken failed
    obtain ⟨phase, rfl, stepping⟩ := step_stepping taken
    dsimp only at failed
    subst failed
    obtain ⟨_, _, unregistered, _⟩ := stepping.failing grounded
    refine ⟨?_, unregistered, ?_⟩
    · rcases stepping.tree grounded with kept | ⟨_, made, _⟩ | ⟨_, _, left, _⟩
      · exact kept
      · cases made
      · cases left
    · intro same
      subst same
      exact stepping.restores named sound present
  · intro id choice task shared stepped present taken different
    obtain ⟨phase, rfl, stepping⟩ := step_stepping taken
    have elsewhere := stepping.elsewhere grounded (Ne.symm different)
    rw [Bool.eq_iff_iff, grounded.holds_iff, (stepping.grounded grounded).holds_iff]
    exact elsewhere.owns

/-! ### A dropped guard -/

def playerPath : ObjectPath := ⟨"/player", by rfl⟩
def playerInterface : InterfaceName := ⟨"ai.tinyhumans.openhuman.Player", by rfl⟩

/-- A runtime with its connection attached, and nothing exported. -/
def quietRuntime : HostObjects Nat :=
  { router := (Router.empty.attach 0).2, tree := .new, unique := some (BusName.unique 1)
    names := ∅, lock := none }

theorem quietRuntime_fresh : Fresh 1 quietRuntime :=
  ⟨⟨Router.consistent_empty.attach 0, rfl, rfl⟩, rfl, rfl⟩

def servedAndDropped : List (Event Nat) :=
  [.start 0 ⟨playerName, playerPath, 7⟩, .advance 0 .lock, .advance 0 (.asked (.ok ())),
    .advance 0 .claim, .advance 0 (.named playerInterface), .advance 0 .joined, .advance 0 .drop]

def afterDrop : State Nat :=
  servedAndDropped.foldl (Tasks.next kind) { shared := quietRuntime, tasks := ∅ }

def fromCalls : Event Nat → Bool
  | .outside _ => false
  | _ => true

theorem fromCalls_undisturbed {state : State Nat} {event : Event Nat}
    (own : fromCalls event = true) : Undisturbed conn name state event := by
  cases event with
  | outside event => cases own
  | _ => trivial

theorem afterDrop_reached :
    ((system quietRuntime).restrict (Undisturbed 1 playerName)).Reachable afterDrop := by
  have run : ((system quietRuntime).restrict (Undisturbed 1 playerName)).Run
      { shared := quietRuntime, tasks := ∅ } servedAndDropped afterDrop :=
    System.Run.of_checked (fun _ _ => fromCalls_undisturbed) (by decide)
  exact ⟨_, _, ⟨rfl, rfl⟩, run⟩

theorem afterDrop_agrees : Agree quietRuntime playerName afterDrop :=
  host_objects_agree quietRuntime_fresh afterDrop_reached

/-- The guard is gone and no call runs, but its name is still owned, and counted. -/
theorem droppedGuard_counted :
    ¬ ∀ state : State Nat,
      ((system quietRuntime).restrict (Undisturbed 1 playerName)).Reachable state →
        registrations state.shared playerName = liveGuards state playerName ∧
          (state.shared.holds playerName = true ↔ quietRuntime.holds playerName = true ∨
            0 < liveGuards state playerName ∨ 0 < runningClaims state playerName) := by
  intro every
  have counted := (every afterDrop afterDrop_reached).1
  have one : registrations afterDrop.shared playerName = 1 := by decide
  have none : liveGuards afterDrop playerName = 0 := by decide
  rw [one, none] at counted
  cases counted

end HostObjects

end TinyBus
