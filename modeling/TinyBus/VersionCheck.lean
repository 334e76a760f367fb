/-
Whether a consumer can call an interface on a provider.  Both sides are asked: what
the provider speaks has to be accepted by the consumer, and the other way round.
-/

import TinyBus.VersionOrder

namespace TinyBus

namespace InterfaceVersion

/-- An interface that a peer implements, with the whole compatible series accepted. -/
def provided (interface : InterfaceName) (version : Version) : InterfaceVersion :=
  ⟨interface, version, version.compatibleSeries⟩

/-- An interface that a peer calls, by the caret rule. -/
def consumed (interface : InterfaceName) (version : Version) : InterfaceVersion :=
  ⟨interface, version, version.caret⟩

end InterfaceVersion

inductive Compatibility where
  | compatible (providerSpeaks consumerSpeaks : Version)
  | consumerRejects (providerSpeaks : Version) (consumerAccepts : VersionRange)
  | providerRejects (consumerSpeaks : Version) (providerAccepts : VersionRange)
  | notProvided
  deriving DecidableEq

def Compatibility.isCompatible : Compatibility → Bool
  | .compatible _ _ => true
  | _ => false

namespace PeerManifest

def provided (manifest : PeerManifest) (interface : InterfaceName) : Option InterfaceVersion :=
  manifest.provides.find? (fun declared => declared.interface = interface)

def consumed (manifest : PeerManifest) (interface : InterfaceName) : Option InterfaceVersion :=
  manifest.consumes.find? (fun declared => declared.interface = interface)

/-- A consumer that declares nothing for the interface accepts anything. -/
def check (provider consumer : PeerManifest) (interface : InterfaceName) : Compatibility :=
  match provider.provided interface with
  | none => .notProvided
  | some provided =>
      match consumer.consumed interface with
      | none => .compatible provided.speaks provided.speaks
      | some consumed =>
          if !consumed.accepts.accepts provided.speaks then
            .consumerRejects provided.speaks consumed.accepts
          else if !provided.accepts.accepts consumed.speaks then
            .providerRejects consumed.speaks provided.accepts
          else .compatible provided.speaks consumed.speaks

theorem check_declared {provider consumer : PeerManifest} {interface : InterfaceName}
    {provides consumes : InterfaceVersion} (offered : provider.provided interface = some provides)
    (called : consumer.consumed interface = some consumes) :
    (provider.check consumer interface).isCompatible = true ↔
      consumes.accepts.accepts provides.speaks = true ∧
        provides.accepts.accepts consumes.speaks = true := by
  unfold check
  simp only [offered, called]
  cases consumes.accepts.accepts provides.speaks with
  | false => simp [Compatibility.isCompatible]
  | true => cases provides.accepts.accepts consumes.speaks <;> simp [Compatibility.isCompatible]

end PeerManifest

namespace Version

variable {provider consumer : Version}

theorem less_iff_toNat {left right : Version} :
    left.Less right ↔ left.major.toNat < right.major.toNat ∨
      left.major.toNat = right.major.toNat ∧ (left.minor.toNat < right.minor.toNat ∨
        left.minor.toNat = right.minor.toNat ∧ left.patch.toNat < right.patch.toNat) := by
  unfold Less
  simp only [UInt64.lt_iff_toNat_lt, UInt64.toNat_inj]

theorem same_series (room : ¬ consumer.AtLimit) (above : ¬ provider.Less consumer)
    (below : provider.Less consumer.nextBreaking) :
    provider.major.toNat = consumer.major.toNat ∧
      (consumer.major = 0 → provider.minor.toNat = consumer.minor.toNat) := by
  have grown := (breaksForward_iff consumer).mpr room |>.exact
  unfold breakingComponent at grown
  rw [less_iff_toNat] at above below
  unfold nextBreaking at below
  by_cases zero : consumer.major = 0
  · rw [if_pos zero] at grown below
    have none : consumer.major.toNat = 0 := by rw [zero]; rfl
    change _ ∨ _ ∧ (_ < (consumer.minor + 1).toNat ∨ _) at below
    change provider.major.toNat < 0 ∨ provider.major.toNat = 0 ∧
      (_ ∨ _ ∧ provider.patch.toNat < 0) at below
    omega
  · rw [if_neg zero] at grown below
    change _ < (consumer.major + 1).toNat ∨ _ ∧ (provider.minor.toNat < 0 ∨
      _ ∧ provider.patch.toNat < 0) at below
    refine ⟨by omega, fun same => absurd same zero⟩

theorem series_accepts (roomProvider : ¬ provider.AtLimit) (room : ¬ consumer.AtLimit)
    (above : ¬ provider.Less consumer) (below : provider.Less consumer.nextBreaking) :
    provider.compatibleSeries.accepts consumer = true := by
  obtain ⟨major, minor⟩ := same_series room above below
  have greater := less_nextBreaking roomProvider
  refine accepts_iff.mpr ⟨?_, ?_⟩
  · rw [less_iff_toNat]
    by_cases zero : provider.major = 0
    · have consumerZero : consumer.major = 0 := by
        rw [← UInt64.toNat_inj, ← major, zero]
      have same := minor consumerZero
      have none : consumer.major.toNat = 0 := by rw [consumerZero]; rfl
      rw [if_pos zero]
      change ¬ (consumer.major.toNat < 0 ∨ _ ∧ (_ ∨ _ ∧ consumer.patch.toNat < 0))
      change ¬ (_ ∨ _ ∧ (consumer.minor.toNat < provider.minor.toNat ∨ _))
      omega
    · rw [if_neg zero]
      change ¬ (consumer.major.toNat < provider.major.toNat ∨
        _ ∧ (consumer.minor.toNat < 0 ∨ _ ∧ consumer.patch.toNat < 0))
      omega
  · rw [less_iff_toNat] at above greater ⊢
    omega

/-- Where both sides keep to their defaults, the check is one interval: at or above what
the consumer was written against, and below what breaks it. -/
theorem default_check_iff {provides consumes : PeerManifest} {interface : InterfaceName}
    (offered : provides.provided interface = some (.provided interface provider))
    (called : consumes.consumed interface = some (.consumed interface consumer))
    (roomProvider : ¬ provider.AtLimit) (room : ¬ consumer.AtLimit) :
    (provides.check consumes interface).isCompatible = true ↔
      ¬ provider.Less consumer ∧ provider.Less consumer.nextBreaking := by
  rw [PeerManifest.check_declared offered called]
  constructor
  · rintro ⟨accepted, _⟩
    exact accepts_iff.mp accepted
  · rintro ⟨above, below⟩
    exact ⟨accepts_iff.mpr ⟨above, below⟩, series_accepts roomProvider room above below⟩

private def voiceName : InterfaceName := ⟨"ai.tinyhumans.Voice", by rfl⟩

private def voiceProvider : PeerManifest :=
  ⟨"voice", none, [.provided voiceName ⟨2, 3, 0, none⟩], []⟩

private def voiceConsumer : PeerManifest :=
  ⟨"kernel", none, [], [.consumed voiceName ⟨2, 1, 0, some "rc.1"⟩]⟩

theorem voiceProvider_compatible :
    (voiceProvider.check voiceConsumer voiceName).isCompatible = true ↔
      ¬ Less ⟨2, 3, 0, none⟩ ⟨2, 1, 0, some "rc.1"⟩ ∧
        Less ⟨2, 3, 0, none⟩ (nextBreaking ⟨2, 1, 0, some "rc.1"⟩) :=
  default_check_iff (by decide) (by decide) (by decide) (by decide)

end Version

end TinyBus
