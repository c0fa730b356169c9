import ProtoTime.Host.RealtimeVideoMailbox
import Mathlib.Data.List.Basic

/-!
The mailbox protocol: who owns which slot, what the slots hold, and what the counters count,
in every state that any interleaving of the two sides reaches.
-/
namespace ProtoTime.RealtimeVideo
open Transition

theorem slot_bits : ∀ slot ∈ [(0 : BitVec 8), 1, 2],
    (kDirty ||| slot) &&& kSlotMask = slot ∧ ((kDirty ||| slot) &&& kDirty != 0) = true ∧
      slot &&& kSlotMask = slot ∧ (slot &&& kDirty != 0) = false := by decide

namespace RealtimeVideoMailbox

/-- The three indices held are the three slots, each once. -/
def SlotsHeld (s : RealtimeVideoMailbox) : Prop :=
  [s.producerHeld, s.mailboxHeld, s.consumerHeld].Perm [0, 1, 2]

variable {published : PublishedRealtimeVideoPacket}

namespace SlotsHeld

variable {s : RealtimeVideoMailbox} (hs : s.SlotsHeld)
include hs

theorem mem_slots : s.producerHeld ∈ [(0 : BitVec 8), 1, 2] ∧
    s.mailboxHeld ∈ [(0 : BitVec 8), 1, 2] ∧ s.consumerHeld ∈ [(0 : BitVec 8), 1, 2] :=
  ⟨hs.subset (by simp), hs.subset (by simp), hs.subset (by simp)⟩

theorem distinct : s.producerHeld ≠ s.mailboxHeld ∧
    s.producerHeld ≠ s.consumerHeld ∧ s.mailboxHeld ≠ s.consumerHeld := by
  have hn : [s.producerHeld, s.mailboxHeld, s.consumerHeld].Nodup :=
    (List.Perm.nodup_iff hs).mpr (by decide)
  simp only [List.nodup_cons, List.mem_cons, List.not_mem_nil, or_false, not_or] at hn
  exact ⟨hn.1.1, hn.1.2, hn.2.1⟩

theorem of_same {t : RealtimeVideoMailbox} (hp : t.producerHeld = s.producerHeld)
    (hm : t.mailboxHeld = s.mailboxHeld) (hc : t.consumerHeld = s.consumerHeld) : t.SlotsHeld := by
  rw [SlotsHeld, hp, hm, hc]
  exact hs

theorem producer_exchange (h : s.producer = .exchanging published) : s.stepProducer.SlotsHeld := by
  have hheld : s.producerHeld = s.producerSlot := by simp [producerHeld, h]
  have hbits := slot_bits _ hs.mem_slots.1
  have hp : s.stepProducer.producerHeld = s.mailboxHeld := by
    simp [stepProducer, h, producerHeld, mailboxHeld]
  have hm : s.stepProducer.mailboxHeld = s.producerHeld := by
    simpa [stepProducer, h, mailboxHeld, hheld] using hbits.1
  have hc : s.stepProducer.consumerHeld = s.consumerHeld := by
    simp [stepProducer, h, consumerHeld]
  rw [SlotsHeld, hp, hm, hc]
  exact (List.Perm.swap _ _ _).trans hs

theorem consumer_exchange {now : BitVec 64} (h : s.consumer = .exchanging) :
    (s.stepConsumer now).SlotsHeld := by
  have hheld : s.consumerHeld = s.consumerSlot := by simp [consumerHeld, h]
  have hbits := slot_bits _ hs.mem_slots.2.2
  have hp : (s.stepConsumer now).producerHeld = s.producerHeld := by
    simp [stepConsumer, h, producerHeld]
  have hm : (s.stepConsumer now).mailboxHeld = s.consumerHeld := by
    simpa [stepConsumer, h, mailboxHeld, hheld] using hbits.2.2.1
  have hc : (s.stepConsumer now).consumerHeld = s.mailboxHeld := by
    simp [stepConsumer, h, consumerHeld, mailboxHeld]
  rw [SlotsHeld, hp, hm, hc]
  exact ((List.Perm.swap _ _ _).cons _).trans hs

end SlotsHeld

/-- What the slots hold and how the history has gone, seen from where both sides stand. -/
structure Protocol (s : RealtimeVideoMailbox) : Prop where
  slotsHeld : s.SlotsHeld
  writing : ∀ slot, (s.slots slot).beingWritten = true →
    slot = s.producerSlot ∧ ∃ published, s.producer = .writing published
  written : ∀ published, s.producer = .exchanging published →
    s.slots s.producerSlot = { published := published }
  offered : s.hasPending = true → s.history.acquiredAt < s.history.published.length ∧
    ∃ published, s.history.published[s.history.published.length - 1]? = some published ∧
      s.slots s.mailboxHeld = { published := published }
  taken : s.hasPending = false → s.history.acquiredAt = s.history.published.length
  exchanging : s.consumer = .exchanging → s.hasPending = true
  acquired : ∀ previous, s.consumer = .takingSlot previous → (previous &&& kDirty != 0) = true
  inHand : s.consumer.inHand = 1 → 0 < s.history.acquiredAt ∧
    (∃ published, s.history.published[s.history.acquiredAt - 1]? = some published ∧
      s.slots s.consumerHeld = { published := published }) ∧
    ∀ entry ∈ s.history.consumed, entry.1 < s.history.acquiredAt
  consumed : ∀ entry ∈ s.history.consumed, 0 < entry.1 ∧ entry.1 ≤ s.history.acquiredAt ∧
    entry.2.beingWritten = false ∧
    s.history.published[entry.1 - 1]? = some entry.2.published
  ordered : (s.history.consumed.map Prod.fst).Pairwise (· < ·)
  accounted : s.history.published.length = s.history.consumed.length + s.consumer.inHand +
    s.history.overwritten + (if s.hasPending then 1 else 0)

/-- The counters are behind the history by the operations in progress. -/
structure Counted (s : RealtimeVideoMailbox) : Prop where
  published : s.stats.publishedFrameCount + BitVec.ofNat 64 s.producer.uncountedPublished =
    BitVec.ofNat 64 s.history.published.length
  overwritten : s.stats.overwriteCount + BitVec.ofNat 64 s.producer.uncountedOverwrites =
    BitVec.ofNat 64 s.history.overwritten
  consumed : s.stats.consumedFrameCount + BitVec.ofNat 64 s.consumer.uncountedConsumed =
    BitVec.ofNat 64 s.history.consumed.length

theorem protocol_initial : Protocol {} where
  slotsHeld := by
    unfold SlotsHeld
    decide
  writing := by simp
  written := by simp
  offered := by decide
  taken := by decide
  exchanging := by simp
  acquired := by simp
  inHand := by simp [Consumer.inHand]
  consumed := by simp
  ordered := by simp
  accounted := by decide

theorem getElem?_append_of_some {published : List PublishedRealtimeVideoPacket} {i : ℕ}
    {packet last : PublishedRealtimeVideoPacket} (h : published[i]? = some packet) :
    (published ++ [last])[i]? = some packet := by
  have hi : i < published.length := (List.getElem?_eq_some_iff.mp h).1
  rw [List.getElem?_append_left hi, h]

variable {s : RealtimeVideoMailbox}

section

variable (hs : Protocol s)
include hs

theorem Protocol.acquiredAt_le : s.history.acquiredAt ≤ s.history.published.length := by
  cases h : s.hasPending with
  | true => exact Nat.le_of_lt (hs.offered h).1
  | false => exact Nat.le_of_eq (hs.taken h)

/-- The producer's slot is neither the mailbox's nor the consumer's, so filling it keeps the
protocol. -/
theorem Protocol.fillProducerSlot {value : Slot} {producer : Producer}
    (hheld : s.producerHeld = s.producerSlot)
    (hnew : ({ s with producer := producer } : RealtimeVideoMailbox).producerHeld = s.producerSlot)
    (hwriting : value.beingWritten = true → ∃ published, producer = .writing published)
    (hwritten : ∀ published, producer = .exchanging published → value = { published := published }) :
    Protocol { s with
      slots := Function.update s.slots s.producerSlot value, producer := producer } := by
  obtain ⟨hpm, hpc, -⟩ := hs.slotsHeld.distinct
  rw [hheld] at hpm hpc
  exact
    { hs with
      slotsHeld := hs.slotsHeld.of_same (hnew.trans hheld.symm) rfl rfl
      writing := by
        intro slot hslot
        by_cases hi : slot = s.producerSlot
        · subst hi
          simp only [Function.update_self] at hslot
          exact ⟨rfl, hwriting hslot⟩
        · simp only [Function.update_of_ne hi] at hslot
          obtain ⟨hat, -⟩ := hs.writing slot hslot
          exact absurd hat hi
      written := by
        intro published hp
        exact (Function.update_self ..).trans (hwritten published hp)
      offered := by
        intro hp
        obtain ⟨hlt, published, hlast, hslot⟩ := hs.offered hp
        exact ⟨hlt, published, hlast, (Function.update_of_ne hpm.symm _ _).trans hslot⟩
      inHand := by
        intro hh
        obtain ⟨hpos, ⟨published, hlast, hslot⟩, hall⟩ := hs.inHand hh
        exact ⟨hpos, ⟨published, hlast, (Function.update_of_ne hpc.symm _ _).trans hslot⟩, hall⟩ }

theorem Protocol.beginPublish (packet : RealtimeVideoPacket) (lifecycleEpoch now : BitVec 64) :
    Protocol (s.beginPublish packet lifecycleEpoch now) := by
  unfold RealtimeVideoMailbox.beginPublish
  split
  · next h =>
    split
    · exact hs
    · exact hs.fillProducerSlot (by simp [producerHeld, h]) rfl (fun _ => ⟨_, rfl⟩) (by simp)
  · exact hs

/-- A producer step that touches neither the slots nor the shared byte keeps the protocol. -/
theorem Protocol.producer_counts {slot : BitVec 8} {stats : Stats} {producer : Producer}
    (hheld : ({ s with producerSlot := slot, stats := stats, producer := producer } :
      RealtimeVideoMailbox).producerHeld = s.producerHeld)
    (hold : ∀ published, s.producer ≠ .writing published)
    (hnew : ∀ published, producer ≠ .exchanging published) :
    Protocol { s with producerSlot := slot, stats := stats, producer := producer } :=
  { hs with
    slotsHeld := hs.slotsHeld.of_same hheld rfl rfl
    writing := by
      intro i hi
      obtain ⟨-, published, hp⟩ := hs.writing i hi
      exact absurd hp (hold published)
    written := fun published hp => absurd hp (hnew published) }

/-- A consumer step with nothing in hand before or after keeps the protocol. -/
theorem Protocol.consumer_counts {stats : Stats} {consumer : Consumer}
    (hheld : ({ s with stats := stats, consumer := consumer } :
      RealtimeVideoMailbox).consumerHeld = s.consumerHeld)
    (hold : s.consumer.inHand = 0) (hnew : consumer.inHand = 0)
    (hexchanging : consumer = .exchanging → s.hasPending = true) :
    Protocol { s with stats := stats, consumer := consumer } :=
  { hs with
    slotsHeld := hs.slotsHeld.of_same rfl rfl hheld
    exchanging := hexchanging
    acquired := by
      rintro previous rfl
      simp [Consumer.inHand] at hnew
    inHand := fun h => absurd (h.symm.trans hnew) Nat.one_ne_zero
    accounted := by
      have h := hs.accounted
      rw [hold] at h
      simp only [hnew]
      exact h }

theorem Protocol.write (h : s.producer = .writing published) : Protocol s.stepProducer := by
  simp only [stepProducer, h]
  exact hs.fillProducerSlot (by simp [producerHeld, h]) rfl (by simp) (by simp)

theorem Protocol.offer (h : s.producer = .exchanging published) : Protocol s.stepProducer := by
  have hheld : s.producerHeld = s.producerSlot := by simp [producerHeld, h]
  have hbits := slot_bits _ hs.slotsHeld.mem_slots.1
  rw [hheld] at hbits
  have hslots := hs.slotsHeld.producer_exchange h
  have hpending : s.stepProducer.hasPending = true := by
    simpa [hasPending, stepProducer, h] using hbits.2.1
  have hle := hs.acquiredAt_le
  refine
    { slotsHeld := hslots
      writing := ?_
      written := by simp [stepProducer, h]
      offered := ?_
      taken := fun hp => by rw [hpending] at hp; cases hp
      exchanging := fun _ => hpending
      acquired := by simpa [stepProducer, h] using hs.acquired
      inHand := ?_
      consumed := ?_
      ordered := by simpa [stepProducer, h] using hs.ordered
      accounted := ?_ }
  · intro slot hslot
    obtain ⟨-, other, hother⟩ := hs.writing slot (by simpa [stepProducer, h] using hslot)
    rw [h] at hother
    cases hother
  · intro _
    refine ⟨by simp [stepProducer, h]; omega, published, by simp [stepProducer, h], ?_⟩
    have hw := hs.written published h
    simp only [stepProducer, h, mailboxHeld]
    rw [hbits.1]
    exact hw
  · intro hh
    obtain ⟨hpos, ⟨last, hlast, hslot⟩, hall⟩ :=
      hs.inHand (by simpa [stepProducer, h] using hh)
    refine ⟨by simpa [stepProducer, h] using hpos, ⟨last, ?_, ?_⟩,
      by simpa [stepProducer, h] using hall⟩
    · simpa [stepProducer, h] using getElem?_append_of_some hlast
    · simpa [stepProducer, h, consumerHeld] using hslot
  · intro entry hentry
    obtain ⟨hpos, hat, hw, hpub⟩ := hs.consumed entry (by simpa [stepProducer, h] using hentry)
    refine ⟨hpos, by simpa [stepProducer, h] using hat, hw, ?_⟩
    simpa [stepProducer, h] using getElem?_append_of_some hpub
  · have ha := hs.accounted
    rw [hpending]
    simp only [stepProducer, h, List.length_append, List.length_singleton, ↓reduceIte]
    omega

variable {now : BitVec 64}

theorem Protocol.acquire (h : s.consumer = .exchanging) : Protocol (s.stepConsumer now) := by
  have hheld : s.consumerHeld = s.consumerSlot := by simp [consumerHeld, h]
  have hbits := slot_bits _ hs.slotsHeld.mem_slots.2.2
  rw [hheld] at hbits
  have hpending := hs.exchanging h
  obtain ⟨hlt, last, hlast, hslot⟩ := hs.offered hpending
  have hclean : (s.stepConsumer now).hasPending = false := by
    simpa [hasPending, stepConsumer, h] using hbits.2.2.2
  refine
    { slotsHeld := hs.slotsHeld.consumer_exchange h
      writing := by simpa [stepConsumer, h] using hs.writing
      written := by simpa [stepConsumer, h] using hs.written
      offered := fun hp => by rw [hclean] at hp; cases hp
      taken := by simp [stepConsumer, h]
      exchanging := by simp [stepConsumer, h]
      acquired := ?_
      inHand := ?_
      consumed := ?_
      ordered := by simpa [stepConsumer, h] using hs.ordered
      accounted := ?_ }
  · intro previous hprevious
    simp only [stepConsumer, h, Consumer.takingSlot.injEq] at hprevious
    rw [← hprevious]
    exact hpending
  · intro _
    simp only [stepConsumer, h, consumerHeld]
    refine ⟨by omega, ⟨last, hlast, hslot⟩, ?_⟩
    intro entry hentry
    have := (hs.consumed entry hentry).2.1
    omega
  · intro entry hentry
    obtain ⟨hpos, hat, hrest⟩ := hs.consumed entry (by simpa [stepConsumer, h] using hentry)
    refine ⟨hpos, ?_, by simpa [stepConsumer, h] using hrest⟩
    simp only [stepConsumer, h]
    omega
  · have ha := hs.accounted
    rw [hclean]
    rw [hpending] at ha
    simp only [stepConsumer, h, Consumer.inHand, ↓reduceIte, Bool.false_eq_true] at ha ⊢
    omega

theorem Protocol.takeSlot {previous : BitVec 8} (h : s.consumer = .takingSlot previous) :
    Protocol (s.stepConsumer now) := by
  have hdirty := hs.acquired previous h
  have hne : (previous &&& kDirty == 0) = false := by
    simpa [bne] using hdirty
  have hhand : s.consumer.inHand = 1 := by rw [h]; rfl
  have hheld : s.consumerHeld = previous &&& kSlotMask := by simp [consumerHeld, h]
  simp only [stepConsumer, h, hne, Bool.false_eq_true, ↓reduceIte]
  exact
    { hs with
      slotsHeld := hs.slotsHeld.of_same rfl rfl hheld.symm
      exchanging := by simp
      acquired := by simp
      inHand := by
        intro _
        obtain ⟨hpos, ⟨last, hlast, hslot⟩, hall⟩ := hs.inHand hhand
        rw [hheld] at hslot
        exact ⟨hpos, ⟨last, hlast, hslot⟩, hall⟩
      accounted := by
        have ha := hs.accounted
        rw [hhand] at ha
        exact ha }

theorem Protocol.moveOut (h : s.consumer = .movingOut) : Protocol (s.stepConsumer now) := by
  have hhand : s.consumer.inHand = 1 := by rw [h]; rfl
  have hheld : s.consumerHeld = s.consumerSlot := by simp [consumerHeld, h]
  obtain ⟨-, hpc, hmc⟩ := hs.slotsHeld.distinct
  rw [hheld] at hpc hmc
  obtain ⟨hpos, ⟨last, hlast, hslot⟩, hall⟩ := hs.inHand hhand
  rw [hheld] at hslot
  simp only [stepConsumer, h]
  exact
    { hs with
      slotsHeld := hs.slotsHeld.of_same rfl rfl hheld.symm
      writing := by
        intro slot hw
        by_cases hi : slot = s.consumerSlot
        · subst hi
          simp at hw
        · simp only [Function.update_of_ne hi] at hw
          exact hs.writing slot hw
      written := by
        intro published hp
        have hne : s.producerSlot ≠ s.consumerSlot := by
          have hph : s.producerHeld = s.producerSlot := by
            simp only at hp
            simp [producerHeld, hp]
          rwa [hph] at hpc
        exact (Function.update_of_ne hne _ _).trans (hs.written published hp)
      offered := by
        intro hp
        obtain ⟨hlt, top, htop, hat⟩ := hs.offered hp
        exact ⟨hlt, top, htop, (Function.update_of_ne hmc _ _).trans hat⟩
      exchanging := by simp
      acquired := by simp
      inHand := by simp [Consumer.inHand]
      consumed := by
        intro entry hentry
        rcases List.mem_append.mp hentry with hentry | hentry
        · exact hs.consumed entry hentry
        · rw [List.mem_singleton.mp hentry, hslot]
          exact ⟨hpos, Nat.le_refl _, rfl, hlast⟩
      ordered := by
        rw [List.map_append]
        refine List.pairwise_append.mpr ⟨hs.ordered, by simp, ?_⟩
        intro a ha b hb
        obtain ⟨entry, hentry, rfl⟩ := List.mem_map.mp ha
        simp only [List.map_cons, List.map_nil, List.mem_singleton] at hb
        rw [hb]
        exact hall entry hentry
      accounted := by
        have ha := hs.accounted
        rw [hhand] at ha
        simp only [List.length_append, List.length_singleton, Consumer.inHand]
        exact ha }

theorem Protocol.stepProducer : Protocol s.stepProducer := by
  cases h : s.producer with
  | idle => simpa [RealtimeVideoMailbox.stepProducer, h] using hs
  | writing published => exact hs.write h
  | exchanging published => exact hs.offer h
  | storingHighWaterMark overwrote =>
    simp only [RealtimeVideoMailbox.stepProducer, h]
    cases overwrote <;>
      exact hs.producer_counts (by simp [producerHeld, h]) (by simp [h]) (by simp)
  | _ =>
    simp only [RealtimeVideoMailbox.stepProducer, h]
    exact hs.producer_counts (by simp [producerHeld, h]) (by simp [h]) (by simp)

theorem Protocol.stepConsumer (now : BitVec 64) : Protocol (s.stepConsumer now) := by
  cases h : s.consumer with
  | idle =>
    cases hp : s.hasPending with
    | true =>
      simp only [RealtimeVideoMailbox.stepConsumer, h, hp, ↓reduceIte]
      exact hs.consumer_counts (by simp [consumerHeld, h]) (by simp [h, Consumer.inHand])
        (by simp [Consumer.inHand]) (fun _ => hp)
    | false => simpa [RealtimeVideoMailbox.stepConsumer, h, hp] using hs
  | exchanging => exact hs.acquire h
  | takingSlot previous => exact hs.takeSlot h
  | movingOut => exact hs.moveOut h
  | storingGeneration published =>
    simp only [RealtimeVideoMailbox.stepConsumer, h]
    split <;> exact hs.consumer_counts (by simp [consumerHeld, h]) (by simp [h, Consumer.inHand])
      (by simp [Consumer.inHand]) (by simp)
  | _ =>
    simp only [RealtimeVideoMailbox.stepConsumer, h]
    exact hs.consumer_counts (by simp [consumerHeld, h]) (by simp [h, Consumer.inHand])
      (by simp [Consumer.inHand]) (by simp)

theorem Protocol.step (action : Action) : Protocol (s.step action) := by
  cases action with
  | publish packet lifecycleEpoch now => exact hs.beginPublish packet lifecycleEpoch now
  | produce => exact hs.stepProducer
  | consume now => exact hs.stepConsumer now

end

theorem Counted.initial : Counted {} := ⟨rfl, rfl, rfl⟩

theorem Counted.beginPublish (hs : Counted s)
    (packet : RealtimeVideoPacket) (lifecycleEpoch now : BitVec 64) :
    Counted (s.beginPublish packet lifecycleEpoch now) := by
  have hp := hs.published
  have ho := hs.overwritten
  unfold RealtimeVideoMailbox.beginPublish
  split
  · next h =>
    rw [h] at hp ho
    split
    · exact hs
    · exact ⟨hp, ho, hs.consumed⟩
  · exact hs

theorem Counted.stepProducer (hs : Counted s) :
    Counted s.stepProducer := by
  have hp := hs.published
  have ho := hs.overwritten
  generalize hproducer : s.producer = producer at hp ho
  unfold RealtimeVideoMailbox.stepProducer
  rw [hproducer]
  cases producer with
  | idle => exact hs
  | exchanging published =>
    refine ⟨?_, ?_, hs.consumed⟩
    · simp only [Producer.uncountedPublished, List.length_append, List.length_singleton,
        BitVec.ofNat_add] at hp ⊢
      rw [← hp]
      simp
    · simp only [Producer.uncountedOverwrites, BitVec.ofNat_add] at ho ⊢
      rw [← ho]
      simp [hasPending]
  | countingFrame published overwrote =>
    refine ⟨?_, ho, hs.consumed⟩
    rw [← hp]
    simp [Producer.uncountedPublished]
  | storingHighWaterMark overwrote => cases overwrote <;> exact ⟨hp, ho, hs.consumed⟩
  | countingOverwrite =>
    refine ⟨hp, ?_, hs.consumed⟩
    rw [← ho]
    simp [Producer.uncountedOverwrites]
  | _ => exact ⟨hp, ho, hs.consumed⟩

theorem Counted.stepConsumer (hs : Counted s) (now : BitVec 64) :
    Counted (s.stepConsumer now) := by
  have hc := hs.consumed
  generalize hconsumer : s.consumer = consumer at hc
  unfold RealtimeVideoMailbox.stepConsumer
  rw [hconsumer]
  cases consumer with
  | idle =>
    dsimp only
    split
    · exact ⟨hs.published, hs.overwritten, hc⟩
    · exact hs
  | takingSlot previous =>
    dsimp only
    split <;> exact ⟨hs.published, hs.overwritten, hc⟩
  | movingOut =>
    refine ⟨hs.published, hs.overwritten, ?_⟩
    simp only [Consumer.uncountedConsumed, List.length_append, List.length_singleton,
      BitVec.ofNat_add] at hc ⊢
    rw [← hc]
    simp
  | countingFrame published =>
    refine ⟨hs.published, hs.overwritten, ?_⟩
    rw [← hc]
    simp [Consumer.uncountedConsumed]
  | storingGeneration published =>
    refine ⟨hs.published, hs.overwritten, ?_⟩
    dsimp only
    split <;> exact hc
  | _ => exact ⟨hs.published, hs.overwritten, hc⟩

theorem Counted.step (hs : Counted s) (action : Action) :
    Counted (s.step action) := by
  cases action with
  | publish packet lifecycleEpoch now => exact hs.beginPublish packet lifecycleEpoch now
  | produce => exact hs.stepProducer
  | consume now => exact hs.stepConsumer now

theorem run_protocol (actions : List Action) :
    Protocol (run RealtimeVideoMailbox.step {} actions) ∧
      Counted (run RealtimeVideoMailbox.step {} actions) :=
  run_invariant (P := fun s => Protocol s ∧ Counted s)
    (fun _ action hs => ⟨hs.1.step action, hs.2.step action⟩)
    ⟨protocol_initial, Counted.initial⟩ actions

theorem balance_of_protocol (hs : Protocol s) (hc : Counted s) :
    s.stats.publishedFrameCount + BitVec.ofNat 64 s.producer.uncountedPublished =
      s.stats.consumedFrameCount +
        BitVec.ofNat 64 (s.consumer.uncountedConsumed + s.consumer.inHand) +
      (s.stats.overwriteCount + BitVec.ofNat 64 s.producer.uncountedOverwrites) +
      (if s.hasPending then 1 else 0) := by
  have hpending : BitVec.ofNat 64 (if s.hasPending then 1 else 0) =
      (if s.hasPending then 1 else 0) := by
    split <;> rfl
  rw [hc.published, hc.overwritten, hs.accounted]
  simp only [BitVec.ofNat_add, hpending]
  rw [← hc.consumed, BitVec.add_assoc s.stats.consumedFrameCount]

theorem balance_of_idle (hs : Protocol s) (hc : Counted s)
    (hproducer : s.producer = .idle) (hconsumer : s.consumer = .idle) :
    s.stats.publishedFrameCount = s.stats.consumedFrameCount + s.stats.overwriteCount +
      (if s.hasPending then 1 else 0) := by
  have hbalance := balance_of_protocol hs hc
  rw [hproducer, hconsumer] at hbalance
  simpa [Producer.uncountedPublished, Producer.uncountedOverwrites,
    Consumer.uncountedConsumed, Consumer.inHand] using hbalance

theorem Protocol.only_producer_writes (hs : Protocol s)
    {slot : BitVec 8} (hslot : (s.slots slot).beingWritten = true) :
    slot = s.producerHeld ∧ slot ≠ s.mailboxHeld ∧ slot ≠ s.consumerHeld := by
  obtain ⟨hi, published, hp⟩ := hs.writing slot hslot
  have hheld : s.producerHeld = s.producerSlot := by simp [producerHeld, hp]
  obtain ⟨hpm, hpc, -⟩ := hs.slotsHeld.distinct
  rw [hi, ← hheld]
  exact ⟨rfl, hpm, hpc⟩

/-- Whatever the two sides do and however their steps interleave: the three slot indices are
the three slots; only the producer's slot is ever half written; what the consumer has read
are whole packets, each the newest one published before it was acquired, in publication
order and none twice; when nothing is pending the newest packet has been acquired; and every
published packet is consumed, in the consumer's hands, overwritten or pending. The counters
keep that balance up to the operations in progress. -/
theorem mailbox_protocol (actions : List Action) :
    let s := run RealtimeVideoMailbox.step {} actions
    [s.producerHeld, s.mailboxHeld, s.consumerHeld].Perm [0, 1, 2] ∧
    (∀ slot, (s.slots slot).beingWritten = true →
      slot = s.producerHeld ∧ slot ≠ s.mailboxHeld ∧ slot ≠ s.consumerHeld) ∧
    (∀ entry ∈ s.history.consumed, entry.2.beingWritten = false ∧
      s.history.published[entry.1 - 1]? = some entry.2.published) ∧
    (s.history.consumed.map Prod.fst).Pairwise (· < ·) ∧
    (s.hasPending = false → s.history.acquiredAt = s.history.published.length) ∧
    s.history.published.length = s.history.consumed.length + s.consumer.inHand +
      s.history.overwritten + (if s.hasPending then 1 else 0) ∧
    s.stats.publishedFrameCount + BitVec.ofNat 64 s.producer.uncountedPublished =
      s.stats.consumedFrameCount +
        BitVec.ofNat 64 (s.consumer.uncountedConsumed + s.consumer.inHand) +
      (s.stats.overwriteCount + BitVec.ofNat 64 s.producer.uncountedOverwrites) +
      (if s.hasPending then 1 else 0) ∧
    (s.producer = .idle → s.consumer = .idle →
      s.stats.publishedFrameCount = s.stats.consumedFrameCount + s.stats.overwriteCount +
        (if s.hasPending then 1 else 0)) := by
  intro s
  obtain ⟨hs, hc⟩ := run_protocol actions
  refine ⟨hs.slotsHeld, fun _ hslot => hs.only_producer_writes hslot, ?_, hs.ordered, hs.taken,
    hs.accounted, balance_of_protocol hs hc, balance_of_idle hs hc⟩
  intro entry hentry
  exact (hs.consumed entry hentry).2.2

def onePixelPacket : RealtimeVideoPacket :=
  { width := 1, height := 1, surface := { encoding := .argb8888, argbPixels := [0] } }

/-- Between the producer's exchange and its counter the counts do not balance: a packet is
pending that no counter knows. -/
theorem counts_lag_behind_exchange :
    let s := run RealtimeVideoMailbox.step {}
      [.publish onePixelPacket 1 5, .produce, .produce]
    ¬ s.stats.publishedFrameCount =
      s.stats.consumedFrameCount + s.stats.overwriteCount + (if s.hasPending then 1 else 0) := by
  decide

end RealtimeVideoMailbox

end ProtoTime.RealtimeVideo
