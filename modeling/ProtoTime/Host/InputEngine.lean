import ProtoTime.Transition

/-!
The input engine: bounded staging of digital and analog snapshots, the generation they are
checked against, and the poll of the attached adapter.
-/
namespace ProtoTime.Input

abbrev InputButtonMask := BitVec 8

/-- A bounded queue whose newest entry is what a commit takes; a full queue overwrites it. -/
structure StagingQueue (α : Type) where
  slots : List α
  writeIndex : ℕ
  count : ℕ
  writeIndex_lt : writeIndex < slots.length
  count_le : count ≤ slots.length

namespace StagingQueue

variable {α : Type}

def nextIndex (index size : ℕ) : ℕ := (index + 1) % size

def lastWrittenIndex (writeIndex size : ℕ) : ℕ :=
  if writeIndex = 0 then size - 1 else writeIndex - 1

def ofCapacity (capacity : ℕ) (blank : α) : StagingQueue α where
  slots := List.replicate (max capacity 1) blank
  writeIndex := 0
  count := 0
  writeIndex_lt := by
    rw [List.length_replicate]
    omega
  count_le := Nat.zero_le _

variable (q : StagingQueue α)

def full : Bool := q.count == q.slots.length

def stage (entry : α) : StagingQueue α :=
  if hfull : q.count = q.slots.length then
    { q with
      slots := q.slots.set (lastWrittenIndex q.writeIndex q.slots.length) entry
      writeIndex_lt := by
        rw [List.length_set]
        exact q.writeIndex_lt
      count_le := by
        rw [List.length_set]
        exact q.count_le }
  else
    { slots := q.slots.set q.writeIndex entry
      writeIndex := nextIndex q.writeIndex q.slots.length
      count := q.count + 1
      writeIndex_lt := by
        rw [List.length_set]
        exact Nat.mod_lt _ (Nat.zero_lt_of_lt q.writeIndex_lt)
      count_le := by
        rw [List.length_set]
        have := q.count_le
        omega }

/-- The entry written last, when anything is staged. -/
def newest : Option α :=
  if q.count = 0 then none else q.slots[lastWrittenIndex q.writeIndex q.slots.length]?

def clear : StagingQueue α :=
  { q with count := 0, count_le := Nat.zero_le _ }

theorem lastWrittenIndex_nextIndex {index size : ℕ} (h : index < size) :
    lastWrittenIndex (nextIndex index size) size = index := by
  rcases Nat.lt_or_ge (index + 1) size with hlt | hge
  · rw [nextIndex, Nat.mod_eq_of_lt hlt, lastWrittenIndex, if_neg (Nat.succ_ne_zero index)]
    rfl
  · have heq : index + 1 = size := by omega
    rw [nextIndex, heq, Nat.mod_self, lastWrittenIndex, if_pos rfl]
    omega

theorem newest_stage (entry : α) : (q.stage entry).newest = some entry := by
  have hpos : 0 < q.slots.length := Nat.zero_lt_of_lt q.writeIndex_lt
  by_cases hfull : q.count = q.slots.length
  · have hlt : lastWrittenIndex q.writeIndex q.slots.length < q.slots.length := by
      have := q.writeIndex_lt
      unfold lastWrittenIndex
      split <;> omega
    have hne : q.slots ≠ [] := List.ne_nil_of_length_pos hpos
    simp [stage, newest, hfull, hlt, hne]
  · have hlast := lastWrittenIndex_nextIndex q.writeIndex_lt
    simp [stage, newest, hfull, hlast, q.writeIndex_lt]

@[simp] theorem newest_clear : q.clear.newest = none := if_pos rfl

end StagingQueue

structure InputAnalogState where
  channels : Fin 4 → BitVec 16 := fun _ => 0

structure DigitalSnapshot where
  generation : BitVec 64 := 0
  mask : InputButtonMask := 0

structure AnalogSnapshot where
  generation : BitVec 64 := 0
  state : InputAnalogState := {}

structure InputEngineStats where
  eventOverflowCount : ℕ := 0
  digitalOverflowCount : ℕ := 0
  analogOverflowCount : ℕ := 0
  staleGenerationDropCount : ℕ := 0
  neutralFallbackCount : ℕ := 0
  lastCommittedGeneration : BitVec 64 := 0

structure InputEngine where
  digitalQueue : StagingQueue DigitalSnapshot
  analogQueue : StagingQueue AnalogSnapshot
  committedDigitalMask : Option InputButtonMask := none
  committedAnalogState : Option InputAnalogState := none
  currentGeneration : BitVec 64 := 0
  stats : InputEngineStats := {}

namespace InputEngine

def ofCapacity (stagingCapacity : ℕ) : InputEngine where
  digitalQueue := .ofCapacity stagingCapacity {}
  analogQueue := .ofCapacity stagingCapacity {}

variable (e : InputEngine)

def dropStale (count : ℕ) : InputEngine :=
  { e with stats := { e.stats with
      staleGenerationDropCount := e.stats.staleGenerationDropCount + count } }

def stageDigitalSnapshot (mask : InputButtonMask) (generation : BitVec 64) : InputEngine × Bool :=
  if generation < e.currentGeneration then (e.dropStale 1, false)
  else
    let overflow := if e.digitalQueue.full then 1 else 0
    ({ e with
      digitalQueue := e.digitalQueue.stage ⟨generation, mask⟩
      stats := { e.stats with
        eventOverflowCount := e.stats.eventOverflowCount + overflow
        digitalOverflowCount := e.stats.digitalOverflowCount + overflow } }, true)

def stageAnalogSnapshot (state : InputAnalogState) (generation : BitVec 64) : InputEngine × Bool :=
  if generation < e.currentGeneration then (e.dropStale 1, false)
  else
    let overflow := if e.analogQueue.full then 1 else 0
    ({ e with
      analogQueue := e.analogQueue.stage ⟨generation, state⟩
      stats := { e.stats with
        eventOverflowCount := e.stats.eventOverflowCount + overflow
        analogOverflowCount := e.stats.analogOverflowCount + overflow } }, true)

/-- The generation only ever grows. -/
def raiseGeneration (generation : BitVec 64) : InputEngine :=
  let current := if e.currentGeneration < generation then generation else e.currentGeneration
  { e with
    currentGeneration := current
    stats := { e.stats with lastCommittedGeneration := current } }

def commitDigitalSnapshot : InputEngine × Bool :=
  match e.digitalQueue.newest with
  | none => (e, false)
  | some snapshot =>
    ({ e with
      committedDigitalMask := some snapshot.mask
      digitalQueue := e.digitalQueue.clear }.raiseGeneration snapshot.generation, true)

def commitAnalogSnapshot : InputEngine × Bool :=
  match e.analogQueue.newest with
  | none => (e, false)
  | some snapshot =>
    ({ e with
      committedAnalogState := some snapshot.state
      analogQueue := e.analogQueue.clear }.raiseGeneration snapshot.generation, true)

def commitSnapshots : InputEngine × Bool :=
  let (e, digital) := e.commitDigitalSnapshot
  let (e, analog) := e.commitAnalogSnapshot
  (e, digital || analog)

def advanceGeneration (generation : BitVec 64) : InputEngine :=
  { e.dropStale (e.digitalQueue.count + e.analogQueue.count) with
    currentGeneration :=
      if e.currentGeneration < generation then generation else e.currentGeneration
    digitalQueue := e.digitalQueue.clear
    analogQueue := e.analogQueue.clear }

def applyNeutralFallback (generation : BitVec 64) : InputEngine :=
  let e := e.advanceGeneration generation
  { e with
    committedDigitalMask := some 0
    committedAnalogState := some {}
    stats := { e.stats with
      neutralFallbackCount := e.stats.neutralFallbackCount + 1
      lastCommittedGeneration := e.currentGeneration } }

end InputEngine

/-- What the attached adapter gives at a poll: nothing when the service is not active, a
snapshot of the machine boundary, or separate digital and analog samples. -/
inductive AdapterSample where
  | inactive
  | boundary (neutralFallback : Bool) (digital : InputButtonMask) (analog : InputAnalogState)
  | polled (digital : Option InputButtonMask) (analog : Option InputAnalogState)

def AdapterSample.digital? : AdapterSample → Option InputButtonMask
  | .boundary false digital _ => some digital
  | .polled digital _ => digital
  | _ => none

namespace InputEngine

variable (e : InputEngine)

def publishDigitalSnapshot (mask : InputButtonMask) (generation : BitVec 64) : InputEngine :=
  match e.stageDigitalSnapshot mask generation with
  | (e, true) => e.commitDigitalSnapshot.1
  | (e, false) => e

/-- Staging what the digital adapter sampled, if it sampled anything. -/
def stageDigital? (digital : Option InputButtonMask) (generation : BitVec 64) :
    InputEngine × Bool :=
  match digital with
  | some mask => e.stageDigitalSnapshot mask generation
  | none => (e, false)

def stageAnalog? (analog : Option InputAnalogState) (generation : BitVec 64) : InputEngine × Bool :=
  match analog with
  | some state => e.stageAnalogSnapshot state generation
  | none => (e, false)

def pollActiveAdapter (generation : BitVec 64) :
    AdapterSample → InputEngine × Bool
  | .inactive => (e, false)
  | .boundary neutralFallback digital analog =>
    if generation < e.currentGeneration then ((e.stageDigitalSnapshot 0 generation).1, false)
    else if neutralFallback then (e.applyNeutralFallback generation, true)
    else
      let e := (e.stageDigitalSnapshot digital generation).1
      let e := (e.stageAnalogSnapshot analog generation).1
      (e.commitSnapshots.1, true)
  | .polled digital analog =>
    let (e, stagedDigital) := e.stageDigital? digital generation
    let (e, stagedAnalog) := e.stageAnalog? analog generation
    if stagedDigital || stagedAnalog then e.commitSnapshots else (e, false)

end InputEngine

end ProtoTime.Input
