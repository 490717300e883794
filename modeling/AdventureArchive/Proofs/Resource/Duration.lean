import AdventureArchive.Proofs.Overflow
import AdventureArchive.Proofs.Resource.PlainFormats
import Mathlib.Algebra.Order.BigOperators.Group.List
import Mathlib.Algebra.Order.Ring.Nat

namespace AdventureArchive

/-!
# How long a sequence lasts

The delays of a sequence are added up in 32 bits, frame by frame.  A sum that
does not fit them would stop the addition or lose its high bits, depending on
how the addition is meant to treat it (`Overflow`).  Adding with stops is exact:
it comes to a number just when that is the sum of the delays
(`addUp_stops_eq_some_iff`), and where it does not stop, the other addition is the
same (`addUp_of_stops`).

Up to 65537 frames never stop it, whatever their delays (`exists_stop_iff`).  A
sequence that is read or written has fewer, because its frames are counted in 16
bits (`admitted_iff`).  So its delays always add up (`addsUp_of_admitted`).
-/

namespace Sequence

/-! ## Adding up delays -/

/-- Adds the delays of some frames to a total, one after the other. -/
def addUp
    (overflow : Overflow)
    (total : UInt32)
    (frames : List SequenceFrame) :
    Option UInt32 :=
  frames.foldlM (fun total frame => overflow.add total frame.delay.toUInt32) total

/-- The sum of the delays of some frames, however great. -/
def totalDelay (frames : List SequenceFrame) : Nat :=
  (frames.map fun frame => frame.delay.toNat).sum

@[simp] theorem totalDelay_cons
    (frame : SequenceFrame)
    (rest : List SequenceFrame) :
    totalDelay (frame :: rest) = frame.delay.toNat + totalDelay rest :=
  List.sum_cons

@[simp] theorem totalDelay_append (earlier later : List SequenceFrame) :
    totalDelay (earlier ++ later) = totalDelay earlier + totalDelay later := by
  rw [totalDelay, List.map_append, List.sum_append, totalDelay, totalDelay]

/-- A delay is a word, so the number of frames bounds the sum. -/
theorem totalDelay_le (frames : List SequenceFrame) :
    totalDelay frames ≤ frames.length * 65535 := by
  have longest : ∀ delay ∈ frames.map fun frame => frame.delay.toNat, delay ≤ 65535 := by
    intro delay member
    obtain ⟨frame, -, rfl⟩ := List.mem_map.mp member
    exact Nat.le_of_lt_succ frame.delay.toNat_lt
  have bound := List.sum_le_card_nsmul _ _ longest
  rwa [List.length_map, Nat.nsmul_eq_mul] at bound

/-- Delays come to a total just when that is their sum with the total before. -/
theorem addUp_stops_eq_some_iff
    {total result : UInt32}
    {frames : List SequenceFrame} :
    addUp .stops total frames = some result ↔
      result.toNat = total.toNat + totalDelay frames := by
  induction frames generalizing total with
  | nil =>
      rw [addUp, List.foldlM_nil, Option.pure_def, Option.some.injEq, ← UInt32.toNat_inj]
      exact eq_comm
  | cons frame rest inductionHypothesis =>
      rw [addUp, List.foldlM_cons, Option.bind_eq_bind, Option.bind_eq_some_iff,
        totalDelay_cons, ← Nat.add_assoc, ← UInt16.toNat_toUInt32]
      constructor
      · rintro ⟨next, added, remaining⟩
        rw [← Overflow.add_stops_eq_some_iff.mp added]
        exact inductionHypothesis.mp remaining
      · intro exactSum
        -- The sum so far is below the final one, so it fits as well.
        have fits : total.toNat + frame.delay.toUInt32.toNat < UInt32.size := by
          have bound := result.toNat_lt_size
          omega
        have next : (UInt32.ofNat (total.toNat + frame.delay.toUInt32.toNat)).toNat = _ :=
          UInt32.toNat_ofNat_of_lt' fits
        refine ⟨_, Overflow.add_stops_eq_some_iff.mpr next, ?_⟩
        rw [← next] at exactSum
        exact inductionHypothesis.mpr exactSum

/-- From zero on, delays come to a total just when that is their sum. -/
theorem addUp_zero_stops_eq_some_iff
    {total : UInt32}
    {frames : List SequenceFrame} :
    addUp .stops 0 frames = some total ↔ total.toNat = totalDelay frames := by
  rw [addUp_stops_eq_some_iff, UInt32.toNat_zero, Nat.zero_add]

/-- Only a sum that does not fit 32 bits stops an addition on the way. -/
theorem addUp_stops_eq_none_iff
    {total : UInt32}
    {frames : List SequenceFrame} :
    addUp .stops total frames = none ↔
      UInt32.size ≤ total.toNat + totalDelay frames := by
  constructor
  · intro stopped
    by_contra fits
    have exactSum : (UInt32.ofNat (total.toNat + totalDelay frames)).toNat = _ :=
      UInt32.toNat_ofNat_of_lt' (Nat.lt_of_not_le fits)
    have added := addUp_stops_eq_some_iff.mpr exactSum
    rw [stopped] at added
    contradiction
  · intro tooGreat
    match added : addUp .stops total frames with
    | none => rfl
    | some result =>
        have exactSum := addUp_stops_eq_some_iff.mp added
        have bound := result.toNat_lt_size
        omega

/-- Delays that are added up without a stop have one total. -/
theorem addUp_of_stops
    {total result : UInt32}
    {frames : List SequenceFrame}
    (added : addUp .stops total frames = some result)
    (overflow : Overflow) :
    addUp overflow total frames = some result := by
  induction frames generalizing total with
  | nil => exact added
  | cons frame rest inductionHypothesis =>
      rw [addUp, List.foldlM_cons, Option.bind_eq_bind, Option.bind_eq_some_iff] at added ⊢
      obtain ⟨next, firstAdded, restAdded⟩ := added
      exact ⟨next, Overflow.add_of_stops firstAdded overflow, inductionHypothesis restAdded⟩

/-- One more than the greatest number stops an addition or makes it start again. -/
example :
    addUp .stops 4294967295 [⟨0, 1, 0, 0⟩] = none ∧
      addUp .wraps 4294967295 [⟨0, 1, 0, 0⟩] = some 0 := by
  decide

/-- The duration is what the delays add up to where sums wrap. -/
theorem addUp_wraps (sequence : Sequence) :
    addUp .wraps 0 sequence.frames = some sequence.duration :=
  List.foldlM_pure

/--
The delays add up: at every frame the total is the exact sum of the delays so
far, which fits 32 bits, and from there the addition comes to the duration,
whatever would become of a sum that does not fit.
-/
structure AddsUp (sequence : Sequence) : Prop where
  fits : ∀ earlier, earlier <+: sequence.frames → totalDelay earlier < 2 ^ 32
  passes :
    ∀ overflow earlier later, sequence.frames = earlier ++ later →
      ∃ total, addUp overflow 0 earlier = some total ∧ total.toNat = totalDelay earlier ∧
        addUp overflow total later = some sequence.duration
  lasts : sequence.duration.toNat = totalDelay sequence.frames

/-- The delays add up just when no addition stops. -/
theorem addsUp_iff {sequence : Sequence} :
    sequence.AddsUp ↔ addUp .stops 0 sequence.frames ≠ none := by
  constructor
  · intro addsUp
    obtain ⟨total, atStart, -, added⟩ := addsUp.passes .stops [] sequence.frames rfl
    obtain rfl := Option.some.inj atStart
    simp [added]
  · intro unstopped
    obtain ⟨result, added⟩ := Option.ne_none_iff_exists'.mp unstopped
    obtain rfl : result = sequence.duration :=
      Option.some.inj ((addUp_of_stops added .wraps).symm.trans sequence.addUp_wraps)
    have exactSum : sequence.duration.toNat = totalDelay sequence.frames :=
      addUp_zero_stops_eq_some_iff.mp added
    have bound := sequence.duration.toNat_lt
    refine ⟨?_, ?_, exactSum⟩
    · rintro earlier ⟨later, split⟩
      rw [← split, totalDelay_append] at exactSum
      omega
    · intro overflow earlier later split
      rw [split, addUp, List.foldlM_append, Option.bind_eq_bind, Option.bind_eq_some_iff] at added
      obtain ⟨total, earlierAdded, laterAdded⟩ := added
      exact ⟨total, addUp_of_stops earlierAdded overflow,
        addUp_zero_stops_eq_some_iff.mp earlierAdded, addUp_of_stops laterAdded overflow⟩

/-! ## How many frames add up -/

/-- Frames that are shown as long as one can be. -/
def drawnOut (count : Nat) : Sequence :=
  ⟨List.replicate count ⟨0, 65535, 0, 0⟩⟩

@[simp] theorem length_drawnOut (count : Nat) : (drawnOut count).frames.length = count :=
  List.length_replicate

@[simp] theorem totalDelay_drawnOut (count : Nat) :
    totalDelay (drawnOut count).frames = count * 65535 := by
  rw [totalDelay, drawnOut, List.map_replicate, List.sum_replicate, Nat.nsmul_eq_mul]
  rfl

/-- From 65538 frames on, and not before, there are delays that stop an addition. -/
theorem exists_stop_iff {count : Nat} :
    (∃ sequence : Sequence, sequence.frames.length = count ∧
        addUp .stops 0 sequence.frames = none) ↔
      65538 ≤ count := by
  simp only [addUp_stops_eq_none_iff, UInt32.toNat_zero, Nat.zero_add]
  constructor
  · rintro ⟨sequence, rfl, tooGreat⟩
    have bound := totalDelay_le sequence.frames
    simp only [UInt32.size] at tooGreat
    omega
  · intro many
    refine ⟨drawnOut count, length_drawnOut count, ?_⟩
    rw [totalDelay_drawnOut]
    simp only [UInt32.size]
    omega

/-- Sequences of the format: what has been read, and what can be written. -/
inductive Admitted (sequence : Sequence) : Prop where
  | read {bytes : List UInt8} (accepted : decode bytes = .ok sequence)
  | written {bytes : List UInt8} (stored : sequence.encode = .ok bytes)

/-- A sequence can be written if its frames can be counted in a word. -/
theorem encode_isOk_iff {sequence : Sequence} :
    (∃ bytes, sequence.encode = .ok bytes) ↔ sequence.frames.length < UInt16.size := by
  constructor
  · rintro ⟨bytes, stored⟩
    rw [encode] at stored
    split at stored
    next few => exact few
    next => contradiction
  · intro few
    exact ⟨_, if_pos few⟩

/-- What has been read can be written, so counting the frames decides for both. -/
theorem admitted_iff {sequence : Sequence} :
    sequence.Admitted ↔ sequence.frames.length < UInt16.size := by
  rw [← encode_isOk_iff]
  constructor
  · intro admitted
    cases admitted with
    | read accepted => exact ⟨_, encode_of_decode accepted⟩
    | written stored => exact ⟨_, stored⟩
  · rintro ⟨bytes, stored⟩
    exact .written stored

/--
The delays of every sequence that is read or can be written add up, and to no
more than those of as many frames as can be counted, each shown as long as it can be.
-/
theorem addsUp_of_admitted
    {sequence : Sequence}
    (admitted : sequence.Admitted) :
    sequence.AddsUp ∧ sequence.duration.toNat ≤ 2 ^ 32 - 131071 := by
  have few : sequence.frames.length ≤ 65535 := Nat.le_of_lt_succ (admitted_iff.mp admitted)
  have addsUp : sequence.AddsUp := by
    refine addsUp_iff.mpr fun stopped => ?_
    have many := exists_stop_iff.mp ⟨sequence, rfl, stopped⟩
    omega
  refine ⟨addsUp, ?_⟩
  calc
    sequence.duration.toNat = totalDelay sequence.frames := addsUp.lasts
    _ ≤ sequence.frames.length * 65535 := totalDelay_le sequence.frames
    _ ≤ 65535 * 65535 := Nat.mul_le_mul_right 65535 few
    _ = 2 ^ 32 - 131071 := rfl

/-- The longest sequence can be written, and no sequence that can be lasts longer. -/
theorem addsUp_longest :
    (drawnOut 65535).Admitted ∧
      (drawnOut 65535).AddsUp ∧
      (drawnOut 65535).duration.toNat = 2 ^ 32 - 131071 := by
  have admitted : (drawnOut 65535).Admitted := by
    rw [admitted_iff, length_drawnOut]
    decide
  obtain ⟨addsUp, -⟩ := addsUp_of_admitted admitted
  refine ⟨admitted, addsUp, ?_⟩
  rw [addsUp.lasts, totalDelay_drawnOut]
  rfl

end Sequence

end AdventureArchive
