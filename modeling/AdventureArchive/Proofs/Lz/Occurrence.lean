import AdventureArchive.Image.Lz.Match

namespace AdventureArchive.Lz

/-!
# What the search for an earlier occurrence finds

An occurrence that is found starts at one of the candidates, agrees with what
lies ahead on as many bytes as it is long, and reaches back no farther than the
window (`longestMatch_found`).  The candidates at a position of some data are
the lists that start at the positions before it (`getElem?_suffixesBefore`).
-/

/-- Agreement never exceeds its limit. -/
theorem agreement_le_limit
    (limit : Nat)
    (first second : List UInt8) :
    agreement limit first second ≤ limit := by
  induction limit generalizing first second with
  | zero => simp [agreement]
  | succ limit inductionHypothesis =>
      match first, second with
      | [], _ => simp [agreement]
      | _ :: _, [] => simp [agreement]
      | firstHead :: firstRest, secondHead :: secondRest =>
          rw [agreement]
          split
          next same => exact Nat.succ_le_succ (inductionHypothesis firstRest secondRest)
          next different => exact Nat.zero_le _

/-- Two lists agree on as many bytes as is said, and both have that many. -/
theorem getElem?_eq_of_lt_agreement
    {limit : Nat}
    {first second : List UInt8}
    {index : Nat}
    (agreed : index < agreement limit first second) :
    ∃ value, first[index]? = some value ∧ second[index]? = some value := by
  induction limit generalizing first second index with
  | zero => simp [agreement] at agreed
  | succ limit inductionHypothesis =>
      match first, second with
      | [], _ => simp [agreement] at agreed
      | _ :: _, [] => simp [agreement] at agreed
      | firstHead :: firstRest, secondHead :: secondRest =>
          by_cases same : firstHead = secondHead
          · simp only [agreement, same, if_true] at agreed
            cases index with
            | zero => exact ⟨secondHead, by simp [same], by simp⟩
            | succ index =>
                simpa using inductionHypothesis (Nat.lt_of_succ_lt_succ agreed)
          · simp [agreement, same] at agreed

/-- The occurrence a candidate at some distance offers. -/
def Match.Offered
    (limit : Nat)
    (ahead : List UInt8)
    (candidate : List UInt8)
    (distance : Nat)
    (occurrence : Match) : Prop :=
  occurrence.distance = distance ∧ distance ≤ windowSize ∧
    occurrence.length = agreement limit candidate ahead

/-- The search keeps its best occurrence or finds one that a candidate offers. -/
theorem searchFrom_found
    (limit : Nat)
    (ahead : List UInt8)
    (distance : Nat)
    (best : Match)
    (candidates : List (List UInt8)) :
    searchFrom limit ahead distance best candidates = best ∨
      ∃ back candidate,
        candidates[back]? = some candidate ∧
          (searchFrom limit ahead distance best candidates).Offered
            limit ahead candidate (distance + back) := by
  induction candidates generalizing distance best with
  | nil => exact Or.inl rfl
  | cons candidate older inductionHypothesis =>
      -- An occurrence among the older candidates stands one place further back.
      have shifted : ∀ kept : Match,
          searchFrom limit ahead (distance + 1) kept older = kept ∨
            ∃ back found,
              (candidate :: older)[back]? = some found ∧
                (searchFrom limit ahead (distance + 1) kept older).Offered
                  limit ahead found (distance + back) := by
        intro kept
        rcases inductionHypothesis (distance + 1) kept with
          same | ⟨back, found, position, offered⟩
        · exact Or.inl same
        · refine Or.inr ⟨back + 1, found, position, ?_⟩
          rwa [show distance + (back + 1) = distance + 1 + back by omega]
      rw [searchFrom]
      split
      next tooFar => exact Or.inl rfl
      next inWindow =>
        have near : distance ≤ windowSize := Nat.le_of_not_lt inWindow
        have offersHere :
            (⟨agreement limit candidate ahead, distance⟩ : Match).Offered
              limit ahead candidate (distance + 0) :=
          ⟨rfl, near, rfl⟩
        dsimp only
        split
        next better =>
          split
          next reached =>
            exact Or.inr ⟨0, candidate, rfl, offersHere⟩
          next notReached =>
            rcases shifted ⟨agreement limit candidate ahead, distance⟩ with
              same | found
            · rw [same]
              exact Or.inr ⟨0, candidate, rfl, offersHere⟩
            · exact Or.inr found
        next notBetter => exact shifted best

/--
An occurrence of positive length begins at a candidate within the window and
agrees with what lies ahead.
-/
theorem longestMatch_found
    {earlier : List (List UInt8)}
    {ahead : List UInt8}
    (nonempty : 0 < (longestMatch earlier ahead).length) :
    ∃ back candidate,
      earlier[back]? = some candidate ∧
        (longestMatch earlier ahead).distance = back + 1 ∧
        back + 1 ≤ windowSize ∧
        (longestMatch earlier ahead).length ≤ maxLength ∧
        (longestMatch earlier ahead).length =
          agreement (ahead.take maxLength).length candidate ahead := by
  rcases searchFrom_found (ahead.take maxLength).length ahead 1 ⟨0, 0⟩ earlier with
    none | ⟨back, candidate, position, distance, near, length⟩
  · rw [longestMatch, none] at nonempty
    exact absurd nonempty (Nat.lt_irrefl 0)
  · rw [Nat.add_comm 1 back] at distance near
    refine ⟨back, candidate, position, distance, near, ?_, length⟩
    calc
      (longestMatch earlier ahead).length
          = agreement (ahead.take maxLength).length candidate ahead := length
      _ ≤ (ahead.take maxLength).length := agreement_le_limit _ _ _
      _ ≤ maxLength := List.length_take_le _ _

/-- Behind one more byte there is one more position to start from. -/
theorem suffixesBefore_succ
    (data : List UInt8)
    (position : Nat) :
    suffixesBefore data (position + 1) =
      data.drop position :: suffixesBefore data position := by
  simp only [suffixesBefore, List.range_succ_eq_map, List.map_cons, List.map_map]
  congr 1
  apply List.map_congr_left
  intro back inRange
  simp only [Function.comp_apply]
  congr 1
  omega

/-- The candidates at a position start at the positions before it. -/
theorem getElem?_suffixesBefore
    {data : List UInt8}
    {position back : Nat}
    {candidate : List UInt8}
    (found : (suffixesBefore data position)[back]? = some candidate) :
    back + 1 ≤ position ∧ candidate = data.drop (position - (back + 1)) := by
  have inRange : back < position := by
    have := (List.getElem?_eq_some_iff.mp found).1
    simpa [suffixesBefore] using this
  refine ⟨inRange, ?_⟩
  simpa [suffixesBefore, inRange, eq_comm] using found

end AdventureArchive.Lz
