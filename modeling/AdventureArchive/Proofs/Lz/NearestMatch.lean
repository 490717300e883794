import AdventureArchive.Proofs.Lz.RoundTrip
import AdventureArchive.Proofs.Lz.Window
import Mathlib.Order.Bounds.Basic

namespace AdventureArchive.Lz

/-!
# The nearest of the longest occurrences

The bytes at a position are compared with those at each distance back, as far as
the window reaches.  Of the occurrences that agree on the most bytes the search
finds the nearest one (`longestMatch_nearest`).

Here the search also runs over the indexes of the data (`Search.longestMatch`),
with or without leaving its loop at an occurrence that cannot be exceeded.  Either
way the best occurrence so far leads those that have been looked at
(`Search.Leads`), no index is out of bounds, and what is found is the same.  The
tokens of some data are cut with this search (`Search.tokens_eq`).
-/

/-- How many bytes are compared at most: copies are limited, and the data ends. -/
def comparedLength (data : List UInt8) (position : Nat) : Nat :=
  min maxLength (data.length - position)

/-- Number of leading bytes at a position that agree with those some distance back. -/
def agreeing (data : List UInt8) (position distance : Nat) : Nat :=
  (List.range (comparedLength data position)).countP fun index =>
    ∀ other ≤ index, data[position - distance + other]? = data[position + other]?

/-- How far back a search looks at a position. -/
def searchReach (position : Nat) : Nat :=
  min windowSize position

/-! ## Agreement as a count -/

/-- Agreement counts the indexes up to which two lists that are long enough are the same. -/
theorem agreement_eq_countP
    {limit : Nat}
    {first second : List UInt8}
    (inFirst : limit ≤ first.length)
    (inSecond : limit ≤ second.length) :
    agreement limit first second =
      (List.range limit).countP fun index => ∀ other ≤ index, first[other]? = second[other]? := by
  induction limit generalizing first second with
  | zero => simp [agreement]
  | succ limit inductionHypothesis =>
      obtain ⟨firstHead, firstRest, rfl⟩ :=
        List.exists_cons_of_length_pos (Nat.zero_lt_of_lt inFirst)
      obtain ⟨secondHead, secondRest, rfl⟩ :=
        List.exists_cons_of_length_pos (Nat.zero_lt_of_lt inSecond)
      by_cases same : firstHead = secondHead
      · have rest :=
          inductionHypothesis (Nat.le_of_succ_le_succ inFirst) (Nat.le_of_succ_le_succ inSecond)
        -- The heads agree, so that only the indexes behind them matter.
        have behind (index : Nat) :
            (∀ other ≤ index + 1,
                (firstHead :: firstRest)[other]? = (secondHead :: secondRest)[other]?) ↔
              ∀ other ≤ index, firstRest[other]? = secondRest[other]? := by
          constructor
          · intro agree other below
            simpa using agree (other + 1) (Nat.succ_le_succ below)
          · intro agree other below
            cases other with
            | zero => simp [same]
            | succ other => simpa using agree other (Nat.le_of_succ_le_succ below)
        rw [agreement, if_pos same, rest, List.range_succ_eq_map, List.countP_cons_of_pos,
          List.countP_map]
        · simp only [Function.comp_def, Nat.succ_eq_add_one, behind]
        · simp [same]
      · rw [agreement, if_neg same, eq_comm, List.countP_eq_zero]
        intro index _ agree
        have heads := of_decide_eq_true agree 0 (Nat.zero_le index)
        exact same (Option.some.inj heads)

variable {data : List UInt8} {position : Nat}

theorem comparedLength_le (inside : position < data.length) :
    position + comparedLength data position ≤ data.length := by
  rw [comparedLength]
  omega

/-- The agreement with the data from a distance back on is what agrees at that distance. -/
theorem agreement_drop
    (inside : position < data.length)
    (distance : Nat) :
    agreement (comparedLength data position) (data.drop (position - distance))
        (data.drop position) =
      agreeing data position distance := by
  have fits := comparedLength_le inside
  rw [agreement_eq_countP]
  · simp only [agreeing, List.getElem?_drop]
  all_goals
    rw [List.length_drop]
    omega

theorem agreeing_le (distance : Nat) :
    agreeing data position distance ≤ comparedLength data position :=
  List.countP_le_length.trans_eq List.length_range

namespace Search

open Window (Stop readAt subtract subtract_of_le)

/-! ## Searching by index -/

/-- Counts on as long as there are bytes to compare and they agree. -/
def countFrom
    (data : List UInt8)
    (limit start position length : Nat) :
    Except Stop Nat :=
  if length < limit then do
    let earlier ← readAt data (start + length)
    let here ← readAt data (position + length)
    if earlier = here then
      countFrom data limit start position (length + 1)
    else
      return length
  else
    return length
termination_by limit - length

/--
Looks at one distance after the other and keeps the best occurrence so far.  If
`leaves` is set, an occurrence that cannot be exceeded ends the search.
-/
def scan
    (leaves : Bool)
    (data : List UInt8)
    (position limit : Nat)
    (best : Match) :
    List Nat → Except Stop Match
  | [] => return best
  | distance :: farther => do
      let start ← subtract position distance
      let length ← countFrom data limit start position 0
      if best.length < length then
        if leaves ∧ length = limit then
          return ⟨length, distance⟩
        else
          scan leaves data position limit ⟨length, distance⟩ farther
      else
        scan leaves data position limit best farther

/-- The longest earlier occurrence of what lies at a position. -/
def longestMatch
    (leaves : Bool)
    (data : List UInt8)
    (position : Nat) :
    Except Stop Match := do
  let left ← subtract data.length position
  scan leaves data position (min maxLength left) ⟨0, 0⟩
    (List.range' 1 (min windowSize position))

theorem readAt_of_lt
    {index : Nat}
    (inside : index < data.length) :
    readAt data index = .ok data[index] := by
  rw [readAt, List.getElem?_eq_getElem inside]

/-- Counting reads no byte outside of the data and comes to the agreement. -/
theorem countFrom_eq
    {limit start : Nat}
    (earlier : start ≤ position)
    (inside : position + limit ≤ data.length)
    (length : Nat) :
    countFrom data limit start position length =
      .ok (length + agreement (limit - length)
        (data.drop (start + length)) (data.drop (position + length))) := by
  fun_induction countFrom data limit start position length with
  | case1 length below inductionHypothesis =>
      have room : limit - length = limit - (length + 1) + 1 := by omega
      rw [readAt_of_lt (by omega), readAt_of_lt (by omega), Except.ok_bind, Except.ok_bind, room,
        List.drop_eq_getElem_cons (show start + length < data.length by omega),
        List.drop_eq_getElem_cons (show position + length < data.length by omega), agreement]
      split
      next same =>
        rw [inductionHypothesis]
        congr 1
        simp only [Nat.add_assoc]
        omega
      next => rfl
  | case2 length notBelow =>
      rw [Nat.sub_eq_zero_of_le (Nat.le_of_not_lt notBelow)]
      rfl

/-- What is counted at a distance is what agrees at it. -/
theorem countFrom_eq_agreeing
    (inside : position < data.length)
    (distance : Nat) :
    countFrom data (comparedLength data position) (position - distance) position 0 =
      .ok (agreeing data position distance) := by
  rw [countFrom_eq (Nat.sub_le _ _) (comparedLength_le inside)]
  simp only [Nat.zero_add, Nat.add_zero, Nat.sub_zero, agreement_drop inside]

/-! ## The best occurrence so far -/

/--
The best of the occurrences up to some distance: none is longer, those that are
nearer are shorter, and it is one of them unless none has any length.
-/
structure Leads (data : List UInt8) (position farthest : Nat) (best : Match) : Prop where
  longest :
    ∀ distance, 1 ≤ distance → distance ≤ farthest →
      agreeing data position distance ≤ best.length
  nearest :
    ∀ distance, 1 ≤ distance → distance < best.distance →
      agreeing data position distance < best.length
  attained :
    best = ⟨0, 0⟩ ∨
      1 ≤ best.distance ∧ best.distance ≤ farthest ∧ 0 < best.length ∧
        agreeing data position best.distance = best.length

namespace Leads

variable {farthest : Nat} {best : Match}

/-- Before the first distance there is no occurrence. -/
theorem start (data : List UInt8) (position : Nat) : Leads data position 0 ⟨0, 0⟩ where
  longest := by
    intro distance positive none
    omega
  nearest := by
    intro distance _ below
    exact absurd below (Nat.not_lt_zero distance)
  attained := .inl rfl

/-- Occurrences further away that are not longer do not change the lead. -/
theorem keep
    (leads : Leads data position farthest best)
    {farther : Nat}
    (atLeast : farthest ≤ farther)
    (notLonger : ∀ distance, farthest < distance → distance ≤ farther →
      agreeing data position distance ≤ best.length) :
    Leads data position farther best where
  longest := by
    intro distance positive near
    by_cases known : distance ≤ farthest
    · exact leads.longest distance positive known
    · exact notLonger distance (Nat.lt_of_not_le known) near
  nearest := leads.nearest
  attained := by
    rcases leads.attained with nothing | ⟨positive, near, rest⟩
    · exact .inl nothing
    · exact .inr ⟨positive, Nat.le_trans near atLeast, rest⟩

/-- A longer occurrence at the next distance takes the lead. -/
theorem takeOver
    (leads : Leads data position farthest best)
    (longer : best.length < agreeing data position (farthest + 1)) :
    Leads data position (farthest + 1)
      ⟨agreeing data position (farthest + 1), farthest + 1⟩ where
  longest := by
    intro distance positive near
    rcases Nat.le_or_eq_of_le_succ near with known | rfl
    · exact Nat.le_of_lt (Nat.lt_of_le_of_lt (leads.longest distance positive known) longer)
    · exact Nat.le_refl _
  nearest := by
    intro distance positive below
    exact Nat.lt_of_le_of_lt
      (leads.longest distance positive (Nat.le_of_lt_succ below)) longer
  attained := .inr ⟨Nat.le_add_left 1 farthest, Nat.le_refl _, Nat.zero_lt_of_lt longer, rfl⟩

/-- The lead is at the least of the distances at which most bytes agree. -/
theorem isGreatest_and_isLeast
    (leads : Leads data position farthest best)
    (some : ∃ distance ∈ Set.Icc 1 farthest, 0 < agreeing data position distance) :
    IsGreatest (agreeing data position '' Set.Icc 1 farthest) best.length ∧
      IsLeast
        {distance | distance ∈ Set.Icc 1 farthest ∧
          agreeing data position distance = best.length}
        best.distance := by
  obtain ⟨other, ⟨otherPositive, otherNear⟩, agrees⟩ := some
  rcases leads.attained with nothing | ⟨positive, near, -, attained⟩
  · have atMost := leads.longest other otherPositive otherNear
    rw [nothing] at atMost
    exact absurd agrees (Nat.not_lt_of_le atMost)
  · refine ⟨⟨⟨best.distance, ⟨positive, near⟩, attained⟩, ?_⟩, ⟨⟨positive, near⟩, attained⟩, ?_⟩
    · rintro _ ⟨distance, ⟨distancePositive, distanceNear⟩, rfl⟩
      exact leads.longest distance distancePositive distanceNear
    · rintro distance ⟨⟨distancePositive, -⟩, same⟩
      apply Nat.le_of_not_lt
      intro nearer
      exact absurd same (Nat.ne_of_lt (leads.nearest distance distancePositive nearer))

/-- Where nothing agrees there is no occurrence in the lead. -/
theorem eq_nothing
    (leads : Leads data position farthest best)
    (nowhere : ∀ distance ∈ Set.Icc 1 farthest, agreeing data position distance = 0) :
    best = ⟨0, 0⟩ := by
  rcases leads.attained with nothing | ⟨positive, near, nonempty, attained⟩
  · exact nothing
  · rw [nowhere best.distance ⟨positive, near⟩] at attained
    exact absurd attained (Nat.ne_of_lt nonempty)

/-- Only one occurrence can be in the lead. -/
theorem unique
    {other : Match}
    (leads : Leads data position farthest best)
    (otherLeads : Leads data position farthest other) :
    best = other := by
  by_cases nowhere : ∀ distance ∈ Set.Icc 1 farthest, agreeing data position distance = 0
  · rw [leads.eq_nothing nowhere, otherLeads.eq_nothing nowhere]
  · push Not at nowhere
    obtain ⟨distance, inReach, agrees⟩ := nowhere
    have some : ∃ distance ∈ Set.Icc 1 farthest, 0 < agreeing data position distance :=
      ⟨distance, inReach, Nat.pos_of_ne_zero agrees⟩
    obtain ⟨greatest, least⟩ := leads.isGreatest_and_isLeast some
    obtain ⟨otherGreatest, otherLeast⟩ := otherLeads.isGreatest_and_isLeast some
    have sameLength := greatest.unique otherGreatest
    rw [← sameLength] at otherLeast
    have sameDistance := least.unique otherLeast
    rcases best with ⟨length, distance⟩
    rcases other with ⟨otherLength, otherDistance⟩
    rw [Match.mk.injEq]
    exact ⟨sameLength, sameDistance⟩

end Leads

/--
Looking at further distances keeps the best occurrence in the lead, whether the
loop is left at one that cannot be exceeded or not.
-/
theorem exists_scan_leads
    (leaves : Bool)
    (inside : position < data.length)
    {farthest count : Nat}
    {best : Match}
    (inData : farthest + count ≤ position)
    (leads : Leads data position farthest best) :
    ∃ found,
      scan leaves data position (comparedLength data position) best
          (List.range' (farthest + 1) count) = .ok found ∧
        Leads data position (farthest + count) found := by
  induction count generalizing farthest best with
  | zero => exact ⟨best, rfl, leads⟩
  | succ count inductionHypothesis =>
      have next : farthest + (count + 1) = farthest + 1 + count := by omega
      have inRange : farthest + 1 ≤ position := by omega
      rw [next] at inData ⊢
      rw [List.range'_succ, scan, subtract_of_le inRange, Except.ok_bind,
        countFrom_eq_agreeing inside, Except.ok_bind]
      split
      next longer =>
        have ahead := leads.takeOver longer
        split
        next unexceeded =>
          refine ⟨_, rfl, ahead.keep (Nat.le_add_right _ _) fun distance _ _ => ?_⟩
          exact (agreeing_le distance).trans_eq unexceeded.2.symm
        next => exact inductionHypothesis inData ahead
      next notLonger =>
        refine inductionHypothesis inData (leads.keep (Nat.le_succ farthest) ?_)
        intro distance behind near
        obtain rfl : distance = farthest + 1 := by omega
        exact Nat.le_of_not_lt notLonger

theorem longestMatch_eq_scan
    (leaves : Bool)
    (inside : position < data.length) :
    longestMatch leaves data position =
      scan leaves data position (comparedLength data position) ⟨0, 0⟩
        (List.range' 1 (searchReach position)) := by
  rw [longestMatch, subtract_of_le (Nat.le_of_lt inside), Except.ok_bind]
  rfl

/-- The search finds the occurrence that leads the whole reach. -/
theorem exists_longestMatch_leads
    (leaves : Bool)
    (inside : position < data.length) :
    ∃ found, longestMatch leaves data position = .ok found ∧
      Leads data position (searchReach position) found := by
  have inData : 0 + searchReach position ≤ position := by
    rw [Nat.zero_add]
    exact Nat.min_le_right _ _
  have scanned := exists_scan_leads leaves inside inData (.start data position)
  rwa [Nat.zero_add, Nat.zero_add, ← longestMatch_eq_scan leaves inside] at scanned

/-! ## The same search over lists -/

/-- The nearest of the candidates from a distance on starts one byte further back. -/
theorem drop_suffixesBefore
    {farthest : Nat}
    (inData : farthest < position) :
    (suffixesBefore data position).drop farthest =
      data.drop (position - (farthest + 1)) ::
        (suffixesBefore data position).drop (farthest + 1) := by
  have inside : farthest < (suffixesBefore data position).length := by
    simpa [suffixesBefore] using inData
  rw [List.drop_eq_getElem_cons inside]
  simp [suffixesBefore]

/-- Looking at one distance after the other is looking at one candidate after the other. -/
theorem scan_eq_searchFrom
    (inside : position < data.length)
    {farthest count : Nat}
    (left : searchReach position - farthest = count)
    (best : Match) :
    scan true data position (comparedLength data position) best
        (List.range' (farthest + 1) count) =
      .ok (searchFrom (comparedLength data position) (data.drop position) (farthest + 1) best
        ((suffixesBefore data position).drop farthest)) := by
  rw [searchReach] at left
  induction count generalizing farthest best with
  | zero =>
      -- The window ends here, or there is no candidate left.
      rw [List.range'_zero, scan]
      by_cases inData : farthest < position
      · have behindWindow : windowSize < farthest + 1 := by omega
        rw [drop_suffixesBefore inData, searchFrom, if_pos behindWindow]
        rfl
      · have noCandidate : (suffixesBefore data position).length ≤ farthest := by
          simpa [suffixesBefore] using inData
        rw [List.drop_of_length_le noCandidate, searchFrom]
        rfl
  | succ count inductionHypothesis =>
      have inData : farthest < position := by omega
      have inWindow : ¬ windowSize < farthest + 1 := by omega
      have leftThen : min windowSize position - (farthest + 1) = count := by omega
      rw [List.range'_succ, scan, subtract_of_le inData, Except.ok_bind,
        countFrom_eq_agreeing inside, Except.ok_bind, drop_suffixesBefore inData, searchFrom,
        if_neg inWindow, agreement_drop inside]
      simp only [true_and]
      split_ifs
      · rfl
      · exact inductionHypothesis leftThen _
      · exact inductionHypothesis leftThen _

/-- Searching by index finds what searching the candidates at a position finds. -/
theorem longestMatch_eq
    (inside : position < data.length) :
    longestMatch true data position =
      .ok (Lz.longestMatch (suffixesBefore data position) (data.drop position)) := by
  have limit : ((data.drop position).take maxLength).length = comparedLength data position := by
    rw [List.length_take, List.length_drop, comparedLength]
  rw [longestMatch_eq_scan true inside, Lz.longestMatch, limit]
  exact scan_eq_searchFrom inside rfl ⟨0, 0⟩

/-! ## Cutting data into tokens -/

/-- Cuts data into tokens from a position on, adding them to those found before. -/
def tokensFrom
    (data : List UInt8)
    (position : Nat)
    (found : Array Token) :
    Except Stop (Array Token) :=
  if position < data.length then do
    let occurrence ← longestMatch true data position
    if occurrence.length < minLength then
      let value ← readAt data position
      tokensFrom data (position + 1) (found.push (.literal value))
    else
      tokensFrom data (position + occurrence.length)
        (found.push (.copy occurrence.length occurrence.distance))
  else
    return found
termination_by data.length - position
decreasing_by
  · omega
  · rename_i notShort
    simp only [minLength] at notShort
    omega

/-- The tokens that data is cut into. -/
def tokens (data : List UInt8) : Except Stop (List Token) :=
  (tokensFrom data 0 #[]).map Array.toList

/-- An occurrence that is found does not reach beyond the data. -/
theorem length_le_of_longestMatch
    {leaves : Bool}
    {occurrence : Match}
    (inside : position < data.length)
    (searched : longestMatch leaves data position = .ok occurrence) :
    position + occurrence.length ≤ data.length := by
  obtain ⟨found, foundSearched, leads⟩ := exists_longestMatch_leads leaves inside
  obtain rfl := Except.ok.inj (searched.symm.trans foundSearched)
  have fits := comparedLength_le inside
  rcases leads.attained with nothing | ⟨-, -, -, attained⟩
  · rw [nothing]
    exact Nat.le_of_lt inside
  · have atMost : agreeing data position occurrence.distance ≤ comparedLength data position :=
      agreeing_le occurrence.distance
    omega

/-- Bytes that are covered are passed over. -/
theorem tokensFrom_covered
    (found : Array Token)
    {covered : Nat}
    (fits : position + covered ≤ data.length) :
    Lz.tokensFrom found (suffixesBefore data position) covered (data.drop position) =
      Lz.tokensFrom found (suffixesBefore data (position + covered)) 0
        (data.drop (position + covered)) := by
  induction covered generalizing position with
  | zero => rfl
  | succ covered inductionHypothesis =>
      have inside : position < data.length := by omega
      rw [List.drop_eq_getElem_cons inside, Lz.tokensFrom, ← List.drop_eq_getElem_cons inside,
        ← suffixesBefore_succ, inductionHypothesis (by omega), Nat.add_right_comm, Nat.add_assoc]

/-- From each position on, the same tokens are cut by index as from the lists before and ahead. -/
theorem tokensFrom_eq
    (data : List UInt8)
    (position : Nat)
    (found : Array Token) :
    tokensFrom data position found =
      .ok (Lz.tokensFrom found (suffixesBefore data position) 0 (data.drop position)) := by
  induction left : data.length - position using Nat.strongRecOn generalizing position found with
  | ind left inductionHypothesis =>
      rw [tokensFrom]
      split
      next inside =>
        have searched := longestMatch_eq inside
        have fits := length_le_of_longestMatch inside searched
        have aheadShape := List.drop_eq_getElem_cons inside
        rw [searched, Except.ok_bind]
        generalize longest :
          Lz.longestMatch (suffixesBefore data position) (data.drop position) = occurrence at fits
        rw [aheadShape, Lz.tokensFrom, ← aheadShape, ← suffixesBefore_succ, longest]
        split
        next tooShort =>
          rw [readAt_of_lt inside, Except.ok_bind]
          exact inductionHypothesis _ (by omega) _ _ rfl
        next longEnough =>
          simp only [minLength] at longEnough
          have sameEnd : position + 1 + (occurrence.length - 1) = position + occurrence.length := by
            omega
          have covered :=
            tokensFrom_covered (found.push (.copy occurrence.length occurrence.distance))
              (sameEnd.trans_le fits)
          rw [sameEnd] at covered
          rw [inductionHypothesis _ (by omega) _ _ rfl, covered]
      next atEnd =>
        rw [List.drop_of_length_le (Nat.le_of_not_lt atEnd)]
        rfl

/-- Cutting by index comes to the tokens that are compressed. -/
theorem tokens_eq (data : List UInt8) : tokens data = .ok (Lz.tokens data) := by
  rw [tokens, tokensFrom_eq]
  rfl

end Search

/--
The search finds the nearest of the longest occurrences within the window, and
nothing where no byte agrees.  None of its indexes is out of bounds, and leaving
its loop early does not change what it finds; the tokens of the data are cut with
it.
-/
theorem longestMatch_nearest
    {data : List UInt8}
    {position : Nat}
    (inside : position < data.length) :
    let found := longestMatch (suffixesBefore data position) (data.drop position)
    let reached := Set.Icc 1 (searchReach position)
    (∀ leaves, Search.longestMatch leaves data position = .ok found) ∧
    ((∃ distance ∈ reached, 0 < agreeing data position distance) →
      IsGreatest (agreeing data position '' reached) found.length ∧
        IsLeast
          {distance | distance ∈ reached ∧ agreeing data position distance = found.length}
          found.distance) ∧
    ((∀ distance ∈ reached, agreeing data position distance = 0) → found = ⟨0, 0⟩) ∧
    Search.tokens data = .ok (tokens data) := by
  intro found reached
  have searched : Search.longestMatch true data position = .ok found :=
    Search.longestMatch_eq inside
  obtain ⟨other, otherSearched, leads⟩ := Search.exists_longestMatch_leads true inside
  obtain rfl := Except.ok.inj (searched.symm.trans otherSearched)
  refine ⟨fun leaves => ?_, leads.isGreatest_and_isLeast, leads.eq_nothing,
    Search.tokens_eq data⟩
  obtain ⟨same, sameSearched, sameLeads⟩ := Search.exists_longestMatch_leads leaves inside
  rw [sameSearched, leads.unique sameLeads]

/-- Three bytes that come three times, each time with another byte behind them. -/
def thriceRepeated : List UInt8 :=
  [1, 2, 3, 9, 1, 2, 3, 8, 1, 2, 3, 7]

/-- At the third time the bytes are found at the second one, the nearer of two. -/
theorem longestMatch_thriceRepeated :
    8 < thriceRepeated.length ∧
      Search.longestMatch true thriceRepeated 8 = .ok ⟨3, 4⟩ ∧
      IsGreatest (agreeing thriceRepeated 8 '' Set.Icc 1 8) 3 ∧
      IsLeast {distance | distance ∈ Set.Icc 1 8 ∧ agreeing thriceRepeated 8 distance = 3} 4 := by
  have inside : 8 < thriceRepeated.length := by decide
  have found :
      longestMatch (suffixesBefore thriceRepeated 8) (thriceRepeated.drop 8) = ⟨3, 4⟩ := by
    decide
  obtain ⟨searched, leads, -, -⟩ := longestMatch_nearest inside
  rw [found] at searched leads
  exact ⟨inside, searched true, leads ⟨4, by decide, by decide⟩⟩

end AdventureArchive.Lz
