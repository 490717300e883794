import AdventureArchive.Image.Lz.Token

namespace AdventureArchive.Lz

/-!
# The longest earlier occurrence

What lies ahead is compared with what began earlier.  Earlier positions are
given as the byte lists that start there, nearest first, so the occurrence may
overlap the position it is compared with.  The longest occurrence wins, the
nearest of equally long ones.
-/

/-- An earlier occurrence: how long it is and how far back it starts. -/
structure Match where
  length : Nat
  distance : Nat
  deriving Repr, DecidableEq

/-- Number of leading bytes on which two lists agree, up to a limit. -/
def agreement : Nat → List UInt8 → List UInt8 → Nat
  | limit + 1, first :: firstRest, second :: secondRest =>
      if first = second then
        agreement limit firstRest secondRest + 1
      else
        0
  | _, _, _ => 0

/--
Looks at candidates from a distance on and keeps the best occurrence found so
far.  A candidate that reaches the limit ends the search.
-/
def searchFrom
    (limit : Nat)
    (ahead : List UInt8)
    (distance : Nat)
    (best : Match) :
    List (List UInt8) → Match
  | [] => best
  | candidate :: older =>
      if windowSize < distance then
        best
      else
        let length := agreement limit candidate ahead
        if best.length < length then
          if length = limit then
            ⟨length, distance⟩
          else
            searchFrom limit ahead (distance + 1) ⟨length, distance⟩ older
        else
          searchFrom limit ahead (distance + 1) best older

/-- The longest earlier occurrence of what lies ahead, of length zero if none. -/
def longestMatch
    (earlier : List (List UInt8))
    (ahead : List UInt8) :
    Match :=
  searchFrom (ahead.take maxLength).length ahead 1 ⟨0, 0⟩ earlier

/-- The lists that start at earlier positions of some data, nearest first. -/
def suffixesBefore (data : List UInt8) (position : Nat) : List (List UInt8) :=
  (List.range position).map fun back => data.drop (position - (back + 1))

end AdventureArchive.Lz
