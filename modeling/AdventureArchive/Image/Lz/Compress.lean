import AdventureArchive.Image.Lz.Match

namespace AdventureArchive.Lz

/-!
# Compressing

The data is cut into tokens from front to back: wherever an earlier occurrence
of at least three bytes is found it is copied, otherwise the next byte is a
literal.  The compressed stream is the tokens written one after the other, and
grows in memory that is taken to be allocated.
-/

/--
Cuts data into tokens, adding them to those found before.  `covered` counts the
next bytes that the last copy already produces.
-/
def tokensFrom
    (found : Array Token)
    (earlier : List (List UInt8)) :
    Nat → List UInt8 → Array Token
  | _, [] => found
  | covered + 1, next :: rest =>
      tokensFrom found ((next :: rest) :: earlier) covered rest
  | 0, next :: rest =>
      let occurrence := longestMatch earlier (next :: rest)
      if occurrence.length < minLength then
        tokensFrom (found.push (.literal next))
          ((next :: rest) :: earlier) 0 rest
      else
        tokensFrom (found.push (.copy occurrence.length occurrence.distance))
          ((next :: rest) :: earlier) (occurrence.length - 1) rest

/-- The tokens that data is cut into. -/
def tokens (data : List UInt8) : List Token :=
  (tokensFrom #[] [] 0 data).toList

/-- The stream of tokens that expands to the data. -/
def compress (data : List UInt8) : List UInt8 :=
  ((tokens data).foldl Token.write .empty).bytes

end AdventureArchive.Lz
