import AdventureArchive.Json
import AdventureArchive.Text.Hexadecimal

namespace AdventureArchive.Json

/-!
# Tokens of JSON text

JSON text is a run of brackets, separators and scalars with blanks between
them.  Only space, tab, line feed and carriage return are blanks.  A scalar
that is not a string ends before the first character that cannot belong to one,
so it is recognised as a whole.
-/

/-- The two kinds of brackets. -/
inductive Bracket where
  | square
  | curly
  deriving Repr, DecidableEq

/-- The smallest parts of JSON text. -/
inductive Token where
  | opening (bracket : Bracket)
  | closing (bracket : Bracket)
  | comma
  | colon
  | scalar (value : Json)

/-- Whether a character may stand between tokens. -/
def isBlank (character : Char) : Bool :=
  character == ' ' || character == '\t' || character == '\n' || character == '\r'

/-- Whether a character may belong to a number or to one of the three names. -/
def isScalarPart (character : Char) : Bool :=
  character.isAlphanum || character == '+' || character == '-' || character == '.'

/-- The number a run of decimal digits stands for. -/
def digitsNumber (digits : List Char) : Nat :=
  digits.foldl (fun number digit => 10 * number + (digit.toNat - '0'.toNat)) 0

/-- Whether a run of digits is not empty and nothing follows it. -/
def isDigits (characters : List Char) : Bool :=
  !characters.isEmpty && characters.all Char.isDigit

/-- Whether an exponent, without its letter, is well formed. -/
def isExponent : List Char → Bool
  | '+' :: digits => isDigits digits
  | '-' :: digits => isDigits digits
  | digits => isDigits digits

/-- Whether what follows the whole part of a number is well formed. -/
def isFractionAndExponent : List Char → Bool
  | '.' :: behindPoint =>
      !(behindPoint.takeWhile Char.isDigit).isEmpty &&
        match behindPoint.dropWhile Char.isDigit with
        | [] => true
        | 'e' :: exponent => isExponent exponent
        | 'E' :: exponent => isExponent exponent
        | _ => false
  | 'e' :: exponent => isExponent exponent
  | 'E' :: exponent => isExponent exponent
  | _ => false

/-- Whether digits can be the whole part of a number, which has no leading zero. -/
def isWholePart : List Char → Bool
  | [] => false
  | '0' :: more => more.isEmpty
  | _ => true

/-- The number that some characters spell; a negative zero is not an integer. -/
def number? (characters : List Char) : Option Json :=
  let (negative, unsigned) :=
    match characters with
    | '-' :: unsigned => (true, unsigned)
    | unsigned => (false, unsigned)
  let whole := unsigned.takeWhile Char.isDigit
  let rest := unsigned.dropWhile Char.isDigit
  if !isWholePart whole then
    none
  else if rest.isEmpty then
    match negative, digitsNumber whole with
    | false, number => some (.integer number)
    | true, 0 => some (.decimal (String.ofList characters))
    | true, number => some (.integer (-number))
  else if isFractionAndExponent rest then
    some (.decimal (String.ofList characters))
  else
    none

/-- The scalar that some characters spell. -/
def scalar? (characters : List Char) : Option Json :=
  match characters with
  | ['n', 'u', 'l', 'l'] => some .null
  | ['t', 'r', 'u', 'e'] => some (.bool true)
  | ['f', 'a', 'l', 's', 'e'] => some (.bool false)
  | _ => number? characters

/-- The number that four hexadecimal digits stand for. -/
def codeUnit? (first second third fourth : Char) : Option Nat := do
  let digits ← [first, second, third, fourth].mapM Hexadecimal.digit?
  return digits.foldl (fun number digit => 16 * number + digit) 0

/-- The character that a one-letter escape stands for. -/
def escapedCharacter? : Char → Option Char
  | '"' => some '"'
  | '\\' => some '\\'
  | '/' => some '/'
  | 'b' => some '\x08'
  | 'f' => some '\x0c'
  | 'n' => some '\n'
  | 'r' => some '\r'
  | 't' => some '\t'
  | _ => none

/-- Whether a number is the first half of a surrogate pair. -/
def isHighSurrogate (unit : Nat) : Bool :=
  0xD800 ≤ unit && unit < 0xDC00

/-- Whether a number is the second half of a surrogate pair. -/
def isLowSurrogate (unit : Nat) : Bool :=
  0xDC00 ≤ unit && unit < 0xE000

/--
The text of a run of code points, some of which may be halves of surrogate
pairs.  Each first half has to be followed by a second half.
-/
def joinPairs (joined : String) : List Nat → JsonText
  | [] => some joined
  | [unit] =>
      if isHighSurrogate unit || isLowSurrogate unit then
        none
      else
        some (joined.push (Char.ofNat unit))
  | first :: second :: rest =>
      if isHighSurrogate first && isLowSurrogate second then
        joinPairs
          (joined.push
            (Char.ofNat (0x10000 + 0x400 * (first - 0xD800) + (second - 0xDC00))))
          rest
      else if isHighSurrogate first || isLowSurrogate first then
        none
      else
        joinPairs (joined.push (Char.ofNat first)) (second :: rest)

/--
Reads a string literal behind its opening quote and returns what follows its
closing quote.  Control characters have to be escaped.
-/
def readString (units : Array Nat) : List Char → Option (JsonText × List Char)
  | [] => none
  | '"' :: rest => some (joinPairs "" units.toList, rest)
  | '\\' :: 'u' :: first :: second :: third :: fourth :: rest =>
      match codeUnit? first second third fourth with
      | some unit => readString (units.push unit) rest
      | none => none
  | '\\' :: letter :: rest =>
      match escapedCharacter? letter with
      | some character => readString (units.push character.toNat) rest
      | none => none
  | character :: rest =>
      if character.toNat < 0x20 || character == '\\' then
        none
      else
        readString (units.push character.toNat) rest

/-- What follows a string literal is shorter than the literal with it. -/
theorem length_of_readString
    {units : Array Nat}
    {characters rest : List Char}
    {text : JsonText}
    (found : readString units characters = some (text, rest)) :
    rest.length < characters.length := by
  fun_induction readString units characters with
  | case1 => simp at found
  | case2 =>
      simp only [Option.some.injEq, Prod.mk.injEq] at found
      simp [found.2]
  | case3 _ _ _ _ _ _ _ _ inductionHypothesis =>
      have shorter := inductionHypothesis found
      simp only [List.length_cons]
      omega
  | case4 => simp at found
  | case5 _ _ _ _ _ _ inductionHypothesis =>
      have shorter := inductionHypothesis found
      simp only [List.length_cons]
      omega
  | case6 => simp at found
  | case7 => simp at found
  | case8 _ _ _ _ _ _ _ inductionHypothesis =>
      have shorter := inductionHypothesis found
      simp only [List.length_cons]
      omega

namespace Token

/-- Splits text into tokens, which are put behind those found before. -/
def scanOnto (found : Array Token) (characters : List Char) : Option (Array Token) :=
  match characters with
  | [] => some found
  | '[' :: rest => scanOnto (found.push (.opening .square)) rest
  | ']' :: rest => scanOnto (found.push (.closing .square)) rest
  | '\x7b' :: rest => scanOnto (found.push (.opening .curly)) rest
  | '\x7d' :: rest => scanOnto (found.push (.closing .curly)) rest
  | ',' :: rest => scanOnto (found.push .comma) rest
  | ':' :: rest => scanOnto (found.push .colon) rest
  | '"' :: behindQuote =>
      match literal : readString #[] behindQuote with
      | none => none
      | some (text, rest) =>
          have _shorter := length_of_readString literal
          scanOnto (found.push (.scalar (.string text))) rest
  | character :: behind =>
      if isBlank character then
        scanOnto found behind
      else if isScalarPart character then
        have _shorter := (List.dropWhile_suffix isScalarPart (l := behind)).length_le
        match scalar? (character :: behind.takeWhile isScalarPart) with
        | none => none
        | some value =>
            scanOnto (found.push (.scalar value)) (behind.dropWhile isScalarPart)
      else
        none
termination_by characters.length
decreasing_by
  all_goals
    simp only [List.length_cons]
    omega

/-- The tokens of a text. -/
def scan (text : String) : Option (Array Token) :=
  scanOnto #[] text.toList

end Token

end AdventureArchive.Json
