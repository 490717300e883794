import AdventureArchive.Image.Lz.Expand
import AdventureArchive.Proofs.Lz.TokenStream

namespace AdventureArchive.Lz

/-!
# What a run of tokens expands to

`expandAll` expands tokens without looking at a stream and without a limit; what
it has produced stays the start of the output (`prefix_expandAll`).  Expanding a
stream takes one step for each of its tokens (`expandFrom_of_taken`).
-/

/-- Copying lengthens the output by the length of the copy. -/
@[simp] theorem size_copyBack
    (distance count : Nat)
    (produced : Array UInt8) :
    (copyBack distance count produced).size = produced.size + count := by
  induction count generalizing produced with
  | zero => rfl
  | succ count inductionHypothesis =>
      rw [copyBack, inductionHypothesis, Array.size_push]
      omega

/-- A copy may be made in two parts. -/
theorem copyBack_add
    (distance count more : Nat)
    (produced : Array UInt8) :
    copyBack distance (count + more) produced =
      copyBack distance more (copyBack distance count produced) := by
  induction count generalizing produced with
  | zero => rw [Nat.zero_add, copyBack]
  | succ count inductionHypothesis =>
      rw [Nat.succ_add, copyBack, inductionHypothesis, copyBack]

/-- Copying keeps what has been produced. -/
theorem prefix_copyBack
    (distance count : Nat)
    (produced : Array UInt8) :
    produced.toList <+: (copyBack distance count produced).toList := by
  induction count generalizing produced with
  | zero => exact List.prefix_refl _
  | succ count inductionHypothesis =>
      have pushed :
          produced.toList <+:
            (produced.push (byteBack produced distance)).toList := by
        rw [Array.toList_push]
        exact List.prefix_append _ _
      exact pushed.trans (inductionHypothesis _)

/-- A shorter copy produces the start of what a longer one does. -/
theorem prefix_copyBack_of_le
    {count longer : Nat}
    (shorter : count ≤ longer)
    (distance : Nat)
    (produced : Array UInt8) :
    (copyBack distance count produced).toList <+:
      (copyBack distance longer produced).toList := by
  obtain ⟨more, rfl⟩ := Nat.exists_eq_add_of_le shorter
  rw [copyBack_add]
  exact prefix_copyBack distance more _

/-- The output behind a token that is not cut. -/
def Token.expand (produced : Array UInt8) : Token → Array UInt8
  | .literal value => produced.push value
  | .copy length distance => copyBack distance length produced
  | .endMark => produced

/-- The output behind a run of tokens. -/
def expandAll (produced : Array UInt8) (tokens : List Token) : Array UInt8 :=
  tokens.foldl Token.expand produced

@[simp] theorem expandAll_nil (produced : Array UInt8) :
    expandAll produced [] = produced :=
  rfl

@[simp] theorem expandAll_cons
    (produced : Array UInt8)
    (token : Token)
    (rest : List Token) :
    expandAll produced (token :: rest) = expandAll (token.expand produced) rest :=
  rfl

/-- Tokens may be expanded in two runs. -/
@[simp] theorem expandAll_append
    (produced : Array UInt8)
    (tokens more : List Token) :
    expandAll produced (tokens ++ more) = expandAll (expandAll produced tokens) more :=
  List.foldl_append

/-- Expanding a token keeps what has been produced. -/
theorem Token.prefix_expand
    (produced : Array UInt8)
    (token : Token) :
    produced.toList <+: (token.expand produced).toList := by
  cases token with
  | literal value =>
      rw [expand, Array.toList_push]
      exact List.prefix_append _ _
  | copy length distance => exact prefix_copyBack distance length produced
  | endMark => exact List.prefix_refl _

/-- Expanding tokens keeps what has been produced. -/
theorem prefix_expandAll
    (produced : Array UInt8)
    (tokens : List Token) :
    produced.toList <+: (expandAll produced tokens).toList := by
  induction tokens generalizing produced with
  | nil => exact List.prefix_refl _
  | cons token rest inductionHypothesis =>
      exact (token.prefix_expand produced).trans (inductionHypothesis _)

/-- An output that is long enough is returned as it is. -/
theorem expandFrom_of_full
    {expected : Nat}
    {produced : Array UInt8}
    (full : expected ≤ produced.size)
    (reader : FlagReader) :
    expandFrom expected reader produced = .ok produced := by
  rw [expandFrom, if_pos full]

/-- A stream that holds no further token is exhausted. -/
theorem expandFrom_of_exhausted
    {expected : Nat}
    {reader : FlagReader}
    {produced : Array UInt8}
    (notFull : ¬ expected ≤ produced.size)
    (exhausted : Token.read? reader = none) :
    expandFrom expected reader produced =
      .error (.streamExhausted produced.size expected) := by
  rw [expandFrom, if_neg notFull]
  split
  next => rfl
  next token left taken =>
    rw [exhausted] at taken
    contradiction

/-- One token is read and expanded, a copy only as far as output is missing. -/
theorem expandFrom_of_taken
    {expected : Nat}
    {reader left : FlagReader}
    {produced : Array UInt8}
    {token : Token}
    (notFull : ¬ expected ≤ produced.size)
    (taken : Token.read? reader = some (token, left)) :
    expandFrom expected reader produced =
      match token with
      | .literal value => expandFrom expected left (produced.push value)
      | .copy length distance =>
          expandFrom expected left
            (copyBack distance (min length (expected - produced.size)) produced)
      | .endMark => .error (.shortOutput produced.size expected) := by
  rw [expandFrom, if_neg notFull]
  split
  next exhausted =>
    rw [taken] at exhausted
    contradiction
  next found behind foundTaken =>
    rw [taken] at foundTaken
    cases foundTaken
    rfl

/-- The output behind a token, a copy being cut where the output is long enough. -/
def Token.expandUpTo (expected : Nat) (produced : Array UInt8) : Token → Array UInt8
  | .literal value => produced.push value
  | .copy length distance =>
      copyBack distance (min length (expected - produced.size)) produced
  | .endMark => produced

/-- Expanding goes on behind a token, unless that marks the end. -/
theorem expandFrom_of_token
    {expected : Nat}
    {reader left : FlagReader}
    {produced : Array UInt8}
    {token : Token}
    (notFull : ¬ expected ≤ produced.size)
    (taken : Token.read? reader = some (token, left)) :
    expandFrom expected reader produced =
      if token = .endMark then
        .error (.shortOutput produced.size expected)
      else
        expandFrom expected left (token.expandUpTo expected produced) := by
  rw [expandFrom_of_taken notFull taken]
  cases token <;> rfl

end AdventureArchive.Lz
