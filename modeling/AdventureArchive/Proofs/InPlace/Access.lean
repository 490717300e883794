import AdventureArchive.Proofs.Bytes.Position
import AdventureArchive.Proofs.Fallible

namespace AdventureArchive.InPlace

/-!
# Access by position

Reading in place takes bytes from where they lie.  An access goes astray if
nothing lies there, a number if it does not fit 64 bits, and a branch is
unforeseen if the checks before it have ruled it out.  `Stop` keeps such strays
apart from the faults that reading is meant to have; `safely` is reading that
has faults only.

Each access finds what a layout reads at the position, provided there is enough
(`byteAt_eq`, `wordAt_eq`, `longAt_eq`, `cut_eq`).  A `Cursor` checks before it
reads, so it never goes astray; it reads what a layout reads from the bytes
behind its position (`Follows`).
-/

/-- Branches for what the checks before them have ruled out. -/
inductive GuardedBranch where
  | opcodeByte
  | operands
  | sectionRecord
  | sequenceFrame
  | roomRecord
  deriving Repr, DecidableEq

/-- What reading in place must never do. -/
inductive Stray where
  | byte (position length : Nat)
  | range (start stop length : Nat)
  | flag (position length : Nat)
  | number (value : Nat)
  | branch (branch : GuardedBranch)
  deriving Repr, DecidableEq

/-- Why reading in place ends early. -/
inductive Stop (ε : Type) where
  | fault (cause : ε)
  | stray (what : Stray)
  deriving Repr, DecidableEq

variable {ε δ α β : Type}

/-- Names a fault differently; a stray stays what it is. -/
def Stop.map (explain : ε → δ) : Stop ε → Stop δ
  | .fault cause => .fault (explain cause)
  | .stray what => .stray what

/-! ## Reading without strays -/

/-- A step that may have a fault and cannot go astray. -/
def safely (step : Except ε α) : Except (Stop ε) α :=
  step.mapError .fault

@[simp] theorem safely_ok (value : α) : safely (.ok value : Except ε α) = .ok value :=
  rfl

@[simp] theorem safely_error (cause : ε) :
    safely (.error cause : Except ε α) = .error (.fault cause) :=
  rfl

/-- A chain of safe steps is safe. -/
theorem safely_bind
    (step : Except ε α)
    (next : α → Except ε β) :
    safely (step >>= next) = safely step >>= fun value => safely (next value) := by
  cases step with
  | error cause => rfl
  | ok value => rfl

/-- Safe steps for all items of a list make a safe whole. -/
theorem mapM_eq_safely
    {step : α → Except (Stop ε) β}
    {plain : α → Except ε β}
    {items : List α}
    (safe : ∀ item ∈ items, step item = safely (plain item)) :
    items.mapM step = safely (items.mapM plain) := by
  induction items with
  | nil => rfl
  | cons item rest inductionHypothesis =>
      obtain ⟨itemSafe, restSafe⟩ := List.forall_mem_cons.mp safe
      rw [List.mapM_cons, List.mapM_cons, itemSafe, inductionHypothesis restSafe]
      simp only [safely_bind]
      rfl

/-- Naming the fault of a safe step differently keeps it safe. -/
theorem mapError_safely
    (explain : ε → δ)
    (step : Except ε α) :
    (safely step).mapError (Stop.map explain) = safely (step.mapError explain) := by
  cases step with
  | error cause => rfl
  | ok value => rfl

/-- A safe step does not go astray. -/
theorem safely_ne_stray
    (step : Except ε α)
    (what : Stray) :
    safely step ≠ .error (.stray what) := by
  cases step with
  | error cause => simp
  | ok value => simp

/-! ## Bytes, words and ranges -/

/-- The byte at a position. -/
def byteAt (bytes : List UInt8) (position : Nat) : Except (Stop ε) UInt8 :=
  match bytes[position]? with
  | some byte => .ok byte
  | none => .error (.stray (.byte position bytes.length))

/-- The 16-bit number whose two bytes start at a position. -/
def wordAt (bytes : List UInt8) (position : Nat) : Except (Stop ε) UInt16 := do
  let first ← byteAt bytes position
  let second ← byteAt bytes (position + 1)
  return UInt16.ofNat (LittleEndian.decode [first, second])

/-- The 32-bit number whose four bytes start at a position. -/
def longAt (bytes : List UInt8) (position : Nat) : Except (Stop ε) UInt32 := do
  let first ← byteAt bytes position
  let second ← byteAt bytes (position + 1)
  let third ← byteAt bytes (position + 2)
  let fourth ← byteAt bytes (position + 3)
  return UInt32.ofNat (LittleEndian.decode [first, second, third, fourth])

/-- The bytes from one position to another. -/
def cut (bytes : List UInt8) (start stop : Nat) : Except (Stop ε) (List UInt8) :=
  if start ≤ stop ∧ stop ≤ bytes.length then
    .ok (byteRange bytes start (stop - start))
  else
    .error (.stray (.range start stop bytes.length))

/-- The flag at a position. -/
def flagAt (flags : List Bool) (position : Nat) : Except (Stop ε) Bool :=
  match flags[position]? with
  | some flag => .ok flag
  | none => .error (.stray (.flag position flags.length))

/-- A number that has to fit 64 bits. -/
def within64 (number : Nat) : Except (Stop ε) Nat :=
  if number < UInt64.size then .ok number else .error (.stray (.number number))

variable {bytes : List UInt8} {position : Nat}

theorem byteAt_eq_getElem
    (inside : position < bytes.length) :
    byteAt (ε := ε) bytes position = .ok bytes[position] := by
  rw [byteAt, List.getElem?_eq_getElem inside]

theorem byteAt_eq
    (inside : position + 1 ≤ bytes.length) :
    byteAt (ε := ε) bytes position = .ok (Layout.valueAt UInt8 bytes position) := by
  rw [byteAt_eq_getElem inside, Layout.valueAt, List.drop_eq_getElem_cons inside]
  rfl

theorem wordAt_eq
    (inside : position + 2 ≤ bytes.length) :
    wordAt (ε := ε) bytes position = .ok (Layout.valueAt UInt16 bytes position) := by
  rw [wordAt, byteAt_eq_getElem (by omega), byteAt_eq_getElem (by omega), Layout.valueAt,
    List.drop_eq_getElem_cons (by omega), List.drop_eq_getElem_cons (by omega)]
  rfl

theorem longAt_eq
    (inside : position + 4 ≤ bytes.length) :
    longAt (ε := ε) bytes position = .ok (Layout.valueAt UInt32 bytes position) := by
  rw [longAt, byteAt_eq_getElem (by omega), byteAt_eq_getElem (by omega),
    byteAt_eq_getElem (by omega), byteAt_eq_getElem (by omega), Layout.valueAt,
    List.drop_eq_getElem_cons (by omega), List.drop_eq_getElem_cons (by omega),
    List.drop_eq_getElem_cons (by omega), List.drop_eq_getElem_cons (by omega)]
  rfl

theorem cut_eq
    {start stop : Nat}
    (ordered : start ≤ stop)
    (inside : stop ≤ bytes.length) :
    cut (ε := ε) bytes start stop = .ok (byteRange bytes start (stop - start)) :=
  if_pos ⟨ordered, inside⟩

/-- Past the end nothing is cut out. -/
example :
    cut (ε := Empty) [7, 8] 1 3 = .error (.stray (.range 1 3 2)) := by
  decide

/-- The bytes from a position to the end are the ones behind it. -/
theorem cut_length
    (inside : position ≤ bytes.length) :
    cut (ε := ε) bytes position bytes.length = .ok (bytes.drop position) := by
  rw [cut_eq inside (Nat.le_refl _), byteRange, ← List.length_drop, List.take_length]

theorem within64_eq
    {number : Nat}
    (fits : number < UInt64.size) :
    within64 (ε := ε) number = .ok number :=
  if_pos fits

/-- Where a run of values ends fits 64 bits, however many of them a word can count. -/
theorem runEnd_lt
    (start width : Nat)
    (count : UInt16)
    (narrow : start + UInt16.size * width < UInt64.size) :
    start + count.toNat * width < UInt64.size := by
  have most : count.toNat * width ≤ UInt16.size * width :=
    Nat.mul_le_mul_right width (Nat.le_of_lt count.toNat_lt_size)
  exact Nat.lt_of_le_of_lt (Nat.add_le_add_left most start) narrow

/-- The product of two words fits 64 bits. -/
theorem mul_toNat_lt (first second : UInt16) : first.toNat * second.toNat < UInt64.size :=
  calc
    first.toNat * second.toNat ≤ 2 ^ 16 * 2 ^ 16 :=
      Nat.mul_le_mul (Nat.le_of_lt first.toNat_lt) (Nat.le_of_lt second.toNat_lt)
    _ < UInt64.size := by decide

/-! ## Cursors -/

/-- A position in some bytes. -/
structure Cursor where
  bytes : List UInt8
  position : Nat

namespace Cursor

/-- The cursor at the start. -/
def start (bytes : List UInt8) : Cursor :=
  ⟨bytes, 0⟩

variable (cursor : Cursor)

/-- Number of bytes that have not been read. -/
def remaining : Nat :=
  cursor.bytes.length - cursor.position

/-- The bytes that have not been read. -/
def rest : List UInt8 :=
  cursor.bytes.drop cursor.position

/-- The cursor a number of bytes further on. -/
def advance (count : Nat) : Cursor :=
  { cursor with position := cursor.position + count }

/-- Reads a value, if there are enough bytes for it. -/
def read? (α : Type) [Layout α] : Option (α × Cursor) :=
  (Layout.read cursor.rest).map fun found =>
    (found.1, cursor.advance (Layout.width α))

/-- Takes a number of bytes, if there are enough. -/
def take? (count : Nat) : Option (List UInt8 × Cursor) :=
  if cursor.position + count ≤ cursor.bytes.length then
    some (byteRange cursor.bytes cursor.position count, cursor.advance count)
  else
    none

@[simp] theorem rest_start (bytes : List UInt8) : (start bytes).rest = bytes :=
  rfl

@[simp] theorem length_rest : cursor.rest.length = cursor.remaining :=
  List.length_drop

@[simp] theorem rest_advance (count : Nat) :
    (cursor.advance count).rest = cursor.rest.drop count :=
  List.drop_drop.symm

variable {cursor}

/-- A cursor reads what the layout reads from the remaining bytes. -/
theorem read?_of_read
    (cursor : Cursor)
    [Layout α]
    [LawfulLayout α]
    {value : α}
    {behind : List UInt8}
    (found : Layout.read cursor.rest = some (value, behind)) :
    ∃ next, cursor.read? α = some (value, next) ∧ next.rest = behind ∧
      next = cursor.advance (Layout.width α) := by
  refine ⟨cursor.advance (Layout.width α), ?_, ?_, rfl⟩
  · rw [read?, found]
    rfl
  · rw [rest_advance, LawfulLayout.eq_append_of_read found,
      ← LawfulLayout.length_write value, List.drop_left]

/-- Reading moves on by the width of what has been read. -/
theorem eq_advance_of_read?
    [Layout α]
    {value : α}
    {next : Cursor}
    (found : cursor.read? α = some (value, next)) :
    next = cursor.advance (Layout.width α) := by
  obtain ⟨_, -, same⟩ := Option.map_eq_some_iff.mp found
  exact (Prod.mk.inj same).2.symm

theorem read?_of_read_eq_none
    (cursor : Cursor)
    [Layout α]
    (unread : Layout.read (α := α) cursor.rest = none) :
    cursor.read? α = none := by
  rw [read?, unread]
  rfl

/-- Behind a value that has been read a cursor is still within its bytes. -/
theorem position_le_of_read
    [Layout α]
    [LawfulLayout α]
    {value : α}
    {behind : List UInt8}
    (found : Layout.read cursor.rest = some (value, behind))
    (positive : 0 < Layout.width α) :
    (cursor.advance (Layout.width α)).position ≤
      (cursor.advance (Layout.width α)).bytes.length := by
  have lengths := LawfulLayout.length_of_read found
  rw [length_rest, remaining] at lengths
  rw [advance]
  dsimp only
  omega

/-- A cursor within its bytes takes what is taken from the remaining ones. -/
theorem take?_of_takeBytes?
    {count : Nat}
    {taken behind : List UInt8}
    (inside : cursor.position ≤ cursor.bytes.length)
    (found : takeBytes? count cursor.rest = some (taken, behind)) :
    ∃ next, cursor.take? count = some (taken, next) ∧ next.rest = behind := by
  rw [takeBytes?] at found
  split at found
  next whole =>
    obtain ⟨rfl, rfl⟩ := Prod.mk.inj (Option.some.inj found)
    rw [List.length_take, length_rest, remaining] at whole
    refine ⟨cursor.advance count, if_pos (by omega), cursor.rest_advance count⟩
  next => contradiction

theorem take?_of_takeBytes?_eq_none
    {count : Nat}
    (short : takeBytes? count cursor.rest = none) :
    cursor.take? count = none := by
  rw [takeBytes?] at short
  split at short
  next => contradiction
  next partly =>
    rw [List.length_take, length_rest, remaining] at partly
    exact if_neg (by omega)

/-- Reads values one after the other; that there are too few of them is unforeseen. -/
def readEach
    [Layout α]
    (branch : GuardedBranch)
    (collected : List α) :
    Nat → Cursor → Except (Stop ε) (List α × Cursor)
  | 0, cursor => .ok (collected.reverse, cursor)
  | count + 1, cursor =>
      match cursor.read? α with
      | none => .error (.stray (.branch branch))
      | some (value, behind) => readEach branch (value :: collected) count behind

/-- Values that are all there are read one after the other. -/
theorem readEach_of_readOnto
    [Layout α]
    [LawfulLayout α]
    {branch : GuardedBranch}
    {collected values : List α}
    {count : Nat}
    {behind : List UInt8}
    (found : Layout.readOnto collected count cursor.rest = some (values, behind)) :
    ∃ next, readEach (ε := ε) branch collected count cursor = .ok (values, next) ∧
      next.rest = behind := by
  induction count generalizing collected cursor with
  | zero =>
      obtain ⟨rfl, rfl⟩ := Prod.mk.inj (Option.some.inj found)
      exact ⟨cursor, rfl, rfl⟩
  | succ count inductionHypothesis =>
      rw [Layout.readOnto] at found
      split at found
      next => contradiction
      next value rest valueRead =>
        obtain ⟨next, cursorRead, rfl, -⟩ := read?_of_read cursor valueRead
        rw [readEach, cursorRead]
        exact inductionHypothesis found

end Cursor

/-! ## Reading on -/

/-- Reading with a cursor that follows reading from a byte list. -/
def Follows
    (step : Except (Stop ε) (α × Cursor))
    (plain : Except ε (α × List UInt8)) :
    Prop :=
  step.map (fun found => (found.1, found.2.rest)) = safely plain

namespace Follows

variable
  {step : Except (Stop ε) (α × Cursor)}
  {plain : Except ε (α × List UInt8)}

theorem fault (cause : ε) :
    Follows (.error (.fault cause) : Except (Stop ε) (α × Cursor)) (.error cause) :=
  rfl

theorem ok
    (value : α)
    {cursor : Cursor}
    {rest : List UInt8}
    (same : cursor.rest = rest) :
    Follows (.ok (value, cursor) : Except (Stop ε) (α × Cursor)) (.ok (value, rest)) := by
  rw [← same]
  rfl

/-- Where reading in order has a fault, so has reading in place. -/
theorem eq_fault
    (follows : Follows step plain)
    {cause : ε}
    (failed : plain = .error cause) :
    step = .error (.fault cause) := by
  rw [Follows, failed] at follows
  cases step with
  | error stop => exact congrArg Except.error (Except.error.inj follows)
  | ok found => contradiction

/-- Where reading in order has a value, reading in place has it and the same rest. -/
theorem exists_ok
    (follows : Follows step plain)
    {value : α}
    {rest : List UInt8}
    (accepted : plain = .ok (value, rest)) :
    ∃ cursor, step = .ok (value, cursor) ∧ cursor.rest = rest := by
  rw [Follows, accepted] at follows
  obtain ⟨⟨_, cursor⟩, rfl, same⟩ := Except.map_eq_ok_iff.mp follows
  obtain ⟨rfl, rfl⟩ := Prod.mk.inj same
  exact ⟨cursor, rfl, rfl⟩

/-- What goes on safely from a cursor makes a safe whole. -/
theorem bind_safely
    (follows : Follows step plain)
    {next : α × Cursor → Except (Stop ε) β}
    {plainNext : α × List UInt8 → Except ε β}
    (nextSafe : ∀ value cursor,
      next (value, cursor) = safely (plainNext (value, cursor.rest))) :
    step >>= next = safely (plain >>= plainNext) := by
  rw [safely_bind, ← show _ = safely plain from follows]
  cases step with
  | error stop => rfl
  | ok found => exact nextSafe found.1 found.2

end Follows

end AdventureArchive.InPlace
