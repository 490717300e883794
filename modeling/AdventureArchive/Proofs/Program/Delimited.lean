import AdventureArchive.Proofs.Program.StoredForm

namespace AdventureArchive.Program

/-!
# Where a stored program ends

A stored program needs no length from outside.  Each of its parts ends where its
own lengths and counts say, so bytes behind it are left as they are
(`LeavesRest`) and are told from the program as trailing bytes.  A program that
is cut short therefore never is a program (`decode_delimits`).
-/

/-- Readers that leave any bytes behind what they take. -/
def LeavesRest {ε α : Type} (read : List UInt8 → Except ε (α × List UInt8)) : Prop :=
  ∀ ⦃bytes rest : List UInt8⦄ ⦃value : α⦄, read bytes = .ok (value, rest) →
    ∀ more, read (bytes ++ more) = .ok (value, rest ++ more)

namespace LeavesRest

variable {ε α β : Type}

/-- A reader that only looks at where it stands leaves all bytes. -/
theorem ok (value : α) :
    LeavesRest (fun bytes => (.ok (value, bytes) : Except ε (α × List UInt8))) := by
  intro bytes rest found accepted more
  cases accepted
  rfl

/-- A step that reads nothing may come in front. -/
theorem after
    {step : Except ε α}
    {next : α → List UInt8 → Except ε (β × List UInt8)}
    (second : ∀ value, LeavesRest (next value)) :
    LeavesRest (fun bytes => step >>= fun value => next value bytes) := by
  intro bytes rest found accepted more
  obtain ⟨value, rfl, accepted⟩ := Except.bind_eq_ok_iff.mp accepted
  exact second value accepted more

/-- Readers may follow one another. -/
theorem bind
    {read : List UInt8 → Except ε (α × List UInt8)}
    {next : α × List UInt8 → Except ε (β × List UInt8)}
    (first : LeavesRest read)
    (second : ∀ value, LeavesRest (fun bytes => next (value, bytes))) :
    LeavesRest (fun bytes => read bytes >>= next) := by
  intro bytes rest found accepted more
  obtain ⟨⟨value, behind⟩, valueRead, accepted⟩ := Except.bind_eq_ok_iff.mp accepted
  show read (bytes ++ more) >>= next = _
  rw [first valueRead more]
  exact second value accepted more

end LeavesRest

/-! ## The parts of a program -/

theorem leavesRest_splitCode : LeavesRest splitCode := by
  intro bytes rest code accepted more
  obtain ⟨fits, rfl⟩ := eq_append_of_splitCode accepted
  have length : (UInt32.ofNat code.length).toNat = code.length :=
    UInt32.toNat_ofNat_of_lt' fits
  simp only [splitCode, List.append_assoc, LawfulLayout.read_append, length,
    takeBytes?_append]

theorem leavesRest_readSection
    {α : Type}
    [Layout α]
    [LawfulLayout α]
    (part : ProgramSection) :
    LeavesRest (readSection (α := α) part) := by
  intro bytes rest records accepted more
  obtain ⟨stored, written, rfl⟩ := writeSection_of_readSection accepted
  rw [List.append_assoc]
  exact readSection_append written (rest ++ more)

/-- However many strings have been read before, each of the others ends where its length says. -/
theorem leavesRest_readStringsOnto
    (collected : SortedMap UInt16 String)
    (count : Nat) :
    LeavesRest (readStringsOnto collected count) := by
  induction count generalizing collected with
  | zero => exact LeavesRest.ok collected
  | succ count inductionHypothesis =>
      intro bytes rest strings accepted more
      simp only [readStringsOnto] at accepted
      split at accepted
      next => contradiction
      next id behindId idRead =>
        split at accepted
        next => contradiction
        next length behindLength lengthRead =>
          split at accepted
          next => contradiction
          next text behindText textTaken =>
            split at accepted
            next => contradiction
            next isNew =>
              obtain ⟨textLength, rfl⟩ := eq_append_of_takeBytes? textTaken
              have longer :
                  bytes ++ more =
                    Layout.write id ++ (Layout.write length ++ (text ++ (behindText ++ more))) := by
                rw [LawfulLayout.eq_append_of_read idRead,
                  LawfulLayout.eq_append_of_read lengthRead]
                simp only [List.append_assoc]
              simp only [readStringsOnto, longer, LawfulLayout.read_append, ← textLength,
                takeBytes?_append, isNew]
              exact inductionHypothesis _ accepted more

theorem leavesRest_readStrings : LeavesRest readStrings := by
  intro bytes rest strings accepted more
  unfold readStrings at accepted
  split at accepted
  next => contradiction
  next count behindCount countRead =>
    rw [readStrings, LawfulLayout.eq_append_of_read countRead, List.append_assoc,
      LawfulLayout.read_append]
    exact leavesRest_readStringsOnto _ _ accepted more

/-! ## Whole programs -/

/-- Reads a stored program and returns what follows it. -/
def decodeFront
    (registry : OpcodeRegistry)
    (bytes : List UInt8) :
    Except ProgramError (Program × List UInt8) := do
  let (code, bytes) ← splitCode bytes
  let instructions ← decodeCode registry code
  let (rects, bytes) ← readSection .rects bytes
  let (points, bytes) ← readSection .points bytes
  let (walkLinks, bytes) ← readSection .walkLinks bytes
  let (areas, bytes) ← readSection .areas bytes
  let (backgrounds, bytes) ← readSection .backgrounds bytes
  let (hitboxes, bytes) ← readSection .hitboxes bytes
  let (actionScripts, bytes) ← readSection .actionScripts bytes
  let (conversations, bytes) ← readSection .conversations bytes
  let (characterScripts, bytes) ← readSection .characterScripts bytes
  let (strings, bytes) ← readStrings bytes
  return ({
    rects, points, walkLinks, areas, backgrounds, hitboxes, actionScripts,
    conversations, characterScripts, strings, instructions
  }, bytes)

/-- Bytes are a program if a program stands in front and nothing follows it. -/
theorem decode_eq_decodeFront
    (registry : OpcodeRegistry)
    (bytes : List UInt8) :
    decode registry bytes =
      decodeFront registry bytes >>= fun found =>
        if found.2.isEmpty then .ok found.1 else .error (.trailingBytes found.2.length) := by
  simp only [decode, decodeFront, bind_assoc, pure_bind]
  rfl

theorem leavesRest_decodeFront (registry : OpcodeRegistry) :
    LeavesRest (decodeFront registry) := by
  unfold decodeFront
  refine LeavesRest.bind leavesRest_splitCode fun code => ?_
  refine LeavesRest.after fun instructions => ?_
  refine LeavesRest.bind (leavesRest_readSection .rects) fun rects => ?_
  refine LeavesRest.bind (leavesRest_readSection .points) fun points => ?_
  refine LeavesRest.bind (leavesRest_readSection .walkLinks) fun walkLinks => ?_
  refine LeavesRest.bind (leavesRest_readSection .areas) fun areas => ?_
  refine LeavesRest.bind (leavesRest_readSection .backgrounds) fun backgrounds => ?_
  refine LeavesRest.bind (leavesRest_readSection .hitboxes) fun hitboxes => ?_
  refine LeavesRest.bind (leavesRest_readSection .actionScripts) fun actionScripts => ?_
  refine LeavesRest.bind (leavesRest_readSection .conversations) fun conversations => ?_
  refine LeavesRest.bind (leavesRest_readSection .characterScripts) fun characterScripts => ?_
  refine LeavesRest.bind leavesRest_readStrings fun strings => ?_
  exact LeavesRest.ok _

/-- What has been read as a program is a program with nothing behind it. -/
theorem decodeFront_of_decode
    {registry : OpcodeRegistry}
    {bytes : List UInt8}
    {program : Program}
    (accepted : decode registry bytes = .ok program) :
    decodeFront registry bytes = .ok (program, []) := by
  rw [decode_eq_decodeFront] at accepted
  obtain ⟨⟨found, rest⟩, frontRead, accepted⟩ := Except.bind_eq_ok_iff.mp accepted
  dsimp only at accepted
  split at accepted
  next nothingLeft =>
    obtain rfl := Except.ok.inj accepted
    rw [frontRead, List.isEmpty_iff.mp nothingLeft]
  next => contradiction

/-- Bytes behind a program are trailing bytes, and nothing else is wrong with them. -/
theorem decode_append
    {registry : OpcodeRegistry}
    {bytes more : List UInt8}
    {program : Program}
    (accepted : decode registry bytes = .ok program)
    (something : more ≠ []) :
    decode registry (bytes ++ more) = .error (.trailingBytes more.length) := by
  rw [decode_eq_decodeFront,
    leavesRest_decodeFront registry (decodeFront_of_decode accepted) more, Except.ok_bind,
    List.nil_append, if_neg (by rwa [List.isEmpty_iff])]

/--
A stored program tells where it ends.  With bytes behind it, it is refused for
these trailing bytes, and without some of its last bytes it is refused too.
-/
theorem decode_delimits
    {registry : OpcodeRegistry}
    {bytes : List UInt8}
    (isProgram : ∃ program, decode registry bytes = .ok program) :
    (∀ more, more ≠ [] →
      decode registry (bytes ++ more) = .error (.trailingBytes more.length)) ∧
    ∀ front, front <+: bytes → front ≠ bytes →
      ∃ fault, decode registry front = .error fault := by
  obtain ⟨program, accepted⟩ := isProgram
  refine ⟨fun more something => decode_append accepted something, ?_⟩
  rintro front ⟨missing, rfl⟩ shorter
  have something : missing ≠ [] := by
    rintro rfl
    exact shorter (List.append_nil front).symm
  match frontRead : decode registry front with
  | .error fault => exact ⟨fault, rfl⟩
  | .ok frontProgram =>
      -- If the front were a program, the missing bytes would trail it.
      rw [decode_append frontRead something] at accepted
      contradiction

/-- A stored program that says the string 7 and stops, with a point. -/
def greetingBytes : List UInt8 :=
  [5, 0, 0, 0, 0x30, 1, 7, 0, 0x01] ++ [0, 0] ++ [1, 0, 0x0A, 0, 0x96, 0] ++
    List.replicate 14 0 ++ [1, 0] ++ [7, 0, 2, 0, 0x48, 0x69]

/-- A zero too much trails the program, and a byte too little is missed. -/
theorem decode_greetingBytes :
    (∃ program, decode .standard greetingBytes = .ok program) ∧
      decode .standard (greetingBytes ++ [0]) = .error (.trailingBytes 1) ∧
      ∃ fault, decode .standard greetingBytes.dropLast = .error fault := by
  have isProgram : ∃ program, decode .standard greetingBytes = .ok program :=
    Except.exists_of_isOk
      (show (decode .standard greetingBytes).isOk = true by decide +kernel)
  obtain ⟨longer, shorter⟩ := decode_delimits isProgram
  exact ⟨isProgram, longer [0] (by decide),
    shorter _ (List.dropLast_prefix _) (by decide +kernel)⟩

end AdventureArchive.Program
