import AdventureArchive.Interpreter.Trace
import AdventureArchive.Json.Program

namespace AdventureArchive

/-!
# JSON forms of traces

An outcome names what came of a step; the step that ends a script has none.
-/

instance : ToJson StepOutcome where
  toJson
    | .advanced offset =>
        .record [("outcome", .text "advanced"), ("offset", toJson offset)]
    | .returned target =>
        .record [("outcome", .text "returned"), ("target", toJson target)]
    | .unhandled offset instruction => .record [
        ("outcome", .text "unhandled"),
        ("offset", toJson offset),
        ("instruction", toJson instruction)]

instance : ToJson TraceStep where
  toJson step := .record [
    ("offset", toJson step.offset),
    ("instruction", toJson step.instruction?),
    ("outcome", toJson step.outcome?)]

instance : ToJson ProgramTrace where
  toJson trace := .record [
    ("program", toJson trace.program),
    ("steps", toJson trace.steps)]

instance : ToJson ActiveScript where
  toJson script := .record [
    ("program", toJson script.id),
    ("offset", toJson script.offset),
    ("pending_jump", toJson script.pendingJump?),
    ("stack", toJson script.stack.toList),
    ("stack_pointer", toJson script.stackPointer)]

end AdventureArchive
