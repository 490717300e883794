import Mathlib.Data.List.DropRight
import Mathlib.Data.List.Induction
import AdventureArchive.Proofs.Database
import AdventureArchive.Proofs.Database.TwoMaps
import AdventureArchive.Proofs.Image.Pixels

namespace AdventureArchive

/-!
# Copies of edited images

Assigning to the header of an image does not change its pixels: they are decoded
in the format that the header had when the image was read or made, or else when it
was last copied before its pixels were first used (`Image.pixels_after`).  A copy
made before the first use is decoded in the format that the header has by then.
So copying keeps the pixels of an image that has been decoded, and otherwise
exactly where the payload stands for the same pixels in both formats
(`Image.copies_after`); there are images that show other pixels once they have
been copied (`Image.exists_copy_with_other_pixels`).
-/

/--
What is done to an image: its pixels are used, a copy takes its place, its header is
assigned to.  To assign to one field is to assign a header that differs in it only.
-/
inductive ImageStep where
  | use
  | copy
  | assign (header : ImageHeader)
  deriving DecidableEq

namespace ImageStep

/-- The header that a step assigns. -/
def assigned? : ImageStep → Option ImageHeader
  | .assign header => some header
  | .use => none
  | .copy => none

/-- The header that has been assigned last, or the one there was before. -/
def headerAfter (header : ImageHeader) (history : List ImageStep) : ImageHeader :=
  (history.filterMap assigned?).getLast?.getD header

/-- The steps up to the last copy that has been made before pixels were first used. -/
def upToLastCopy (history : List ImageStep) : List ImageStep :=
  (history.takeWhile (· ≠ .use)).rdropWhile (· ≠ .copy)

theorem headerAfter_concat
    (header : ImageHeader)
    (history : List ImageStep)
    (newest : ImageStep) :
    headerAfter header (history ++ [newest]) =
      newest.assigned?.getD (headerAfter header history) := by
  rw [headerAfter, List.filterMap_append]
  cases newest with
  | use => simp [assigned?, headerAfter]
  | copy => simp [assigned?, headerAfter]
  | assign next => simp [assigned?]

/-- Headers that are all of one format leave the last of them of that format. -/
theorem format_headerAfter
    {header : ImageHeader}
    {history : List ImageStep}
    (sameFormat : ∀ next, .assign next ∈ history → next.format = header.format) :
    (headerAfter header history).format = header.format := by
  rw [headerAfter]
  cases last : (history.filterMap assigned?).getLast? with
  | none => rfl
  | some next =>
      obtain ⟨step, member, assigns⟩ :=
        List.mem_filterMap.mp (List.mem_of_getLast? last)
      cases step with
      | use => contradiction
      | copy => contradiction
      | assign other =>
          obtain rfl : other = next := Option.some.inj assigns
          exact sameFormat other member

/-- A step is the last copy that counts if it is a copy and comes before the first use. -/
theorem upToLastCopy_concat
    (history : List ImageStep)
    (newest : ImageStep) :
    upToLastCopy (history ++ [newest]) =
      if newest = .copy ∧ .use ∉ history then history ++ [newest] else upToLastCopy history := by
  by_cases used : .use ∈ history
  · have ended : (history.takeWhile (· ≠ .use)).length ≠ history.length := by
      intro whole
      have unchanged := (List.takeWhile_prefix (· ≠ ImageStep.use)).eq_of_length whole
      have passes := List.takeWhile_eq_self_iff.mp unchanged .use used
      simp at passes
    rw [if_neg fun counts => counts.2 used, upToLastCopy, List.takeWhile_append, if_neg ended]
    rfl
  · have passes : ∀ step ∈ history, decide (step ≠ .use) = true := by
      intro step member
      exact decide_eq_true fun same => used (same ▸ member)
    rw [upToLastCopy, upToLastCopy, List.takeWhile_append_of_pos passes,
      List.takeWhile_eq_self_iff.mpr passes]
    cases newest with
    | use => simp
    | copy => simp [used]
    | assign header => simp

/-- The steps up to the last copy that counts are some of all steps. -/
theorem mem_of_mem_upToLastCopy
    {history : List ImageStep}
    {step : ImageStep}
    (member : step ∈ upToLastCopy history) :
    step ∈ history :=
  (List.takeWhile_prefix _).subset ((List.rdropWhile_prefix _ _).subset member)

end ImageStep

namespace Image

open ImageStep (headerAfter upToLastCopy)

/-- An image after one step. -/
def perform (image : Image) : ImageStep → Image
  | .use => image.decoded
  | .copy => image.copy
  | .assign header => { image with header := header }

/-- An image after some steps. -/
def after (image : Image) (history : List ImageStep) : Image :=
  history.foldl perform image

/-! ## One step -/

variable (image : Image)

/-- A step leaves the payload alone, and the header unless it assigns one. -/
theorem stored_perform (step : ImageStep) :
    (image.perform step).payload = image.payload ∧
      (image.perform step).header = step.assigned?.getD image.header := by
  cases step with
  | use => exact ⟨rfl, rfl⟩
  | copy => exact ⟨image.copy_stored.2, image.copy_stored.1⟩
  | assign header => exact ⟨rfl, rfl⟩

/-- An image is decoded once its pixels have been used, and stays so. -/
theorem isDecoded_perform (step : ImageStep) :
    (image.perform step).isDecoded = true ↔ image.isDecoded = true ∨ step = .use := by
  rcases image with ⟨header, payload, format | pixels⟩ <;> cases step <;>
    simp [perform, decoded, copy, ofPayload, isDecoded, Deferred.force, Deferred.isReady]

/-- Only to copy an image that has not been decoded can change its pixels. -/
theorem pixels_perform (step : ImageStep) :
    (image.perform step).pixels =
      if step = .copy ∧ image.isDecoded = false then image.storedPixels else image.pixels := by
  rcases image with ⟨header, payload, format | pixels⟩ <;> cases step <;> rfl

variable {image}

/-! ## Any number of steps -/

theorem after_concat (history : List ImageStep) (newest : ImageStep) :
    image.after (history ++ [newest]) = (image.after history).perform newest := by
  rw [after, List.foldl_append]
  rfl

/-- Steps leave the payload alone, and the header that has been assigned last. -/
theorem stored_after (history : List ImageStep) :
    (image.after history).payload = image.payload ∧
      (image.after history).header = headerAfter image.header history := by
  induction history using List.reverseRecOn with
  | nil => exact ⟨rfl, rfl⟩
  | append_singleton earlier newest inductionHypothesis =>
      obtain ⟨samePayload, sameHeader⟩ := (image.after earlier).stored_perform newest
      rw [after_concat, samePayload, sameHeader, inductionHypothesis.1, inductionHypothesis.2,
        ImageStep.headerAfter_concat]
      exact ⟨rfl, rfl⟩

/-- The pixels that payload and header stand for once the header has been assigned to. -/
theorem storedPixels_after (history : List ImageStep) :
    (image.after history).storedPixels =
      decodePayload image.payload (headerAfter image.header history).format := by
  rw [storedPixels, (stored_after history).1, (stored_after history).2]
  rfl

/-- An image is decoded if it was before, or if its pixels have been used. -/
theorem isDecoded_after (history : List ImageStep) :
    (image.after history).isDecoded = true ↔ image.isDecoded = true ∨ .use ∈ history := by
  induction history using List.reverseRecOn with
  | nil => simp [after]
  | append_singleton earlier newest inductionHypothesis =>
      rw [after_concat, isDecoded_perform, inductionHypothesis, List.mem_append,
        List.mem_singleton, or_assoc, eq_comm (a := newest)]

/-- Whatever is done to an image that has been decoded, its pixels stay. -/
theorem pixels_after_of_isDecoded
    (ready : image.isDecoded = true)
    (history : List ImageStep) :
    (image.after history).pixels = image.pixels := by
  induction history using List.reverseRecOn with
  | nil => rfl
  | append_singleton earlier newest inductionHypothesis =>
      have stillReady := (isDecoded_after earlier).mpr (.inl ready)
      rw [after_concat, pixels_perform, if_neg (by simp [stillReady]), inductionHypothesis]

/--
An image that was not decoded shows the pixels of the format that its header had when
it was last copied before the first use, or before all steps.
-/
theorem pixels_after
    (stored : image.pixels = image.storedPixels)
    (pending : image.isDecoded = false)
    (history : List ImageStep) :
    (image.after history).pixels =
      decodePayload image.payload (headerAfter image.header (upToLastCopy history)).format := by
  induction history using List.reverseRecOn with
  | nil => exact stored
  | append_singleton earlier newest inductionHypothesis =>
      have unused : (image.after earlier).isDecoded = false ↔ .use ∉ earlier := by
        rw [← Bool.not_eq_true, isDecoded_after, pending]
        simp
      -- The newest step changes the pixels just where it is the last copy that counts.
      rw [after_concat, pixels_perform, ImageStep.upToLastCopy_concat]
      simp only [unused]
      split
      next counts =>
        obtain ⟨rfl, -⟩ := counts
        rw [storedPixels_after, ImageStep.headerAfter_concat]
        rfl
      next => exact inductionHypothesis

/-! ## Copies -/

/-- A copy shows the pixels of its original if they have been decoded, or else the stored ones. -/
theorem pixels_copy_eq (image : Image) :
    image.copy.pixels = if image.isDecoded = true then image.pixels else image.storedPixels := by
  rcases image with ⟨header, payload, format | pixels⟩ <;> rfl

/-- What a use of pixels finds in a database and in a copy of it. -/
theorem usePixels_eq
    {database : Database}
    {kind : ImageKind}
    {id : UInt16}
    (found : (database.table (.image kind)).get? id = some image) :
    (database.usePixels kind id).map Prod.fst = some image.pixels ∧
      (database.copy.usePixels kind id).map Prod.fst = some image.copy.pixels := by
  have copied :
      (database.copy.table (.image kind)).get? id =
        ((database.table (.image kind)).get? id).map Image.copy := by
    rw [Database.table_copy]
    exact ResourceTable.get?_mapResources _ _ _
  rw [Database.usePixels, Database.usePixels, copied, found]
  exact ⟨rfl, rfl⟩

/-- What becomes of the pixels of an image in copies that are made after some steps. -/
structure Copies (image : Image) (history : List ImageStep) : Prop where
  decoded_iff :
    (image.after history).isDecoded = true ↔ image.isDecoded = true ∨ .use ∈ history
  /-- The pixels are those there were from the start, or those of the last copy that counts. -/
  shown :
    (image.after history).pixels =
      if image.isDecoded = true then image.pixels
      else decodePayload image.payload (headerAfter image.header (upToLastCopy history)).format
  /-- Copying keeps them if they are decoded, or stand for the same in the last format. -/
  kept_iff :
    (image.after history).copy.pixels = (image.after history).pixels ↔
      image.isDecoded = true ∨ .use ∈ history ∨
        decodePayload image.payload (headerAfter image.header history).format =
          decodePayload image.payload (headerAfter image.header (upToLastCopy history)).format
  /-- Once they have been used, they are kept in all copies, whatever is assigned. -/
  used :
    .use ∈ history → ∀ later,
      (image.after (history ++ later)).copy.pixels = (image.after history).pixels
  /-- As long as size and compression are what they were, they are kept in all copies. -/
  sameFormat :
    (∀ header, .assign header ∈ history → header.format = image.header.format) →
      (image.after history).pixels = image.pixels ∧
        (image.after history).copy.pixels = image.pixels
  /-- In a copy of a database each image is found as its own copy. -/
  inDatabase :
    ∀ (database : Database) kind id,
      (database.table (.image kind)).get? id = some (image.after history) →
        ((database.copy.usePixels kind id).map Prod.fst =
            (database.usePixels kind id).map Prod.fst ↔
          (image.after history).copy.pixels = (image.after history).pixels)

/--
Copying keeps the pixels of an image that have been used, and otherwise exactly those
that its payload stands for under the present header too.
-/
theorem copies_after
    (obtained : image.Obtained)
    (history : List ImageStep) :
    image.Copies history := by
  have stored := pixels_of_obtained obtained
  constructor
  case decoded_iff => exact isDecoded_after history
  case shown =>
    split
    next ready => exact pixels_after_of_isDecoded ready history
    next unready => exact pixels_after stored (Bool.eq_false_iff.mpr unready) history
  case kept_iff =>
    rw [pixels_copy_eq, ← or_assoc, ← isDecoded_after]
    split
    next ready => simp [ready]
    next unready =>
      have pending : image.isDecoded = false := by
        rw [isDecoded_after, not_or] at unready
        exact Bool.eq_false_iff.mpr unready.1
      rw [storedPixels_after, pixels_after stored pending]
      simp [unready]
  case used =>
    intro usedBefore later
    have ready : (image.after history).isDecoded = true :=
      (isDecoded_after history).mpr (.inr usedBefore)
    have stillReady : (image.after (history ++ later)).isDecoded = true :=
      (isDecoded_after _).mpr (.inr (List.mem_append_left later usedBefore))
    rw [pixels_copy_eq, if_pos stillReady, after, List.foldl_append]
    exact pixels_after_of_isDecoded ready later
  case sameFormat =>
    intro sameFormat
    have shown : (image.after history).pixels = image.pixels := by
      by_cases ready : image.isDecoded = true
      · exact pixels_after_of_isDecoded ready history
      · rw [pixels_after stored (Bool.eq_false_iff.mpr ready), ImageStep.format_headerAfter]
        · exact stored.symm
        · exact fun header member => sameFormat header (ImageStep.mem_of_mem_upToLastCopy member)
    refine ⟨shown, ?_⟩
    rw [pixels_copy_eq]
    split
    next => exact shown
    next =>
      rw [storedPixels_after, ImageStep.format_headerAfter sameFormat]
      exact stored.symm
  case inDatabase =>
    intro database kind id found
    obtain ⟨original, copied⟩ := usePixels_eq found
    rw [original, copied, Option.some_inj]

/-- A stored icon of two pixels by one that is not compressed. -/
def pairIcon : List UInt8 :=
  [2, 0, 1, 0, 0] ++ [1, 2]

/-- An assignment that makes the icon three pixels wide. -/
def widened : ImageStep :=
  .assign ⟨3, 1, none, .raw⟩

/-- Used before it is made wider, the icon is copied with the pixels it has been read with. -/
theorem copies_pairIcon :
    ∃ icon,
      decode .icon pairIcon = .ok icon ∧
        icon.Copies [.use, widened] ∧
        (icon.after [.use, widened]).copy.pixels = icon.pixels ∧
        icon.pixels.toOption.map PixelGrid.toList = some [1, 2] := by
  obtain ⟨icon, accepted⟩ :=
    Except.exists_of_isOk (show (decode .icon pairIcon).isOk = true by decide +kernel)
  have pixels :
      ((decode .icon pairIcon).toOption.map fun icon =>
          icon.pixels.toOption.map PixelGrid.toList) =
        some (some [1, 2]) := by
    decide +kernel
  rw [accepted] at pixels
  exact ⟨icon, accepted, copies_after (.read accepted) _, rfl, Option.some.inj pixels⟩

/-- Made wider before it is used, the icon shows its pixels, and its copy has none. -/
theorem exists_copy_with_other_pixels :
    ∃ icon,
      decode .icon pairIcon = .ok icon ∧
        ((icon.after [widened]).pixels.toOption.map PixelGrid.toList) = some [1, 2] ∧
        (icon.after [widened]).copy.pixels = .error (.payloadLength 3 2) := by
  obtain ⟨icon, accepted⟩ :=
    Except.exists_of_isOk (show (decode .icon pairIcon).isOk = true by decide +kernel)
  have pixels :
      ((decode .icon pairIcon).toOption.map fun icon =>
          ((icon.after [widened]).pixels.toOption.map PixelGrid.toList,
            (icon.after [widened]).copy.pixels)) =
        some (some [1, 2], .error (.payloadLength 3 2)) := by
    decide +kernel
  rw [accepted] at pixels
  obtain ⟨original, copied⟩ := Prod.mk.inj (Option.some.inj pixels)
  exact ⟨icon, accepted, original, copied⟩

end Image

end AdventureArchive
