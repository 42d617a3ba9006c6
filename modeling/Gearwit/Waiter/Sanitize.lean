import Gearwit.Waiter.Messages

/-!
# Paste-safe tokens and displayed bodies

Tokens that reach a terminal hold no control characters.  A provider body is
shown unchanged when it fits and has no disallowed control; otherwise it is cut
at a grapheme boundary, its open code fence is closed, and a fixed advisory says
that the body is partial.
-/

namespace Gearwit

/-- Segmentation of a text into extended grapheme clusters. -/
class UnicodeSegmentation where
  graphemes : List Char → List (List Char)

namespace Waiter

open String (utf8Len utf8Len_append utf8Len_cons utf8Len_nil)

/-- Maximum length of a channel, team or cursor token. -/
def maxId : Nat := 128

/-- Maximum scalars of a drained body. -/
def maxBody : Nat := 4096

/-- Maximum UTF-8 bytes of a drained body. -/
def maxBodyBytes : Nat := 4096

/-- Notice appended when this process measured local loss. -/
def partialBodyAdvisory : String := "Partial body; full post at source."

/-- Locally measured loss while preparing a body. -/
structure LocalBodyLoss where
  controlsRemoved : Nat
  scalarsClipped : Nat
  displayedBytes : Nat
  deriving DecidableEq

/-- A body prepared for the current bounds. -/
structure PreparedBody where
  body : String
  localLoss : Option LocalBodyLoss
  deriving DecidableEq

/-- Measured loss when the advisory cannot fit. -/
structure BodyPrepareError where
  controlsRemoved : Nat
  scalarsClipped : Nat
  deriving DecidableEq

/-! ## Characters -/

/-- Control characters. -/
def isControl (character : Char) : Bool :=
  Decidable.decide (character.toNat ≤ 0x1F ∨
    (0x7F ≤ character.toNat ∧ character.toNat ≤ 0x9F))

/-- Controls other than tab and line feed. -/
def isDisallowedControl (character : Char) : Bool :=
  isControl character && character != '\t' && character != '\n'

/-- White space. -/
def isWhitespace (character : Char) : Bool :=
  Decidable.decide ((0x09 ≤ character.toNat ∧ character.toNat ≤ 0x0D) ∨
    character.toNat = 0x20 ∨ character.toNat = 0x85 ∨ character.toNat = 0xA0 ∨
    character.toNat = 0x1680 ∨
    (0x2000 ≤ character.toNat ∧ character.toNat ≤ 0x200A) ∨
    character.toNat = 0x2028 ∨ character.toNat = 0x2029 ∨ character.toNat = 0x202F ∨
    character.toNat = 0x205F ∨ character.toNat = 0x3000)

/-- The token when it is bounded and free of control characters. -/
def pasteToken (raw : String) (max : Nat) : Option String :=
  if raw = "" ∨ max < raw.utf8ByteSize then none
  else if raw.toList.any isControl then none
  else some raw

/-- A token that passes is the text itself. -/
theorem pasteToken_eq_some {raw token : String} {max : Nat}
    (passed : pasteToken raw max = some token) :
    token = raw ∧ raw ≠ "" ∧ raw.utf8ByteSize ≤ max ∧
      ∀ character ∈ raw.toList, isControl character = false := by
  unfold pasteToken at passed
  split_ifs at passed with bounds controls
  push Not at bounds
  refine ⟨(Option.some.inj passed).symm, bounds.1, bounds.2, ?_⟩
  simpa using controls

/-! ## Code fences -/

/-- Opening or closing fence of a line: its marker, its length and what follows. -/
def fenceMarker (line : List Char) : Option (Char × Nat × List Char) :=
  let indent := (line.takeWhile fun character => character == ' ').length
  if 3 < indent then none
  else
    let rest := line.drop indent
    match rest.head? with
    | none => none
    | some marker =>
        if marker ≠ '`' ∧ marker ≠ '~' then none
        else
          let length := (rest.takeWhile fun character => character == marker).length
          if 3 ≤ length then some (marker, length, rest.drop length) else none

/-- Fence state after one line. -/
def fenceStep (opened : Option (Char × Nat)) (line : List Char) : Option (Char × Nat) :=
  match fenceMarker line with
  | none => opened
  | some (marker, length, remainder) =>
      match opened with
      | some (openMarker, openLength) =>
          if marker = openMarker ∧ openLength ≤ length ∧ remainder.all isWhitespace then none
          else some (openMarker, openLength)
      | none =>
          if marker ≠ '`' ∨ !remainder.contains '`' then some (marker, length) else none

/-- The fence still open at the end of a text. -/
def unclosedFence (text : List Char) : Option (Char × Nat) :=
  (text.splitOn '\n').foldl fenceStep none

/-! ## Preparation -/

/-- Byte and scalar ends of the leading graphemes that leave room for the
advisory, the longest first. -/
def retainedEnds (maxScalars maxBytes : Nat) :
    List (List Char) → Nat → Nat → List (Nat × Nat) → List (Nat × Nat)
  | [], _, _, ends => ends
  | grapheme :: rest, scalars, bytes, ends =>
      if maxScalars < scalars + grapheme.length + (2 + partialBodyAdvisory.toList.length) ∨
          maxBytes < bytes + utf8Len grapheme + (2 + partialBodyAdvisory.utf8ByteSize) then
        ends
      else
        retainedEnds maxScalars maxBytes rest (scalars + grapheme.length)
          (bytes + utf8Len grapheme)
          ((bytes + utf8Len grapheme, scalars + grapheme.length) :: ends)

/-- The leading part of a text that takes the given number of bytes.  Ends are
sums of whole graphemes, so they fall between two scalars. -/
def sliceTo : Nat → List Char → List Char
  | _, [] => []
  | bytes, character :: rest =>
      if character.utf8Size ≤ bytes then
        character :: sliceTo (bytes - character.utf8Size) rest
      else []

/-- The text with a final line feed. -/
def endLine (text : List Char) : List Char :=
  if text.getLast? = some '\n' then text else text ++ ['\n']

/-- A kept prefix with its open fence closed and the advisory under a blank line. -/
def advisedBody (kept : List Char) : List Char :=
  let body :=
    match unclosedFence kept with
    | some (marker, length) => endLine kept ++ List.replicate length marker ++ ['\n']
    | none => kept
  endLine body ++ '\n' :: partialBodyAdvisory.toList

/-- The longest kept prefix with visible text whose advised body fits. -/
def clippedBody (clean : List Char) (controlsRemoved maxScalars maxBytes : Nat) :
    List (Nat × Nat) → Option PreparedBody
  | [] => none
  | (byteEnd, scalarEnd) :: ends =>
      let kept := sliceTo byteEnd clean
      if kept.all isWhitespace then
        clippedBody clean controlsRemoved maxScalars maxBytes ends
      else
        let body := advisedBody kept
        if body.length ≤ maxScalars ∧ utf8Len body ≤ maxBytes then
          some {
            body := String.ofList body
            localLoss := some {
              controlsRemoved
              scalarsClipped := clean.length - scalarEnd
              displayedBytes := utf8Len body } }
        else clippedBody clean controlsRemoved maxScalars maxBytes ends

variable [UnicodeSegmentation]

/-- Prepare a body under explicit limits. -/
def prepareBodyWithLimits (raw : String) (maxScalars maxBytes : Nat) :
    Except BodyPrepareError PreparedBody :=
  let clean := raw.toList.filter fun character => !isDisallowedControl character
  let controlsRemoved := raw.toList.countP isDisallowedControl
  if controlsRemoved = 0 ∧ clean.length ≤ maxScalars ∧ utf8Len clean ≤ maxBytes then
    .ok ⟨String.ofList clean, none⟩
  else
    let ends := retainedEnds maxScalars maxBytes (UnicodeSegmentation.graphemes clean) 0 0 []
    match clippedBody clean controlsRemoved maxScalars maxBytes ends with
    | some prepared => .ok prepared
    | none => .error ⟨controlsRemoved, clean.length⟩

/-- Prepare a body under the bounds of the wire and the host. -/
def prepareBody (raw : String) : Except BodyPrepareError PreparedBody :=
  prepareBodyWithLimits raw maxBody maxBodyBytes

omit [UnicodeSegmentation] in
/-- Whether a body passes both local renderers without transformation. -/
def bodyIsDisplayable (body : String) : Bool :=
  Decidable.decide (body.toList.length ≤ maxBody) &&
    Decidable.decide (body.utf8ByteSize ≤ maxBodyBytes) &&
      !body.toList.any isDisallowedControl

/-! ## What a prepared body is -/

section Bodies

omit [UnicodeSegmentation]

/-- The bytes of a text are those of its characters. -/
theorem utf8ByteSize_eq (text : String) : text.utf8ByteSize = utf8Len text.toList := by
  conv_lhs => rw [← String.ofList_toList (s := text)]
  exact String.utf8ByteSize_ofList _

private theorem mem_of_mem_sliceTo {text : List Char} {bytes : Nat} {character : Char}
    (member : character ∈ sliceTo bytes text) : character ∈ text := by
  induction text generalizing bytes with
  | nil => exact member
  | cons first rest inductionHypothesis =>
      unfold sliceTo at member
      split_ifs at member
      · rcases List.mem_cons.1 member with same | later
        · exact List.mem_cons.2 (Or.inl same)
        · exact List.mem_cons.2 (Or.inr (inductionHypothesis later))
      · cases member

private theorem mem_endLine {text : List Char} {character : Char}
    (member : character ∈ endLine text) : character ∈ text ∨ character = '\n' := by
  unfold endLine at member
  split_ifs at member
  · exact Or.inl member
  · simpa using member

private theorem fenceMarker_found {line : List Char} {marker : Char} {length : Nat}
    {remainder : List Char} (found : fenceMarker line = some (marker, length, remainder)) :
    3 ≤ length ∧ (marker = '`' ∨ marker = '~') := by
  unfold fenceMarker at found
  simp only at found
  split_ifs at found
  split at found
  · cases found
  · split_ifs at found with plain long
    simp only [Option.some.injEq, Prod.mk.injEq] at found
    obtain ⟨rfl, rfl, _⟩ := found
    refine ⟨long, ?_⟩
    by_contra neither
    rw [not_or] at neither
    exact plain neither

/-- An open fence was opened by at least three backticks or tildes. -/
private def Openable (opened : Option (Char × Nat)) : Prop :=
  ∀ marker length, opened = some (marker, length) →
    3 ≤ length ∧ (marker = '`' ∨ marker = '~')

private theorem fenceStep_openable {opened : Option (Char × Nat)} {line : List Char}
    (before : Openable opened) : Openable (fenceStep opened line) := by
  intro marker length stepped
  unfold fenceStep at stepped
  split at stepped
  · exact before marker length stepped
  · rename_i mark size remainder read
    split at stepped
    · split_ifs at stepped
      exact before marker length stepped
    · split_ifs at stepped
      cases stepped
      exact fenceMarker_found read

private theorem foldl_openable {lines : List (List Char)} {opened : Option (Char × Nat)}
    (before : Openable opened) : Openable (lines.foldl fenceStep opened) := by
  induction lines generalizing opened with
  | nil => exact before
  | cons line rest inductionHypothesis => exact inductionHypothesis (fenceStep_openable before)

/-- A fence is at least three marks of one kind. -/
theorem unclosedFence_found {text : List Char} {marker : Char} {length : Nat}
    (found : unclosedFence text = some (marker, length)) :
    3 ≤ length ∧ (marker = '`' ∨ marker = '~') :=
  foldl_openable (fun _ _ absent => by cases absent) marker length found

private theorem mem_advisedBody {kept : List Char} {character : Char}
    (member : character ∈ advisedBody kept) :
    character ∈ kept ∨ character = '\n' ∨ character = '`' ∨ character = '~' ∨
      character ∈ partialBodyAdvisory.toList := by
  unfold advisedBody at member
  simp only [List.mem_append, List.mem_cons] at member
  rcases member with body | feed | advisory
  · rcases mem_endLine body with inside | feed
    · cases fence : unclosedFence kept with
      | none =>
          simp only [fence] at inside
          exact Or.inl inside
      | some entry =>
          obtain ⟨marker, length⟩ := entry
          simp only [fence, List.mem_append, List.mem_replicate, List.mem_singleton] at inside
          rcases inside with (line | ⟨_, same⟩) | feed
          · rcases mem_endLine line with original | feed
            · exact Or.inl original
            · exact Or.inr (Or.inl feed)
          · rcases (unclosedFence_found fence).2 with backtick | tilde
            · exact Or.inr (Or.inr (Or.inl (same.trans backtick)))
            · exact Or.inr (Or.inr (Or.inr (Or.inl (same.trans tilde))))
          · exact Or.inr (Or.inl feed)
    · exact Or.inr (Or.inl feed)
  · exact Or.inr (Or.inl feed)
  · exact Or.inr (Or.inr (Or.inr (Or.inr advisory)))

/-- The advice adds no disallowed control. -/
theorem advisedBody_allowed {clean kept : List Char}
    (part : ∀ character ∈ kept, character ∈ clean)
    (allowed : ∀ character ∈ clean, isDisallowedControl character = false) :
    ∀ character ∈ advisedBody kept, isDisallowedControl character = false := by
  intro character member
  have advisory : ∀ other ∈ partialBodyAdvisory.toList, isDisallowedControl other = false := by
    have checked : partialBodyAdvisory.toList.all (fun other => !isDisallowedControl other) := by
      decide +kernel
    simpa using checked
  rcases mem_advisedBody member with inside | same | same | same | inside
  · exact allowed character (part character inside)
  · rw [same]
    decide
  · rw [same]
    decide
  · rw [same]
    decide
  · exact advisory character inside

/-- A clipped body fits, has no disallowed control, and ends with the advisory; its
loss counts the displayed bytes. -/
private theorem clippedBody_spec {clean : List Char}
    {controlsRemoved maxScalars maxBytes : Nat} {ends : List (Nat × Nat)}
    {prepared : PreparedBody}
    (allowed : ∀ character ∈ clean, isDisallowedControl character = false)
    (clipped : clippedBody clean controlsRemoved maxScalars maxBytes ends = some prepared) :
    prepared.body.toList.length ≤ maxScalars ∧
      prepared.body.utf8ByteSize ≤ maxBytes ∧
      (∀ character ∈ prepared.body.toList, isDisallowedControl character = false) ∧
      ∃ loss, prepared.localLoss = some loss ∧
        loss.displayedBytes = prepared.body.utf8ByteSize ∧
        partialBodyAdvisory.toList <:+ prepared.body.toList := by
  induction ends with
  | nil => cases clipped
  | cons first rest inductionHypothesis =>
      obtain ⟨byteEnd, scalarEnd⟩ := first
      unfold clippedBody at clipped
      simp only at clipped
      split_ifs at clipped with blank fits
      · exact inductionHypothesis clipped
      · cases clipped
        have sizes : (String.ofList (advisedBody (sliceTo byteEnd clean))).utf8ByteSize =
            utf8Len (advisedBody (sliceTo byteEnd clean)) := String.utf8ByteSize_ofList _
        refine ⟨by simpa using fits.1, by simpa [sizes] using fits.2, ?_, _, rfl, sizes.symm, ?_⟩
        · rw [String.toList_ofList]
          exact advisedBody_allowed (fun _ member => mem_of_mem_sliceTo member) allowed
        · rw [String.toList_ofList]
          exact (List.suffix_cons _ _).trans (List.suffix_append _ _)
      · exact inductionHypothesis clipped

end Bodies

/-- What a prepared body satisfies: it is within both bounds, holds no disallowed
control, and a measured loss counts its bytes and shows the advisory. -/
structure PreparedBody.Displayed (prepared : PreparedBody) : Prop where
  scalars : prepared.body.toList.length ≤ maxBody
  bytes : prepared.body.utf8ByteSize ≤ maxBodyBytes
  allowed : ∀ character ∈ prepared.body.toList, isDisallowedControl character = false
  disclosed : ∀ loss, prepared.localLoss = some loss →
    loss.displayedBytes = prepared.body.utf8ByteSize ∧
      partialBodyAdvisory.toList <:+ prepared.body.toList

/-- A prepared body can be displayed. -/
theorem prepareBody_displayed {raw : String} {prepared : PreparedBody}
    (done : prepareBody raw = .ok prepared) : prepared.Displayed := by
  unfold prepareBody prepareBodyWithLimits at done
  simp only at done
  have allowed : ∀ character ∈ raw.toList.filter fun character => !isDisallowedControl character,
      isDisallowedControl character = false := by
    intro character member
    simpa using (List.mem_filter.1 member).2
  split_ifs at done with fits
  · cases done
    refine ⟨by simpa using fits.2.1, ?_, ?_, fun loss lost => by cases lost⟩
    · rw [String.utf8ByteSize_ofList]
      exact fits.2.2
    · rw [String.toList_ofList]
      exact allowed
  · split at done
    · rename_i found clipped
      cases done
      obtain ⟨scalars, bytes, clear, loss, lost, displayed, ending⟩ :=
        clippedBody_spec allowed clipped
      refine ⟨scalars, bytes, clear, ?_⟩
      intro other same
      rw [lost] at same
      cases same
      exact ⟨displayed, ending⟩
    · cases done

end Waiter
end Gearwit
