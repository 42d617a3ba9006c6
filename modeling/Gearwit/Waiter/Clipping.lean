import Gearwit.Waiter.Sanitize

/-!
# Clipped bodies

A body that cannot be shown whole is cut at a boundary between two graphemes.  Adding a
line feed to a prefix never makes its rendering shorter, so the room that is reserved for
two line feeds costs at most one of them, and the line that closes an open fence leaves no
fence open.
-/

namespace Gearwit
namespace Waiter

open String (utf8Len utf8Len_append utf8Len_cons utf8Len_nil)

/-! ## Renderings -/

/-- The text without its disallowed controls. -/
def cleaned (raw : String) : List Char :=
  raw.toList.filter fun character => !isDisallowedControl character

/-- A prefix has something to show. -/
def Visible (kept : List Char) : Prop :=
  ∃ character ∈ kept, isWhitespace character = false

/-- The rendering of a prefix is within both limits. -/
def RenderingFits (maxScalars maxBytes : Nat) (kept : List Char) : Prop :=
  (advisedBody kept).length ≤ maxScalars ∧ utf8Len (advisedBody kept) ≤ maxBytes

/-- A text is cut between two graphemes. -/
def GraphemePrefix [UnicodeSegmentation] (text kept : List Char) : Prop :=
  ∃ front rest, UnicodeSegmentation.graphemes text = front ++ rest ∧ kept = front.flatten

/-- Graphemes are the pieces of a text, and a line feed is one of its own. -/
structure Segmented [UnicodeSegmentation] (text : List Char) : Prop where
  whole : (UnicodeSegmentation.graphemes text).flatten = text
  filled : ∀ grapheme ∈ UnicodeSegmentation.graphemes text, grapheme ≠ []
  lineFeed : ∀ grapheme ∈ UnicodeSegmentation.graphemes text, '\n' ∈ grapheme → grapheme = ['\n']

/-- Scalars of the advisory. -/
def advisoryScalars : Nat := partialBodyAdvisory.toList.length

/-- Bytes of the advisory. -/
def advisoryBytes : Nat := partialBodyAdvisory.utf8ByteSize

/-! ## Fences -/

private theorem unclosedFence_append (text rest : List Char) :
    unclosedFence (text ++ '\n' :: rest) =
      (rest.splitOn '\n').foldl fenceStep (unclosedFence text) := by
  rw [unclosedFence, List.splitOn_append_cons_self, List.foldl_append]
  rfl

private theorem fenceMarker_nil : fenceMarker [] = none := rfl

private theorem fenceMarker_advisory : fenceMarker partialBodyAdvisory.toList = none := by
  decide +kernel

private theorem fenceMarker_replicate {marker : Char} {length : Nat} (long : 3 ≤ length)
    (known : marker = '`' ∨ marker = '~') :
    fenceMarker (List.replicate length marker) = some (marker, length, []) := by
  have other : (marker == ' ') = false := by
    rcases known with rfl | rfl <;> decide
  obtain ⟨more, rfl⟩ : ∃ more, length = more + 1 := ⟨length - 1, by omega⟩
  have unindented : (List.replicate (more + 1) marker).takeWhile
      (fun character => character == ' ') = [] := by
    rw [List.replicate_succ, List.takeWhile_cons_of_neg (by simp [other])]
  have whole : (List.replicate (more + 1) marker).takeWhile
      (fun character => character == marker) = List.replicate (more + 1) marker := by
    rw [List.takeWhile_replicate_eq_filter]
    simp
  have first : (List.replicate (more + 1) marker).head? = some marker := rfl
  unfold fenceMarker
  simp only [unindented, List.length_nil, List.drop_zero, first]
  rw [if_neg (by omega), if_neg (by rcases known with rfl | rfl <;> simp), whole,
    List.length_replicate, if_pos long, List.drop_replicate, Nat.sub_self, List.replicate_zero]

/-- A text and the text with a final line feed end one line. -/
private theorem endLine_cases (text : List Char) :
    ∃ ended, endLine text = ended ++ ['\n'] ∧ unclosedFence ended = unclosedFence text ∧
      (ended = text ∨ text = ended ++ ['\n']) := by
  unfold endLine
  split_ifs with feed
  · obtain ⟨ended, rfl⟩ := List.getLast?_eq_some_iff.1 feed
    refine ⟨ended, rfl, ?_, .inr rfl⟩
    rw [unclosedFence_append]
    simp [fenceStep, fenceMarker_nil]
  · exact ⟨text, rfl, rfl, .inl rfl⟩

/-- No fence is open after a rendering. -/
theorem unclosedFence_advisedBody (kept : List Char) :
    unclosedFence (advisedBody kept) = none := by
  have advisory (opened : Option (Char × Nat)) :
      fenceStep opened partialBodyAdvisory.toList = opened := by
    rw [fenceStep, fenceMarker_advisory]
  have blank (opened : Option (Char × Nat)) : fenceStep opened [] = opened := rfl
  have single : partialBodyAdvisory.toList.splitOn '\n' = [partialBodyAdvisory.toList] :=
    List.splitOn_eq_singleton (by decide +kernel)
  obtain ⟨ended, feed, same, _⟩ := endLine_cases kept
  unfold advisedBody
  cases opened : unclosedFence kept with
  | none =>
      simp only
      rw [feed, List.append_assoc, List.singleton_append, unclosedFence_append, same, opened,
        ← List.nil_append ('\n' :: _), List.splitOn_append_cons_self, single]
      simp [blank, advisory]
  | some fence =>
      obtain ⟨marker, length⟩ := fence
      obtain ⟨long, known⟩ := unclosedFence_found opened
      have unfed : '\n' ∉ List.replicate length marker := by
        intro member
        obtain ⟨_, same⟩ := List.mem_replicate.1 member
        rcases known with rfl | rfl <;> exact absurd same (by decide)
      have closed : fenceStep (some (marker, length)) (List.replicate length marker) = none := by
        rw [fenceStep, fenceMarker_replicate long known]
        simp
      have again : endLine (endLine kept ++ List.replicate length marker ++ ['\n']) =
          endLine kept ++ List.replicate length marker ++ ['\n'] := by
        unfold endLine
        rw [if_pos (List.getLast?_concat)]
      simp only
      rw [again, feed]
      rw [show ended ++ ['\n'] ++ List.replicate length marker ++ ['\n'] ++
          '\n' :: partialBodyAdvisory.toList =
        ended ++ '\n' :: (List.replicate length marker ++ '\n' :: ([] ++
          '\n' :: partialBodyAdvisory.toList)) by simp]
      rw [unclosedFence_append, same, opened, List.splitOn_append_cons_self,
        List.splitOn_append_cons_self, List.splitOn_eq_singleton unfed, single]
      simp [closed, blank, advisory]

/-! ## Lengths of renderings -/

private theorem endLine_length (text : List Char) :
    text.length ≤ (endLine text).length ∧
      (endLine text).length ≤ (text ++ ['\n']).length := by
  unfold endLine
  split_ifs <;> simp

private theorem endLine_utf8Len (text : List Char) :
    utf8Len text ≤ utf8Len (endLine text) ∧
      utf8Len (endLine text) ≤ utf8Len (text ++ ['\n']) := by
  unfold endLine
  split_ifs <;> simp

private theorem endLine_feed (text : List Char) : endLine (text ++ ['\n']) = text ++ ['\n'] := by
  unfold endLine
  rw [if_pos (List.getLast?_concat)]

private theorem unclosedFence_feed (text : List Char) :
    unclosedFence (text ++ ['\n']) = unclosedFence text := by
  rw [unclosedFence_append]
  simp [fenceStep, fenceMarker_nil]

/-- The rendering of a prefix is no longer than that of the prefix with a line feed. -/
private theorem advisedBody_feed (kept : List Char) :
    (advisedBody kept).length ≤ (advisedBody (kept ++ ['\n'])).length ∧
      utf8Len (advisedBody kept) ≤ utf8Len (advisedBody (kept ++ ['\n'])) := by
  have scalars := (endLine_length kept).2
  have bytes := (endLine_utf8Len kept).2
  unfold advisedBody
  rw [unclosedFence_feed]
  cases unclosedFence kept with
  | none =>
      simp only [endLine_feed, List.length_append, utf8Len_append] at scalars bytes ⊢
      omega
  | some fence =>
      simp only [endLine_feed, List.length_append, utf8Len_append] at scalars bytes ⊢
      omega

/-- A rendering adds a line feed and the advisory, and one more line feed where the prefix
ends within a line. -/
private theorem advisedBody_long (kept : List Char) :
    (kept.length + 1 + advisoryScalars ≤ (advisedBody kept).length ∧
      utf8Len kept + 1 + advisoryBytes ≤ utf8Len (advisedBody kept)) ∧
    (kept.getLast? ≠ some '\n' →
      kept.length + 2 + advisoryScalars ≤ (advisedBody kept).length ∧
        utf8Len kept + 2 + advisoryBytes ≤ utf8Len (advisedBody kept)) := by
  have bytes : advisoryBytes = utf8Len partialBodyAdvisory.toList := utf8ByteSize_eq _
  have scalars : advisoryScalars = partialBodyAdvisory.toList.length := rfl
  have feed : ('\n' : Char).utf8Size = 1 := rfl
  have longer := (endLine_length kept).1
  have wider := (endLine_utf8Len kept).1
  rw [bytes, scalars]
  unfold advisedBody
  cases unclosedFence kept with
  | none =>
      simp only [List.length_append, List.length_cons, utf8Len_append, utf8Len_cons, feed]
      refine ⟨⟨by omega, by omega⟩, fun within => ?_⟩
      have ended : endLine kept = kept ++ ['\n'] := if_neg within
      simp only [ended, List.length_append, List.length_cons, List.length_nil, utf8Len_append,
        utf8Len_cons, utf8Len_nil, feed]
      omega
  | some fence =>
      simp only [endLine_feed, List.length_append, List.length_cons, List.length_nil,
        utf8Len_append, utf8Len_cons, utf8Len_nil, feed]
      omega

/-! ## The ends that are retained -/

/-- Byte and scalar ends of the prefixes of graphemes that are listed last to first. -/
private def endsOf : List (List Char) → List (Nat × Nat)
  | [] => []
  | grapheme :: earlier =>
      (utf8Len (grapheme :: earlier).reverse.flatten,
        (grapheme :: earlier).reverse.flatten.length) :: endsOf earlier

private theorem flatten_reverse_cons (grapheme : List Char) (earlier : List (List Char)) :
    (grapheme :: earlier).reverse.flatten = earlier.reverse.flatten ++ grapheme := by
  simp

/-- A grapheme leaves no room for two line feeds and the advisory. -/
private def Crowds (maxScalars maxBytes : Nat) (front : List Char) (grapheme : List Char) :
    Prop :=
  maxScalars < front.length + grapheme.length + (2 + advisoryScalars) ∨
    maxBytes < utf8Len front + utf8Len grapheme + (2 + advisoryBytes)

/-- The loop retains the ends of a prefix, up to a grapheme that leaves no room. -/
private theorem retainedEnds_eq (maxScalars maxBytes : Nat)
    (graphemes taken : List (List Char)) :
    ∃ front rest, graphemes = front ++ rest ∧
      retainedEnds maxScalars maxBytes graphemes taken.reverse.flatten.length
          (utf8Len taken.reverse.flatten) (endsOf taken) =
        endsOf (front.reverse ++ taken) ∧
      ∀ grapheme more, rest = grapheme :: more →
        Crowds maxScalars maxBytes (taken.reverse ++ front).flatten grapheme := by
  induction graphemes generalizing taken with
  | nil => exact ⟨[], [], rfl, rfl, by simp⟩
  | cons grapheme graphemes hypothesis =>
      unfold retainedEnds
      split_ifs with crowded
      · refine ⟨[], grapheme :: graphemes, rfl, rfl, fun other more same => ?_⟩
        cases same
        rw [List.append_nil]
        exact crowded
      · obtain ⟨front, rest, same, ends, crowds⟩ := hypothesis (grapheme :: taken)
        refine ⟨grapheme :: front, rest, by rw [same]; rfl, ?_, fun other more later => ?_⟩
        · rw [List.reverse_cons, List.append_assoc, List.singleton_append, ← ends,
            flatten_reverse_cons, List.length_append, utf8Len_append, endsOf,
            flatten_reverse_cons, List.length_append, utf8Len_append]
        · have crowd := crowds other more later
          rwa [List.reverse_cons, List.append_assoc, List.singleton_append] at crowd

private theorem sliceTo_append (kept rest : List Char) :
    sliceTo (utf8Len kept) (kept ++ rest) = kept := by
  induction kept with
  | nil =>
      cases rest with
      | nil => rfl
      | cons first rest =>
          have filled := first.utf8Size_pos
          rw [utf8Len_nil, List.nil_append, sliceTo, if_neg (by omega)]
  | cons first kept hypothesis =>
      rw [List.cons_append, sliceTo, utf8Len_cons, if_pos (by omega), Nat.add_sub_cancel,
        hypothesis]

/-- What the longest prefix that can be shown looks like. -/
private structure Chosen (clean : List Char) (controlsRemoved maxScalars maxBytes : Nat)
    (graphemes kept : List (List Char)) (prepared : PreparedBody) : Prop where
  suffix : kept <:+ graphemes
  visible : Visible kept.reverse.flatten
  fits : RenderingFits maxScalars maxBytes kept.reverse.flatten
  body : prepared.body = String.ofList (advisedBody kept.reverse.flatten)
  loss : prepared.localLoss = some ⟨controlsRemoved,
    clean.length - kept.reverse.flatten.length, utf8Len (advisedBody kept.reverse.flatten)⟩
  longest : ∀ longer, longer <:+ graphemes → kept.length < longer.length →
    Visible longer.reverse.flatten → ¬ RenderingFits maxScalars maxBytes longer.reverse.flatten

private theorem visible_iff {kept : List Char} :
    Visible kept ↔ ¬ kept.all isWhitespace = true := by
  simp [Visible]

private theorem clippedBody_cases {clean : List Char} {graphemes : List (List Char)}
    (controlsRemoved maxScalars maxBytes : Nat)
    (part : graphemes.reverse.flatten <+: clean) :
    (∃ kept prepared, clippedBody clean controlsRemoved maxScalars maxBytes (endsOf graphemes) =
        some prepared ∧
      Chosen clean controlsRemoved maxScalars maxBytes graphemes kept prepared) ∨
    (clippedBody clean controlsRemoved maxScalars maxBytes (endsOf graphemes) = none ∧
      ∀ kept, kept <:+ graphemes → Visible kept.reverse.flatten →
        ¬ RenderingFits maxScalars maxBytes kept.reverse.flatten) := by
  induction graphemes with
  | nil =>
      refine .inr ⟨rfl, fun kept suffix visible => ?_⟩
      obtain rfl := List.suffix_nil.1 suffix
      obtain ⟨_, member, _⟩ := visible
      cases member
  | cons grapheme earlier hypothesis =>
      have shorter : earlier.reverse.flatten <+: clean := by
        refine List.IsPrefix.trans ?_ part
        rw [flatten_reverse_cons]
        exact List.prefix_append _ _
      have sliced : sliceTo (utf8Len (grapheme :: earlier).reverse.flatten) clean =
          (grapheme :: earlier).reverse.flatten := by
        obtain ⟨rest, rfl⟩ := part
        exact sliceTo_append _ _
      by_cases shown : Visible (grapheme :: earlier).reverse.flatten ∧
          RenderingFits maxScalars maxBytes (grapheme :: earlier).reverse.flatten
      · obtain ⟨visible, fits⟩ := shown
        unfold endsOf clippedBody
        simp only [sliced]
        rw [if_neg (visible_iff.1 visible), if_pos (show _ ∧ _ from fits)]
        refine .inl ⟨grapheme :: earlier, _, rfl, List.suffix_rfl, visible, fits, rfl, rfl, ?_⟩
        intro longer suffix more
        exact absurd suffix.length_le (Nat.not_le_of_lt more)
      · have skipped : clippedBody clean controlsRemoved maxScalars maxBytes
            (endsOf (grapheme :: earlier)) =
              clippedBody clean controlsRemoved maxScalars maxBytes (endsOf earlier) := by
          rw [endsOf, clippedBody]
          simp only [sliced]
          split_ifs with blank fits
          · rfl
          · exact absurd ⟨visible_iff.2 blank, fits⟩ shown
          · rfl
        have whole {kept : List (List Char)} (suffix : kept <:+ grapheme :: earlier)
            (visible : Visible kept.reverse.flatten)
            (fits : RenderingFits maxScalars maxBytes kept.reverse.flatten) :
            kept <:+ earlier := by
          rcases List.suffix_cons_iff.1 suffix with rfl | later
          · exact absurd ⟨visible, fits⟩ shown
          · exact later
        rw [skipped]
        rcases hypothesis shorter with ⟨kept, prepared, found, chosen⟩ | ⟨none, unfit⟩
        · refine .inl ⟨kept, prepared, found,
            { chosen with
              suffix := chosen.suffix.trans (List.suffix_cons _ _)
              longest := fun longer suffix more visible fits =>
                chosen.longest longer (whole suffix visible fits) more visible fits }⟩
        · exact .inr ⟨none, fun kept suffix visible fits =>
            unfit kept (whole suffix visible fits) visible fits⟩

/-! ## The longest prefix -/

section Prefixes

variable {maxScalars maxBytes : Nat} {front rest : List (List Char)}

private theorem Visible.mono {kept longer : List Char} (visible : Visible kept)
    (part : kept <+: longer) : Visible longer := by
  obtain ⟨character, member, shown⟩ := visible
  exact ⟨character, part.subset member, shown⟩

private theorem filled_of_ne_nil {text : List Char} (filled : text ≠ []) :
    1 ≤ text.length ∧ 1 ≤ utf8Len text := by
  obtain ⟨character, tail, rfl⟩ := List.exists_cons_of_ne_nil filled
  have size := character.utf8Size_pos
  rw [List.length_cons, utf8Len_cons]
  omega

/-- Beyond the graphemes that leave room, only one more line feed can fit. -/
private theorem beyond {more : List (List Char)} {grapheme : List Char}
    (segmented : ∀ piece ∈ grapheme :: more, piece ≠ [] ∧ ('\n' ∈ piece → piece = ['\n']))
    (crowded : Crowds maxScalars maxBytes front.flatten grapheme)
    (fits : RenderingFits maxScalars maxBytes (front ++ grapheme :: more).flatten) :
    more = [] ∧ grapheme = ['\n'] := by
  have pieces : (front ++ grapheme :: more).flatten =
      front.flatten ++ (grapheme ++ more.flatten) := by simp
  rw [pieces] at fits
  obtain ⟨⟨scalars, bytes⟩, within⟩ :=
    advisedBody_long (front.flatten ++ (grapheme ++ more.flatten))
  obtain ⟨fitScalars, fitBytes⟩ := fits
  simp only [List.length_append, utf8Len_append] at scalars bytes within
  cases more with
  | cons piece others =>
      exfalso
      have filled : (piece :: others).flatten ≠ [] := by
        intro empty
        exact (segmented piece (by simp)).1 (List.append_eq_nil_iff.1 empty).1
      obtain ⟨moreScalars, moreBytes⟩ := filled_of_ne_nil filled
      rcases crowded with crowded | crowded <;> omega
  | nil =>
      refine ⟨rfl, (segmented grapheme (by simp)).2 ?_⟩
      by_contra unfed
      have last : (front.flatten ++ (grapheme ++ [].flatten)).getLast? ≠ some '\n' := by
        intro feed
        rw [List.flatten_nil, List.append_nil,
          List.getLast?_append_of_ne_nil _ (segmented grapheme (by simp)).1] at feed
        exact unfed (List.mem_of_getLast? feed)
      obtain ⟨scalars, bytes⟩ := within last
      rcases crowded with crowded | crowded <;> omega

/-- A prefix that ends with the line feed after the retained graphemes fits only if these
fit. -/
private theorem fits_of_feed
    (fits : RenderingFits maxScalars maxBytes (front ++ [['\n']]).flatten) :
    RenderingFits maxScalars maxBytes front.flatten := by
  rw [List.flatten_append, List.flatten_singleton] at fits
  obtain ⟨scalars, bytes⟩ := advisedBody_feed front.flatten
  exact ⟨scalars.trans fits.1, bytes.trans fits.2⟩

private theorem visible_of_feed (visible : Visible (front ++ [['\n']]).flatten) :
    Visible front.flatten := by
  rw [List.flatten_append, List.flatten_singleton] at visible
  obtain ⟨character, member, shown⟩ := visible
  rcases List.mem_append.1 member with inside | feed
  · exact ⟨character, inside, shown⟩
  · rw [List.mem_singleton.1 feed] at shown
    exact absurd shown (by decide)

/-- A prefix of the graphemes is within the retained ones, or it goes beyond them. -/
private theorem within_or_beyond {longer others : List (List Char)}
    (same : front ++ rest = longer ++ others) :
    longer <+: front ∨ ∃ grapheme more remaining, rest = grapheme :: (more ++ remaining) ∧
      longer = front ++ grapheme :: more := by
  rcases List.append_eq_append_iff.1 same with ⟨more, rfl, taken⟩ | ⟨more, rfl, _⟩
  · cases more with
    | nil => exact .inl (by simp)
    | cons grapheme more => exact .inr ⟨grapheme, more, others, taken, rfl⟩
  · exact .inl (List.prefix_append _ _)

/-- A visible prefix that fits is within the retained graphemes, or adds a line feed to
them and they fit as well. -/
private theorem fitting_cases {longer others : List (List Char)}
    (same : front ++ rest = longer ++ others)
    (segmented : ∀ piece ∈ front ++ rest, piece ≠ [] ∧ ('\n' ∈ piece → piece = ['\n']))
    (crowds : ∀ grapheme more, rest = grapheme :: more →
      Crowds maxScalars maxBytes front.flatten grapheme)
    (visible : Visible longer.flatten)
    (fits : RenderingFits maxScalars maxBytes longer.flatten) :
    longer <+: front ∨ longer = front ++ [['\n']] ∧ Visible front.flatten ∧
      RenderingFits maxScalars maxBytes front.flatten := by
  rcases within_or_beyond same with inside | ⟨grapheme, more, remaining, later, rfl⟩
  · exact .inl inside
  · have pieces : ∀ piece ∈ grapheme :: more, piece ≠ [] ∧ ('\n' ∈ piece → piece = ['\n']) := by
      intro piece member
      refine segmented piece ?_
      rw [later, ← List.cons_append]
      exact List.mem_append_right _ (List.mem_append_left _ member)
    obtain ⟨rfl, rfl⟩ := beyond pieces (crowds _ _ later) fits
    exact .inr ⟨rfl, visible_of_feed visible, fits_of_feed fits⟩

end Prefixes

/-! ## Preparation -/

section Preparation

variable [UnicodeSegmentation]

/-- What a prepared body is: it is within both limits and shows the text, whole or cut at a
boundary as late as the limits allow. -/
structure PreparedBody.Exact (raw : String) (maxScalars maxBytes : Nat)
    (prepared : PreparedBody) : Prop where
  scalars : prepared.body.toList.length ≤ maxScalars
  bytes : prepared.body.utf8ByteSize ≤ maxBytes
  allowed : ∀ character ∈ prepared.body.toList, isDisallowedControl character = false
  lossless : prepared.localLoss = none ↔ prepared.body = raw
  clipped : ∀ loss, prepared.localLoss = some loss →
    ∃ kept, GraphemePrefix (cleaned raw) kept ∧ Visible kept ∧
      prepared.body.toList = advisedBody kept ∧ unclosedFence prepared.body.toList = none ∧
      loss = ⟨raw.toList.countP isDisallowedControl, (cleaned raw).length - kept.length,
        prepared.body.utf8ByteSize⟩ ∧
      ∀ longer, GraphemePrefix (cleaned raw) longer →
        RenderingFits maxScalars maxBytes longer → kept.length < longer.length →
          longer = kept ++ ['\n']
  again : prepareBodyWithLimits prepared.body maxScalars maxBytes = .ok ⟨prepared.body, none⟩

/-- A body that fits and has no disallowed control is shown as it is. -/
private theorem prepare_fitting {body : String} {maxScalars maxBytes : Nat}
    (scalars : body.toList.length ≤ maxScalars) (bytes : body.utf8ByteSize ≤ maxBytes)
    (allowed : ∀ character ∈ body.toList, isDisallowedControl character = false) :
    prepareBodyWithLimits body maxScalars maxBytes = .ok ⟨body, none⟩ := by
  have whole : (body.toList.filter fun character => !isDisallowedControl character) =
      body.toList := List.filter_eq_self.2 fun character member => by
    rw [allowed character member]
    rfl
  have none : body.toList.countP isDisallowedControl = 0 :=
    List.countP_eq_zero.2 fun character member => by simp [allowed character member]
  rw [utf8ByteSize_eq] at bytes
  unfold prepareBodyWithLimits
  simp only [whole, none]
  rw [if_pos ⟨trivial, scalars, bytes⟩, String.ofList_toList]

omit [UnicodeSegmentation] in
private theorem cleaned_allowed {raw : String} {character : Char}
    (member : character ∈ cleaned raw) : isDisallowedControl character = false := by
  simpa using (List.mem_filter.1 member).2

omit [UnicodeSegmentation] in
/-- A body that is not shown as it is does not fit or holds a disallowed control. -/
private theorem unequal_of_unfit {raw body : String} {maxScalars maxBytes : Nat}
    (unfit : ¬ (raw.toList.countP isDisallowedControl = 0 ∧
      (cleaned raw).length ≤ maxScalars ∧ utf8Len (cleaned raw) ≤ maxBytes))
    (scalars : body.toList.length ≤ maxScalars) (bytes : body.utf8ByteSize ≤ maxBytes)
    (allowed : ∀ character ∈ body.toList, isDisallowedControl character = false) :
    body ≠ raw := by
  rintro rfl
  have whole : cleaned body = body.toList := List.filter_eq_self.2 fun character member => by
    rw [allowed character member]
    rfl
  refine unfit ⟨List.countP_eq_zero.2 fun character member => by
    simp [allowed character member], ?_, ?_⟩
  · rw [whole]
    exact scalars
  · rw [whole, ← utf8ByteSize_eq]
    exact bytes

/-- A prefix of the retained graphemes is a suffix of the list the loop walks. -/
private theorem Chosen.exact {raw : String} {maxScalars maxBytes : Nat}
    {front rest kept : List (List Char)} {prepared : PreparedBody}
    (segmented : Segmented (cleaned raw))
    (same : UnicodeSegmentation.graphemes (cleaned raw) = front ++ rest)
    (crowds : ∀ grapheme more, rest = grapheme :: more →
      Crowds maxScalars maxBytes front.flatten grapheme)
    (unfit : ¬ (raw.toList.countP isDisallowedControl = 0 ∧
      (cleaned raw).length ≤ maxScalars ∧ utf8Len (cleaned raw) ≤ maxBytes))
    (chosen : Chosen (cleaned raw) (raw.toList.countP isDisallowedControl) maxScalars maxBytes
      front.reverse kept prepared) : prepared.Exact raw maxScalars maxBytes := by
  have segments : ∀ piece ∈ front ++ rest, piece ≠ [] ∧ ('\n' ∈ piece → piece = ['\n']) := by
    rw [← same]
    exact fun piece member => ⟨segmented.filled piece member, segmented.lineFeed piece member⟩
  have part : kept.reverse <+: front := by
    have suffix := List.reverse_prefix.2 chosen.suffix
    rwa [List.reverse_reverse] at suffix
  have boundary : GraphemePrefix (cleaned raw) kept.reverse.flatten := by
    obtain ⟨remaining, rfl⟩ := part
    exact ⟨kept.reverse, remaining ++ rest, by rw [same, List.append_assoc], rfl⟩
  have inside : kept.reverse.flatten <+: cleaned raw := by
    obtain ⟨_, remaining, pieces, _⟩ := boundary
    obtain ⟨others, rfl⟩ := part
    refine ⟨(others ++ rest).flatten, ?_⟩
    rw [← segmented.whole, same]
    simp
  have shown : prepared.body.toList = advisedBody kept.reverse.flatten := by
    rw [chosen.body, String.toList_ofList]
  have size : prepared.body.utf8ByteSize = utf8Len (advisedBody kept.reverse.flatten) := by
    rw [utf8ByteSize_eq, shown]
  have scalars : prepared.body.toList.length ≤ maxScalars := by
    rw [shown]
    exact chosen.fits.1
  have bytes : prepared.body.utf8ByteSize ≤ maxBytes := by
    rw [size]
    exact chosen.fits.2
  have allowed : ∀ character ∈ prepared.body.toList, isDisallowedControl character = false := by
    rw [shown]
    exact advisedBody_allowed (fun character member => inside.subset member) fun character =>
      cleaned_allowed
  refine
    { scalars, bytes, allowed
      lossless := ?_
      clipped := ?_
      again := prepare_fitting scalars bytes allowed }
  · rw [chosen.loss]
    exact iff_of_false (by simp) (unequal_of_unfit unfit scalars bytes allowed)
  · intro loss lost
    rw [chosen.loss] at lost
    cases lost
    refine ⟨kept.reverse.flatten, boundary, chosen.visible, shown, ?_, by rw [size], ?_⟩
    · rw [shown]
      exact unclosedFence_advisedBody _
    · rintro _ ⟨longer, others, pieces, rfl⟩ fits more
      rw [same] at pieces
      have ordered : kept.reverse <+: longer := by
        rcases List.prefix_or_prefix_of_prefix (part.trans (List.prefix_append front rest))
          (pieces ▸ List.prefix_append longer others) with shorter | ⟨remaining, back⟩
        · exact shorter
        · rw [← back, List.flatten_append, List.length_append] at more
          omega
      have visible : Visible longer.flatten := by
        obtain ⟨remaining, rfl⟩ := ordered
        refine chosen.visible.mono ?_
        rw [List.flatten_append]
        exact List.prefix_append _ _
      have whole : ∀ pieces, kept.reverse <+: pieces → pieces <+: front →
          Visible pieces.flatten → RenderingFits maxScalars maxBytes pieces.flatten →
            pieces = kept.reverse := by
        intro pieces ordered inside visible fits
        refine (ordered.eq_of_length_le ?_).symm
        by_contra longer
        rw [List.length_reverse, Nat.not_le] at longer
        refine chosen.longest pieces.reverse (List.reverse_suffix.2 inside) (by simpa) ?_ ?_
        · rwa [List.reverse_reverse]
        · rwa [List.reverse_reverse]
      rcases fitting_cases pieces segments crowds visible fits with
        inside | ⟨rfl, visibleFront, fitsFront⟩
      · rw [whole longer ordered inside visible fits] at more
        exact absurd more (lt_irrefl _)
      · rw [List.flatten_append, List.flatten_singleton,
          whole front part (List.prefix_refl _) visibleFront fitsFront]

/-- Preparation of a body is exact: what it shows is as long as the limits allow, and it
only fails where no visible prefix fits. -/
theorem prepareBodyWithLimits_exact {raw : String} (maxScalars maxBytes : Nat)
    (segmented : Segmented (cleaned raw)) :
    (∀ prepared, prepareBodyWithLimits raw maxScalars maxBytes = .ok prepared →
      prepared.Exact raw maxScalars maxBytes) ∧
    (∀ error, prepareBodyWithLimits raw maxScalars maxBytes = .error error →
      ∀ kept, GraphemePrefix (cleaned raw) kept → Visible kept →
        ¬ RenderingFits maxScalars maxBytes kept) := by
  obtain ⟨front, rest, same, ends, crowds⟩ :=
    retainedEnds_eq maxScalars maxBytes (UnicodeSegmentation.graphemes (cleaned raw)) []
  rw [List.append_nil] at ends
  have pieces : ∀ piece ∈ front ++ rest, piece ≠ [] ∧ ('\n' ∈ piece → piece = ['\n']) := by
    rw [← same]
    exact fun piece member => ⟨segmented.filled piece member, segmented.lineFeed piece member⟩
  have part : front.reverse.reverse.flatten <+: cleaned raw := by
    refine ⟨rest.flatten, ?_⟩
    rw [List.reverse_reverse, ← List.flatten_append, ← same, segmented.whole]
  have count : (raw.toList.filter fun character => !isDisallowedControl character) =
      cleaned raw := rfl
  unfold prepareBodyWithLimits
  simp only [count]
  by_cases fits : raw.toList.countP isDisallowedControl = 0 ∧
      (cleaned raw).length ≤ maxScalars ∧ utf8Len (cleaned raw) ≤ maxBytes
  · rw [if_pos fits]
    obtain ⟨clear, scalars, bytes⟩ := fits
    have whole : cleaned raw = raw.toList := List.filter_eq_self.2 fun character member => by
      simpa using List.countP_eq_zero.1 clear character member
    rw [whole] at scalars bytes ⊢
    rw [String.ofList_toList]
    refine ⟨fun prepared done => ?_, fun error failed => by cases failed⟩
    cases done
    rw [← utf8ByteSize_eq] at bytes
    have allowed : ∀ character ∈ raw.toList, isDisallowedControl character = false := by
      intro character member
      simpa using List.countP_eq_zero.1 clear character member
    exact
      { scalars, bytes, allowed
        lossless := iff_of_true rfl rfl
        clipped := fun loss lost => by cases lost
        again := prepare_fitting scalars bytes allowed }
  · rw [if_neg fits]
    have walked : retainedEnds maxScalars maxBytes
        (UnicodeSegmentation.graphemes (cleaned raw)) 0 0 [] = endsOf front.reverse := ends
    rw [walked]
    rcases clippedBody_cases (raw.toList.countP isDisallowedControl) maxScalars maxBytes part with
      ⟨kept, prepared, found, chosen⟩ | ⟨none, unfit⟩
    · rw [found]
      refine ⟨fun other done => ?_, fun error failed => by cases failed⟩
      cases done
      exact chosen.exact segmented same crowds fits
    · rw [none]
      refine ⟨fun other done => (by cases done), fun error _ => ?_⟩
      intro shown boundary visible fits
      obtain ⟨longer, others, divided, rfl⟩ := boundary
      rcases fitting_cases (same.symm.trans divided) pieces crowds visible fits with
        inside | ⟨_, visible, fits⟩
      · refine unfit longer.reverse (List.reverse_suffix.2 inside) ?_ ?_
        · rwa [List.reverse_reverse]
        · rwa [List.reverse_reverse]
      · refine unfit front.reverse List.suffix_rfl ?_ ?_
        · rwa [List.reverse_reverse]
        · rwa [List.reverse_reverse]

end Preparation

/-! ## A combining mark -/

namespace Combining

/-- A combining acute accent belongs to the grapheme before it. -/
def clusters : List Char → List (List Char)
  | [] => []
  | character :: rest =>
      match clusters rest with
      | (next :: more) :: others =>
          if next = '\u0301' ∧ character ≠ '\n' then (character :: next :: more) :: others
          else [character] :: (next :: more) :: others
      | others => [character] :: others

scoped instance segmentation : UnicodeSegmentation where
  graphemes := clusters

/-- An accented letter before a bell. -/
def accented : String := "e\u0301\u0007"

private theorem accented_segmented : Segmented (cleaned accented) where
  whole := by decide +kernel
  filled := by decide +kernel
  lineFeed := by decide +kernel

/-- A grapheme that fits is kept. -/
theorem accented_kept : ∃ prepared, prepareBodyWithLimits accented 38 39 = .ok prepared ∧
    prepared.Exact accented 38 39 := by
  have kept : prepareBodyWithLimits accented 38 39 = .ok
      ⟨"e\u0301\n\nPartial body; full post at source.", some ⟨1, 0, 39⟩⟩ := by decide +kernel
  exact ⟨_, kept, (prepareBodyWithLimits_exact 38 39 accented_segmented).1 _ kept⟩

/-- The letter without its accent would fit, and nothing is shown. -/
theorem accented_undivided : Segmented (cleaned accented) ∧
    prepareBodyWithLimits accented 37 37 = .error ⟨1, 2⟩ ∧
    ['e'] <+: cleaned accented ∧ Visible ['e'] ∧ RenderingFits 37 37 ['e'] := by
  refine ⟨accented_segmented, by decide +kernel, by decide +kernel, ?_, ?_⟩
  · exact ⟨'e', List.mem_singleton_self _, by decide⟩
  · unfold RenderingFits
    decide +kernel

end Combining

end Waiter
end Gearwit
