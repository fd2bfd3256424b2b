import LowLatencyBlocks.Logger.Format

/-!
# What escaped formats can express

A message is meant by its literal texts and the arguments between them.  Doubling
every `%` of the texts and joining them with single ones gives its format.  The
scan pairs percent signs from the left, so a `%` right behind a placeholder is
taken for the second half of an escape: what is pushed is the message exactly
when no such place exists.
-/

namespace LowLatencyBlocks

namespace Logger

/-- Every `%` doubled. -/
def escape (text : List UInt8) : List UInt8 :=
  text.flatMap fun c => if c = percent then [percent, percent] else [c]

/-- The escaped texts, joined with placeholders. -/
def escaped (first : List UInt8) (later : List (List UInt8)) : List UInt8 :=
  escape first ++ later.flatMap fun text => percent :: escape text

/-- The texts, with an argument before each but the first. -/
def meant
    (first : List UInt8) (later : List (List UInt8))
    (args : List LogArgument) : List LogElement :=
  first.map .char ++
    (args.zip later).flatMap fun (value, text) =>
      elementsOf value ++ text.map .char

/-- No text behind a placeholder begins with `%`, and none between two of them
is empty. -/
def Separated : List (List UInt8) → Prop
  | [] => True
  | text :: later =>
      text.head? ≠ some percent ∧
        (text = [] → later = []) ∧
        Separated later

/-- The pieces that the escaped texts are to be read as. -/
def meantPieces
    (first : List UInt8) (later : List (List UInt8)) : List Piece :=
  first.map .literal ++
    later.flatMap fun text => .placeholder :: text.map .literal

/-! ## Reading an escaped format -/

theorem escape_cons (c : UInt8) (text : List UInt8) :
    escape (c :: text) =
      (if c = percent then [percent, percent] else [c]) ++ escape text :=
  List.flatMap_cons

/-- Escaped text is read as it was meant, whatever follows. -/
theorem pieces_escape (text rest : List UInt8) :
    pieces (escape text ++ rest) = text.map .literal ++ pieces rest := by
  induction text with
  | nil =>
      rfl
  | cons c text inductionHypothesis =>
      rw [escape_cons, List.map_cons, List.cons_append]
      by_cases same : c = percent
      · rw [if_pos same, same, List.append_assoc, List.cons_append,
          List.singleton_append, pieces_escaped, inductionHypothesis]
      · rw [if_neg same, List.append_assoc, List.singleton_append,
          pieces_literal same, inductionHypothesis]

theorem notMem_escape {text : List UInt8} (noNul : nul ∉ text) :
    nul ∉ escape text := by
  intro member
  obtain ⟨c, present, source⟩ := List.mem_flatMap.mp member
  by_cases same : c = percent
  · simp [same, nul, percent] at source
  · rw [if_neg same, List.mem_singleton] at source
    rw [source] at noNul
    exact noNul present

theorem notMem_escaped
    {first : List UInt8} {later : List (List UInt8)}
    (noNulFirst : nul ∉ first) (noNulLater : ∀ text ∈ later, nul ∉ text) :
    nul ∉ escaped first later := by
  intro member
  rcases List.mem_append.mp member with inFirst | inLater
  · exact notMem_escape noNulFirst inFirst
  · obtain ⟨text, present, source⟩ := List.mem_flatMap.mp inLater
    rcases List.mem_cons.mp source with same | inText
    · exact percent_ne_nul same.symm
    · exact notMem_escape (noNulLater text present) inText

/-- Whether another `%` follows the placeholder before an escaped text. -/
theorem head?_escape_append_iff (text rest : List UInt8) :
    (escape text ++ rest).head? = some percent ↔
      text.head? = some percent ∨
        (text = [] ∧ rest.head? = some percent) := by
  cases text with
  | nil =>
      simp [escape]
  | cons c text =>
      rw [escape_cons]
      by_cases same : c = percent
      · simp [same]
      · simp [same]

/-- The later texts, with the placeholder before each. -/
private def joined (later : List (List UInt8)) : List UInt8 :=
  later.flatMap fun text => percent :: escape text

private theorem head?_joined_iff (later : List (List UInt8)) :
    (joined later).head? = some percent ↔ later ≠ [] := by
  cases later with
  | nil =>
      simp [joined]
  | cons text later =>
      simp [joined]

/-- The placeholders are read as meant exactly when the texts separate them. -/
private theorem pieces_joined_iff (later : List (List UInt8)) :
    pieces (joined later) =
        later.flatMap (fun text => .placeholder :: text.map .literal) ↔
      Separated later := by
  induction later with
  | nil =>
      exact iff_of_true rfl trivial
  | cons text later inductionHypothesis =>
      have first :
          joined (text :: later) =
            percent :: (escape text ++ joined later) := by
        rw [joined, List.flatMap_cons, List.cons_append]
        rfl
      have follows := head?_escape_append_iff text (joined later)
      rw [head?_joined_iff] at follows
      rw [first, List.flatMap_cons, Separated]
      by_cases escapes : (escape text ++ joined later).head? = some percent
      · -- the placeholder is taken for the first half of an escape
        rw [List.eq_cons_of_mem_head? escapes, pieces_escaped]
        apply iff_of_false
        · intro same
          cases same
        · rintro ⟨begins, between, _⟩
          rcases follows.mp escapes with starts | ⟨empty, more⟩
          · exact begins starts
          · exact more (between empty)
      · rw [pieces_placeholder escapes, pieces_escape, List.cons_append,
          List.cons.injEq]
        have separates :
            text.head? ≠ some percent ∧ (text = [] → later = []) := by
          constructor
          · intro starts
            exact escapes (follows.mpr (.inl starts))
          · intro empty
            by_contra more
            exact escapes (follows.mpr (.inr ⟨empty, more⟩))
        constructor
        · rintro ⟨_, same⟩
          exact
            ⟨separates.1, separates.2,
              inductionHypothesis.mp (List.append_cancel_left same)⟩
        · rintro ⟨_, _, separated⟩
          rw [inductionHypothesis.mpr separated]
          exact ⟨rfl, rfl⟩

theorem pieces_escaped_texts_iff
    (first : List UInt8) (later : List (List UInt8)) :
    pieces (escaped first later) = meantPieces first later ↔
      Separated later := by
  rw [← pieces_joined_iff, escaped, meantPieces, pieces_escape,
    List.append_cancel_left_eq]
  rfl

/-! ## What the pieces that were meant render to -/

theorem render_text (text : List UInt8) (format : List Piece)
    (args : List LogArgument) :
    render (text.map .literal ++ format) args =
      text.map .char ++ render format args := by
  induction text with
  | nil =>
      rfl
  | cons c text inductionHypothesis =>
      rw [List.map_cons, List.cons_append, render, inductionHypothesis]
      rfl

theorem placeholders_text (text : List UInt8) (format : List Piece) :
    placeholders (text.map .literal ++ format) = placeholders format := by
  induction text with
  | nil =>
      rfl
  | cons c text inductionHypothesis =>
      rw [List.map_cons, List.cons_append, placeholders_literal,
        inductionHypothesis]

theorem placeholders_meantPieces
    (first : List UInt8) (later : List (List UInt8)) :
    placeholders (meantPieces first later) = later.length := by
  rw [meantPieces, placeholders_text]
  induction later with
  | nil =>
      rfl
  | cons text later inductionHypothesis =>
      rw [List.flatMap_cons, List.cons_append, placeholders_placeholder,
        placeholders_text, inductionHypothesis, List.length_cons]

theorem render_meantPieces
    (first : List UInt8) (later : List (List UInt8))
    (args : List LogArgument) (lengths : args.length = later.length) :
    render (meantPieces first later) args = meant first later args := by
  rw [meantPieces, meant, render_text, List.append_cancel_left_eq]
  induction later generalizing args with
  | nil =>
      rw [List.zip_nil_right]
      rfl
  | cons text later inductionHypothesis =>
      cases args with
      | nil =>
          cases lengths
      | cons value args =>
          have shorter : args.length = later.length :=
            Nat.succ_inj.mp lengths
          rw [List.flatMap_cons, List.cons_append, render, render_text,
            inductionHypothesis args shorter, List.zip_cons_cons,
            List.flatMap_cons, List.append_assoc]

/-- With an integer for each placeholder, what is pushed tells the pieces. -/
theorem render_integers_injective
    {format other : List Piece} {count : Nat}
    (holds : placeholders format = count)
    (otherHolds : placeholders other = count)
    (same :
      render format (List.replicate count (.int 0)) =
        render other (List.replicate count (.int 0))) :
    format = other := by
  induction format generalizing other count with
  | nil =>
      cases other with
      | nil =>
          rfl
      | cons piece other =>
          cases holds
          cases piece with
          | literal c =>
              cases same
          | placeholder =>
              rw [placeholders_placeholder] at otherHolds
              cases otherHolds
  | cons piece format inductionHypothesis =>
      cases piece with
      | literal c =>
          rw [placeholders_literal] at holds
          cases other with
          | nil =>
              cases otherHolds
              cases same
          | cons piece other =>
              cases piece with
              | literal d =>
                  rw [placeholders_literal] at otherHolds
                  injection same with sameElement sameRest
                  injection sameElement with sameCharacter
                  rw [sameCharacter,
                    inductionHypothesis holds otherHolds sameRest]
              | placeholder =>
                  rw [placeholders_placeholder] at otherHolds
                  cases otherHolds
                  injection same with sameElement
                  cases sameElement
      | placeholder =>
          rw [placeholders_placeholder] at holds
          cases holds
          cases other with
          | nil =>
              cases otherHolds
          | cons piece other =>
              cases piece with
              | literal d =>
                  injection same with sameElement
                  cases sameElement
              | placeholder =>
                  rw [placeholders_placeholder] at otherHolds
                  injection same with _ sameRest
                  rw [inductionHypothesis rfl
                    (Nat.succ_inj.mp otherHolds) sameRest]

/-- A call that returns had an argument for each placeholder. -/
theorem placeholders_of_returned
    {queue : LogQueue} {format : List Piece} {args : List LogArgument}
    (returned : (logPieces queue format args).ended = none) :
    placeholders format = args.length := by
  rcases Nat.lt_trichotomy (placeholders format) args.length with
    more | same | fewer
  · rw [logPieces_of_gt queue more] at returned
    cases returned
  · exact same
  · obtain ⟨_, _, _, _, ends⟩ := logPieces_of_lt queue fewer
    rw [ends] at returned
    cases returned

/-- The escaped format of a message pushes what was meant, for all arguments,
exactly when its texts separate the placeholders from each other and from the
percent signs. -/
theorem escaped_expresses_iff
    (first : List UInt8) (later : List (List UInt8))
    (noNulFirst : nul ∉ first) (noNulLater : ∀ text ∈ later, nul ∉ text) :
    (∀ (queue : LogQueue) (args : List LogArgument),
      args.length = later.length →
      log queue (escaped first later) args =
        ⟨pushElements queue (meant first later args), none⟩) ↔
      Separated later := by
  have noNul := notMem_escaped noNulFirst noNulLater
  rw [← pieces_escaped_texts_iff first later]
  constructor
  · intro expresses
    let start : LogQueue := LFQueue.Used.start twoSlots LogElement.default
    let integers := List.replicate later.length (LogArgument.int 0)
    have lengths : integers.length = later.length :=
      List.length_replicate
    have logged := expresses start integers lengths
    rw [log_eq_logPieces _ _ _ noNul] at logged
    have counted :
        placeholders (pieces (escaped first later)) = later.length := by
      rw [← lengths]
      apply placeholders_of_returned
      rw [logged]
    have pushed :
        render (pieces (escaped first later)) integers =
          meant first later integers := by
      rw [logPieces_of_eq _ (counted.trans lengths.symm)] at logged
      injection logged with sameQueue
      have samePushed := congrArg LFQueue.Used.pushed sameQueue
      rw [pushed_pushElements, pushed_pushElements] at samePushed
      exact List.append_cancel_left samePushed
    rw [← render_meantPieces first later integers lengths] at pushed
    exact
      render_integers_injective counted
        (placeholders_meantPieces first later) pushed
  · intro asMeant queue args lengths
    have counted :
        placeholders (meantPieces first later) = args.length := by
      rw [placeholders_meantPieces, lengths]
    rw [log_eq_logPieces _ _ _ noNul, asMeant, logPieces_of_eq _ counted,
      render_meantPieces _ _ _ lengths]

/-- Two placeholders with the text `-50%` between them. -/
theorem escaped_expresses_sample :
    log (LFQueue.Used.start twoSlots LogElement.default)
        (escaped [] [[45, 53, 48, percent], []]) [.int 5, .char 66] =
      ⟨pushElements (LFQueue.Used.start twoSlots LogElement.default)
        (meant [] [[45, 53, 48, percent], []] [.int 5, .char 66]), none⟩ :=
  (escaped_expresses_iff [] [[45, 53, 48, percent], []] (by decide)
    (by decide)).mpr
      (by simp [Separated, percent]) _ _ rfl

/-- A placeholder followed by the text `%`: the sign is pushed before the
argument. -/
theorem escaped_swaps_percent :
    log (LFQueue.Used.start twoSlots LogElement.default)
        (escaped [] [[percent]]) [.int 5] =
      ⟨pushElements (LFQueue.Used.start twoSlots LogElement.default)
        [.char percent, .integer 5], none⟩ ∧
    meant [] [[percent]] [.int 5] = [.integer 5, .char percent] ∧
    log (LFQueue.Used.start twoSlots LogElement.default)
        (escaped [] [[percent]]) [.int 5] ≠
      ⟨pushElements (LFQueue.Used.start twoSlots LogElement.default)
        (meant [] [[percent]] [.int 5]), none⟩ := by
  have swapped :
      log (LFQueue.Used.start twoSlots LogElement.default)
          (escaped [] [[percent]]) [.int 5] =
        ⟨pushElements (LFQueue.Used.start twoSlots LogElement.default)
          [.char percent, .integer 5], none⟩ := by
    rw [log_eq_logPieces _ _ _ (by decide)]
    rfl
  refine ⟨swapped, rfl, ?_⟩
  rw [swapped]
  intro same
  injection same with sameQueue
  have samePushed := congrArg LFQueue.Used.pushed sameQueue
  rw [pushed_pushElements, pushed_pushElements] at samePushed
  injection List.append_cancel_left samePushed with sameElement
  cases sameElement

end Logger

end LowLatencyBlocks
