import Offside.Proofs.Diagnostic.Order
import Offside.Proofs.Lexer.Reports

/-! # The order in which diagnostics are queued

Reading goes from left to right, and what is found in one lexeme starts before what is found in the
next. Inside a lexeme there is one exception: a quoted literal without an end is reported when the
end of the source is met, behind the bad escapes in it, although it starts before all of them. Such
a literal is the last thing read, so a queue is in order up to its last diagnostic, and as a whole
unless the last is about a literal with bad escapes.
-/

namespace Offside

namespace Lexeme

/-- The flaws of a row of units come in the order of the units. -/
theorem QuotedUnit.pairwise_flawsFrom (offset : Nat) (units : List QuotedUnit) :
    (flawsFrom offset units).Pairwise (fun earlier later => earlier.offset < later.offset) ∧
      ∀ flaw ∈ flawsFrom offset units, offset ≤ flaw.offset := by
  fun_induction flawsFrom offset units with
  | case1 => simp
  | case2 offset c rest ih =>
    exact ⟨ih.1, fun flaw member => Nat.le_of_succ_le (ih.2 flaw member)⟩
  | case3 offset c rest later valid ih =>
    exact ⟨ih.1, fun flaw member => Nat.le_trans (Nat.le_add_right _ 2) (ih.2 flaw member)⟩
  | case4 offset c rest later bad ih =>
    constructor
    · apply List.pairwise_cons.2
      refine ⟨fun flaw member => ?_, ih.1⟩
      have bound := ih.2 flaw member
      dsimp only
      omega
    · intro flaw member
      rcases List.mem_cons.1 member with rfl | further
      · exact Nat.le_refl _
      · exact Nat.le_trans (Nat.le_add_right _ 2) (ih.2 flaw further)

/-- The flaws of a lexeme, read from a text of so many characters, start one behind the other,
except that a quoted literal without an end is reported last, and as a whole. -/
structure FlawOrder (lexeme : Lexeme) (length : Nat) (ordered late : List Flaw) : Prop where
  flaws : lexeme.flaws = ordered ++ late
  increasing : ordered.Pairwise fun earlier later => earlier.offset < later.offset
  whole : ∀ flaw ∈ late, late = [flaw] ∧ flaw = ⟨.unterminatedString, 0, lexeme.length⟩ ∧
    lexeme.length = length ∧ ∀ escape ∈ ordered, 0 < escape.offset

/-- At most one flaw is in order. -/
private theorem flawOrder_of_length_le {lexeme : Lexeme} {length : Nat}
    (few : lexeme.flaws.length ≤ 1) : lexeme.FlawOrder length lexeme.flaws [] := by
  refine ⟨(List.append_nil _).symm, ?_, by simp⟩
  match lexeme.flaws, few with
  | [], _ => exact .nil
  | [flaw], _ => exact List.pairwise_singleton _ _

theorem exists_flawOrder_quoted (rest : Text) :
    ∃ ordered late, (quoted rest).FlawOrder (rest.length + 1) ordered late := by
  have size := QuotedBody.total_units_read rest
  fun_cases quoted rest with
  | case1 body inner badEscapes closed =>
    have order := QuotedUnit.pairwise_flawsFrom 1 body.units
    exact ⟨badEscapes, [], (List.append_nil _).symm, order.1, by simp⟩
  | case2 body inner badEscapes unclosed =>
    have order := QuotedUnit.pairwise_flawsFrom 1 body.units
    rw [if_neg unclosed] at size
    refine ⟨badEscapes, _, rfl, order.1, ?_⟩
    intro flaw member
    obtain rfl := List.mem_singleton.1 member
    exact ⟨rfl, rfl, congrArg Nat.succ size, order.2⟩

/-- The flaws of every lexeme are in that order. -/
theorem exists_flawOrder (first : Char) (rest : Text) :
    ∃ ordered late, (read first rest).FlawOrder (rest.length + 1) ordered late := by
  fun_cases read first rest with
  | case1 => exact ⟨_, _, flawOrder_of_length_le (by simp [endOfLine])⟩
  | case2 _ _ body =>
    refine ⟨_, _, flawOrder_of_length_le ?_⟩
    unfold raw
    split <;> simp
  | case3 => exact exists_flawOrder_quoted rest
  | case4 => exact ⟨_, _, flawOrder_of_length_le (by simp [word])⟩
  | case5 => exact ⟨_, _, flawOrder_of_length_le (by simp [number])⟩
  | case6 => exact ⟨_, _, flawOrder_of_length_le (by simp [ofOperator])⟩
  | case7 => exact ⟨_, _, flawOrder_of_length_le (by simp [stray])⟩

end Lexeme

namespace Flaw

variable {source : Source} {before word rest : Text} {flaw : Flaw}

/-- A flaw of a lexeme starts in it. -/
theorem startsIn_diagnosis (inside : flaw.Inside word.length) :
    (flaw.diagnosis source before word).StartsIn (before ++ word) := by
  have nonempty := inside.nonempty
  have bounded := inside.bounded
  refine ⟨before ++ word.take flaw.offset, word.drop flaw.offset, ?_, ?_, rfl⟩
  · rw [List.append_assoc, List.take_append_drop]
  · apply List.ne_nil_of_length_pos
    rw [List.length_drop]
    omega

/-- Of two flaws of a lexeme, the one further on starts later. -/
theorem diagnosis_before {later : Flaw} (less : flaw.offset < later.offset)
    (inside : later.Inside word.length) :
    (flaw.diagnosis source before word).span.Before (later.diagnosis source before word).span := by
  have bounded := inside.bounded
  have further : (word.take later.offset).drop flaw.offset ≠ [] := by
    apply List.ne_nil_of_length_pos
    rw [List.length_drop, List.length_take]
    omega
  have joined : word.take later.offset =
      word.take flaw.offset ++ (word.take later.offset).drop flaw.offset := by
    conv => lhs; rw [← List.take_append_drop flaw.offset (word.take later.offset)]
    rw [List.take_take, Nat.min_eq_left (Nat.le_of_lt less)]
  change (Text.spanAfter _ _).Before (Text.spanAfter _ _)
  rw [joined, ← List.append_assoc]
  exact .spanAfter _ further _ _

/-- The whole lexeme starts before any flaw further on in it. -/
theorem diagnosis_behind (positive : 0 < flaw.offset) (inside : flaw.Inside word.length) :
    (Text.spanAfter before word.length).Before (flaw.diagnosis source before word).span := by
  have bounded := inside.bounded
  apply Span.Before.spanAfter
  apply List.ne_nil_of_length_pos
  rw [List.length_take]
  omega

/-- A flaw that is the whole lexeme has the span of the lexeme. -/
theorem span_diagnosis_whole (problem : Problem) (source : Source) (before word : Text) :
    (diagnosis ⟨problem, 0, word.length⟩ source before word).span =
      Text.spanAfter before word.length := by
  simp [diagnosis, Problem.diagnose]

/-- A lexeme covers its flaws. -/
theorem covers_diagnosis (divided : source.text = before ++ (word ++ rest))
    (inside : flaw.Inside word.length) :
    source.covers (Text.spanAfter before word.length) (flaw.diagnosis source before word).span =
      true := by
  have bounded := inside.bounded
  apply (Source.covers_spanAfter divided (divided.trans (Text.append_cut ..))).2
  rw [List.length_append, List.length_take]
  omega

/-- The diagnostics for several flaws of a lexeme that stands after a text. -/
def diagnoses (source : Source) (before word : Text) (flaws : List Flaw) : List Diagnostic :=
  flaws.map fun flaw => flaw.diagnosis source before word

theorem diagnoses_append (source : Source) (before word : Text) (left right : List Flaw) :
    diagnoses source before word (left ++ right) =
      diagnoses source before word left ++ diagnoses source before word right := List.map_append

/-- What starts in the text before a lexeme starts before all that is wrong with the lexeme. -/
theorem before_of_mem_diagnoses {blanks : Text} {flaws : List Flaw} {earlier later : Diagnostic}
    (starts : earlier.StartsIn before)
    (member : later ∈ diagnoses source (before ++ blanks) word flaws) :
    earlier.span.Before later.span := by
  obtain ⟨flaw, _, rfl⟩ := List.mem_map.1 member
  have before := starts.before (blanks ++ word.take flaw.offset) flaw.length
  rw [← List.append_assoc] at before
  exact before

end Flaw

/-- What starts in a text is covered by nothing behind the text. -/
theorem Diagnostic.StartsIn.covers_eq_false {source : Source} {diagnostic : Diagnostic}
    {before blanks rest : Text} (inside : diagnostic.StartsIn before)
    (divided : source.text = before ++ blanks ++ rest) (length : Nat) :
    source.covers (Text.spanAfter (before ++ blanks) length) diagnostic.span = false := by
  obtain ⟨part, more, rfl, nonempty, span⟩ := inside
  have positive := List.length_pos_iff.2 nonempty
  have inner : source.text = part ++ (more ++ (blanks ++ rest)) := by simpa using divided
  apply Bool.eq_false_iff.2
  intro covered
  rw [span] at covered
  have bounds := (Source.covers_spanAfter divided inner).1 covered
  simp only [List.length_append] at bounds
  omega

namespace Lexer

/-- The queue of a lexer that has passed a text and takes all diagnostics. They start in the text,
one behind the other, except that the last may be about a literal that reaches to the end of the
source: it starts before the diagnostics that it covers and behind all others. -/
structure Orderly (lexer : Lexer) (before : Text) (ordered late : List Diagnostic) : Prop where
  passed : lexer.Passed before
  unlimited : lexer.queue.config = .unlimited
  queued : lexer.queue.diagnostics = ordered ++ late
  inside : ∀ diagnostic ∈ ordered ++ late, diagnostic.StartsIn before
  increasing : ordered.Pairwise fun earlier later => earlier.span.Before later.span
  whole : ∀ literal ∈ late, late = [literal] ∧ lexer.cursor.rest = [] ∧
    literal = Problem.unterminatedString.diagnose lexer.source literal.span ∧
    ∀ escape ∈ ordered,
      if lexer.source.covers literal.span escape.span then literal.span.Before escape.span
      else escape.span.Before literal.span

namespace Orderly

variable {lexer next : Lexer} {before : Text} {reading : Reading} {ordered late : List Diagnostic}

/-- With text ahead, nothing has been reported out of turn. -/
theorem late_eq_nil (orderly : Orderly lexer before ordered late) (more : lexer.cursor.rest ≠ []) :
    late = [] := by
  apply List.eq_nil_iff_forall_not_mem.2
  intro literal member
  exact more (orderly.whole literal member).2.1

/-- At most one diagnostic is out of turn, so its place among them cannot be wrong. -/
theorem pairwise_late (orderly : Orderly lexer before ordered late)
    (relation : Diagnostic → Diagnostic → Prop) : late.Pairwise relation := by
  cases late with
  | nil => exact .nil
  | cons literal others =>
    rw [(orderly.whole literal List.mem_cons_self).1]
    exact List.pairwise_singleton _ _

/-- All that is queued starts in different places. -/
theorem apart (orderly : Orderly lexer before ordered late) :
    lexer.queue.diagnostics.Pairwise Diagnostic.Apart := by
  rw [orderly.queued]
  apply List.pairwise_append.2
  refine ⟨orderly.increasing.imp Or.inl, orderly.pairwise_late _, ?_⟩
  · intro escape member literal last
    have order := (orderly.whole literal last).2.2.2 escape member
    split at order
    · exact Or.inr order
    · exact Or.inl order

/-- A queue is in the order of places unless its last diagnostic covers others. -/
theorem sorted_iff (orderly : Orderly lexer before ordered late) :
    (lexer.diagnostics.Pairwise fun earlier later => ¬ later.span.Before earlier.span) ↔
      ∀ literal ∈ late, ∀ escape ∈ ordered,
        lexer.source.covers literal.span escape.span = false := by
  unfold diagnostics
  rw [orderly.queued]
  constructor
  · intro sorted literal last escape member
    have order := (orderly.whole literal last).2.2.2 escape member
    have noLater := (List.pairwise_append.1 sorted).2.2 escape member literal last
    apply Bool.eq_false_iff.2
    intro covered
    rw [if_pos covered] at order
    exact noLater order
  · intro uncovered
    apply List.pairwise_append.2
    refine ⟨?_, orderly.pairwise_late _, ?_⟩
    · apply orderly.increasing.imp
      intro earlier later order
      exact order.asymm
    · intro escape member literal last
      have order := (orderly.whole literal last).2.2.2 escape member
      rw [if_neg (by simp [uncovered literal last escape member])] at order
      exact order.asymm

/-- Where nothing is reported, the queue stays as it is. -/
theorem quiet (orderly : Orderly lexer before ordered late) {more : Text}
    (passed : next.Passed (before ++ more)) (source : next.source = lexer.source)
    (queue : next.queue = lexer.queue) (ended : lexer.cursor.rest = [] → next.cursor.rest = []) :
    Orderly next (before ++ more) ordered late := by
  refine ⟨passed, queue ▸ orderly.unlimited, queue ▸ orderly.queued, ?_, orderly.increasing, ?_⟩
  · intro diagnostic member
    exact (orderly.inside diagnostic member).append more
  · rw [source]
    intro literal member
    obtain ⟨only, nothing, about, order⟩ := orderly.whole literal member
    exact ⟨only, ended nothing, about, order⟩

/-- What is reported about a lexeme goes behind all that is queued. -/
theorem lexeme (orderly : Orderly lexer before ordered late) {blanks word rest ahead : Text}
    {first : Char} (more : lexer.cursor.rest = blanks ++ first :: ahead)
    (cut : first :: ahead = word ++ rest)
    (length : word.length = (Lexeme.read first ahead).length) :
    ∃ ordered' late',
      Orderly { lexer with
        cursor := .between (before ++ blanks ++ word) rest
        queue := lexer.queue.pushAll (Flaw.diagnoses lexer.source (before ++ blanks) word
          (Lexeme.read first ahead).flaws) } (before ++ blanks ++ word) ordered' late' := by
  obtain rfl := orderly.late_eq_nil (by simp [more])
  obtain ⟨escapes, wholes, flawOrder⟩ := Lexeme.exists_flawOrder first ahead
  have within : ∀ flaw ∈ escapes ++ wholes, flaw.Inside word.length := by
    rw [← flawOrder.flaws, length]
    exact (Lexeme.within_read first ahead).flaws
  have starts : ∀ diagnostic ∈ ordered, diagnostic.StartsIn before := by
    simpa using orderly.inside
  have divided : lexer.source.text = before ++ blanks ++ (word ++ rest) := by
    rw [← cut, orderly.passed.divided, more, List.append_assoc]
  rw [cut, ← List.append_assoc] at more
  refine ⟨ordered ++ Flaw.diagnoses lexer.source (before ++ blanks) word escapes,
    Flaw.diagnoses lexer.source (before ++ blanks) word wholes,
    orderly.passed.advance more rfl rfl (List.append_assoc ..), ?_, ?_, ?_, ?_, ?_⟩
  · rw [Queue.config_pushAll]
    exact orderly.unlimited
  · rw [Queue.diagnostics_pushAll_of_unlimited orderly.unlimited, orderly.queued,
      flawOrder.flaws, Flaw.diagnoses_append, List.append_nil, List.append_assoc]
  · rw [List.append_assoc, ← Flaw.diagnoses_append]
    intro diagnostic member
    rcases List.mem_append.1 member with old | new
    · rw [List.append_assoc]
      exact (starts diagnostic old).append _
    · obtain ⟨flaw, present, rfl⟩ := List.mem_map.1 new
      exact Flaw.startsIn_diagnosis (within flaw present)
  · apply List.pairwise_append.2
    refine ⟨orderly.increasing, ?_, fun earlier member later new => ?_⟩
    · apply List.pairwise_map.2
      apply flawOrder.increasing.imp_of_mem
      intro earlier later _ member less
      exact Flaw.diagnosis_before less (within later (List.mem_append_left _ member))
    · exact Flaw.before_of_mem_diagnoses (starts earlier member) new
  · intro literal member
    obtain ⟨flaw, present, rfl⟩ := List.mem_map.1 member
    obtain ⟨only, rfl, whole, positive⟩ := flawOrder.whole flaw present
    refine ⟨by rw [only]; rfl, ?_, rfl, ?_⟩
    · -- The literal takes up all that is ahead.
      have sizes := congrArg List.length cut
      rw [List.length_append, length, whole, List.length_cons] at sizes
      rw [Cursor.between_rest]
      exact List.length_eq_zero_iff.1 (by omega)
    · rw [← length, Flaw.span_diagnosis_whole]
      intro escape among
      rcases List.mem_append.1 among with old | new
      · have apart := (starts escape old).covers_eq_false divided word.length
        rw [if_neg (by simp [apart])]
        exact (starts escape old).before _ _
      · obtain ⟨inner, present', rfl⟩ := List.mem_map.1 new
        have inside := within inner (List.mem_append_left _ present')
        rw [if_pos (Flaw.covers_diagnosis divided inside)]
        exact Flaw.diagnosis_behind (positive inner present') inside

/-- A step keeps the queue orderly, and what it reports starts behind all that is queued. -/
theorem step (orderly : Orderly lexer before ordered late)
    (step : Step lexer before reading next) :
    ∃ beyond ordered' late' reports, Orderly next beyond ordered' late' ∧
      next.queue.diagnostics = lexer.queue.diagnostics ++ reports ∧
      ∀ earlier ∈ lexer.queue.diagnostics, ∀ later ∈ reports, earlier.span.Before later.span := by
  obtain ⟨more, onward⟩ := step.passed orderly.passed
  cases step with
  | finish spaces ahead =>
    exact ⟨_, ordered, late, [], orderly.quiet onward rfl rfl fun _ => rfl, by simp, by simp⟩
  | newline spaces ahead =>
    refine ⟨_, ordered, late, [], orderly.quiet onward rfl rfl ?_, by simp, by simp⟩
    simp [ahead]
  | lexeme spaces ahead cut length =>
    obtain ⟨ordered', late', orderly'⟩ := orderly.lexeme ahead cut length
    refine ⟨_, ordered', late', _, orderly',
      Queue.diagnostics_pushAll_of_unlimited orderly.unlimited _, ?_⟩
    rw [orderly.queued]
    intro earlier member later new
    exact Flaw.before_of_mem_diagnoses (orderly.inside earlier member) new

/-- Along a path, too, what is reported goes behind all that was queued before. -/
theorem along {readings : List Reading} (orderly : Orderly lexer before ordered late)
    (countable : Text.Countable lexer.source.text) (path : Path lexer readings next) :
    ∃ beyond ordered' late' reports, Orderly next beyond ordered' late' ∧
      next.queue.diagnostics = lexer.queue.diagnostics ++ reports ∧
      ∀ earlier ∈ lexer.queue.diagnostics, ∀ later ∈ reports, earlier.span.Before later.span := by
  induction path with
  | nil => exact ⟨before, ordered, late, [], orderly, by simp, by simp⟩
  | @step readings reading middle next path scanned ih =>
    obtain ⟨source, _⟩ := path.passed countable orderly.passed
    obtain ⟨_, _, _, reports, halfway, queued, behind⟩ := ih
    have step := step_of_scan (source ▸ countable) halfway.passed scanned
    obtain ⟨beyond, ordered', late', new, onward, pushed, further⟩ := halfway.step step
    refine ⟨beyond, ordered', late', reports ++ new, onward, ?_, ?_⟩
    · rw [pushed, queued, List.append_assoc]
    · intro earlier member later reported
      rcases List.mem_append.1 reported with old | recent
      · exact behind earlier member later old
      · exact further earlier (queued ▸ List.mem_append_left _ member) later recent

/-- What has been queued on the way to a lexer is handed over before all that is queued later. -/
theorem sortByPlace_isPrefix {readings : List Reading} (orderly : Orderly lexer before ordered late)
    (countable : Text.Countable lexer.source.text) (path : Path lexer readings next) :
    Diagnostic.sortByPlace lexer.queue.diagnostics <+:
      Diagnostic.sortByPlace next.queue.diagnostics := by
  obtain ⟨_, _, _, reports, onward, queued, behind⟩ := orderly.along countable path
  have apart := onward.apart
  rw [queued] at apart ⊢
  rw [Diagnostic.sortByPlace_append apart behind]
  exact List.prefix_append _ _

end Orderly

/-- A lexer that has just started, or has handed over its diagnostics, has none out of turn. -/
theorem orderly_of_diagnostics_eq_nil {lexer : Lexer} {before : Text}
    (passed : lexer.Passed before) (unlimited : lexer.queue.config = .unlimited)
    (none : lexer.queue.diagnostics = []) : Orderly lexer before [] [] :=
  ⟨passed, unlimited, none, by simp, .nil, by simp⟩

/-- However a lexer that takes all diagnostics is driven, its queue is orderly. -/
theorem Reachable.exists_orderly {source : Source} {lexer : Lexer}
    (countable : Text.Countable source.text) (reached : Reachable .unlimited source lexer) :
    lexer.source = source ∧ ∃ before ordered late, Orderly lexer before ordered late := by
  apply reached.preserves
  · refine ⟨rfl, [], [], [], ?_⟩
    exact orderly_of_diagnostics_eq_nil (passed_start .unlimited source) rfl rfl
  · rintro lexer reading next ⟨rfl, before, ordered, late, orderly⟩ scanned
    have step := step_of_scan countable orderly.passed scanned
    obtain ⟨beyond, ordered', late', _, orderly', _⟩ := orderly.step step
    exact ⟨step.source_eq, beyond, ordered', late', orderly'⟩
  · rintro lexer ⟨same, before, ordered, late, orderly⟩
    refine ⟨same, before, [], [], orderly_of_diagnostics_eq_nil ?_ orderly.unlimited rfl⟩
    exact ⟨orderly.passed.divided, orderly.passed.located⟩

/-- In a source of fewer characters than the largest counter value, a lexer that takes all
diagnostics queues them in the order of their places, except that a quoted literal without an end
is reported last. The whole queue is in order exactly if no bad escape was reported in that
literal. -/
theorem Reachable.diagnostics_sorted_iff {source : Source} {lexer : Lexer}
    (short : source.text.length < Text.counterLimit)
    (reached : Reachable .unlimited source lexer) :
    ∃ ordered late, lexer.diagnostics = ordered ++ late ∧
      (ordered.Pairwise fun earlier later => earlier.span.Before later.span) ∧
      (∀ literal ∈ late, late = [literal] ∧
        literal = Problem.unterminatedString.diagnose source literal.span) ∧
      ((lexer.diagnostics.Pairwise fun earlier later => ¬ later.span.Before earlier.span) ↔
        ∀ literal ∈ late, ∀ escape ∈ ordered,
          source.covers literal.span escape.span = false) := by
  obtain ⟨rfl, before, ordered, late, orderly⟩ :=
    reached.exists_orderly (Text.countable_of_length_lt short)
  refine ⟨ordered, late, orderly.queued, orderly.increasing, ?_, orderly.sorted_iff⟩
  intro literal member
  obtain ⟨only, _, about, _⟩ := orderly.whole literal member
  exact ⟨only, about⟩

/-- A stray character is queued before a literal without an end, whose escape is a good one. -/
theorem Reachable.diagnostics_sorted_iff_ordered :
    let source := Source.ofText ['$', '\x22', '\\', 'n']
    source.text.length < Text.counterLimit ∧
      ∃ lexer, Reachable .unlimited source lexer ∧ lexer.diagnostics.length = 2 ∧
        ∃ ordered late, lexer.diagnostics = ordered ++ late ∧
          (ordered.Pairwise fun earlier later => earlier.span.Before later.span) ∧
          (∀ literal ∈ late, late = [literal] ∧
            literal = Problem.unterminatedString.diagnose source literal.span) ∧
          ((lexer.diagnostics.Pairwise fun earlier later => ¬ later.span.Before earlier.span) ↔
            ∀ literal ∈ late, ∀ escape ∈ ordered,
              source.covers literal.span escape.span = false) := by
  intro source
  have short : source.text.length < Text.counterLimit := by decide
  obtain ⟨stray?, middle, first, token?, lexer, second, two⟩ : ∃ stray? middle,
      (Lexer.start .unlimited source).next = .ok (stray?, middle) ∧ ∃ token? lexer,
      middle.next = .ok (token?, lexer) ∧ lexer.diagnostics.length = 2 :=
    ⟨_, _, rfl, _, _, rfl, rfl⟩
  have reached : Reachable .unlimited source lexer := .next (.next .start first) second
  exact ⟨short, lexer, reached, two, Reachable.diagnostics_sorted_iff short reached⟩

/-- A bad escape in a literal without an end is queued before the literal, which starts first. -/
theorem Reachable.diagnostics_out_of_order :
    let source := Source.ofText ['\x22', '\\', 'q']
    source.text.length < Text.counterLimit ∧
      ∃ lexer, Reachable .unlimited source lexer ∧
        ¬ lexer.diagnostics.Pairwise fun earlier later => ¬ later.span.Before earlier.span := by
  intro source
  obtain ⟨token?, lexer, read, unsorted⟩ : ∃ token? lexer,
      (Lexer.start .unlimited source).next = .ok (token?, lexer) ∧
        ¬ lexer.diagnostics.Pairwise fun earlier later => ¬ later.span.Before earlier.span :=
    ⟨_, _, rfl, by decide⟩
  exact ⟨by decide, lexer, .next .start read, unsorted⟩

end Lexer

/-- Lexing a source hands over what a run queues, in the order of places. -/
theorem lex_of_run {source : Source} {tokens : List Token} {final : Lexer}
    (ran : (Lexer.start .unlimited source).run = .ok (tokens, final)) :
    lex source = .ok ⟨tokens, Diagnostic.sortByPlace final.queue.diagnostics⟩ :=
  Fault.bind_eq_ok_iff.2 ⟨_, ran, rfl⟩

end Offside
