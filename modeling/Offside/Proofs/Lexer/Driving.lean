import Mathlib.Data.List.Forall2
import Offside.Proofs.Lexer.QueueOrder

/-! # Driving a lexer

A lexer can be asked for its next token, for all tokens that are left and for its diagnostics, in
any order and as often as one likes. The answers do not depend on the order. Handing diagnostics
over changes nothing but the queue, so a driven lexer follows, up to its queue, the path of a lexer
that is only run. Its tokens are the readings of that path, and the batches of diagnostics it hands
over, each sorted by itself, are the sorted queue of that path cut into pieces.
-/

namespace Offside

/-- What a lexer can be asked for. -/
inductive Call where
  /-- The next token. -/
  | next
  /-- All tokens that are left. -/
  | run
  /-- A look at the diagnostics queued. -/
  | look
  /-- The diagnostics queued, to be handed over. -/
  | take
deriving DecidableEq, Repr

/-- What a lexer answers. -/
inductive Answer where
  | token (token? : Option Token)
  | tokens (tokens : List Token)
  | queued (diagnostics : List Diagnostic)
  | taken (diagnostics : List Diagnostic)
deriving DecidableEq, Repr

namespace Lexer

/-- Answers one call. -/
def answer (lexer : Lexer) : Call → Except Fault (Answer × Lexer)
  | .next => lexer.next.map fun (token?, after) => (.token token?, after)
  | .run => lexer.run.map fun (tokens, after) => (.tokens tokens, after)
  | .look => .ok (.queued lexer.diagnostics, lexer)
  | .take => .ok (.taken lexer.takeDiagnostics.1, lexer.takeDiagnostics.2)

/-- Answers calls one after the other. -/
def answerAll (lexer : Lexer) : List Call → Except Fault (List Answer × Lexer)
  | [] => .ok ([], lexer)
  | call :: rest => do
    let (first, after) ← lexer.answer call
    let (others, final) ← after.answerAll rest
    .ok (first :: others, final)

/-- Calls are answered if the first is, and the others are by the lexer left behind. -/
theorem answerAll_cons {lexer after final : Lexer} {call : Call} {rest : List Call}
    {first : Answer} {others : List Answer} (answered : lexer.answer call = .ok (first, after))
    (later : after.answerAll rest = .ok (others, final)) :
    lexer.answerAll (call :: rest) = .ok (first :: others, final) :=
  Fault.bind_eq_ok_iff.2 ⟨_, answered, Fault.bind_eq_ok_iff.2 ⟨_, later, rfl⟩⟩

end Lexer

/-- One place in the row of tokens answered with. -/
structure Shown where
  /-- Whether the token was asked for by itself. -/
  single : Bool
  token? : Option Token
deriving DecidableEq, Repr

/-- Whether the end of the source is shown. -/
def Shown.isLast (shown : Shown) : Bool := shown.token?.any fun token => token.kind = .endOfFile

namespace Answer

/-- The tokens answered with. -/
def shown : Answer → List Shown
  | .token token? => [⟨true, token?⟩]
  | .tokens all => all.map fun token => ⟨false, some token⟩
  | .queued _ | .taken _ => []

/-- The diagnostics handed over. -/
def batch : Answer → List Diagnostic
  | .taken diagnostics => diagnostics
  | .token _ | .tokens _ | .queued _ => []

/-- The answer has no token but this one. -/
def Repeats (token? : Option Token) : Answer → Prop
  | .token other? => other? = token?
  | .tokens all => all.map some = [token?]
  | .queued _ | .taken _ => True

end Answer

section ThroughFirst

variable {α β : Type}

/-- The front of a list, up to and including the first item that passes a test. -/
def throughFirst (test : α → Bool) : List α → List α
  | [] => []
  | item :: rest => if test item then [item] else item :: throughFirst test rest

theorem throughFirst_eq_self {test : α → Bool} {items : List α}
    (none : ∀ item ∈ items, test item = false) : throughFirst test items = items := by
  induction items with
  | nil => rfl
  | cons item rest ih =>
    rw [throughFirst, if_neg (by simp [none item]), ih]
    intro other member
    exact none other (List.mem_cons_of_mem _ member)

theorem throughFirst_append_cons {test : α → Bool} {front rest : List α} {item : α}
    (none : ∀ other ∈ front, test other = false) (passes : test item = true) :
    throughFirst test (front ++ item :: rest) = front ++ [item] := by
  induction front with
  | nil => simp [throughFirst, passes]
  | cons first front ih =>
    rw [List.cons_append, throughFirst, if_neg (by simp [none first]), ih, List.cons_append]
    intro other member
    exact none other (List.mem_cons_of_mem _ member)

theorem throughFirst_isPrefix (test : α → Bool) (items : List α) :
    throughFirst test items <+: items := by
  induction items with
  | nil => exact List.nil_prefix
  | cons item rest ih =>
    rw [throughFirst]
    split
    · exact ⟨rest, rfl⟩
    · exact List.cons_prefix_cons.2 ⟨rfl, ih⟩

/-- Lists that go together item by item, and of which the same items pass, are cut alike. -/
theorem forall₂_throughFirst {relation : α → β → Prop} {left : α → Bool} {right : β → Bool}
    {items : List α} {others : List β} (related : List.Forall₂ relation items others)
    (alike : ∀ item other, relation item other → left item = right other) :
    List.Forall₂ relation (throughFirst left items) (throughFirst right others) := by
  induction related with
  | nil => exact .nil
  | @cons item other items others here _ ih =>
    rw [throughFirst, throughFirst, alike item other here]
    split
    · exact .cons here .nil
    · exact .cons here ih

/-- In lists that go together item by item, every item on the right has one on the left. -/
theorem exists_of_mem_right {relation : α → β → Prop} {items : List α} {others : List β}
    (related : List.Forall₂ relation items others) {other : β} (member : other ∈ others) :
    ∃ item ∈ items, relation item other := by
  induction related with
  | nil => contradiction
  | @cons item _ items _ here _ ih =>
    rcases List.mem_cons.1 member with rfl | later
    · exact ⟨item, List.mem_cons_self, here⟩
    · obtain ⟨found, present, related⟩ := ih later
      exact ⟨found, List.mem_cons_of_mem _ present, related⟩

end ThroughFirst

namespace Lexed

/-- Whether a token of the source is a character that starts no token, and was reported as such. -/
def isStray (source : Source) (lexed : Lexed) (token : Token) : Bool :=
  token.kind = .invalid && lexed.diagnostics.any fun diagnostic =>
    diagnostic.issue = .invalidCharacter && source.covers token.span diagnostic.span

/-- The token is shown, except that a stray character that was asked for by itself is not. -/
def Shows (source : Source) (lexed : Lexed) (token : Token) (shown : Shown) : Prop :=
  shown.token? = if shown.single && lexed.isStray source token then none else some token

end Lexed

/-- The answers to a sequence of calls, and the lexer afterwards, agree with lexing at once. -/
structure Faithful (source : Source) (lexed : Lexed) (answers : List Answer) (final : Lexer) :
    Prop where
  /-- Up to the first end of the source, the tokens are shown one by one from the first on. -/
  tokens : List.Forall₂ (lexed.Shows source)
    (lexed.tokens.take (throughFirst Shown.isLast (answers.flatMap Answer.shown)).length)
    (throughFirst Shown.isLast (answers.flatMap Answer.shown))
  /-- Once the end has been shown, it is the only token of all further answers, and no further
  diagnostic is queued. -/
  repeats : ∀ shown ∈ answers.flatMap Answer.shown, shown.isLast = true → ∀ later,
    ∃ answers' final', final.answerAll later = .ok (answers', final') ∧
      (∀ answer ∈ answers', answer.Repeats shown.token?) ∧
      final'.diagnostics = if .take ∈ later then [] else final.diagnostics
  /-- Once the end has been shown, the batches handed over and the diagnostics left make up the
  diagnostics of the source. -/
  diagnostics : (∃ shown ∈ answers.flatMap Answer.shown, shown.isLast = true) →
    answers.flatMap Answer.batch ++ final.takeDiagnostics.1 = lexed.diagnostics

namespace Lexer

/-- The lexer with another queue. -/
def withQueue (lexer : Lexer) (queue : Queue) : Lexer := { lexer with queue := queue }

section Step

variable {lexer next : Lexer} {before : Text} {reading : Reading}

/-- What a step reads and reports does not depend on the queue. -/
theorem Step.withQueue (step : Step lexer before reading next) :
    ∃ reports, next.queue = lexer.queue.pushAll reports ∧ ∀ queue,
      Step (lexer.withQueue queue) before reading (next.withQueue (queue.pushAll reports)) := by
  cases step with
  | finish spaces ahead => exact ⟨[], rfl, fun queue => .finish spaces ahead⟩
  | newline spaces ahead unit indented =>
    exact ⟨[], rfl, fun queue => .newline spaces ahead unit indented⟩
  | lexeme spaces more cut length ordinary visible =>
    exact ⟨_, rfl, fun queue => .lexeme spaces more cut length ordinary visible⟩

/-- An invalid token is a stray character exactly if it does not open with a double quote. -/
theorem Step.kind?_eq_none_iff (step : Step lexer before reading next)
    (passed : lexer.Passed before) (invalid : reading.token.kind = .invalid) :
    ∃ c rest, lexer.source.substring reading.span = .ok (c :: rest) ∧
      (reading.kind? = none ↔ c ≠ '\x22') := by
  have divided := passed.divided
  cases step with
  | finish => simp [Reading.token] at invalid
  | newline => simp [Reading.token] at invalid
  | @lexeme blanks word rest ahead first spaces more cut length =>
    obtain ⟨body, rfl, _⟩ := exists_body_of_cut cut length
    rw [more, cut, ← List.append_assoc] at divided
    refine ⟨first, body, ?_, ?_⟩
    · rw [Source.substring_spanAfter divided, List.take_left]
    · rcases Lexeme.outcome_read first ahead with ⟨read, valid, _⟩ | ⟨same, unquoted⟩ |
        ⟨quote, read, _⟩
      · simp [Reading.token, read, valid] at invalid
      · simp [same, Lexeme.stray, unquoted]
      · rw [read]
        simp [quote]

end Step

section End

variable {lexer : Lexer} {before : Text}

/-- At the end of its source a lexer answers with the end, and only handing over its diagnostics
leaves a trace. -/
theorem answer_at_end (countable : Text.Countable lexer.source.text) (passed : lexer.Passed before)
    (ended : lexer.cursor.rest = []) (call : Call) :
    ∃ answer, answer.Repeats (some lexer.lastReading.token) ∧
      lexer.answer call =
        .ok (answer, if call = .take then lexer.takeDiagnostics.2 else lexer) := by
  have scanned := scan_at_end countable passed ended
  cases call with
  | next =>
    refine ⟨.token (some lexer.lastReading.token), rfl, ?_⟩
    rw [answer, next, scanned]
    rfl
  | run =>
    refine ⟨.tokens [lexer.lastReading.token], rfl, ?_⟩
    rw [answer, run_of_isLast scanned rfl]
    rfl
  | look => exact ⟨.queued lexer.diagnostics, True.intro, rfl⟩
  | take => exact ⟨.taken lexer.takeDiagnostics.1, True.intro, rfl⟩

/-- At the end of its source a lexer answers all calls with the end, and queues nothing. -/
theorem answerAll_at_end (countable : Text.Countable lexer.source.text)
    (passed : lexer.Passed before) (ended : lexer.cursor.rest = []) (calls : List Call) :
    ∃ answers final, lexer.answerAll calls = .ok (answers, final) ∧
      (∀ answer ∈ answers, answer.Repeats (some lexer.lastReading.token)) ∧
      final.diagnostics = if .take ∈ calls then [] else lexer.diagnostics := by
  induction calls generalizing lexer with
  | nil => exact ⟨[], lexer, rfl, by simp, by simp⟩
  | cons call rest ih =>
    obtain ⟨answer, repeats, answered⟩ := answer_at_end countable passed ended call
    by_cases taken : call = .take
    · rw [if_pos taken] at answered
      obtain ⟨answers, final, later, others, queued⟩ :=
        @ih lexer.takeDiagnostics.2 countable ⟨passed.divided, passed.located⟩ ended
      have emptied : final.diagnostics = [] := queued.trans (ite_self _)
      refine ⟨answer :: answers, final, answerAll_cons answered later,
        List.forall_mem_cons.2 ⟨repeats, others⟩, ?_⟩
      rw [emptied, if_pos (by simp [taken])]
    · rw [if_neg taken] at answered
      obtain ⟨answers, final, later, others, queued⟩ := ih countable passed ended
      refine ⟨answer :: answers, final, answerAll_cons answered later,
        List.forall_mem_cons.2 ⟨repeats, others⟩, ?_⟩
      simp [queued, Ne.symm taken]

end End

/-- A driven lexer, which has handed over some diagnostics, and a lexer that has kept all of them
stand in the same place of a source. -/
structure Tracks (source : Source) (readings : List Reading) (handed : List Diagnostic)
    (keeper lexer : Lexer) : Prop where
  path : Path (.start .unlimited source) readings keeper
  same : lexer = keeper.withQueue lexer.queue
  unlimited : lexer.queue.config = .unlimited
  reports : keeper.queue.diagnostics = handed ++ lexer.queue.diagnostics
  order : ∀ earlier ∈ handed, ∀ later ∈ lexer.queue.diagnostics, earlier.span.Before later.span

namespace Tracks

variable {source : Source} {readings : List Reading} {handed : List Diagnostic}
  {keeper lexer next : Lexer}

/-- The keeper has queued its diagnostics in an orderly way. -/
theorem exists_orderly (countable : Text.Countable source.text)
    (tracks : Tracks source readings handed keeper lexer) :
    keeper.source = source ∧ ∃ before ordered late, Orderly keeper before ordered late :=
  (Reachable.start.path tracks.path).exists_orderly countable

/-- The driven lexer stands where the keeper stands. -/
theorem passed {before : Text} (tracks : Tracks source readings handed keeper lexer)
    (passed : keeper.Passed before) : lexer.source = keeper.source ∧ lexer.Passed before := by
  rw [tracks.same]
  exact ⟨rfl, passed.divided, passed.located⟩

/-- Both read the same, and report the same. -/
theorem scan (countable : Text.Countable source.text)
    (tracks : Tracks source readings handed keeper lexer) :
    ∃ reading keeper' next, lexer.scan = .ok (reading, next) ∧
      Tracks source (readings ++ [reading]) handed keeper' next := by
  obtain ⟨rfl, before, ordered, late, orderly⟩ := tracks.exists_orderly countable
  obtain ⟨source, passed⟩ := tracks.passed orderly.passed
  obtain ⟨reading, keeper', kept, step⟩ := scan_step countable orderly.passed
  obtain ⟨reports, pushed, anyQueue⟩ := step.withQueue
  obtain ⟨_, _, _, reports', _, queued, behind⟩ := orderly.step step
  obtain rfl : reports = reports' := by
    rw [pushed, Queue.diagnostics_pushAll_of_unlimited orderly.unlimited] at queued
    exact List.append_cancel_left queued
  have driven := anyQueue lexer.queue
  rw [← tracks.same] at driven
  refine ⟨reading, keeper', _, scan_of_step (source ▸ countable) passed driven,
    .step tracks.path kept, rfl, ?_, ?_, ?_⟩
  · exact (Queue.config_pushAll ..).trans tracks.unlimited
  · change _ = handed ++ (lexer.queue.pushAll reports).diagnostics
    rw [queued, tracks.reports, Queue.diagnostics_pushAll_of_unlimited tracks.unlimited,
      List.append_assoc]
  · intro earlier member later queue
    change later ∈ (lexer.queue.pushAll reports).diagnostics at queue
    rw [Queue.diagnostics_pushAll_of_unlimited tracks.unlimited] at queue
    rcases List.mem_append.1 queue with old | new
    · exact tracks.order earlier member later old
    · exact behind earlier (by rw [tracks.reports]; exact List.mem_append_left _ member) later new

/-- They stay together along a path. -/
theorem along {more : List Reading} (countable : Text.Countable source.text)
    (tracks : Tracks source readings handed keeper lexer) (path : Path lexer more next) :
    ∃ keeper', Tracks source (readings ++ more) handed keeper' next := by
  induction path with
  | nil => exact ⟨keeper, by rwa [List.append_nil]⟩
  | step _ scanned ih =>
    obtain ⟨middle, onward⟩ := ih
    obtain ⟨reading', keeper', next', scanned', further⟩ := onward.scan countable
    obtain ⟨rfl, rfl⟩ := Prod.mk.inj (Except.ok.inj (scanned.symm.trans scanned'))
    exact ⟨keeper', by rwa [← List.append_assoc]⟩

/-- Handing over the diagnostics moves neither of them. -/
theorem take (tracks : Tracks source readings handed keeper lexer) :
    Tracks source readings (handed ++ lexer.queue.diagnostics) keeper lexer.takeDiagnostics.2 := by
  refine ⟨tracks.path, ?_, tracks.unlimited, ?_, ?_⟩
  · rw [tracks.same]
    rfl
  · rw [tracks.reports]
    exact (List.append_nil _).symm
  · intro earlier _ later member
    exact absurd member List.not_mem_nil

/-- What was handed over before and what is queued can be sorted one by one. -/
theorem sortByPlace_reports (countable : Text.Countable source.text)
    (tracks : Tracks source readings handed keeper lexer) :
    Diagnostic.sortByPlace keeper.queue.diagnostics =
      Diagnostic.sortByPlace handed ++ Diagnostic.sortByPlace lexer.queue.diagnostics := by
  obtain ⟨_, _, _, _, orderly⟩ := tracks.exists_orderly countable
  have apart := orderly.apart
  rw [tracks.reports] at apart ⊢
  exact Diagnostic.sortByPlace_append apart tracks.order

end Tracks

end Lexer

/-- A reading is shown as a token, except that a stray character asked for by itself is not. -/
def Shown.Of (reading : Reading) (shown : Shown) : Prop :=
  shown.token? = if shown.single then reading.token? else some reading.token

/-- The end of the source is shown exactly where it is read. -/
theorem Shown.Of.isLast_eq {reading : Reading} {shown : Shown} (of : Shown.Of reading shown) :
    reading.isLast = shown.isLast := by
  rw [Shown.isLast, of]
  cases shown.single with
  | false =>
    apply Bool.eq_iff_iff.2
    rw [reading.isLast_iff]
    simp
  | true =>
    cases kind : reading.kind? with
    | none => simp [Reading.isLast, Reading.token?, kind]
    | some known => simp [Reading.isLast, Reading.token?, kind]

namespace Lexer

/-- What a driven lexer has answered: the readings of a path as tokens, and the diagnostics handed
over in sorted batches. -/
structure Told (source : Source) (answers : List Answer) (readings : List Reading)
    (keeper lexer : Lexer) : Prop where
  tracks : ∃ handed, Tracks source readings handed keeper lexer ∧
    answers.flatMap Answer.batch = Diagnostic.sortByPlace handed
  shown : List.Forall₂ Shown.Of readings (answers.flatMap Answer.shown)

namespace Told

variable {source : Source} {answers : List Answer} {readings : List Reading} {keeper lexer : Lexer}

theorem start (source : Source) :
    Told source [] [] (.start .unlimited source) (.start .unlimited source) :=
  ⟨⟨[], ⟨.nil, rfl, rfl, rfl, by simp⟩, List.mergeSort_nil.symm⟩, .nil⟩

/-- Every call is answered, by what comes next on the path. -/
theorem answer (countable : Text.Countable source.text)
    (told : Told source answers readings keeper lexer) (call : Call) :
    ∃ answer readings' keeper' next, lexer.answer call = .ok (answer, next) ∧
      Told source (answers ++ [answer]) readings' keeper' next := by
  obtain ⟨⟨handed, tracks, batches⟩, shown⟩ := told
  cases call with
  | next =>
    obtain ⟨reading, keeper', next, scanned, onward⟩ := tracks.scan countable
    refine ⟨.token reading.token?, _, keeper', next, ?_, ⟨handed, onward, ?_⟩, ?_⟩
    · rw [Lexer.answer, Lexer.next, scanned]
      rfl
    · simpa [Answer.batch] using batches
    · rw [List.flatMap_append, List.flatMap_singleton]
      exact List.rel_append shown (.cons rfl .nil)
  | run =>
    obtain ⟨rfl, before, _, _, orderly⟩ := tracks.exists_orderly countable
    obtain ⟨same, passed⟩ := tracks.passed orderly.passed
    obtain ⟨tokens, next, ran⟩ := exists_run (same ▸ countable) passed
    obtain ⟨front, last, path, _, _, rfl⟩ := path_of_run ran
    obtain ⟨keeper', onward⟩ := tracks.along countable path
    refine ⟨.tokens ((front ++ [last]).map Reading.token), _, keeper', next, ?_,
      ⟨handed, onward, ?_⟩, ?_⟩
    · rw [Lexer.answer, ran]
      rfl
    · simpa [Answer.batch] using batches
    · rw [List.flatMap_append, List.flatMap_singleton, Answer.shown, List.map_map]
      apply List.rel_append shown
      rw [List.forall₂_map_right_iff, List.forall₂_same]
      exact fun reading _ => rfl
  | look =>
    refine ⟨.queued lexer.diagnostics, readings, keeper, lexer, rfl, ⟨handed, tracks, ?_⟩, ?_⟩
    · simpa [Answer.batch] using batches
    · simpa [Answer.shown] using shown
  | take =>
    refine ⟨.taken lexer.takeDiagnostics.1, readings, keeper, _, rfl, ⟨_, tracks.take, ?_⟩, ?_⟩
    · rw [List.flatMap_append, List.flatMap_singleton, batches, ← tracks.reports,
        tracks.sortByPlace_reports countable]
      rfl
    · simpa [Answer.shown] using shown

/-- So is every sequence of calls. -/
theorem answerAll (countable : Text.Countable source.text)
    (told : Told source answers readings keeper lexer) (calls : List Call) :
    ∃ answers' readings' keeper' final, lexer.answerAll calls = .ok (answers', final) ∧
      Told source (answers ++ answers') readings' keeper' final := by
  induction calls generalizing answers readings keeper lexer with
  | nil => exact ⟨[], readings, keeper, lexer, rfl, by rwa [List.append_nil]⟩
  | cons call rest ih =>
    obtain ⟨first, _, _, _, answered, further⟩ := told.answer countable call
    obtain ⟨others, readings', keeper', final, later, done⟩ := ih further
    exact ⟨first :: others, readings', keeper', final, answerAll_cons answered later,
      by rwa [List.append_cons]⟩

end Told

/-- A source can be run, and its tokens and diagnostics account for each other. -/
theorem exists_run_matched {source : Source} (countable : Text.Countable source.text) :
    ∃ tokens final, (start .unlimited source).run = .ok (tokens, final) ∧
      Lexed.Matched source ⟨tokens, Diagnostic.sortByPlace final.queue.diagnostics⟩ := by
  obtain ⟨front, last, final, ran, _, _, queue, fits⟩ := exists_tiles .unlimited countable
  have all : final.queue.diagnostics = (front ++ [last]).flatMap Tile.reports := by
    rw [queue, Queue.diagnostics_pushAll_of_unlimited rfl]
    rfl
  refine ⟨_, final, ran, Lexed.matched_of_fits fits ?_⟩
  rw [← all]
  exact Diagnostic.sortByPlace_perm _

end Lexer

namespace Lexed.Matched

variable {source : Source} {lexed : Lexed} {token : Token} {diagnostic : Diagnostic}

/-- A diagnostic is about the token that covers it. -/
theorem blames_of_covers (matched : lexed.Matched source) (member : token ∈ lexed.tokens)
    (reported : diagnostic ∈ lexed.diagnostics)
    (covered : source.covers token.span diagnostic.span = true) :
    lexed.Blames source diagnostic token := by
  obtain ⟨done, blamed, rest, whole, blames, others⟩ := matched.blamed diagnostic reported
  rw [whole] at member
  by_cases same : token = blamed
  · rwa [same]
  · have other : token ∈ done ++ rest := by simpa [same] using member
    rw [others token other] at covered
    contradiction

/-- A reading is a stray character exactly if it was reported as one. -/
theorem isStray_iff (matched : lexed.Matched source) {reading : Reading}
    (member : reading.token ∈ lexed.tokens)
    (opens : reading.token.kind = .invalid → ∃ c rest,
      source.substring reading.span = .ok (c :: rest) ∧ (reading.kind? = none ↔ c ≠ '\x22')) :
    lexed.isStray source reading.token = true ↔ reading.kind? = none := by
  constructor
  · intro stray
    simp only [isStray, Bool.and_eq_true, decide_eq_true_eq, List.any_eq_true] at stray
    obtain ⟨invalid, diagnostic, reported, issue, covered⟩ := stray
    obtain ⟨c, rest, opened, decided⟩ :=
      (matched.blames_of_covers member reported covered).issue
    obtain ⟨c', rest', opened', kind⟩ := opens invalid
    obtain ⟨rfl, _⟩ := List.cons.inj (Except.ok.inj (opened.symm.trans opened'))
    apply kind.2
    intro quote
    rw [issue, if_pos quote] at decided
    contradiction
  · intro none
    have invalid : reading.token.kind = .invalid := by rw [Reading.token, none]; rfl
    obtain ⟨diagnostic, reported, covered⟩ := matched.reported _ member invalid
    obtain ⟨c, rest, opened, decided⟩ :=
      (matched.blames_of_covers member reported covered).issue
    obtain ⟨c', rest', opened', kind⟩ := opens invalid
    obtain ⟨rfl, _⟩ := List.cons.inj (Except.ok.inj (opened.symm.trans opened'))
    rw [if_neg (kind.1 none)] at decided
    simp only [isStray, Bool.and_eq_true, decide_eq_true_eq, List.any_eq_true]
    exact ⟨invalid, diagnostic, reported, decided, covered⟩

end Lexed.Matched

/-- What a reading is shown as follows from the token and from what was reported about it. -/
theorem Shown.Of.shows {source : Source} {lexed : Lexed} {reading : Reading} {shown : Shown}
    (of : Shown.Of reading shown)
    (stray : lexed.isStray source reading.token = true ↔ reading.kind? = none) :
    lexed.Shows source reading.token shown := by
  rw [Lexed.Shows, of]
  cases shown.single with
  | false => rfl
  | true =>
    cases kind : reading.kind? with
    | none => simp [Reading.token?, kind, stray.2 kind]
    | some known =>
      have sound : lexed.isStray source reading.token = false := by
        apply Bool.eq_false_iff.2
        intro reported
        rw [stray.1 reported] at kind
        contradiction
      have whole : reading.token? = some reading.token := by
        simp [Reading.token?, Reading.token, kind]
      simp [whole, sound]

namespace Lexer.Told

variable {source : Source} {answers : List Answer} {readings : List Reading}
  {keeper final lexer : Lexer} {tokens : List Token}

/-- Up to the first end of the source, the readings are those of the run. -/
theorem throughFirst_readings (told : Told source answers readings keeper lexer)
    (countable : Text.Countable source.text)
    (ran : (Lexer.start .unlimited source).run = .ok (tokens, final)) :
    (throughFirst Reading.isLast readings).map Reading.token <+: tokens := by
  obtain ⟨handed, tracks, _⟩ := told.tracks
  have passed := passed_start .unlimited source
  rcases tracks.path.going_or_ended countable passed with going | ⟨_, front, count, rfl, going, all⟩
  · obtain ⟨same, beyond, onward⟩ := tracks.path.passed countable passed
    have known : Text.Countable keeper.source.text := same ▸ countable
    obtain ⟨more, _, rest⟩ := exists_run known onward
    obtain ⟨rfl, _⟩ := Prod.mk.inj (Except.ok.inj
      (ran.symm.trans (run_of_path tracks.path going rest)))
    rw [throughFirst_eq_self going]
    exact List.prefix_append _ _
  · obtain ⟨rfl, _⟩ := Prod.mk.inj (Except.ok.inj (ran.symm.trans all))
    rw [List.replicate_succ, throughFirst_append_cons going rfl, List.map_append]
    exact List.prefix_rfl

/-- Where the end of the source has been shown, the keeper has been run to the end. -/
theorem ended (told : Told source answers readings keeper lexer)
    (countable : Text.Countable source.text)
    (ran : (Lexer.start .unlimited source).run = .ok (tokens, final)) {shown : Shown}
    (member : shown ∈ answers.flatMap Answer.shown) (last : shown.isLast = true) :
    keeper = final ∧ keeper.cursor.rest = [] ∧ shown.token? = some keeper.lastReading.token := by
  obtain ⟨handed, tracks, _⟩ := told.tracks
  obtain ⟨reading, read, of⟩ := exists_of_mem_right told.shown member
  rw [← of.isLast_eq] at last
  rcases tracks.path.going_or_ended countable (passed_start .unlimited source) with
    going | ⟨ended, front, count, rfl, going, all⟩
  · rw [going reading read] at last
    contradiction
  · obtain ⟨_, same⟩ := Prod.mk.inj (Except.ok.inj (all.symm.trans ran))
    refine ⟨same, ended, ?_⟩
    rcases List.mem_append.1 read with early | late
    · rw [going reading early] at last
      contradiction
    · obtain rfl := List.eq_of_mem_replicate late
      rw [of]
      exact ite_self _

/-- What has been answered agrees with what lexing the source gives. -/
theorem faithful (told : Told source answers readings keeper lexer)
    (countable : Text.Countable source.text)
    (ran : (Lexer.start .unlimited source).run = .ok (tokens, final))
    (matched : Lexed.Matched source ⟨tokens, Diagnostic.sortByPlace final.queue.diagnostics⟩) :
    Faithful source ⟨tokens, Diagnostic.sortByPlace final.queue.diagnostics⟩ answers lexer := by
  obtain ⟨handed, tracks, batches⟩ := told.tracks
  obtain ⟨same, beyond, passed⟩ := tracks.path.passed countable (passed_start .unlimited source)
  have known : Text.Countable keeper.source.text := same ▸ countable
  obtain ⟨sameSource, driven⟩ := tracks.passed passed
  refine ⟨?_, ?_, ?_⟩
  · have front := told.throughFirst_readings countable ran
    have together := forall₂_throughFirst told.shown fun reading shown of => of.isLast_eq
    have stray : ∀ reading ∈ throughFirst Reading.isLast readings,
        (Lexed.isStray source ⟨tokens, Diagnostic.sortByPlace final.queue.diagnostics⟩
          reading.token = true ↔ reading.kind? = none) := by
      intro reading member
      apply matched.isStray_iff (front.subset (List.mem_map_of_mem member))
      apply tracks.path.forall_readings countable (passed_start .unlimited source) _ reading
        ((throughFirst_isPrefix _ _).subset member)
      rintro lexer before reading next rfl passed step
      exact step.kind?_eq_none_iff passed
    rw [← together.length_eq, ← List.length_map Reading.token, ← List.prefix_iff_eq_take.1 front,
      List.forall₂_map_left_iff]
    apply ((List.forall₂_and_left _ _).2 ⟨stray, together⟩).imp
    rintro reading shown ⟨stray, of⟩
    exact of.shows stray
  · intro shown member last later
    obtain ⟨_, ended, repeated⟩ := told.ended countable ran member last
    have here : lexer.cursor = keeper.cursor ∧ lexer.lastReading = keeper.lastReading := by
      rw [tracks.same]
      exact ⟨rfl, rfl⟩
    rw [repeated, ← here.2]
    exact answerAll_at_end (sameSource ▸ known) driven (here.1 ▸ ended) later
  · rintro ⟨shown, member, last⟩
    obtain ⟨rfl, _⟩ := told.ended countable ran member last
    rw [batches, tracks.sortByPlace_reports countable]
    rfl

end Lexer.Told

/-- However a lexer is driven over a source of fewer characters than the largest counter value, all
calls are answered, and the answers agree with lexing the source at once. -/
theorem Lexer.answerAll_faithful (source : Source)
    (short : source.text.length < Text.counterLimit) (calls : List Call) :
    ∃ lexed answers final, lex source = .ok lexed ∧
      (start .unlimited source).answerAll calls = .ok (answers, final) ∧
      Faithful source lexed answers final := by
  have countable := Text.countable_of_length_lt short
  obtain ⟨tokens, last, ran, matched⟩ := exists_run_matched countable
  obtain ⟨answers, readings, keeper, final, answered, told⟩ :=
    (Told.start source).answerAll countable calls
  exact ⟨_, answers, final, lex_of_run ran, answered, told.faithful countable ran matched⟩

/-- A stray character and a bad escape in a literal without an end are asked for by single calls,
with a batch of diagnostics handed over in between. -/
theorem Lexer.answerAll_faithful_mixed :
    let source := Source.ofText ['$', '\x22', '\\', 'q']
    source.text.length < Text.counterLimit ∧
      ∃ lexed answers final, lex source = .ok lexed ∧
        (start .unlimited source).answerAll [.next, .take, .next, .look, .run, .next] =
          .ok (answers, final) ∧
        Faithful source lexed answers final :=
  ⟨by decide, Lexer.answerAll_faithful _ (by decide) _⟩

end Offside
