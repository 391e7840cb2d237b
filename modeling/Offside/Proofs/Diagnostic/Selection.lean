import Offside.Proofs.Diagnostic.Order

/-! # What a queue keeps

A queue decides about a diagnostic when it is offered, and by what it holds at that moment: the
limit is asked before repetitions are, and it is asked about a count of its own. Over a whole
history of pushes and flushes this comes to a plain selection. Of the diagnostics pushed since the
last flush a queue holds those that repeat no earlier one, if repetitions are unwanted, and of these
the first few, if there is a limit. A flush hands over that selection in a stable order.
-/

namespace Offside

namespace Diagnostic

section Repeats

theorem repeats_trans {first second third : Diagnostic} (left : first.repeats second = true)
    (right : second.repeats third = true) : first.repeats third = true := by
  simp only [repeats, Bool.and_eq_true, decide_eq_true_eq] at *
  exact ⟨left.1.trans right.1, left.2.trans right.2⟩

/-- The diagnostics that have issue and span in common with none before them, where `earlier` stand
before the first. -/
def withoutRepeats (earlier : List Diagnostic) : List Diagnostic → List Diagnostic
  | [] => []
  | diagnostic :: rest =>
    let later := withoutRepeats (earlier ++ [diagnostic]) rest
    if ∃ first ∈ earlier, diagnostic.issue = first.issue ∧ diagnostic.span = first.span then later
    else diagnostic :: later

variable {earlier diagnostics : List Diagnostic}

/-- A queue would refuse the others for what they repeat. -/
theorem withoutRepeats_cons (earlier : List Diagnostic) (diagnostic : Diagnostic)
    (rest : List Diagnostic) :
    withoutRepeats earlier (diagnostic :: rest) =
      if earlier.any diagnostic.repeats then withoutRepeats (earlier ++ [diagnostic]) rest
      else diagnostic :: withoutRepeats (earlier ++ [diagnostic]) rest := by
  have same : (∃ first ∈ earlier, diagnostic.issue = first.issue ∧ diagnostic.span = first.span) ↔
      earlier.any diagnostic.repeats = true := by
    simp [repeats]
  rw [withoutRepeats, if_congr same rfl rfl]

theorem withoutRepeats_append_singleton (earlier diagnostics : List Diagnostic)
    (last : Diagnostic) :
    withoutRepeats earlier (diagnostics ++ [last]) =
      withoutRepeats earlier diagnostics ++
        if (earlier ++ diagnostics).any last.repeats then [] else [last] := by
  induction diagnostics generalizing earlier with
  | nil => simp [withoutRepeats_cons, withoutRepeats]
  | cons diagnostic rest ih =>
    rw [List.cons_append, withoutRepeats_cons, withoutRepeats_cons, ih, ← List.append_cons]
    split
    · rfl
    · rfl

/-- What repeats a diagnostic repeats one that is left without repetitions: the first of its
kind. -/
theorem any_repeats_withoutRepeats (earlier diagnostics : List Diagnostic) (last : Diagnostic) :
    (earlier.any last.repeats || (withoutRepeats earlier diagnostics).any last.repeats) =
      (earlier ++ diagnostics).any last.repeats := by
  induction diagnostics generalizing earlier with
  | nil => simp [withoutRepeats]
  | cons diagnostic rest ih =>
    have onward := ih (earlier ++ [diagnostic])
    rw [← List.append_cons, List.any_append, List.any_cons, List.any_nil, Bool.or_false] at onward
    rw [← onward, withoutRepeats_cons]
    split
    · rename_i again
      -- What repeats a repetition repeats what the repetition does.
      have chained : last.repeats diagnostic = true → earlier.any last.repeats = true := by
        intro same
        obtain ⟨first, member, repeated⟩ := List.any_eq_true.1 again
        exact List.any_eq_true.2 ⟨first, member, repeats_trans same repeated⟩
      cases same : last.repeats diagnostic with
      | false => simp
      | true => simp [chained same]
    · rw [List.any_cons, Bool.or_assoc]

/-- Where nothing is repeated, nothing is left out. -/
theorem withoutRepeats_eq_self
    (fresh : (earlier ++ diagnostics).Pairwise fun first second => second.repeats first = false) :
    withoutRepeats earlier diagnostics = diagnostics := by
  induction diagnostics generalizing earlier with
  | nil => rfl
  | cons diagnostic rest ih =>
    have unseen : earlier.any diagnostic.repeats = false := by
      apply List.any_eq_false.2
      intro first member
      have apart := (List.pairwise_append.1 fresh).2.2 first member diagnostic List.mem_cons_self
      simp [apart]
    rw [withoutRepeats_cons, unseen, ih (by rwa [← List.append_cons])]
    rfl

end Repeats

/-- The diagnostic starts in this line and column. -/
def startsAt (line column : Nat) (diagnostic : Diagnostic) : Bool :=
  diagnostic.span.line = line && diagnostic.span.column = column

/-- The same diagnostics in the order of their places, those at one place as they were before. -/
structure StableSort (diagnostics sorted : List Diagnostic) : Prop where
  perm : sorted.Perm diagnostics
  ordered : sorted.Pairwise fun left right => ¬ right.span.Before left.span
  stable : ∀ line column,
    sorted.filter (startsAt line column) = diagnostics.filter (startsAt line column)

/-- Sorting keeps those diagnostics in a row that are in order as they are. -/
theorem filter_sortByPlace {diagnostics : List Diagnostic} {test : Diagnostic → Bool}
    (ordered : (diagnostics.filter test).Pairwise fun left right => ¬ right.span.Before left.span) :
    (sortByPlace diagnostics).filter test = diagnostics.filter test := by
  have kept : (diagnostics.filter test).Sublist (sortByPlace diagnostics) :=
    List.sublist_mergeSort startsNoLater_trans startsNoLater_total
      (ordered.imp (startsNoLater_iff _ _).2) List.filter_sublist
  have inside := kept.filter test
  simp only [List.filter_filter, Bool.and_self] at inside
  exact (inside.eq_of_length ((sortByPlace_perm diagnostics).symm.filter _).length_eq).symm

theorem stableSort_sortByPlace (diagnostics : List Diagnostic) :
    StableSort diagnostics (sortByPlace diagnostics) := by
  refine ⟨sortByPlace_perm diagnostics, sortByPlace_sorted diagnostics, ?_⟩
  intro line column
  apply filter_sortByPlace
  apply List.pairwise_of_forall_mem_list
  intro left member right member'
  have here := (List.mem_filter.1 member).2
  have there := (List.mem_filter.1 member').2
  simp only [startsAt, Span.Before, Bool.and_eq_true, decide_eq_true_eq] at *
  omega

end Diagnostic

namespace Queue

/-- What can be done to a queue. -/
inductive Operation where
  | push (diagnostic : Diagnostic)
  | flush
deriving DecidableEq, Repr

/-- What a queue answers: whether it has taken a diagnostic, or the diagnostics it hands over. -/
inductive Outcome where
  | pushed (taken : Bool)
  | flushed (diagnostics : List Diagnostic)
deriving DecidableEq, Repr

/-- Does one operation. -/
def perform (queue : Queue) : Operation → Outcome × Queue
  | .push diagnostic => (.pushed (queue.accepts diagnostic), queue.push diagnostic)
  | .flush => (.flushed queue.flush.1, queue.flush.2)

/-- The queue that is left when these operations are done to an empty one. -/
def after (config : Config) (history : List Operation) : Queue :=
  history.foldl (fun queue operation => (queue.perform operation).2) (empty config)

/-- What has been pushed since the last flush, once one more operation is done. -/
def Operation.pending (pushed : List Diagnostic) : Operation → List Diagnostic
  | .push diagnostic => pushed ++ [diagnostic]
  | .flush => []

/-- The diagnostics pushed since the last flush. -/
def sinceFlush (history : List Operation) : List Diagnostic := history.foldl Operation.pending []

namespace Config

/-- What is left of diagnostics when repetitions are dropped, if they are unwanted. -/
def distinct (config : Config) (pushed : List Diagnostic) : List Diagnostic :=
  if config.deduplicate then Diagnostic.withoutRepeats [] pushed else pushed

/-- What is left of those when they are cut to the limit, if there is one. -/
def selection (config : Config) (pushed : List Diagnostic) : List Diagnostic :=
  if config.errorLimit = 0 then config.distinct pushed
  else (config.distinct pushed).take config.errorLimit

/-- The limit leaves room for so many diagnostics. -/
def HasRoom (config : Config) (count : Nat) : Prop :=
  config.errorLimit = 0 ∨ count ≤ config.errorLimit

/-- One more diagnostic is dropped if it repeats one of those that are left. -/
theorem distinct_append_singleton (config : Config) (pushed : List Diagnostic)
    (diagnostic : Diagnostic) :
    config.distinct (pushed ++ [diagnostic]) = config.distinct pushed ++
      if config.deduplicate && (config.distinct pushed).any diagnostic.repeats then []
      else [diagnostic] := by
  unfold distinct
  cases config.deduplicate with
  | false => simp
  | true =>
    have repeated := Diagnostic.any_repeats_withoutRepeats [] pushed diagnostic
    rw [List.any_nil, Bool.false_or] at repeated
    simp only [if_true, Bool.true_and, Diagnostic.withoutRepeats_append_singleton, repeated]

theorem selection_of_hasRoom {config : Config} {pushed : List Diagnostic}
    (room : config.HasRoom (config.distinct pushed).length) :
    config.selection pushed = config.distinct pushed := by
  unfold selection
  split
  · rfl
  · rename_i limited
    exact List.take_of_length_le (room.resolve_left limited)

/-- Of diagnostics that do not repeat each other only the limit drops any. -/
theorem selection_of_pairwise (config : Config) {pushed : List Diagnostic}
    (fresh : pushed.Pairwise fun first second => second.repeats first = false) :
    config.selection pushed =
      if config.errorLimit = 0 then pushed else pushed.take config.errorLimit := by
  have kept : Diagnostic.withoutRepeats [] pushed = pushed :=
    Diagnostic.withoutRepeats_eq_self (by rwa [List.nil_append])
  have all : config.distinct pushed = pushed := by
    rw [distinct, kept, ite_self]
  rw [selection, all]

theorem length_selection_le {config : Config} (limited : 0 < config.errorLimit)
    (pushed : List Diagnostic) : (config.selection pushed).length ≤ config.errorLimit := by
  rw [selection, if_neg (Nat.ne_of_gt limited)]
  exact List.length_take_le _ _

/-- Behind the limit nothing is left of what is pushed. -/
theorem selection_append_of_full {config : Config} {pushed : List Diagnostic}
    (full : ¬ config.HasRoom ((config.distinct pushed).length + 1)) (diagnostic : Diagnostic) :
    config.selection (pushed ++ [diagnostic]) = config.selection pushed := by
  obtain ⟨limited, filled⟩ := not_or.1 full
  rw [selection, selection, if_neg limited, if_neg limited, distinct_append_singleton,
    List.take_append_of_le_length (by omega)]

end Config

section Holding

/-- The queue that holds the selection of what was pushed. -/
def holding (config : Config) (pushed : List Diagnostic) : Queue :=
  ⟨config, config.selection pushed, (config.selection pushed).length⟩

variable {config : Config} {pushed : List Diagnostic}

theorem limitReached_holding_iff :
    (holding config pushed).limitReached = true ↔
      ¬ config.HasRoom ((config.distinct pushed).length + 1) := by
  rw [limitReached_iff]
  change 0 < config.errorLimit ∧ config.errorLimit ≤ (config.selection pushed).length ↔ _
  unfold Config.selection Config.HasRoom
  split
  · omega
  · rw [List.length_take]
    omega

/-- With room left, only repetitions are refused. -/
theorem accepts_holding_of_hasRoom (room : config.HasRoom ((config.distinct pushed).length + 1))
    (diagnostic : Diagnostic) :
    (holding config pushed).accepts diagnostic =
      !(config.deduplicate && (config.distinct pushed).any diagnostic.repeats) := by
  have unreached : (holding config pushed).limitReached = false :=
    Bool.eq_false_iff.2 fun reached => limitReached_holding_iff.1 reached room
  have held : config.selection pushed = config.distinct pushed :=
    Config.selection_of_hasRoom (room.imp id Nat.le_of_succ_le)
  rw [accepts, unreached]
  simp [holding, held]

/-- Without room everything is refused. -/
theorem accepts_holding_of_full (full : ¬ config.HasRoom ((config.distinct pushed).length + 1))
    (diagnostic : Diagnostic) : (holding config pushed).accepts diagnostic = false := by
  rw [accepts, limitReached_holding_iff.2 full, diagnostic.isError_eq_true]
  rfl

/-- One more diagnostic belongs to the selection exactly if the queue that holds it so far accepts
that diagnostic. -/
theorem selection_append_singleton (config : Config) (pushed : List Diagnostic)
    (diagnostic : Diagnostic) :
    config.selection (pushed ++ [diagnostic]) = config.selection pushed ++
      if (holding config pushed).accepts diagnostic then [diagnostic] else [] := by
  have more := Config.distinct_append_singleton config pushed diagnostic
  by_cases room : config.HasRoom ((config.distinct pushed).length + 1)
  · have enough : config.HasRoom (config.distinct pushed).length :=
      room.imp id Nat.le_of_succ_le
    rw [accepts_holding_of_hasRoom room, Config.selection_of_hasRoom enough]
    cases repeated : config.deduplicate && (config.distinct pushed).any diagnostic.repeats with
    | false =>
      rw [repeated] at more
      rw [Config.selection_of_hasRoom (by simpa [more] using room), more]
      rfl
    | true =>
      rw [repeated, if_pos rfl, List.append_nil] at more
      rw [Config.selection_of_hasRoom (by rwa [more]), more]
      exact (List.append_nil _).symm
  · rw [accepts_holding_of_full room, Config.selection_append_of_full room]
    exact (List.append_nil _).symm

/-- One more push leaves the selection of one more diagnostic. -/
theorem push_holding (config : Config) (pushed : List Diagnostic) (diagnostic : Diagnostic) :
    (holding config pushed).push diagnostic = holding config (pushed ++ [diagnostic]) := by
  have more := selection_append_singleton config pushed diagnostic
  cases accepted : (holding config pushed).accepts diagnostic with
  | false =>
    rw [accepted, if_neg Bool.false_ne_true, List.append_nil] at more
    rw [push_of_accepts_eq_false accepted, holding, holding, more]
  | true =>
    rw [accepted, if_pos rfl] at more
    rw [push, if_pos accepted, diagnostic.isError_eq_true]
    simp [holding, more]

/-- More pushes leave the selection of more diagnostics. -/
theorem pushAll_holding (config : Config) (pushed offered : List Diagnostic) :
    (holding config pushed).pushAll offered = holding config (pushed ++ offered) := by
  induction offered generalizing pushed with
  | nil => rw [pushAll_nil, List.append_nil]
  | cons diagnostic rest ih => rw [pushAll_cons, push_holding, ih, ← List.append_cons]

theorem empty_eq_holding (config : Config) : empty config = holding config [] := by
  have nothing : config.distinct [] = [] := by
    unfold Config.distinct
    split <;> rfl
  have none : config.selection [] = [] := by
    unfold Config.selection
    rw [nothing, List.take_nil, ite_self]
  rw [holding, none]
  rfl

/-- One operation leaves the selection of what has been pushed since the last flush. -/
theorem perform_holding (config : Config) (pushed : List Diagnostic) (operation : Operation) :
    ((holding config pushed).perform operation).2 = holding config (operation.pending pushed) := by
  cases operation with
  | push diagnostic => exact push_holding config pushed diagnostic
  | flush => exact empty_eq_holding config

/-- So do all operations of a history. -/
theorem after_eq_holding (config : Config) (history : List Operation) :
    after config history = holding config (sinceFlush history) := by
  unfold after sinceFlush
  rw [empty_eq_holding]
  generalize ([] : List Diagnostic) = pushed
  induction history generalizing pushed with
  | nil => rfl
  | cons operation rest ih =>
    rw [List.foldl_cons, List.foldl_cons, perform_holding]
    exact ih _

end Holding

/-- A queue accounts for the operations that were done to it when it was new. -/
structure Accounts (config : Config) (history : List Operation) (queue : Queue) : Prop where
  config_eq : queue.config = config
  /-- It holds the selection of what was pushed since the last flush. -/
  diagnostics : queue.diagnostics = config.selection (sinceFlush history)
  /-- It counts the errors among them. -/
  errorCount : queue.errorCount = queue.diagnostics.countP Diagnostic.isError
  limitReached_iff : queue.limitReached = true ↔
    0 < config.errorLimit ∧ queue.errorCount = config.errorLimit
  /-- A push says whether it has made the queue longer; if not, it has changed nothing. -/
  pushed : ∀ diagnostic, ∃ taken next, queue.perform (.push diagnostic) = (.pushed taken, next) ∧
    (taken = true ↔ queue.diagnostics.length < next.diagnostics.length) ∧
    (taken = false → next = queue)
  /-- A flush hands over the diagnostics in a stable order and leaves the queue as new. -/
  flushed : ∃ sorted, queue.perform .flush = (.flushed sorted, empty config) ∧
    Diagnostic.StableSort queue.diagnostics sorted

/-- Every queue accounts for its whole history, whatever its configuration. -/
theorem accounts_after (config : Config) (history : List Operation) :
    Accounts config history (after config history) := by
  rw [after_eq_holding]
  refine ⟨rfl, rfl, ?_, ?_, ?_, ?_⟩
  · exact (List.countP_eq_length.2 fun diagnostic _ => diagnostic.isError_eq_true).symm
  · rw [limitReached_iff]
    constructor
    · rintro ⟨limited, reached⟩
      exact ⟨limited, Nat.le_antisymm (Config.length_selection_le limited _) reached⟩
    · rintro ⟨limited, same⟩
      exact ⟨limited, Nat.le_of_eq same.symm⟩
  · intro diagnostic
    exact ⟨_, _, rfl, accepts_iff_length_lt _ _, push_of_accepts_eq_false⟩
  · exact ⟨_, rfl, Diagnostic.stableSort_sortByPlace _⟩

end Queue

end Offside
