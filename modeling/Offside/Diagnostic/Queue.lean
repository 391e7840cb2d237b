import Offside.Diagnostic.Basic

/-! # Queues of diagnostics

A queue collects diagnostics in the order in which they are found. It may be told to take only so
many errors, and to refuse a diagnostic that repeats an earlier one. Flushing hands all of them over
in the order of their places, those at the same place in the order in which they were found.
-/

namespace Offside

namespace Queue

/-- What a queue accepts. -/
structure Config where
  /-- How many errors are accepted; zero stands for any number. -/
  errorLimit : Nat
  /-- Whether a diagnostic that repeats an earlier one is refused. -/
  deduplicate : Bool
deriving DecidableEq, Repr

/-- Ten errors, and none of them twice. -/
def Config.standard : Config := ⟨10, true⟩

/-- Everything. -/
def Config.unlimited : Config := ⟨0, false⟩

end Queue

/-- The diagnostics accepted so far, and how many of them are errors. -/
structure Queue where
  config : Queue.Config
  diagnostics : List Diagnostic
  errorCount : Nat
deriving DecidableEq, Repr

namespace Queue

/-- The queue that has accepted nothing yet. -/
def empty (config : Config) : Queue := ⟨config, [], 0⟩

/-- Whether the queue accepts no further error. -/
def limitReached (queue : Queue) : Bool :=
  0 < queue.config.errorLimit && queue.config.errorLimit ≤ queue.errorCount

/-- Whether an error has been accepted. -/
def hasErrors (queue : Queue) : Bool := 0 < queue.errorCount

/-- Whether a diagnostic is taken: it is no error past the limit, and no repetition where those are
unwanted. -/
def accepts (queue : Queue) (diagnostic : Diagnostic) : Bool :=
  !(diagnostic.isError && queue.limitReached) &&
    !(queue.config.deduplicate && queue.diagnostics.any diagnostic.repeats)

/-- The queue after a diagnostic has been offered to it. -/
def push (queue : Queue) (diagnostic : Diagnostic) : Queue :=
  if queue.accepts diagnostic then
    { queue with
      diagnostics := queue.diagnostics ++ [diagnostic]
      errorCount := queue.errorCount + if diagnostic.isError then 1 else 0 }
  else
    queue

/-- A push appends what is accepted and leaves the queue alone otherwise. -/
theorem diagnostics_push (queue : Queue) (diagnostic : Diagnostic) :
    (queue.push diagnostic).diagnostics =
      queue.diagnostics ++ if queue.accepts diagnostic then [diagnostic] else [] := by
  unfold push
  split <;> simp

/-- The queue after several diagnostics have been offered to it in order. -/
def pushAll (queue : Queue) (diagnostics : List Diagnostic) : Queue := diagnostics.foldl push queue

/-- Hands over the diagnostics in the order of their places and empties the queue. -/
def flush (queue : Queue) : List Diagnostic × Queue :=
  (queue.diagnostics.mergeSort Diagnostic.startsNoLater, empty queue.config)

/-- Flushing hands over what was queued, each diagnostic as often as it was there. -/
theorem flush_perm (queue : Queue) : queue.flush.1.Perm queue.diagnostics :=
  List.mergeSort_perm ..

/-- Flushing hands the diagnostics over in the order of their places. -/
theorem flush_sorted (queue : Queue) :
    queue.flush.1.Pairwise fun left right => left.startsNoLater right = true :=
  List.pairwise_mergeSort Diagnostic.startsNoLater_trans Diagnostic.startsNoLater_total _

end Queue

end Offside
