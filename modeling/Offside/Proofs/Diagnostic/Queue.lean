import Offside.Diagnostic.Queue

/-! # What a queue takes

Whatever a queue is offered, it keeps what it has and takes some of the diagnostics offered, in
their order. A queue without a limit that refuses no repetitions takes all of them.
-/

namespace Offside.Queue

@[simp] theorem pushAll_nil (queue : Queue) : queue.pushAll [] = queue := rfl

theorem pushAll_cons (queue : Queue) (diagnostic : Diagnostic) (rest : List Diagnostic) :
    queue.pushAll (diagnostic :: rest) = (queue.push diagnostic).pushAll rest := rfl

/-- Offering more diagnostics later is offering all of them at once. -/
theorem pushAll_append (queue : Queue) (left right : List Diagnostic) :
    queue.pushAll (left ++ right) = (queue.pushAll left).pushAll right := by
  unfold pushAll
  rw [List.foldl_append]

theorem limitReached_iff (queue : Queue) :
    queue.limitReached = true ↔
      0 < queue.config.errorLimit ∧ queue.config.errorLimit ≤ queue.errorCount := by
  simp [limitReached]

/-- A push makes the queue longer exactly if the diagnostic is accepted. -/
theorem accepts_iff_length_lt (queue : Queue) (diagnostic : Diagnostic) :
    queue.accepts diagnostic = true ↔
      queue.diagnostics.length < (queue.push diagnostic).diagnostics.length := by
  rw [diagnostics_push]
  cases queue.accepts diagnostic <;> simp

theorem push_of_accepts_eq_false {queue : Queue} {diagnostic : Diagnostic}
    (refused : queue.accepts diagnostic = false) : queue.push diagnostic = queue := by
  rw [push, refused]
  rfl

/-- What is offered is counted once at most. -/
theorem errorCount_pushAll_le (queue : Queue) (offered : List Diagnostic) :
    (queue.pushAll offered).errorCount ≤ queue.errorCount + offered.length := by
  induction offered generalizing queue with
  | nil => exact Nat.le_refl _
  | cons first rest ih =>
    have pushed : (queue.push first).errorCount ≤ queue.errorCount + 1 := by
      unfold push
      split
      · dsimp only
        split <;> omega
      · exact Nat.le_succ _
    have onward := ih (queue.push first)
    rw [pushAll_cons, List.length_cons]
    omega

/-- What is queued after a push was queued before or is what was pushed. -/
theorem mem_of_mem_push {queue : Queue} {offered diagnostic : Diagnostic}
    (member : diagnostic ∈ (queue.push offered).diagnostics) :
    diagnostic ∈ queue.diagnostics ∨ diagnostic = offered := by
  rw [diagnostics_push] at member
  rcases List.mem_append.1 member with old | new
  · exact .inl old
  · split at new
    · exact .inr (List.mem_singleton.1 new)
    · contradiction

/-- What is queued in the end was queued before or has been offered. -/
theorem mem_of_mem_pushAll {queue : Queue} {offered : List Diagnostic} {diagnostic : Diagnostic}
    (member : diagnostic ∈ (queue.pushAll offered).diagnostics) :
    diagnostic ∈ queue.diagnostics ∨ diagnostic ∈ offered := by
  induction offered generalizing queue with
  | nil => exact .inl member
  | cons first rest ih =>
    rw [pushAll_cons] at member
    rcases ih member with pushed | later
    · rcases mem_of_mem_push pushed with old | rfl
      · exact .inl old
      · exact .inr List.mem_cons_self
    · exact .inr (List.mem_cons_of_mem _ later)

section Unlimited

variable {queue : Queue}

theorem accepts_of_unlimited (unlimited : queue.config = .unlimited) (diagnostic : Diagnostic) :
    queue.accepts diagnostic = true := by
  simp [accepts, limitReached, unlimited, Config.unlimited]

theorem config_push (queue : Queue) (diagnostic : Diagnostic) :
    (queue.push diagnostic).config = queue.config := by
  unfold push
  split <;> rfl

theorem config_pushAll (queue : Queue) (offered : List Diagnostic) :
    (queue.pushAll offered).config = queue.config := by
  induction offered generalizing queue with
  | nil => rfl
  | cons first rest ih => rw [pushAll_cons, ih, config_push]

/-- Without limits a queue takes all that it is offered. -/
theorem diagnostics_pushAll_of_unlimited (unlimited : queue.config = .unlimited)
    (offered : List Diagnostic) :
    (queue.pushAll offered).diagnostics = queue.diagnostics ++ offered := by
  induction offered generalizing queue with
  | nil => simp
  | cons first rest ih =>
    have pushed := diagnostics_push queue first
    rw [if_pos (accepts_of_unlimited unlimited first)] at pushed
    rw [pushAll_cons, ih (by rw [config_push, unlimited]), pushed, List.append_assoc,
      List.singleton_append]

end Unlimited

end Offside.Queue
