import Offside.Proofs.Place
import Offside.Proofs.Source.PhysicalLine

/-! # The lines listed for a span

The listing of a span starts with the line that holds its start and goes on from line to line. Each
step looks at the end of one line and at the next one, but since lines are laid out one behind the
other, the outcome is a choice among all the lines of the source that looks at each line alone.
-/

namespace Offside

namespace PhysicalLine

/-- A span that ends before byte `stop` is taken to reach the line from an earlier one. -/
def reachedBy (stop : Nat) (line : PhysicalLine) : Bool :=
  line.start < stop || (line.start = stop && line.terminated)

/-- A span from byte `start` to byte `stop` has the line listed. -/
def listedFor (start stop : Nat) (line : PhysicalLine) : Bool :=
  start ≤ line.stop && (line.start ≤ start || line.reachedBy stop)

/-- From the first line on, those are listed that the span reaches. -/
theorem numbered_listedUpTo {stop first : Nat} {line : PhysicalLine} {rest : List PhysicalLine}
    (chain : (line :: rest).IsChain Follows) :
    numbered first (listedUpTo stop (line :: rest)) =
      ⟨line, first⟩ :: (numbered (first + 1) rest).filter fun line => line.reachedBy stop := by
  induction rest generalizing line first with
  | nil => rfl
  | cons next rest ih =>
    obtain ⟨follows, onward⟩ := List.isChain_cons_cons.1 chain
    unfold Follows at follows
    have goesOn : (line.stop < stop ∧ (next.terminated ∨ next.start < stop)) ↔
        next.reachedBy stop = true := by
      unfold reachedBy
      simp only [Bool.or_eq_true, Bool.and_eq_true, decide_eq_true_eq]
      constructor
      · rintro ⟨ends, terminated | starts⟩
        · by_cases equal : next.start = stop
          · exact .inr ⟨equal, terminated⟩
          · exact .inl (by omega)
        · exact .inl starts
      · rintro (starts | ⟨equal, terminated⟩)
        · exact ⟨by omega, .inr starts⟩
        · exact ⟨by omega, .inl terminated⟩
    rw [listedUpTo, filter_numbered_cons (reachedBy stop)]
    by_cases reached : next.reachedBy stop = true
    · rw [if_pos (goesOn.2 reached), if_pos reached, numbered_cons, ih onward]
    · rw [if_neg (mt goesOn.1 reached), if_neg reached, numbered_cons, numbered_nil]
      -- A line behind one that is not reached starts too late to be reached itself.
      have unreached :
          (numbered (first + 1 + 1) rest).filter (fun line => line.reachedBy stop) = [] := by
        apply List.filter_eq_nil_iff.2
        intro other member
        have later := stop_lt_of_mem onward (mem_of_mem_numbered member)
        unfold PhysicalLine.stop at later
        unfold reachedBy at reached ⊢
        simp only [Bool.or_eq_true, Bool.and_eq_true, decide_eq_true_eq] at reached ⊢
        omega
      rw [unreached]

/-- The listing stops at a line that ends no earlier than the span. -/
theorem listedUpTo_eq_singleton {stop : Nat} {line : PhysicalLine} (reaches : stop ≤ line.stop)
    (rest : List PhysicalLine) : listedUpTo stop (line :: rest) = [line] := by
  cases rest with
  | nil => rfl
  | cons next more =>
    rw [listedUpTo, if_neg]
    omega

/-- Of lines that start no later than a span, those listed for the span are the ones that it starts
in or reaches, each with the number it has among all. -/
theorem numbered_listed {start stop first : Nat} {lines : List PhysicalLine}
    (chain : lines.IsChain Follows) (opens : ∀ line ∈ lines.head?, line.start ≤ start) :
    numbered (first + (lines.takeWhile fun line => line.stop < start).length)
        (listedUpTo stop (lines.dropWhile fun line => line.stop < start)) =
      (numbered first lines).filter fun line => line.listedFor start stop := by
  induction lines generalizing first with
  | nil => rfl
  | cons line rest ih =>
    have here := opens line rfl
    rw [filter_numbered_cons (listedFor start stop)]
    by_cases passed : line.stop < start
    · have skipped : ¬ line.listedFor start stop = true := by
        unfold listedFor
        simp only [Bool.and_eq_true, decide_eq_true_eq]
        omega
      have onward : ∀ next ∈ rest.head?, next.start ≤ start := by
        intro next second
        obtain ⟨more, rfl⟩ := List.head?_eq_some_iff.1 second
        have follows := (List.isChain_cons_cons.1 chain).1
        unfold Follows at follows
        omega
      rw [List.takeWhile_cons_of_pos (by simpa using passed),
        List.dropWhile_cons_of_pos (by simpa using passed), if_neg skipped, ← ih chain.tail onward,
        List.length_cons]
      congr 1
      omega
    · have listed : line.listedFor start stop = true := by
        unfold listedFor
        simp only [Bool.and_eq_true, Bool.or_eq_true, decide_eq_true_eq]
        omega
      have same : ∀ other ∈ numbered (first + 1) rest,
          other.listedFor start stop = other.reachedBy stop := by
        intro other member
        have later := stop_lt_of_mem chain (mem_of_mem_numbered member)
        have behind : start ≤ other.stop := by
          unfold PhysicalLine.stop
          omega
        have notYet : ¬ other.start ≤ start := by omega
        simp [listedFor, behind, notYet]
      rw [List.takeWhile_cons_of_neg (by simpa using passed),
        List.dropWhile_cons_of_neg (by simpa using passed), if_pos listed, List.filter_congr same]
      exact numbered_listedUpTo chain

theorem length_layout (start : Nat) (texts : List Text) :
    (layout start texts).length = texts.length := by
  fun_induction layout start texts with
  | case1 => rfl
  | case2 => rfl
  | case3 start text next rest ih =>
    rw [List.length_cons, ih]
    rfl

/-- The lines that end before a place are as many as the line feeds before it. -/
theorem length_takeWhile_layout (origin : Nat) (before rest : Text) :
    ((layout origin (Text.splitLines (before ++ rest))).takeWhile fun line =>
      line.stop < origin + Text.byteLength before).length = before.count '\n' := by
  generalize divided : before ++ rest = text
  induction text using Text.lines_induction generalizing origin before with
  | last word clean =>
    subst divided
    rw [List.mem_append, not_or] at clean
    have short : ¬ (⟨origin, before ++ rest, false⟩ : PhysicalLine).stop <
        origin + Text.byteLength before := by
      simp only [stop, Text.byteLength_append]
      omega
    rw [layout_of_not_mem (by simp [clean]), List.takeWhile_cons_of_neg (by simpa using short),
      List.count_eq_zero_of_not_mem clean.1]
    rfl
  | line word tail clean ih =>
    rw [layout_append clean]
    by_cases broken : '\n' ∈ before
    · obtain ⟨more, rfl, same⟩ := Text.exists_of_newline_mem clean divided.symm broken
      have size : origin + Text.byteLength (word ++ '\n' :: more) =
          origin + Text.byteLength word + 1 + Text.byteLength more := by
        rw [Text.byteLength_append_newline]
        omega
      have passed : (⟨origin, word, true⟩ : PhysicalLine).stop <
          origin + Text.byteLength (word ++ '\n' :: more) := by
        rw [size]
        simp only [stop]
        omega
      rw [List.takeWhile_cons_of_pos (by simpa using passed), List.length_cons, size,
        ih _ more same.symm, List.count_append, List.count_eq_zero_of_not_mem clean,
        List.count_cons_self]
      omega
    · obtain ⟨more, rfl⟩ := Text.exists_of_newline_not_mem divided.symm broken
      have here : ¬ (⟨origin, before ++ more, true⟩ : PhysicalLine).stop <
          origin + Text.byteLength before := by
        simp only [stop, Text.byteLength_append]
        omega
      rw [List.takeWhile_cons_of_neg (by simpa using here), List.count_eq_zero_of_not_mem broken]
      rfl

end PhysicalLine

namespace Source

variable {source : Source} {span : Span} {before rest : Text}

theorem head?_physicalLines (source : Source) :
    ∀ line ∈ source.physicalLines.head?, line.start = 0 := by
  intro line first
  unfold physicalLines at first
  generalize Text.splitLines source.text = texts at first
  match texts with
  | [] => contradiction
  | [text] =>
    obtain rfl := Option.some.inj first
    rfl
  | text :: next :: more =>
    obtain rfl := Option.some.inj first
    rfl

theorem isChain_physicalLines (source : Source) :
    source.physicalLines.IsChain PhysicalLine.Follows :=
  PhysicalLine.isChain_layout 0 (Text.splitLines source.text)

theorem length_takeWhile_physicalLines (divided : source.text = before ++ rest) :
    (source.physicalLines.takeWhile fun line => line.stop < Text.byteLength before).length =
      before.count '\n' := by
  have count := PhysicalLine.length_takeWhile_layout 0 before rest
  rw [Nat.zero_add, ← divided] at count
  exact count

/-- The lines listed for a stretch of the source, chosen one by one from all its lines. -/
theorem numbered_physicalLines (divided : source.text = before ++ rest) (stop : Nat) :
    PhysicalLine.numbered (before.count '\n' + 1) (PhysicalLine.listedUpTo stop
        (source.physicalLines.dropWhile fun line => line.stop < Text.byteLength before)) =
      (PhysicalLine.numbered 1 source.physicalLines).filter fun line =>
        line.listedFor (Text.byteLength before) stop := by
  have opens : ∀ line ∈ source.physicalLines.head?, line.start ≤ Text.byteLength before := by
    intro line first
    rw [source.head?_physicalLines line first]
    exact Nat.zero_le _
  rw [← PhysicalLine.numbered_listed source.isChain_physicalLines opens,
    length_takeWhile_physicalLines divided, Nat.add_comm 1]

/-- For a place between two characters one line is listed. -/
theorem exists_listed_at (divided : source.text = before ++ rest) :
    ∃ line, (PhysicalLine.numbered 1 source.physicalLines).filter (fun line =>
      line.listedFor (Text.byteLength before) (Text.byteLength before)) = [line] := by
  rw [← numbered_physicalLines divided]
  cases left : source.physicalLines.dropWhile fun line => line.stop < Text.byteLength before with
  | nil =>
    have joined := List.takeWhile_append_dropWhile (l := source.physicalLines)
      (p := fun line => line.stop < Text.byteLength before)
    have size := congrArg List.length joined
    rw [left, List.append_nil, length_takeWhile_physicalLines divided, physicalLines,
      PhysicalLine.length_layout, Text.length_splitLines, divided, List.count_append] at size
    omega
  | cons line more =>
    have reaches : Text.byteLength before ≤ line.stop := by
      have head := List.head?_dropWhile_not
        (fun line : PhysicalLine => line.stop < Text.byteLength before) source.physicalLines
      rw [left] at head
      simpa using head
    rw [PhysicalLine.listedUpTo_eq_singleton reaches]
    exact ⟨_, rfl⟩

/-- In a countable source, a span that lies in it and has the number of its own line is given the
lines that are listed for it, with their numbers. -/
theorem lines_eq_filter (countable : Text.Countable source.text)
    (divided : source.text = before ++ rest) (start : span.start = Text.byteLength before)
    (line : span.line = before.count '\n' + 1) (fits : span.length ≤ rest.length) :
    source.lines span = .ok ((PhysicalLine.numbered 1 source.physicalLines).filter fun line =>
      line.listedFor (Text.byteLength before)
        (Text.byteLength before + Text.byteLength (rest.take span.length))) := by
  have regrouped : source.text = before ++ rest.take span.length ++ rest.drop span.length := by
    rw [List.append_assoc, List.take_append_drop, divided]
  have counted : span.line + (rest.take span.length).count '\n' ≤ Text.counterLimit := by
    have few := (countable _ _ regrouped).1
    rw [List.count_append] at few
    omega
  rw [← numbered_physicalLines divided, ← line]
  unfold lines
  rw [start, splitAt?_byteLength divided]
  dsimp only
  rw [if_neg (Nat.not_lt.2 fits), if_pos counted]
  rfl

end Source

end Offside
