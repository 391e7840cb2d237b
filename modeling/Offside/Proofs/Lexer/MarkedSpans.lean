import Offside.Proofs.Lexer.QuotedLiterals
import Offside.Proofs.Lexer.Reports
import Offside.Proofs.Listing.Layout

/-! # What is marked for a lexical diagnostic

A diagnostic of the lexer is about characters of one line, or about everything up to the end of the
source, or about a line feed behind a backslash. In all cases but one its marks stand under
characters of its span, and the lines listed for it are those that own such characters. The one case
is the escape of a line feed in a text with another line feed behind it: there the line behind the
escape is listed too, and the mark left over from the line feed is drawn under the first character
of that line, if it has one.
-/

namespace Offside

namespace Lexeme

/-- The characters that a flaw covers and what stands behind them: the flaw stays on one line, or
goes on to the end of the text, or is an escape of a line feed. -/
inductive Extent (flaw : Flaw) (covered after : Text) : Prop
  | unbroken (clean : '\n' ∉ covered)
  | whole (nothing : after = [])
  | escape (problem : flaw.problem = .invalidEscape '\n') (two : covered = ['\\', '\n'])

namespace Extent

variable {flaw : Flaw} {covered after : Text}

/-- Only the escape of a line feed ends with a line feed and has another one behind it. -/
theorem escape_of_ends (extent : Extent flaw covered after)
    (ends : covered.getLast? = some '\n' ∧ '\n' ∈ after) :
    flaw.problem = .invalidEscape '\n' ∧ covered = ['\\', '\n'] := by
  cases extent with
  | unbroken clean => exact absurd (List.mem_of_getLast? ends.1) clean
  | whole nothing =>
    rw [nothing] at ends
    exact absurd ends.2 List.not_mem_nil
  | escape problem two => exact ⟨problem, two⟩

/-- Otherwise a flaw that is not on one line has nothing behind it on its last line. -/
theorem closed (extent : Extent flaw covered after)
    (alone : ¬ (covered.getLast? = some '\n' ∧ '\n' ∈ after)) :
    '\n' ∉ covered ∨ Text.lineEnd covered after = [] := by
  cases extent with
  | unbroken clean => exact .inl clean
  | whole nothing => exact .inr (by simp [Text.lineEnd, nothing])
  | escape _ two =>
    subst two
    have final : '\n' ∉ after := fun later => alone ⟨rfl, later⟩
    exact .inr (by rw [Text.lineEnd, if_pos ⟨rfl, final⟩])

end Extent

/-- The flaw covers this part of a text. -/
structure Covers (flaw : Flaw) (text skipped covered after : Text) : Prop where
  divided : text = skipped ++ covered ++ after
  offset : flaw.offset = skipped.length
  length : flaw.length = covered.length
  extent : Extent flaw covered after

/-- An escape that means nothing covers the backslash and the character behind it. -/
theorem exists_covers_of_mem_flawsFrom {text : Text} {flaw : Flaw}
    (member : flaw ∈ QuotedUnit.flawsFrom 1 (QuotedBody.read text).units) :
    ∃ skipped covered after, Covers flaw ('\x22' :: text) skipped covered after := by
  rw [QuotedUnit.flawsFrom_eq_map] at member
  obtain ⟨⟨before, c⟩, offence, rfl⟩ := List.mem_map.1 member
  have first : before ++ [.escape c] <+: QuotedUnit.split text := by
    apply (QuotedUnit.prefix_of_mem_offences offence).trans
    rw [QuotedBody.read_eq]
    exact List.takeWhile_prefix _
  obtain ⟨units, shape⟩ := first
  have divided : text = QuotedUnit.spell before ++ ['\\', c] ++ QuotedUnit.spell units := by
    rw [← QuotedUnit.spell_split text, ← shape]
    simp [QuotedUnit.spell, QuotedUnit.spelling]
  refine ⟨'\x22' :: QuotedUnit.spell before, ['\\', c], QuotedUnit.spell units, ?_, ?_, rfl, ?_⟩
  · rw [divided]
    rfl
  · rw [List.length_cons, QuotedUnit.length_spell, Nat.add_comm]
  · by_cases newline : c = '\n'
    · subst newline
      exact .escape rfl rfl
    · exact .unbroken (by simp [Ne.symm newline])

/-- A flaw of as many characters as there are covers all of them. -/
theorem exists_covers_whole {flaw : Flaw} {text : Text} (offset : flaw.offset = 0)
    (length : flaw.length = text.length) :
    ∃ skipped covered after, Covers flaw text skipped covered after :=
  ⟨[], text, [], by simp, offset, length, .whole rfl⟩

/-- What the flaws of a lexeme cover in the text that it is read from. -/
theorem exists_covers (first : Char) (rest : Text) :
    ∀ flaw ∈ (read first rest).flaws,
      ∃ skipped covered after, Covers flaw (first :: rest) skipped covered after := by
  fun_cases read first rest with
  | case1 | case4 | case5 | case6 =>
    intro flaw member
    contradiction
  | case2 _ quote body =>
    intro flaw member
    unfold raw at member
    split at member
    · contradiction
    · obtain rfl := List.mem_singleton.1 member
      exact exists_covers_whole rfl rfl
  | case3 other quote =>
    subst quote
    intro flaw member
    have size := QuotedBody.total_units_read rest
    unfold quoted at member
    dsimp only at member
    split at member
    · exact exists_covers_of_mem_flawsFrom member
    · rename_i unclosed
      rw [if_neg unclosed] at size
      rcases List.mem_append.1 member with escape | whole
      · exact exists_covers_of_mem_flawsFrom escape
      · obtain rfl := List.mem_singleton.1 whole
        exact exists_covers_whole rfl (congrArg (· + 1) size)
  | case7 _ ordinary =>
    intro flaw member
    obtain rfl := List.mem_singleton.1 member
    exact ⟨[], [first], rest, rfl, rfl, rfl, .unbroken (by simpa using Ne.symm ordinary)⟩

end Lexeme

namespace Listing

/-- A mark stands under a marked character. -/
theorem Marking.Marks.exists_character {marking : Marking} {start remaining index : Nat}
    {line : PhysicalLine} {marked : List (Nat × Char)} {mark : Char}
    (marks : marking.Marks start remaining line marked)
    (drawn : (marking.padding ++ marking.marks)[index]? = some mark)
    (visible : mark = '^' ∨ mark = '~') :
    ∃ character ∈ marked, (placed line.start line.text)[index]? = some character := by
  rw [marks.padding, marks.marks] at drawn
  rcases Nat.lt_or_ge index (padded start remaining line).length with before | behind
  · rw [List.getElem?_append_left (by rwa [List.length_map]), List.getElem?_map] at drawn
    obtain ⟨character, _, rfl⟩ := Option.map_eq_some_iff.1 drawn
    exact absurd visible (not_mark_pad character.2)
  · rw [List.getElem?_append_right (by rwa [List.length_map]), List.length_map,
      List.getElem?_map] at drawn
    obtain ⟨character, found, _⟩ := Option.map_eq_some_iff.1 drawn
    refine ⟨character, List.mem_of_getElem? found, ?_⟩
    obtain ⟨rest, joined⟩ := marks.adjacent
    rw [← joined, List.append_assoc, List.getElem?_append_right behind,
      List.getElem?_append_left (List.getElem?_eq_some_iff.1 found).1, found]

/-- The characters that are marked are those of the span, if it stays on one line or its last line
has nothing behind it. -/
theorem mem_placed_of_marked {source : Source} {span : Span} {before covered after : Text}
    (divides : source.Divides span before covered after)
    (closed : '\n' ∉ covered ∨ Text.lineEnd covered after = []) {character : Nat × Char}
    (marked : character ∈
      ((source.walked before covered after).flatMap (markable span.start)).take span.length) :
    character ∈ placed span.start covered := by
  rw [flatMap_markable divides] at marked
  rcases closed with clean | nothing
  · rw [placed_append, List.filter_append, filter_placed_of_not_mem span.start clean,
      divides.length, ← length_placed span.start covered, List.take_left] at marked
    exact marked
  · rw [nothing, List.append_nil] at marked
    exact List.mem_of_mem_filter (List.mem_of_mem_take marked)

/-- Of an escape of a line feed, only the backslash can be marked on its own line. The mark left
over goes to the first character of the next line. -/
theorem markLines_escape {start length origin : Nat} {head : Text} (two : length = 2)
    (place : start = origin + Text.byteLength head) (c : Char) (text : Text) (ended : Bool)
    (number : Nat) :
    (markLines start length [⟨⟨origin, head ++ ['\\'], true⟩, number⟩,
      ⟨⟨start + 2, c :: text, ended⟩, number + 1⟩])[1]? =
        some (⟨⟨start + 2, c :: text, ended⟩, number + 1⟩, ⟨[], ['~']⟩) := by
  have own : markable start ⟨origin, head ++ ['\\'], true⟩ = [(start, '\\')] := by
    subst place
    exact filter_placed_append origin head ['\\']
  have used : (markLine start 2 ⟨origin, head ++ ['\\'], true⟩).marks.length = 1 := by
    rw [(marks_markLine start 2 _).marks, own]
    rfl
  rw [two, markLines, used]
  simp [markLines, markLine, placed]

end Listing

namespace Source

variable {source : Source} {span : Span} {before covered after : Text}

/-- Every character of a span is reached from its start. -/
theorem Divides.exists_advance (divides : source.Divides span before covered after)
    {character : Nat × Char} (member : character ∈ Listing.placed span.start covered) :
    ∃ offset < span.length, source.advance span.start offset = .ok character.1 := by
  obtain ⟨offset, found⟩ := List.getElem?_of_mem member
  rw [Listing.getElem?_placed] at found
  obtain ⟨c, here, rfl⟩ := Option.map_eq_some_iff.1 found
  have inside := (List.getElem?_eq_some_iff.1 here).1
  refine ⟨offset, divides.length ▸ inside, ?_⟩
  rw [divides.start, advance_byteLength (divides.divided.trans (List.append_assoc ..)),
    List.take_append_of_le_length (Nat.le_of_lt inside)]

/-- For an escape of a line feed with another one behind it, the line of the escape is listed and
the one that follows. -/
theorem Divides.walked_escape (divides : source.Divides span before ['\\', '\n'] after)
    (later : '\n' ∈ after) :
    ∃ origin head, span.start = origin + Text.byteLength head ∧
      source.walked before ['\\', '\n'] after = [⟨origin, head ++ ['\\'], true⟩,
        ⟨span.start + 2, after.takeWhile (· ≠ '\n'), true⟩] := by
  obtain ⟨opening, head, rfl, opens, unbroken⟩ := Text.exists_opensLine before
  have place : span.start = Text.byteLength opening + Text.byteLength head := by
    rw [divides.start, Text.byteLength_append]
  refine ⟨Text.byteLength opening, head, place, ?_⟩
  obtain ⟨rest, shape⟩ := PhysicalLine.exists_layout_eq_cons (span.start + 2) after
  have clean : '\n' ∉ head ++ ['\\'] := by simp [unbroken]
  have two : Text.listedCount ['\\', '\n'] after = 2 := by simp [Text.listedCount, later]
  have regrouped : head ++ ['\\', '\n'] ++ after = head ++ ['\\'] ++ '\n' :: after := by simp
  have onward : Text.byteLength opening + Text.byteLength (head ++ ['\\']) + 1 =
      span.start + 2 := by
    rw [place, Text.byteLength_append, ← Nat.add_assoc]
    rfl
  rw [walked_eq opens unbroken divides.divided, regrouped, PhysicalLine.layout_append clean, onward,
    shape, two, List.take_succ_cons, List.take_succ_cons, List.take_zero, decide_eq_true later]

end Source

namespace Diagnostic

open Listing

/-- In a listing with `count` lines, the mark is drawn under the character at `index` of the line at
`place`. Its row comes behind those of the header, the empty row of the gutter and the rows of the
lines before, and its column behind the gutter, the bar and a space. -/
def Draws (diagnostic : Diagnostic) (count : Nat) (listing : Text) (place index : Nat)
    (mark : Char) : Prop :=
  ∃ row, (Text.splitLines listing)[diagnostic.source.path.toList.count '\n' + 2 * place + 3]? =
      some row ∧ row[gutterWidth diagnostic.span.line count + 2 + index]? = some mark

/-- The listing stays within the span of the diagnostic. -/
structure Confined (diagnostic : Diagnostic) (lines : List SourceLine) (listing : Text) : Prop where
  /-- What is marked is a character of the span. -/
  marks : ∀ (place : Nat) line index mark, lines[place]? = some line →
    diagnostic.Draws lines.length listing place index mark → mark = '^' ∨ mark = '~' →
    index < line.text.length ∧ ∃ offset < diagnostic.span.length,
      diagnostic.source.advance diagnostic.span.start offset =
        .ok (line.start + Text.byteLength (line.text.take index))
  /-- What is listed is a line that the span touches. -/
  lines : ∀ line ∈ lines, diagnostic.source.Touches diagnostic.span line.toPhysicalLine

/-- The listing goes beyond the span of the diagnostic. -/
structure Overruns (diagnostic : Diagnostic) (lines : List SourceLine) (listing : Text) : Prop where
  /-- The diagnostic is about the escape of a line feed. -/
  escape : diagnostic.source.substring diagnostic.span = .ok ['\\', '\n'] ∧
    diagnostic = (Problem.invalidEscape '\n').diagnose diagnostic.source diagnostic.span
  /-- The line behind the span is listed too, and its first character is marked. -/
  beyond : ∃ own next, lines = [own, next] ∧
    diagnostic.source.FollowedBy diagnostic.span next.toPhysicalLine ∧
    (next.text ≠ [] → diagnostic.Draws lines.length listing 1 0 '~')

/-- What is drawn under a line is its padding and its marks. -/
theorem draws_iff {diagnostic : Diagnostic} {lines : List SourceLine} {line : SourceLine}
    {marking : Marking} {place index : Nat} {mark : Char}
    (unbroken : ∀ line ∈ lines, '\n' ∉ line.text)
    (marked : (markLines diagnostic.span.start diagnostic.span.length lines)[place]? =
      some (line, marking)) :
    diagnostic.Draws lines.length (writeRows false (rows diagnostic lines)) place index mark ↔
      (marking.padding ++ marking.marks)[index]? = some mark := by
  rw [Draws, getElem?_splitLines_writeRows unbroken marked]
  simp only [Option.some.injEq, exists_eq_left', getElem?_gutterText List.length_replicate]

/-- The character under a mark is one of those that are marked. -/
theorem Draws.exists_character {diagnostic : Diagnostic} {lines : List SourceLine}
    {line : SourceLine} {place index : Nat} {mark : Char}
    (unbroken : ∀ line ∈ lines, '\n' ∉ line.text) (listed : lines[place]? = some line)
    (drawn :
      diagnostic.Draws lines.length (writeRows false (rows diagnostic lines)) place index mark)
    (visible : mark = '^' ∨ mark = '~') :
    ∃ character ∈ (lines.flatMap fun line =>
        markable diagnostic.span.start line.toPhysicalLine).take diagnostic.span.length,
      (placed line.start line.text)[index]? = some character := by
  obtain ⟨marked, size, flat, each⟩ :=
    exists_marked diagnostic.span.start diagnostic.span.length lines
  have own := List.getElem?_eq_getElem (size ▸ (List.getElem?_eq_some_iff.1 listed).1)
  obtain ⟨marking, under, marks⟩ := each place line _ listed own
  obtain ⟨character, member, standing⟩ :=
    marks.exists_character ((draws_iff unbroken under).1 drawn) visible
  refine ⟨character, ?_, standing⟩
  rw [← flat]
  exact List.mem_flatten.2 ⟨_, List.mem_of_getElem? own, member⟩

/-- The listing of a diagnostic about a span in its own place stays within the span, unless the span
ends with a line feed and another one comes later. The span is on one line, or nothing stands behind
it on its last one. -/
theorem confined_iff {diagnostic : Diagnostic} {before covered after : Text}
    {lines : List SourceLine} (countable : Text.Countable diagnostic.source.text)
    (divides : diagnostic.source.Divides diagnostic.span before covered after)
    (line : diagnostic.span.line = before.count '\n' + 1)
    (closed : ¬ diagnostic.source.EndsAtTerminatedLine diagnostic.span →
      '\n' ∉ covered ∨ Text.lineEnd covered after = [])
    (listed : diagnostic.source.lines diagnostic.span = .ok lines) :
    diagnostic.Confined lines (writeRows false (rows diagnostic lines)) ↔
      ¬ diagnostic.source.EndsAtTerminatedLine diagnostic.span := by
  have touched := Source.touches_listed_iff countable divides line listed
  constructor
  · intro confined
    exact touched.1 confined.lines
  · intro alone
    have counted := divides.counted countable line
    have walk := Source.walk_numbered_walked divides
    obtain rfl := Except.ok.inj (listed.symm.trans (Source.lines_eq_walked divides counted))
    refine ⟨?_, touched.2 alone⟩
    intro place line index mark found drawn visible
    obtain ⟨character, marked, standing⟩ := drawn.exists_character walk.unbroken found visible
    rw [flatMap_markable_numbered] at marked
    obtain ⟨offset, less, advanced⟩ :=
      divides.exists_advance (mem_placed_of_marked divides (closed alone) marked)
    rw [getElem?_placed] at standing
    obtain ⟨c, here, rfl⟩ := Option.map_eq_some_iff.1 standing
    exact ⟨(List.getElem?_eq_some_iff.1 here).1, offset, less, advanced⟩

/-- The listing of an escape of a line feed goes beyond it if another line feed comes later. -/
theorem overruns {diagnostic : Diagnostic} {before after : Text}
    (divides : diagnostic.source.Divides diagnostic.span before ['\\', '\n'] after)
    (later : '\n' ∈ after)
    (problem : diagnostic =
      (Problem.invalidEscape '\n').diagnose diagnostic.source diagnostic.span) :
    let lines := PhysicalLine.numbered diagnostic.span.line
      (diagnostic.source.walked before ['\\', '\n'] after)
    diagnostic.Overruns lines (writeRows false (rows diagnostic lines)) := by
  have unbroken := (Source.walk_numbered_walked divides).unbroken
  obtain ⟨origin, head, place, walked⟩ := divides.walked_escape later
  rw [walked, PhysicalLine.numbered_cons, PhysicalLine.numbered_cons,
    PhysicalLine.numbered_nil] at unbroken ⊢
  refine ⟨⟨divides.substring_eq, problem⟩, _, _, rfl, ?_, ?_⟩
  · rw [Source.followedBy_iff (divides.divided.trans (List.append_assoc ..)) divides.start,
      divides.length, List.take_left, divides.start]
    exact ⟨Nat.two_pos, rfl, rfl⟩
  · intro nonempty
    obtain ⟨c, text, more⟩ := List.exists_cons_of_ne_nil nonempty
    dsimp only at more
    rw [more] at unbroken ⊢
    have marked := markLines_escape divides.length place c text true diagnostic.span.line
    apply (draws_iff unbroken marked).2
    rfl

end Diagnostic

/-- What is reported about a tile covers a part of the source as a flaw of its lexeme does. -/
theorem Tile.Read.exists_extent {source : Source} {before rest : Text} {tile : Tile}
    {diagnostic : Diagnostic} (read : tile.Read source before rest)
    (divided : source.text = before ++ tile.lexeme ++ rest) (member : diagnostic ∈ tile.reports) :
    ∃ flaw front covered after,
      diagnostic = flaw.problem.diagnose source (Text.spanAfter front covered.length) ∧
      source.Divides diagnostic.span front covered after ∧ Lexeme.Extent flaw covered after := by
  cases read with
  | finish _ _ _ silent =>
    rw [silent] at member
    contradiction
  | @lexeme first ahead cut length kind reported =>
    rw [reported] at member
    obtain ⟨flaw, present, rfl⟩ := List.mem_map.1 member
    have inside := ((Lexeme.within_read first ahead).flaws flaw present).bounded
    obtain ⟨skipped, covered, after, whole, offset, size, extent⟩ :=
      Lexeme.exists_covers first ahead flaw present
    -- The flaw lies in the lexeme, so the lexeme too starts with what the flaw skips.
    have taken : tile.lexeme.take flaw.offset = skipped := by
      have front : (tile.lexeme ++ rest).take flaw.offset = tile.lexeme.take flaw.offset :=
        List.take_append_of_le_length (by omega)
      rw [← front, ← cut, whole, offset, List.append_assoc, List.take_left]
    have parted : source.text = before ++ skipped ++ covered ++ after := by
      rw [divided, List.append_assoc before, ← cut, whole]
      simp
    refine ⟨flaw, before ++ skipped, covered, after, ?_, ⟨parted, ?_, size⟩, extent⟩
    · rw [Flaw.diagnosis, taken, size]
    · rw [Flaw.diagnosis, taken]
      rfl

/-- Lexing a countable source succeeds, and its diagnostics are about flaws of lexemes. -/
theorem exists_lexed {source : Source} (countable : Text.Countable source.text) :
    ∃ lexed, lex source = .ok lexed ∧ ∀ diagnostic ∈ lexed.diagnostics,
      ∃ flaw before covered after,
        diagnostic = flaw.problem.diagnose source (Text.spanAfter before covered.length) ∧
        source.Divides diagnostic.span before covered after ∧
        Lexeme.Extent flaw covered after := by
  obtain ⟨front, last, final, ran, _, _, queue, fits⟩ := Lexer.exists_tiles .unlimited countable
  have all : final.queue.diagnostics = (front ++ [last]).flatMap Tile.reports := by
    rw [queue, Queue.diagnostics_pushAll_of_unlimited rfl]
    rfl
  have handed := Queue.flush_perm final.queue
  rw [all] at handed
  refine ⟨_, Fault.bind_eq_ok_iff.2 ⟨_, ran, rfl⟩, ?_⟩
  intro diagnostic member
  obtain ⟨tile, present, reported⟩ := List.mem_flatMap.1 (handed.mem_iff.1 member)
  obtain ⟨done, rest, here⟩ := List.append_of_mem present
  obtain ⟨behind, divided, read⟩ := (fits done tile rest here).read
  exact read.exists_extent divided reported

/-- Lexing a source of fewer characters than the largest counter value succeeds, and each diagnostic
can be listed. The listing stays within the span of the diagnostic, unless the span ends with a line
feed and another line feed comes later. Then the diagnostic is about an escape, and the listing goes
on to the next line. -/
theorem lex_confined (source : Source) (short : source.text.length < Text.counterLimit) :
    ∃ lexed, lex source = .ok lexed ∧ ∀ diagnostic ∈ lexed.diagnostics,
      diagnostic.source = source ∧ ∃ lines listing,
        source.lines diagnostic.span = .ok lines ∧ diagnostic.render false = .ok listing ∧
        (diagnostic.Confined lines listing ↔ ¬ source.EndsAtTerminatedLine diagnostic.span) ∧
        (source.EndsAtTerminatedLine diagnostic.span → diagnostic.Overruns lines listing) := by
  have countable := Text.countable_of_length_lt short
  obtain ⟨lexed, done, reported⟩ := exists_lexed countable
  refine ⟨lexed, done, ?_⟩
  intro diagnostic member
  obtain ⟨flaw, before, covered, after, rfl, divides, extent⟩ := reported diagnostic member
  have ends := divides.endsAtTerminatedLine_iff
  have listed := Source.lines_eq_walked divides (divides.counted countable rfl)
  have contained := Source.contains_iff_divides.2 ⟨before, covered, after, divides⟩
  refine ⟨rfl, _, _, listed, Diagnostic.render_eq contained listed false, ?_, ?_⟩
  · apply Diagnostic.confined_iff countable divides rfl ?_ listed
    intro alone
    exact extent.closed (mt ends.2 alone)
  · intro terminated
    obtain ⟨problem, rfl⟩ := extent.escape_of_ends (ends.1 terminated)
    apply Diagnostic.overruns divides (ends.1 terminated).2
    rw [problem]
    rfl

/-- Two characters are escaped that cannot be: a line feed with another one behind it, and a letter
in a literal that runs to the end of the source. -/
theorem lex_confined_escapes :
    let source := Source.ofText
      ['\x22', '\\', '\n', '\x22', '\n', '\x22', '\\', 'q', '\n']
    source.text.length < Text.counterLimit ∧
      ∃ lexed, lex source = .ok lexed ∧ ∀ diagnostic ∈ lexed.diagnostics,
        diagnostic.source = source ∧ ∃ lines listing,
          source.lines diagnostic.span = .ok lines ∧ diagnostic.render false = .ok listing ∧
          (diagnostic.Confined lines listing ↔ ¬ source.EndsAtTerminatedLine diagnostic.span) ∧
          (source.EndsAtTerminatedLine diagnostic.span → diagnostic.Overruns lines listing) :=
  ⟨by decide, lex_confined _ (by decide)⟩

/-- A mark for the escape of a line feed is drawn under the double quote on the next line, which is
no character of the escape, on a line that owns none. -/
theorem lex_marks_next_line :
    let source := Source.ofText ['\x22', '\\', '\n', '\x22', '\n']
    source.text.length < Text.counterLimit ∧ ∃ lexed diagnostic lines listing line,
      lex source = .ok lexed ∧ diagnostic ∈ lexed.diagnostics ∧
      source.lines diagnostic.span = .ok lines ∧ diagnostic.render false = .ok listing ∧
      lines[1]? = some line ∧ line.text = ['\x22'] ∧
      diagnostic.Draws lines.length listing 1 0 '~' ∧
      (∀ offset < diagnostic.span.length,
        source.advance diagnostic.span.start offset ≠ .ok line.start) ∧
      ¬ source.Touches diagnostic.span line.toPhysicalLine := by
  intro source
  have short : source.text.length < Text.counterLimit := by decide
  obtain ⟨literal, second, scanned, goesOn, newline, third, scanned', goesOn', last, final,
      scanned'', atEnd, diagnostic, queued, listed, contained, rfl⟩ :
      ∃ literal second, (Lexer.start .unlimited source).scan = .ok (literal, second) ∧
      literal.isLast = false ∧ ∃ newline third, second.scan = .ok (newline, third) ∧
      newline.isLast = false ∧ ∃ last final, third.scan = .ok (last, final) ∧ last.isLast = true ∧
      ∃ diagnostic, final.queue.diagnostics = [diagnostic] ∧
        source.lines diagnostic.span =
          .ok [⟨⟨0, ['\x22', '\\'], true⟩, 1⟩, ⟨⟨3, ['\x22'], true⟩, 2⟩] ∧
        source.contains diagnostic.span.start diagnostic.span.length = true ∧
        diagnostic = (Problem.invalidEscape '\n').diagnose source ⟨1, 2, 1, 2⟩ :=
    ⟨_, _, rfl, rfl, _, _, rfl, rfl, _, _, rfl, rfl, _, rfl, rfl, rfl, rfl⟩
  have ran : (Lexer.start .unlimited source).run =
      .ok ([literal.token, newline.token, last.token], final) := by
    rw [Lexer.run_of_not_isLast scanned goesOn, Lexer.run_of_not_isLast scanned' goesOn',
      Lexer.run_of_isLast scanned'' atEnd]
    rfl
  refine ⟨short, _, _, _, _, _, Fault.bind_eq_ok_iff.2 ⟨_, ran, rfl⟩, ?_, listed,
    Diagnostic.render_eq contained listed false, rfl, rfl, ?_, ?_, ?_⟩
  · apply (Queue.flush_perm final.queue).mem_iff.2
    rw [queued]
    exact List.mem_singleton_self _
  · apply (Diagnostic.draws_iff (by decide) rfl).2
    rfl
  · decide
  · have divided : source.text = ['\x22'] ++ ['\\', '\n', '\x22', '\n'] := rfl
    have present : source.HasLine ⟨⟨3, ['\x22'], true⟩, 2⟩ :=
      ⟨['\x22', '\\', '\n'], ['\n'], rfl, .inr rfl, by decide, rfl, rfl, rfl⟩
    exact Source.not_touches_of_followedBy divided rfl (by decide) present ⟨by decide, rfl, rfl⟩

end Offside
