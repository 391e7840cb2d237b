import Offside.Proofs.Diagnostic.Queue
import Offside.Proofs.Lexer.Path

/-! # Tokens as tiles of their source

Each step of a lexer lays one tile: the text it skipped, and the text it read its token from. Laid
one after the other the tiles of a run make up the source, so that no character is lost, doubled or
shared by two tokens. What is skipped is spaces, except that a line indented by tabs may start with
tabs before them.
-/

namespace Offside

theorem Reading.isLast_iff (reading : Reading) :
    reading.isLast = true ↔ reading.token.kind = .endOfFile := by
  cases kind : reading.kind? with
  | none => simp [isLast, token, kind]
  | some known => simp [isLast, token, kind]

/-- Readings before the end of the source give no token for the end. -/
theorem Reading.kind_ne_endOfFile {readings : List Reading}
    (goesOn : ∀ reading ∈ readings, reading.isLast = false) :
    ∀ token ∈ readings.map Reading.token, token.kind ≠ .endOfFile := by
  intro token member kind
  obtain ⟨reading, present, rfl⟩ := List.mem_map.1 member
  have going := goesOn reading present
  rw [(Reading.isLast_iff reading).2 kind] at going
  contradiction

/-- Without the token for the end of the source, the tokens are those read before the end. -/
theorem Reading.filter_tokens {front : List Reading} {last : Reading}
    (goesOn : ∀ reading ∈ front, reading.isLast = false) (atEnd : last.isLast = true) :
    ((front ++ [last]).map Reading.token).filter (·.kind ≠ .endOfFile) =
      front.map Reading.token := by
  have ending := (Reading.isLast_iff last).1 atEnd
  have kept : (front.map Reading.token).filter (·.kind ≠ .endOfFile) = front.map Reading.token :=
    List.filter_eq_self.2 (by simpa using Reading.kind_ne_endOfFile goesOn)
  rw [List.map_append, List.filter_append, kept]
  simp [ending]

/-- A token in its place. -/
structure Tile where
  /-- The text skipped before the token. -/
  gap : Text
  token : Token
  /-- The text the token was read from. -/
  lexeme : Text
  /-- What was reported while it was read. -/
  reports : List Diagnostic

namespace Tile

/-- The text that tiles make up, laid one after the other. -/
def join (tiles : List Tile) : Text := tiles.flatMap fun tile => tile.gap ++ tile.lexeme

@[simp] theorem join_nil : join [] = [] := rfl

@[simp] theorem join_append_singleton (tiles : List Tile) (tile : Tile) :
    join (tiles ++ [tile]) = join tiles ++ tile.gap ++ tile.lexeme := by
  simp [join]

/-- The last of the tiles is the end of a line. -/
def EndsLine (tiles : List Tile) : Prop :=
  tiles.getLast?.map (fun tile => tile.token.kind) = some .endOfLine

/-- Spaces, with tabs before them where tabs are allowed. -/
def IsGap (tabsAllowed : Prop) (gap : Text) : Prop :=
  ∃ tabs spaces, gap = List.replicate tabs '\t' ++ List.replicate spaces ' ' ∧
    (0 < tabs → tabsAllowed)

/-- The tile is what its text was read as, when `before` and `rest` stand around that text: the end
of the source with nothing behind it, or the lexeme at the front of what is ahead. -/
inductive Read (source : Source) (before rest : Text) (tile : Tile) : Prop
  | finish (kind : tile.token.kind = .endOfFile) (empty : tile.lexeme = []) (nothing : rest = [])
      (silent : tile.reports = [])
  | lexeme {first : Char} {ahead : Text} (cut : first :: ahead = tile.lexeme ++ rest)
      (length : tile.lexeme.length = (Lexeme.read first ahead).length)
      (kind : tile.token.kind = (Lexeme.read first ahead).kind?.getD .invalid)
      (reported : tile.reports = (Lexeme.read first ahead).flaws.map fun flaw =>
        flaw.diagnosis source before tile.lexeme)

namespace Read

variable {source : Source} {before rest : Text} {tile : Tile}

/-- Only the end of the source is read from no text, and nothing stands behind it. -/
theorem empty_of_endOfFile (read : tile.Read source before rest)
    (last : tile.token.kind = .endOfFile) : tile.lexeme = [] ∧ rest = [] := by
  cases read with
  | finish _ empty nothing _ => exact ⟨empty, nothing⟩
  | @lexeme first ahead _ _ kind _ =>
    rw [last] at kind
    have marker := (Lexeme.marker_read first ahead).1
    cases read : (Lexeme.read first ahead).kind? with
    | none => simp [read] at kind
    | some known => simp_all

theorem length_pos (read : tile.Read source before rest) (goesOn : tile.token.kind ≠ .endOfFile) :
    0 < tile.lexeme.length := by
  cases read with
  | finish last => exact absurd last goesOn
  | @lexeme first ahead _ length =>
    rw [length]
    exact (Lexeme.read first ahead).length_pos

end Read

/-- A lexer that starts with `first` lays this tile behind those it has laid already. -/
structure Fits (first : Lexer) (done : List Tile) (tile : Tile) : Prop where
  placed : tile.token.span = Text.spanAfter (join done ++ tile.gap) tile.lexeme.length
  skipped : ∃ readings middle, Lexer.Path first readings middle ∧
    readings.map Reading.token = done.map Tile.token ∧
    IsGap (EndsLine done ∧ middle.unit? = some .tab) tile.gap
  read : ∃ rest, first.source.text = join done ++ tile.gap ++ tile.lexeme ++ rest ∧
    tile.Read first.source (join done ++ tile.gap) rest

/-- A lexer that starts with `first` lays these tiles one behind the other. -/
def AllFit (first : Lexer) (tiles : List Tile) : Prop :=
  ∀ done tile rest, tiles = done ++ tile :: rest → tile.Fits first done

/-- A tile laid behind others leaves them where they are. -/
theorem AllFit.append {first : Lexer} {tiles : List Tile} {tile : Tile} (fits : AllFit first tiles)
    (last : tile.Fits first tiles) : AllFit first (tiles ++ [tile]) := by
  intro done other rest divided
  rcases rest.eq_nil_or_concat with rfl | ⟨front, back, rfl⟩
  · obtain ⟨rfl, same⟩ := List.append_inj' divided rfl
    obtain rfl := List.singleton_inj.1 same
    exact last
  · have regrouped : tiles ++ [tile] = (done ++ other :: front) ++ [back] := by
      simpa using divided
    exact fits done other front (List.append_inj' regrouped rfl).1

end Tile

namespace Lexer

/-- The tiles laid along a path, and the indentation taken up behind the last of them, which is
skipped before the next. -/
structure Laid (first : Lexer) (readings : List Reading) (lexer : Lexer) (tiles : List Tile)
    (pending : Text) : Prop where
  source : lexer.source = first.source
  tokens : readings.map Reading.token = tiles.map Tile.token
  passed : lexer.Passed (Tile.join tiles ++ pending)
  indentation : ∃ count, (0 < count → Tile.EndsLine tiles) ∧
    pending = List.replicate count (if lexer.unit? = some .tab then '\t' else ' ')
  queue : lexer.queue = first.queue.pushAll (tiles.flatMap Tile.reports)
  fits : Tile.AllFit first tiles

namespace Laid

variable {first lexer next : Lexer} {readings : List Reading} {reading : Reading}
  {tiles : List Tile} {pending blanks : Text}

/-- Indentation taken up before, and the spaces skipped now, make up a gap. -/
theorem isGap (laid : Laid first readings lexer tiles pending) (spaces : ∀ c ∈ blanks, c = ' ') :
    Tile.IsGap (Tile.EndsLine tiles ∧ lexer.unit? = some .tab) (pending ++ blanks) := by
  obtain ⟨count, opens, rfl⟩ := laid.indentation
  have uniform : blanks = List.replicate blanks.length ' ' := List.eq_replicate_iff.2 ⟨rfl, spaces⟩
  by_cases tabs : lexer.unit? = some .tab
  · refine ⟨count, blanks.length, ?_, fun positive => ⟨opens positive, tabs⟩⟩
    rw [if_pos tabs, ← uniform]
  · refine ⟨0, count + blanks.length, ?_, fun positive => absurd positive (Nat.lt_irrefl 0)⟩
    rw [if_neg tabs, List.replicate_zero, List.nil_append, ← List.replicate_append_replicate,
      ← uniform]

/-- One more tile is laid: its gap is the indentation taken up before and the spaces skipped. -/
theorem append (laid : Laid first readings lexer tiles pending) (path : Path first readings lexer)
    (word rest indentation : Text) (reports : List Diagnostic) (spaces : ∀ c ∈ blanks, c = ' ')
    (ahead : lexer.cursor.rest = blanks ++ word ++ rest)
    (span : reading.span = Text.spanAfter (Tile.join tiles ++ pending ++ blanks) word.length)
    (read : Tile.Read first.source (Tile.join tiles ++ pending ++ blanks) rest
      ⟨pending ++ blanks, reading.token, word, reports⟩)
    (source : next.source = lexer.source) (queue : next.queue = lexer.queue.pushAll reports)
    (passed : next.Passed (Tile.join tiles ++ pending ++ blanks ++ word ++ indentation))
    (indented : ∃ count, (0 < count → reading.token.kind = .endOfLine) ∧
      indentation = List.replicate count (if next.unit? = some .tab then '\t' else ' ')) :
    Laid first (readings ++ [reading]) next
      (tiles ++ [⟨pending ++ blanks, reading.token, word, reports⟩]) indentation := by
  have fits : Tile.Fits first tiles ⟨pending ++ blanks, reading.token, word, reports⟩ := by
    refine ⟨?_, ⟨readings, lexer, path, laid.tokens, laid.isGap spaces⟩, rest, ?_, ?_⟩
    · simpa [Reading.token] using span
    · rw [← laid.source, laid.passed.divided, ahead]
      simp
    · simpa using read
  refine ⟨source.trans laid.source, ?_, ?_, ?_, ?_, laid.fits.append fits⟩
  · simp [laid.tokens]
  · simpa using passed
  · obtain ⟨count, opens, same⟩ := indented
    exact ⟨count, fun positive => by simp [Tile.EndsLine, opens positive], same⟩
  · rw [queue, laid.queue, ← Queue.pushAll_append, List.flatMap_append, List.flatMap_singleton]

/-- Every step lays a tile. -/
theorem step (laid : Laid first readings lexer tiles pending) (path : Path first readings lexer)
    (step : Step lexer (Tile.join tiles ++ pending) reading next) :
    ∃ tile indentation, Laid first (readings ++ [reading]) next (tiles ++ [tile]) indentation := by
  have passed := laid.passed
  cases step with
  | finish spaces ahead =>
    have nothing := ahead.trans (List.append_nil _).symm
    refine ⟨_, [], laid.append path [] [] [] [] spaces (by simpa using nothing) rfl
      (.finish rfl rfl rfl rfl) rfl rfl ?_ ⟨0, by simp, rfl⟩⟩
    exact passed.advance nothing rfl (by simp) (by simp)
  | newline spaces ahead unit indented =>
    rename_i blanks line rest unit?
    refine ⟨_, _, laid.append path ['\n'] line (IndentUnit.indentation unit? line) [] spaces
      (by simpa using ahead) rfl (.lexeme rfl rfl rfl rfl) rfl rfl ?_ ?_⟩
    · rw [indented, List.append_cons, ← List.append_assoc] at ahead
      exact passed.advance ahead rfl rfl (by simp)
    · obtain ⟨count, same⟩ := IndentUnit.indentation_eq_replicate unit? line
      exact ⟨count, fun _ => rfl, same⟩
  | @lexeme blanks word rest ahead first spaces more cut length =>
    rw [cut, ← List.append_assoc] at more
    refine ⟨_, [], laid.append path word rest [] _ spaces more rfl
      (.lexeme cut length rfl (by rw [laid.source])) rfl rfl ?_ ⟨0, by simp, rfl⟩⟩
    exact passed.advance more rfl (by simp) (by simp)

end Laid

/-- Every path from the start of a countable source lays tiles. -/
theorem Path.exists_laid {config : Queue.Config} {source : Source} {readings : List Reading}
    {lexer : Lexer} (countable : Text.Countable source.text)
    (path : Path (start config source) readings lexer) :
    ∃ tiles pending, Laid (start config source) readings lexer tiles pending := by
  induction path with
  | nil =>
    refine ⟨[], [], rfl, rfl, passed_start config source, ⟨0, by simp, rfl⟩, rfl, ?_⟩
    intro done tile rest divided
    exact absurd divided (by simp)
  | @step readings reading lexer next path scanned ih =>
    obtain ⟨tiles, pending, laid⟩ := ih
    have known : Text.Countable lexer.source.text := by
      rw [laid.source]
      exact countable
    obtain ⟨tile, indentation, more⟩ := laid.step path (step_of_scan known laid.passed scanned)
    exact ⟨_, _, more⟩

/-- The run of a countable source lays tiles, of which the last and only the last is the end of the
source. -/
theorem exists_tiles (config : Queue.Config) {source : Source}
    (countable : Text.Countable source.text) :
    ∃ front last final,
      (start config source).run = .ok ((front ++ [last]).map Tile.token, final) ∧
      (∀ tile ∈ front, tile.token.kind ≠ .endOfFile) ∧ last.token.kind = .endOfFile ∧
      final.queue = (Queue.empty config).pushAll ((front ++ [last]).flatMap Tile.reports) ∧
      Tile.AllFit (start config source) (front ++ [last]) := by
  obtain ⟨tokens, final, ran⟩ := exists_run countable (passed_start config source)
  obtain ⟨readings, ending, path, before, atEnd, rfl⟩ := path_of_run ran
  obtain ⟨tiles, pending, laid⟩ := path.exists_laid countable
  have same := laid.tokens
  rw [List.map_append] at same
  obtain ⟨front, back, rfl, frontSame, backSame⟩ := List.append_eq_map_iff.1 same
  obtain ⟨last, rfl⟩ : ∃ last, back = [last] := by
    apply List.length_eq_one_iff.1
    simpa using congrArg List.length backSame
  refine ⟨front, last, final, laid.tokens ▸ ran, ?_, ?_, laid.queue, laid.fits⟩
  · intro tile member
    obtain ⟨reading, present, token⟩ : ∃ reading ∈ readings, reading.token = tile.token := by
      have image := List.mem_map_of_mem (f := Tile.token) member
      rw [frontSame] at image
      exact List.mem_map.1 image
    intro kind
    rw [← token, ← Reading.isLast_iff] at kind
    exact absurd kind (by simp [before reading present])
  · have token : last.token = ending.token := by simpa using backSame
    rw [token, ← Reading.isLast_iff]
    exact atEnd

end Lexer

/-- The tokens of a source, as a lexer of this configuration reads them, account for its text. -/
structure Tiling (config : Queue.Config) (source : Source) (tiles : List Tile) : Prop where
  /-- Gaps and lexemes make up the text, with nothing behind the last lexeme. -/
  whole : source.text = Tile.join tiles
  /-- All tokens but the last have characters; the last is the end of the source, at its end. -/
  ended : ∃ front last, tiles = front ++ [last] ∧
    (∀ tile ∈ front, 1 ≤ tile.token.span.length ∧ tile.token.kind ≠ .endOfFile) ∧
    last.token.kind = .endOfFile ∧ last.token.span.length = 0 ∧
    last.token.span.start = source.byteSize
  /-- Each token covers its own lexeme, in the place where the tiles before it leave off. -/
  placed : ∀ done tile rest, tiles = done ++ tile :: rest →
    tile.token.span.start = Text.byteLength (Tile.join done ++ tile.gap) ∧
    tile.token.span.length = tile.lexeme.length ∧
    source.substring tile.token.span = .ok tile.lexeme
  /-- A gap is spaces, and tabs before them at most where it opens a line and, once the tokens
  before it have been read, lines are indented by tabs. -/
  gaps : ∀ done tile rest, tiles = done ++ tile :: rest →
    ∃ readings middle, Lexer.Path (.start config source) readings middle ∧
      readings.map Reading.token = done.map Tile.token ∧
      Tile.IsGap (Tile.EndsLine done ∧ middle.unit? = some .tab) tile.gap

/-- Cuts a text that starts at a byte offset along tokens: in front of each lies a gap up to its
start, and then the lexeme that it covers. -/
def Tile.cut (offset : Nat) (text : Text) : List Token → List (Text × Text)
  | [] => []
  | token :: rest =>
    match Text.splitAtByte? (token.span.start - offset) text with
    | none => []
    | some (gap, ahead) =>
      let lexeme := ahead.take token.span.length
      (gap, lexeme) ::
        cut (token.span.start + Text.byteLength lexeme) (ahead.drop token.span.length) rest

/-- The tokens of a source tell what its tiles are. -/
theorem Tiling.cut_eq {config : Queue.Config} {source : Source} {tiles : List Tile}
    (tiling : Tiling config source tiles) :
    Tile.cut 0 source.text (tiles.map Tile.token) =
      tiles.map fun tile => (tile.gap, tile.lexeme) := by
  -- The induction is on the tiles ahead, with those before them held in `done`.
  have ahead (rest done : List Tile) (divided : tiles = done ++ rest) :
      Tile.cut (Text.byteLength (Tile.join done)) (Tile.join rest) (rest.map Tile.token) =
        rest.map fun tile => (tile.gap, tile.lexeme) := by
    induction rest generalizing done with
    | nil => rfl
    | cons tile rest ih =>
      obtain ⟨start, length, _⟩ := tiling.placed done tile rest divided
      have onward := ih (done ++ [tile]) (by rw [divided, List.append_assoc, List.singleton_append])
      rw [Tile.join_append_singleton, Text.byteLength_append, ← start] at onward
      rw [Text.byteLength_append] at start
      have gap : tile.token.span.start - Text.byteLength (Tile.join done) =
          Text.byteLength tile.gap := by omega
      have front : Tile.join (tile :: rest) = tile.gap ++ (tile.lexeme ++ Tile.join rest) := by
        rw [Tile.join, List.flatMap_cons, List.append_assoc]
        rfl
      rw [List.map_cons, List.map_cons, Tile.cut, gap, front, Text.splitAtByte?_append]
      dsimp only
      rw [length, List.take_left, List.drop_left, onward]
  rw [tiling.whole]
  exact ahead tiles [] rfl

/-- Running a lexer over a source of fewer characters than the largest counter value succeeds, and
its tokens tile the source. -/
theorem Lexer.run_tiling (config : Queue.Config) (source : Source)
    (short : source.text.length < Text.counterLimit) :
    ∃ tiles final, (start config source).run = .ok (tiles.map Tile.token, final) ∧
      Tiling config source tiles := by
  obtain ⟨front, last, final, ran, goesOn, ended, _, fits⟩ :=
    exists_tiles config (Text.countable_of_length_lt short)
  have lastFits := fits front last [] rfl
  obtain ⟨behind, divided, lastRead⟩ := lastFits.read
  obtain ⟨empty, rfl⟩ := lastRead.empty_of_endOfFile ended
  have whole : source.text = Tile.join (front ++ [last]) := by
    rw [Tile.join_append_singleton, ← List.append_nil (_ ++ last.lexeme)]
    exact divided
  refine ⟨front ++ [last], final, ran, whole, ⟨front, last, rfl, ?_, ended, ?_, ?_⟩, ?_, ?_⟩
  · intro tile member
    obtain ⟨done, rest, rfl⟩ := List.append_of_mem member
    have tileFits := fits done tile (rest ++ [last]) (by simp)
    obtain ⟨_, _, read⟩ := tileFits.read
    rw [tileFits.placed]
    exact ⟨read.length_pos (goesOn tile member), goesOn tile member⟩
  · rw [lastFits.placed, empty]
    rfl
  · rw [lastFits.placed, Source.byteSize, whole, Tile.join_append_singleton, empty, List.append_nil]
    rfl
  · intro done tile rest divided
    obtain ⟨behind, around, _⟩ := (fits done tile rest divided).read
    rw [(fits done tile rest divided).placed]
    refine ⟨rfl, rfl, ?_⟩
    rw [Source.substring_spanAfter (List.append_assoc .. ▸ around), List.take_left]
  · intro done tile rest divided
    exact (fits done tile rest divided).skipped

/-- Tabs open the second line here, and a character that starts no token stands at its end. -/
theorem Lexer.run_tiling_tabs :
    let source := Source.ofText ['a', ' ', '\n', '\t', '\t', ' ', 'b', '$']
    source.text.length < Text.counterLimit ∧
      ∃ tiles final, (start .unlimited source).run = .ok (tiles.map Tile.token, final) ∧
        Tiling .unlimited source tiles ∧
        tiles.map (fun tile => (tile.gap, tile.lexeme)) =
          [([], ['a']), ([' '], ['\n']), (['\t', '\t', ' '], ['b']), ([], ['$']), ([], [])] ∧
        tiles.map (Token.kind ∘ Tile.token) =
          [.name, .endOfLine, .name, .invalid, .endOfFile] := by
  intro source
  have short : source.text.length < Text.counterLimit := by decide
  obtain ⟨tiles, final, ran, tiling⟩ := Lexer.run_tiling .unlimited source short
  have read : ((start .unlimited source).run.toOption.map fun result =>
      (Tile.cut 0 source.text result.1, result.1.map Token.kind)) =
      some ([([], ['a']), ([' '], ['\n']), (['\t', '\t', ' '], ['b']), ([], ['$']), ([], [])],
        [.name, .endOfLine, .name, .invalid, .endOfFile]) := by decide +kernel
  rw [ran] at read
  obtain ⟨pieces, kinds⟩ := Prod.mk.inj (Option.some.inj read)
  rw [tiling.cut_eq] at pieces
  rw [List.map_map] at kinds
  exact ⟨short, tiles, final, ran, tiling, pieces, kinds⟩

end Offside
