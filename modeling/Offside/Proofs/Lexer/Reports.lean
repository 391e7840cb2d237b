import Offside.Lexing
import Offside.Proofs.Lexer.Tiling

/-! # What is reported about which token

Every report made while a token is read lies in the characters of that token, and tokens share no
characters. So each diagnostic of a source leads back to one token, and the way in which that token
was read says what the diagnostic is about: a stray character is reported once and as a whole, and
a malformed literal has string issues only.
-/

namespace Offside

namespace Source

/-- The index of the first character of a span and the index behind its last one. -/
def indices? (source : Source) (span : Span) : Option (Nat × Nat) :=
  (source.splitAt? span.start).map fun (before, _) => (before.length, before.length + span.length)

/-- Whether the characters of the inner span are all among those of the outer one. -/
def covers (source : Source) (outer inner : Span) : Bool :=
  match source.indices? outer, source.indices? inner with
  | some (low, high), some (first, last) => low ≤ first && last ≤ high
  | _, _ => false

theorem indices?_spanAfter {source : Source} {before rest : Text}
    (divided : source.text = before ++ rest) (length : Nat) :
    source.indices? (Text.spanAfter before length) =
      some (before.length, before.length + length) := by
  unfold indices?
  rw [show (Text.spanAfter before length).start = Text.byteLength before from rfl,
    splitAt?_byteLength divided]
  rfl

/-- Of two spans that follow parts of the source, one covers the other when it starts no later and
ends no earlier. -/
theorem covers_spanAfter {source : Source} {before rest before' rest' : Text}
    (outer : source.text = before ++ rest) (inner : source.text = before' ++ rest')
    {length length' : Nat} :
    source.covers (Text.spanAfter before length) (Text.spanAfter before' length') = true ↔
      before.length ≤ before'.length ∧ before'.length + length' ≤ before.length + length := by
  unfold covers
  rw [indices?_spanAfter outer, indices?_spanAfter inner]
  simp

end Source

namespace Tile

/-- How a tile turned out: sound, a stray character, or a malformed literal. -/
inductive Verdict (source : Source) (before : Text) (tile : Tile) : Prop
  | sound (valid : tile.token.kind ≠ .invalid) (silent : tile.reports = [])
  | stray {c : Char} (invalid : tile.token.kind = .invalid) (lexeme : tile.lexeme = [c])
      (unquoted : c ≠ '\x22')
      (reported : tile.reports =
        [(Problem.strayCharacter c).diagnose source (Text.spanAfter before 1)])
  | malformed {body : Text} (invalid : tile.token.kind = .invalid)
      (lexeme : tile.lexeme = '\x22' :: body) (reported : tile.reports ≠ [])
      (issues : ∀ diagnostic ∈ tile.reports, diagnostic.issue = .invalidString)

namespace Read

variable {source : Source} {before rest : Text} {tile : Tile}

theorem verdict (read : tile.Read source before rest) : tile.Verdict source before := by
  cases read with
  | finish kind _ _ silent => exact .sound (by simp [kind]) silent
  | @lexeme first ahead cut length kind reported =>
    have positive := (Lexeme.read first ahead).length_pos
    -- The lexeme has a character, so it starts with the one that decides what is read.
    obtain ⟨body, starts⟩ : ∃ body, tile.lexeme = first :: body := by
      cases opened : tile.lexeme with
      | nil =>
        rw [← length, opened] at positive
        exact absurd positive (Nat.lt_irrefl 0)
      | cons c body =>
        rw [opened, List.cons_append] at cut
        exact ⟨body, by rw [(List.cons.inj cut).1]⟩
    rcases Lexeme.outcome_read first ahead with ⟨read, valid, flawless⟩ | ⟨same, unquoted⟩ |
      ⟨quote, read, flawed, issues⟩
    · refine .sound ?_ ?_
      · rw [kind, read]
        exact valid
      · rw [reported, flawless, List.map_nil]
    · rw [same] at kind length reported
      have single : body = [] := by
        rw [starts] at length
        exact List.length_eq_zero_iff.1 (Nat.succ.inj length)
      rw [single] at starts
      refine .stray kind starts unquoted ?_
      rw [reported]
      simp only [Lexeme.stray, List.map_cons, List.map_nil, Flaw.diagnosis, List.take_zero,
        List.append_nil]
    · rw [quote] at starts
      refine .malformed ?_ starts ?_ ?_
      · rw [kind, read]
        rfl
      · rw [reported]
        simpa using flawed
      · intro diagnostic member
        rw [reported] at member
        obtain ⟨flaw, present, rfl⟩ := List.mem_map.1 member
        exact issues flaw present

/-- What is reported about a tile covers some characters of its lexeme, and no others. -/
theorem report_inside (read : tile.Read source before rest) {diagnostic : Diagnostic}
    (member : diagnostic ∈ tile.reports) :
    ∃ offset length, 0 < length ∧ offset + length ≤ tile.lexeme.length ∧
      diagnostic.span = Text.spanAfter (before ++ tile.lexeme.take offset) length := by
  cases read with
  | finish _ _ _ silent =>
    rw [silent] at member
    contradiction
  | @lexeme first ahead cut length kind reported =>
    rw [reported] at member
    obtain ⟨flaw, present, rfl⟩ := List.mem_map.1 member
    have inside := (Lexeme.within_read first ahead).flaws flaw present
    rw [← length] at inside
    exact ⟨flaw.offset, flaw.length, inside.nonempty, inside.bounded, rfl⟩

end Read

section Laid

variable {first : Lexer} {tiles done rest done' rest' : List Tile} {tile tile' : Tile}

/-- Of two places in one row, the later one has the earlier one before it. -/
private theorem exists_between (same : done ++ tile :: rest = done' ++ tile' :: rest')
    (earlier : done.length < done'.length) : ∃ between, done' = done ++ tile :: between := by
  rcases List.append_eq_append_iff.1 same with ⟨more, longer, tail⟩ | ⟨more, longer, _⟩
  · cases more with
    | nil =>
      rw [longer, List.append_nil] at earlier
      exact absurd earlier (Nat.lt_irrefl _)
    | cons next between =>
      rw [List.cons_append] at tail
      exact ⟨between, by rw [longer, (List.cons.inj tail).1]⟩
  · rw [longer, List.length_append] at earlier
    omega

/-- What tiles make up is at least as long as what the first few of them make up. -/
private theorem length_le_length_join (done between : List Tile) (tile : Tile) :
    (join done ++ tile.gap).length + tile.lexeme.length ≤
      (join (done ++ tile :: between)).length := by
  simp only [join, List.flatMap_append, List.flatMap_cons, List.length_append]
  omega

/-- A token covers what was reported while it was read, and nothing else that is reported. -/
theorem covers_report_iff (fits : AllFit first tiles)
    (here : tiles = done ++ tile :: rest) (there : tiles = done' ++ tile' :: rest')
    {diagnostic : Diagnostic} (reported : diagnostic ∈ tile'.reports) :
    first.source.covers tile.token.span diagnostic.span = true ↔ done.length = done'.length := by
  obtain ⟨behind, divided, _⟩ := (fits done tile rest here).read
  obtain ⟨behind', divided', read⟩ := (fits done' tile' rest' there).read
  obtain ⟨offset, length, positive, bounded, span⟩ := read.report_inside reported
  have outer : first.source.text = join done ++ tile.gap ++ (tile.lexeme ++ behind) := by
    rw [divided, List.append_assoc]
  have inner : first.source.text = join done' ++ tile'.gap ++ tile'.lexeme.take offset ++
      (tile'.lexeme.drop offset ++ behind') := by
    rw [divided', List.append_assoc (_ ++ tile'.gap), ← Text.append_cut]
  have starts : (join done' ++ tile'.gap ++ tile'.lexeme.take offset).length =
      (join done' ++ tile'.gap).length + offset := by
    rw [List.length_append, List.length_take_of_le (by omega)]
  rw [(fits done tile rest here).placed, span, Source.covers_spanAfter outer inner, starts]
  rcases Nat.lt_trichotomy done.length done'.length with before | equal | after
  · obtain ⟨between, rfl⟩ := exists_between (here.symm.trans there) before
    have bound := length_le_length_join done between tile
    have further : (join (done ++ tile :: between) ++ tile'.gap).length = _ := List.length_append
    omega
  · obtain ⟨rfl, tail⟩ := List.append_inj (here.symm.trans there) equal
    obtain rfl := (List.cons.inj tail).1
    omega
  · obtain ⟨between, rfl⟩ := exists_between (there.symm.trans here) after
    have bound := length_le_length_join done' between tile'
    have further : (join (done' ++ tile' :: between) ++ tile.gap).length = _ := List.length_append
    omega

/-- The other tiles of a row stand in other places of it. -/
private theorem exists_place_ne (here : tiles = done ++ tile :: rest)
    (other : tile' ∈ done ++ rest) :
    ∃ done' rest', tiles = done' ++ tile' :: rest' ∧ done.length ≠ done'.length := by
  rcases List.mem_append.1 other with before | behind
  · obtain ⟨front, back, rfl⟩ := List.append_of_mem before
    exact ⟨front, back ++ tile :: rest, by simpa using here, by simp⟩
  · obtain ⟨front, back, rfl⟩ := List.append_of_mem behind
    exact ⟨done ++ tile :: front, back, by simpa using here, by simp⟩

/-- A token covers nothing that was reported while another was read. -/
theorem covers_report_eq_false (fits : AllFit first tiles)
    (here : tiles = done ++ tile :: rest) (other : tile' ∈ done ++ rest) {diagnostic : Diagnostic}
    (reported : diagnostic ∈ tile'.reports) :
    first.source.covers tile.token.span diagnostic.span = false := by
  obtain ⟨done', rest', there, apart⟩ := exists_place_ne here other
  apply Bool.eq_false_iff.2
  intro covered
  exact apart ((covers_report_iff fits here there reported).1 covered)

/-- What was reported while a token was read is covered by no other. -/
theorem covers_eq_false_of_other (fits : AllFit first tiles)
    (here : tiles = done ++ tile :: rest) (other : tile' ∈ done ++ rest) {diagnostic : Diagnostic}
    (reported : diagnostic ∈ tile.reports) :
    first.source.covers tile'.token.span diagnostic.span = false := by
  obtain ⟨done', rest', there, apart⟩ := exists_place_ne here other
  apply Bool.eq_false_iff.2
  intro covered
  exact apart ((covers_report_iff fits there here reported).1 covered).symm

/-- Of all that is reported, a token covers what was reported while it was read. -/
theorem filter_reports (fits : AllFit first tiles)
    (here : tiles = done ++ tile :: rest) :
    (tiles.flatMap reports).filter
      (fun diagnostic => first.source.covers tile.token.span diagnostic.span) = tile.reports := by
  have own : tile.reports.filter
      (fun diagnostic => first.source.covers tile.token.span diagnostic.span) = tile.reports := by
    apply List.filter_eq_self.2
    intro diagnostic reported
    exact (covers_report_iff fits here here reported).2 rfl
  have others : ∀ row : List Tile, (∀ other ∈ row, other ∈ done ++ rest) →
      (row.flatMap reports).filter
        (fun diagnostic => first.source.covers tile.token.span diagnostic.span) = [] := by
    intro row among
    apply List.filter_eq_nil_iff.2
    intro diagnostic member
    obtain ⟨other, present, reported⟩ := List.mem_flatMap.1 member
    rw [covers_report_eq_false fits here (among other present) reported]
    exact Bool.false_ne_true
  have before := others done fun _ present => List.mem_append_left _ present
  have behind := others rest fun _ present => List.mem_append_right _ present
  rw [here, List.flatMap_append, List.flatMap_cons, List.filter_append, List.filter_append, before,
    own, behind, List.nil_append, List.append_nil]

end Laid

end Tile

namespace Lexed

/-- The diagnostic is about this token: an invalid one that has all its characters. It says how the
token starts. Where it is about a stray character, it is about the whole token, and no other
diagnostic is. -/
structure Blames (source : Source) (lexed : Lexed) (diagnostic : Diagnostic) (token : Token) :
    Prop where
  covered : source.covers token.span diagnostic.span = true
  invalid : token.kind = .invalid
  issue : ∃ c rest, source.substring token.span = .ok (c :: rest) ∧
    diagnostic.issue = if c = '\x22' then .invalidString else .invalidCharacter
  stray : diagnostic.issue = .invalidCharacter →
    diagnostic.span = token.span ∧ token.span.length = 1 ∧
      lexed.diagnostics.filter (fun other => source.covers token.span other.span) = [diagnostic]

/-- The invalid tokens of a source and its diagnostics account for each other. -/
structure Matched (source : Source) (lexed : Lexed) : Prop where
  /-- Every invalid token has a diagnostic. -/
  reported : ∀ token ∈ lexed.tokens, token.kind = .invalid →
    ∃ diagnostic ∈ lexed.diagnostics, source.covers token.span diagnostic.span = true
  /-- Every diagnostic is about one token, and lies in no other. -/
  blamed : ∀ diagnostic ∈ lexed.diagnostics, ∃ done token rest,
    lexed.tokens = done ++ token :: rest ∧ lexed.Blames source diagnostic token ∧
      ∀ other ∈ done ++ rest, source.covers other.span diagnostic.span = false
  /-- There are errors exactly if there are invalid tokens. -/
  hasErrors_iff : lexed.hasErrors = true ↔ ∃ token ∈ lexed.tokens, token.kind = .invalid

section Laid

variable {first : Lexer} {tiles done rest : List Tile} {tile : Tile}
  {diagnostics : List Diagnostic} {diagnostic : Diagnostic}

/-- What was reported while a token was read is about that token. -/
theorem blames_of_mem_reports (fits : Tile.AllFit first tiles)
    (handed : diagnostics.Perm (tiles.flatMap Tile.reports)) (here : tiles = done ++ tile :: rest)
    (reported : diagnostic ∈ tile.reports) :
    Blames first.source ⟨tiles.map Tile.token, diagnostics⟩ diagnostic tile.token := by
  obtain ⟨behind, divided, read⟩ := (fits done tile rest here).read
  have span := (fits done tile rest here).placed
  have covered : first.source.covers tile.token.span diagnostic.span = true :=
    (Tile.covers_report_iff fits here here reported).2 rfl
  have substring : first.source.substring tile.token.span = .ok tile.lexeme := by
    rw [span, Source.substring_spanAfter (List.append_assoc .. ▸ divided), List.take_left]
  cases read.verdict with
  | sound _ silent =>
    rw [silent] at reported
    contradiction
  | stray invalid lexeme unquoted only =>
    rw [lexeme] at substring span
    have filtered := handed.filter fun other => first.source.covers tile.token.span other.span
    rw [Tile.filter_reports fits here] at filtered
    rw [only] at reported filtered
    obtain rfl := List.mem_singleton.1 reported
    refine ⟨covered, invalid, ⟨_, [], substring, (if_neg unquoted).symm⟩, ?_⟩
    intro _
    exact ⟨span.symm, by rw [span]; rfl, List.perm_singleton.1 filtered⟩
  | malformed invalid lexeme _ issues =>
    rw [lexeme] at substring
    have string := issues diagnostic reported
    refine ⟨covered, invalid, ⟨_, _, substring, string.trans (if_pos rfl).symm⟩, ?_⟩
    intro character
    rw [string] at character
    contradiction

/-- Something was reported while an invalid token was read. -/
theorem exists_report_of_invalid (fits : Tile.AllFit first tiles)
    (here : tiles = done ++ tile :: rest) (invalid : tile.token.kind = .invalid) :
    ∃ diagnostic, diagnostic ∈ tile.reports := by
  obtain ⟨behind, _, read⟩ := (fits done tile rest here).read
  cases read.verdict with
  | sound valid => exact absurd invalid valid
  | stray _ _ _ only => exact ⟨_, by rw [only]; exact List.mem_singleton_self _⟩
  | malformed _ _ flawed => exact List.exists_mem_of_ne_nil _ flawed

/-- Tokens and reports that belong to one row of tiles match, in whatever order the reports are
handed over. -/
theorem matched_of_fits (fits : Tile.AllFit first tiles)
    (handed : diagnostics.Perm (tiles.flatMap Tile.reports)) :
    Matched first.source ⟨tiles.map Tile.token, diagnostics⟩ := by
  have reported : ∀ token ∈ tiles.map Tile.token, token.kind = .invalid →
      ∃ diagnostic ∈ diagnostics, first.source.covers token.span diagnostic.span = true := by
    intro token member invalid
    obtain ⟨tile, present, rfl⟩ := List.mem_map.1 member
    obtain ⟨done, rest, here⟩ := List.append_of_mem present
    obtain ⟨diagnostic, reported⟩ := exists_report_of_invalid fits here invalid
    refine ⟨diagnostic, ?_, (Tile.covers_report_iff fits here here reported).2 rfl⟩
    exact handed.mem_iff.2 (List.mem_flatMap.2 ⟨tile, present, reported⟩)
  have blamed : ∀ diagnostic ∈ diagnostics, ∃ done token rest,
      tiles.map Tile.token = done ++ token :: rest ∧
        Blames first.source ⟨tiles.map Tile.token, diagnostics⟩ diagnostic token ∧
        ∀ other ∈ done ++ rest, first.source.covers other.span diagnostic.span = false := by
    intro diagnostic member
    obtain ⟨tile, present, reported⟩ := List.mem_flatMap.1 (handed.mem_iff.1 member)
    obtain ⟨done, rest, here⟩ := List.append_of_mem present
    refine ⟨done.map Tile.token, tile.token, rest.map Tile.token, ?_,
      blames_of_mem_reports fits handed here reported, ?_⟩
    · rw [here, List.map_append, List.map_cons]
    · intro other among
      rw [← List.map_append] at among
      obtain ⟨tile', elsewhere, rfl⟩ := List.mem_map.1 among
      exact Tile.covers_eq_false_of_other fits here elsewhere reported
  refine ⟨reported, blamed, ?_⟩
  constructor
  · intro errors
    obtain ⟨diagnostic, member, _⟩ := List.any_eq_true.1 errors
    obtain ⟨done, token, rest, whole, blames, _⟩ := blamed diagnostic member
    exact ⟨token, by rw [whole]; simp, blames.invalid⟩
  · rintro ⟨token, member, invalid⟩
    obtain ⟨diagnostic, present, _⟩ := reported token member invalid
    exact List.any_eq_true.2 ⟨diagnostic, present, diagnostic.isError_eq_true⟩

end Laid

end Lexed

/-- Lexing a source of fewer characters than the largest counter value succeeds, and invalid tokens
and diagnostics account for each other. -/
theorem lex_matched (source : Source) (short : source.text.length < Text.counterLimit) :
    ∃ lexed, lex source = .ok lexed ∧ lexed.Matched source := by
  obtain ⟨front, last, final, ran, _, _, queue, fits⟩ :=
    Lexer.exists_tiles .unlimited (Text.countable_of_length_lt short)
  have all : final.queue.diagnostics = (front ++ [last]).flatMap Tile.reports := by
    rw [queue, Queue.diagnostics_pushAll_of_unlimited rfl]
    rfl
  have handed := Queue.flush_perm final.queue
  rw [all] at handed
  exact ⟨_, Fault.bind_eq_ok_iff.2 ⟨_, ran, rfl⟩, Lexed.matched_of_fits fits handed⟩

/-- A literal with a bad escape and no end stands behind a stray character. -/
theorem lex_matched_unterminated :
    let source := Source.ofText ['$', ' ', '\x22', '\\', 'q', '\n']
    source.text.length < Text.counterLimit ∧
      ∃ lexed, lex source = .ok lexed ∧ lexed.Matched source ∧
        lexed.tokens.map (fun token => (token.kind, token.span.start, token.span.length)) =
          [(.invalid, 0, 1), (.invalid, 2, 4), (.endOfFile, 6, 0)] := by
  intro source
  have short : source.text.length < Text.counterLimit := by decide
  obtain ⟨lexed, answered, matched⟩ := lex_matched source short
  have read : ((lex source).toOption.map fun lexed =>
      lexed.tokens.map fun token => (token.kind, token.span.start, token.span.length)) =
      some [(.invalid, 0, 1), (.invalid, 2, 4), (.endOfFile, 6, 0)] := by decide +kernel
  rw [answered] at read
  exact ⟨short, lexed, answered, matched, Option.some.inj read⟩

end Offside
