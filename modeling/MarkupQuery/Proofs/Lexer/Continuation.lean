import MarkupQuery.Proofs.Lexer.Tiling

/-!
Reading the start of markup and going on later. What a lexer of a part has read it reads again where more
bytes follow, but for text that reaches the end of the part, which more text may lengthen. Main
statement: what is read anew from where the lexer of a part stopped is what is left to read of the whole,
and a lexer that takes the part for all there is differs only where the part is cut off
(`Lexer.run_continues`).
-/
namespace MarkupQuery

namespace Lexeme

/-- The same token in markup that starts earlier by `n` bytes. -/
def forth (n : Nat) (x : Lexeme) : Lexeme := ⟨x.token, x.start + n, x.stop + n⟩

/-- Puts a token before others. Text is joined with text that comes right after it. -/
def join (x : Lexeme) : List Lexeme → List Lexeme
  | [] => [x]
  | y :: others =>
    match x.token, y.token with
    | .text first, .text second => ⟨.text (first ++ second), x.start, y.stop⟩ :: others
    | _, _ => x :: y :: others

/-- Joins adjacent pieces of text. -/
def merge (lexemes : List Lexeme) : List Lexeme := lexemes.foldr join []

theorem merge_cons (x : Lexeme) (others : List Lexeme) :
    merge (x :: others) = x.join (merge others) := rfl

theorem merge_append (first : List Lexeme) {second third : List Lexeme}
    (same : merge second = merge third) : merge (first ++ second) = merge (first ++ third) := by
  induction first with
  | nil => exact same
  | cons x others ih => rw [List.cons_append, List.cons_append, merge_cons, merge_cons, ih]

/-- Two pieces of text are joined with what follows them as one. -/
theorem join_text (first second : Bytes) (p q r s : Nat) (others : List Lexeme) :
    join ⟨.text first, p, q⟩ (join ⟨.text second, r, s⟩ others) =
      join ⟨.text (first ++ second), p, s⟩ others := by
  cases others with
  | nil => rfl
  | cons y others =>
    obtain ⟨token, start, stop⟩ := y
    cases token <;> simp [join, List.append_assoc]

end Lexeme

/-- A token stays where more bytes follow, unless it is text that the bytes end with. -/
theorem Scan.token_append_or {bytes : Bytes} {construct : Token} {width : Nat}
    (h : scan bytes = .token construct width) (more : Bytes) :
    scan (bytes ++ more) = .token construct width ∨
      ((∀ b ∈ bytes, b ≠ 0x3c) ∧ construct = .text bytes ∧ width = bytes.length) := by
  cases bytes with
  | nil => cases h
  | cons first rest =>
    by_cases angle : first = 0x3c
    · exact .inl (token_append (by rw [angle]; rfl) h more)
    · rw [List.cons_append, scan_plain angle]
      rw [scan_plain angle] at h
      unfold text at h ⊢
      rw [← List.cons_append, List.takeWhile_append]
      split
      · rename_i whole
        have same := (List.takeWhile_prefix (· != 0x3c) (l := first :: rest)).eq_of_length whole
        have plain : ∀ b ∈ first :: rest, b ≠ 0x3c := by
          intro b member
          rw [← same] at member
          simpa using List.mem_takeWhile_imp member
        rw [same] at h
        cases h
        exact .inr ⟨plain, rfl, rfl⟩
      · exact .inl h

def LexicalFault.forth (n : Nat) (fault : LexicalFault) : LexicalFault :=
  ⟨fault.cause, fault.position + n⟩

def LexerStep.forth (n : Nat) : LexerStep → LexerStep
  | finished => finished
  | incomplete => incomplete
  | lexeme x => lexeme (x.forth n)
  | fault f => fault (f.forth n)

/-- How the tokens of a part, which is `stop` bytes long, stand at the start of those of the whole. Only
text that reaches the end of the part may be longer in the whole, by bytes that follow the part. -/
inductive Begins (stop : Nat) (more : Bytes) : List Lexeme → List Lexeme → Prop
  | same (tokens others : List Lexeme) : Begins stop more tokens (tokens ++ others)
  | longer (tokens others : List Lexeme) (content further : Bytes) (start : Nat)
      (inside : further <+: more) :
      Begins stop more (tokens ++ [⟨.text content, start, stop⟩])
        (tokens ++ ⟨.text (content ++ further), start, stop + further.length⟩ :: others)

namespace Lexer

/-- The lexer at the same offset of markup that starts earlier by `n` bytes. -/
def forth (n : Nat) (l : Lexer) : Lexer := { l with position := l.position + n }

/-- The lexer where more bytes follow. -/
def extend (l : Lexer) (complete : Bool) (more : Bytes) : Lexer :=
  ⟨complete, l.position, l.rest ++ more⟩

theorem step_forth (n : Nat) (l : Lexer) :
    (l.forth n).step = (l.step.1.forth n, l.step.2.forth n) := by
  have shift (width : Nat) : (l.forth n).advance width = (l.advance width).forth n := by
    simp only [forth, advance, Lexer.mk.injEq]
    exact ⟨trivial, Nat.add_right_comm .., trivial⟩
  have rest : (l.forth n).rest = l.rest := rfl
  have position : (l.forth n).position = l.position + n := rfl
  unfold step
  rw [rest]
  cases scan l.rest with
  | finished => rfl
  | token token width =>
    simp only [shift, position, LexerStep.forth, Lexeme.forth, Nat.add_right_comm]
  | cut cause =>
    have complete : (l.forth n).complete = l.complete := rfl
    rw [complete]
    cases l.complete <;> rfl
  | rejected cause offset resume =>
    simp only [shift, position, LexerStep.forth, LexicalFault.forth, Nat.add_right_comm]

/-- Offsets count from the start of the markup, and nothing else depends on where it starts. -/
theorem run_forth (n : Nat) (l : Lexer) :
    (l.forth n).run = (l.run.1.map (·.forth n), l.run.2.1.forth n, l.run.2.2.forth n) := by
  induction left : l.rest.length using Nat.strongRecOn generalizing l with
  | ind left ih =>
    rw [run_eq, step_forth, run_eq l]
    rcases stepped : l.step with ⟨outcome, after⟩
    cases outcome with
    | lexeme x =>
      have further := ih _ (by rw [← left]; exact step_lexeme_length_lt stepped) after rfl
      simp only [LexerStep.forth]
      rw [further]
      rfl
    | _ => rfl

theorem Passes.run_eq {l last : Lexer} {lexemes : List Lexeme} (passes : l.Passes lexemes last) :
    l.run = (lexemes ++ last.run.1, last.run.2) := by
  induction passes with
  | nil => rfl
  | cons stepped _ ih =>
    rw [Lexer.run_eq, stepped]
    dsimp only
    rw [ih]
    rfl

/-- A fault stays where more bytes follow, and so does the offset at which reading may be tried again. -/
theorem step_extend_fault {l after : Lexer} {fault : LexicalFault} (going : l.complete = false)
    (stepped : l.step = (.fault fault, after)) (complete : Bool) (more : Bytes) :
    (l.extend complete more).step = (.fault fault, after.extend complete more) := by
  cases step_eq_iff.mp stepped with
  | unfinished stops =>
    rw [going] at stops
    cases stops
  | @malformed cause offset resume rejected =>
    have placed := Scan.placed_scan l.rest
    rw [rejected] at placed
    have same : (l.advance resume).extend complete more = (l.extend complete more).advance resume := by
      simp only [extend, advance, List.drop_append_of_le_length placed.1]
    rw [same]
    exact step_eq_iff.mpr (.malformed (Scan.rejected_append rejected more))

/-- A token stays where more bytes follow, unless it is text that the bytes end with. -/
theorem step_extend_lexeme {l next : Lexer} {x : Lexeme} (stepped : l.step = (.lexeme x, next))
    (complete : Bool) (more : Bytes) :
    (l.extend complete more).step = (.lexeme x, next.extend complete more) ∨
      ((∀ b ∈ l.rest, b ≠ 0x3c) ∧ x = ⟨.text l.rest, l.position, l.position + l.rest.length⟩ ∧
        next = l.advance l.rest.length) := by
  cases step_eq_iff.mp stepped with
  | @lexeme token width scanned =>
    rcases Scan.token_append_or scanned more with still | ⟨plain, rfl, rfl⟩
    · have same : (l.advance width).extend complete more = (l.extend complete more).advance width := by
        simp only [extend, advance, List.drop_append_of_le_length (Scan.width_le scanned)]
      rw [same]
      exact .inl (step_eq_iff.mpr (.lexeme still))
    · exact .inr ⟨plain, rfl, rfl⟩

theorem Passes.of_nil {l last : Lexer} {lexemes : List Lexeme} (passes : l.Passes lexemes last)
    (empty : l.rest = []) : lexemes = [] ∧ last = l := by
  cases passes with
  | nil => exact ⟨rfl, rfl⟩
  | cons stepped _ =>
    rw [step, empty] at stepped
    cases stepped

/-- A run where more bytes follow goes on from where the run without them stopped, or from the text that
this one ended with. -/
theorem Passes.run_extend {l stopped : Lexer} {tokens : List Lexeme} (passes : l.Passes tokens stopped)
    (complete : Bool) (more : Bytes) :
    (l.extend complete more).run =
        (tokens ++ (stopped.extend complete more).run.1, (stopped.extend complete more).run.2) ∨
      ∃ others, ∃ part : Lexer, part.rest ≠ [] ∧ (∀ b ∈ part.rest, b ≠ 0x3c) ∧
        stopped = part.advance part.rest.length ∧
        tokens = others ++ [⟨.text part.rest, part.position, part.position + part.rest.length⟩] ∧
        (l.extend complete more).run =
          (others ++ (part.extend complete more).run.1, (part.extend complete more).run.2) := by
  induction passes with
  | nil => exact .inl rfl
  | @cons l next stopped x tokens stepped after ih =>
    rcases step_extend_lexeme stepped complete more with still | ⟨plain, rfl, rfl⟩
    · have first : (l.extend complete more).run =
          (x :: (next.extend complete more).run.1, (next.extend complete more).run.2) := by
        rw [Lexer.run_eq, still]
      rcases ih with same | ⟨others, part, nonempty, plain, ended, rfl, same⟩
      · refine .inl ?_
        rw [first, same]
        rfl
      · refine .inr ⟨x :: others, part, nonempty, plain, ended, rfl, ?_⟩
        rw [first, same]
        rfl
    · -- Text up to the end of the part leaves no bytes for another step.
      have nonempty : l.rest ≠ [] := by
        intro empty
        rw [step, empty] at stepped
        cases stepped
      obtain ⟨rfl, rfl⟩ := after.of_nil (by simp [advance])
      exact .inr ⟨[], l, nonempty, plain, rfl, rfl, rfl⟩

theorem run_text {content rest : Bytes} (nonempty : content ≠ []) (plain : ∀ b ∈ content, b ≠ 0x3c)
    (stops : rest.takeWhile (· != 0x3c) = []) (complete : Bool) (p : Nat) :
    (Lexer.mk complete p (content ++ rest)).run =
      (⟨.text content, p, p + content.length⟩ ::
          (Lexer.mk complete (p + content.length) rest).run.1,
        (Lexer.mk complete (p + content.length) rest).run.2) := by
  rw [run_eq, step, Scan.scan_text nonempty plain stops]
  dsimp only [advance]
  rw [List.drop_left]

/-- Text that is read in two pieces where it could be read in one. -/
theorem merge_run_text {content : Bytes} (nonempty : content ≠ [])
    (plain : ∀ b ∈ content, b ≠ 0x3c) (more : Bytes) (complete : Bool) (p : Nat) :
    ∃ further others, further <+: more ∧
      (Lexer.mk complete p (content ++ more)).run.1 =
        ⟨.text (content ++ further), p, p + content.length + further.length⟩ :: others ∧
      Lexeme.merge (Lexer.mk complete p (content ++ more)).run.1 =
        Lexeme.merge (⟨.text content, p, p + content.length⟩ ::
          (Lexer.mk complete (p + content.length) more).run.1) ∧
      (Lexer.mk complete p (content ++ more)).run.2 =
        (Lexer.mk complete (p + content.length) more).run.2 := by
  have cut := List.takeWhile_append_dropWhile (p := (· != 0x3c)) (l := more)
  have stops : (more.dropWhile (· != 0x3c)).takeWhile (· != 0x3c) = [] := by
    rw [List.takeWhile_eq_nil_iff]
    exact List.dropWhile_get_zero_not (· != 0x3c) more
  have inside : more.takeWhile (· != 0x3c) <+: more := List.takeWhile_prefix _
  have text : ∀ b ∈ more.takeWhile (· != 0x3c), b ≠ 0x3c := by
    intro b member
    simpa using List.mem_takeWhile_imp member
  generalize more.takeWhile (· != 0x3c) = further at cut inside text
  generalize more.dropWhile (· != 0x3c) = rest at cut stops
  subst cut
  have longer : ∀ b ∈ content ++ further, b ≠ 0x3c := by
    intro b member
    rcases List.mem_append.mp member with first | second
    · exact plain b first
    · exact text b second
  have some : content ++ further ≠ [] := by simp [nonempty]
  have whole := run_text some longer stops complete p
  rw [List.append_assoc, List.length_append, ← Nat.add_assoc] at whole
  refine ⟨further, _, inside, by rw [whole], ?_⟩
  by_cases none : further = []
  · subst none
    rw [List.nil_append, List.append_nil] at *
    rw [whole]
    exact ⟨rfl, rfl⟩
  · have later := run_text none text stops complete (p + content.length)
    rw [whole, later]
    refine ⟨?_, rfl⟩
    rw [Lexeme.merge_cons, Lexeme.merge_cons, Lexeme.merge_cons, Lexeme.join_text]

/-- That no more bytes will come makes a difference only to a construct that is cut off. -/
theorem step_complete {l after : Lexer} {last : LexerStep} (stepped : l.step = (last, after))
    (going : l.complete = false) :
    after.complete = false ∧
      ∃ cause, ({ l with complete := true } : Lexer).step =
        (if last = .incomplete then .fault ⟨.unfinished cause, l.position⟩ else last,
          { after with complete := true }) := by
  cases step_eq_iff.mp stepped with
  | finished ended => exact ⟨going, .angle, step_eq_iff.mpr (.finished ended)⟩
  | lexeme scanned => exact ⟨going, .angle, step_eq_iff.mpr (.lexeme scanned)⟩
  | @incomplete cause _ stops => exact ⟨going, cause, step_eq_iff.mpr (.unfinished rfl stops)⟩
  | unfinished complete =>
    rw [going] at complete
    cases complete
  | malformed rejected => exact ⟨going, .angle, step_eq_iff.mpr (.malformed rejected)⟩

theorem Passes.complete {l stopped : Lexer} {tokens : List Lexeme} (passes : l.Passes tokens stopped)
    (going : l.complete = false) :
    stopped.complete = false ∧
      ({ l with complete := true } : Lexer).Passes tokens { stopped with complete := true } := by
  induction passes with
  | nil l => exact ⟨going, .nil _⟩
  | cons stepped _ ih =>
    obtain ⟨still, _, same⟩ := step_complete stepped going
    obtain ⟨ended, others⟩ := ih still
    exact ⟨ended, .cons same others⟩

theorem Passes.lexes {whole : Bytes} {l stopped : Lexer} {tokens : List Lexeme}
    (passes : l.Passes tokens stopped) (within : l.Within whole) :
    Lexes whole l.position tokens stopped.position ∧ stopped.Within whole := by
  induction passes with
  | nil l => exact ⟨.done _, within⟩
  | @cons l next stopped x tokens stepped _ ih =>
    obtain ⟨lexes, ended⟩ := ih (within.step_lexeme stepped).1
    refine ⟨?_, ended⟩
    cases step_eq_iff.mp stepped with
    | lexeme scanned => exact .step (by rw [← within.rest_eq, scanned]) lexes

theorem run_of_stuck {l after : Lexer} {last : LexerStep} (stepped : l.step = (last, after))
    (stuck : ∀ x, last ≠ .lexeme x) : l.run = ([], last, after) := by
  rw [run_eq, stepped]
  cases last with
  | lexeme x => exact absurd rfl (stuck x)
  | _ => rfl

theorem eq_of_step {l after : Lexer} {last : LexerStep} (stepped : l.step = (last, after))
    (stuck : ∀ x, last ≠ .lexeme x) (sound : ∀ fault, last ≠ .fault fault) : after = l := by
  cases step_eq_iff.mp stepped with
  | finished => rfl
  | lexeme => exact absurd rfl (stuck _)
  | incomplete => rfl
  | unfinished => exact absurd rfl (sound _)
  | malformed => exact absurd rfl (sound _)

/-- What a run reads where more bytes follow, by what it read without them. -/
theorem Passes.begins {l stopped : Lexer} {tokens : List Lexeme} (passes : l.Passes tokens stopped)
    (complete : Bool) (more : Bytes) :
    Begins (stopped.position + stopped.rest.length) more tokens (l.extend complete more).run.1 ∧
      Lexeme.merge (l.extend complete more).run.1 =
        Lexeme.merge (tokens ++ (stopped.extend complete more).run.1) ∧
      (l.extend complete more).run.2 = (stopped.extend complete more).run.2 := by
  rcases passes.run_extend complete more with same | ⟨others, part, nonempty, plain, rfl, rfl, same⟩
  · rw [same]
    exact ⟨.same _ _, rfl, rfl⟩
  · obtain ⟨further, rest, inside, longer, merged, ended⟩ :=
      merge_run_text nonempty plain more complete part.position
    have stopped : (part.advance part.rest.length).extend complete more =
        Lexer.mk complete (part.position + part.rest.length) more := by
      simp [extend, advance]
    have reached : (part.advance part.rest.length).position +
        (part.advance part.rest.length).rest.length = part.position + part.rest.length := by
      simp [advance]
    have read : part.extend complete more = Lexer.mk complete part.position (part.rest ++ more) := rfl
    rw [same, stopped, read, reached]
    refine ⟨?_, ?_, ended⟩
    · rw [longer]
      exact .longer others rest part.rest further part.position inside
    · rw [List.append_assoc]
      exact Lexeme.merge_append others merged

/-- A run that stops at a fault stops there whatever follows. -/
theorem Passes.run_extend_fault {l stopped after : Lexer} {tokens : List Lexeme}
    {fault : LexicalFault} (passes : l.Passes tokens stopped) (going : stopped.complete = false)
    (stepped : stopped.step = (.fault fault, after)) (complete : Bool) (more : Bytes) :
    (l.extend complete more).run = (tokens, .fault fault, after.extend complete more) := by
  have still := run_of_stuck (step_extend_fault going stepped complete more) (by simp)
  rcases passes.run_extend complete more with same | ⟨others, part, _, _, rfl, _, _⟩
  · rw [same, still, List.append_nil]
  · simp [step, advance, scan] at stepped

/-- The tokens of a part stand at the start of those of the whole, and what is read anew from where the
part stopped is the rest of them. A fault of the part is the fault of the whole, and reading may be
tried again at the same place. Where no more bytes come, the part reads the same, but what is cut off
is a fault. -/
theorem run_continues {start : Bytes} {tokens : List Lexeme} {last : LexerStep} {after : Lexer}
    (ran : (ofPart start).run = (tokens, last, after)) :
    ∃ p, Lexes start 0 tokens p ∧ p ≤ start.length ∧
      ((∀ fault, last ≠ .fault fault) → after = ⟨false, p, start.drop p⟩) ∧
      (∀ (complete : Bool) (more : Bytes),
        let whole := (Lexer.mk complete 0 (start ++ more)).run
        let later := (Lexer.mk complete 0 (start.drop p ++ more)).run
        Begins start.length more tokens whole.1 ∧
          Lexeme.merge whole.1 = Lexeme.merge (tokens ++ later.1.map (·.forth p)) ∧
          whole.2 = (later.2.1.forth p, later.2.2.forth p) ∧
          ∀ fault, last = .fault fault →
            whole = (tokens, .fault fault, after.extend complete more)) ∧
      ∃ cause, (ofBytes start).run =
        (tokens, if last = .incomplete then .fault ⟨.unfinished cause, p⟩ else last,
          { after with complete := true }) := by
  obtain ⟨stopped, passes, ended, stuck⟩ := exists_passes (ofPart start)
  rw [ran] at passes ended
  have stepped : stopped.step = (last, after) := ended.symm
  rw [stepped] at stuck
  have whole : (ofPart start).Within start := ⟨Nat.zero_le _, rfl⟩
  obtain ⟨lexes, le, rest⟩ := passes.lexes whole
  obtain ⟨going, completed⟩ := passes.complete rfl
  refine ⟨stopped.position, lexes, le, ?_, ?_, ?_⟩
  · intro sound
    rw [eq_of_step stepped stuck sound, ← rest, ← going]
  · intro complete more whole later
    have here : stopped.extend complete more =
        (Lexer.mk complete 0 (start.drop stopped.position ++ more)).forth stopped.position := by
      rw [extend, rest, forth, Nat.zero_add]
    have reached : stopped.position + stopped.rest.length = start.length := by
      rw [rest, List.length_drop]
      omega
    obtain ⟨begins, merged, last_eq⟩ := passes.begins complete more
    rw [reached] at begins
    rw [here, run_forth] at merged last_eq
    refine ⟨begins, merged, last_eq, ?_⟩
    rintro fault rfl
    exact passes.run_extend_fault going stepped complete more
  · obtain ⟨_, cause, same⟩ := step_complete stepped going
    refine ⟨cause, ?_⟩
    have first := completed.run_eq
    rw [run_of_stuck same] at first
    · rw [List.append_nil] at first
      exact first
    · intro x
      split
      · simp
      · exact stuck x

/-- A tag that is cut in two: the part `t<a` of the markup `t<a>`. -/
theorem run_continues_of_cut_tag :
    (ofPart [0x74, 0x3c, 0x61]).run =
        ([⟨.text [0x74], 0, 1⟩], .incomplete, ⟨false, 1, [0x3c, 0x61]⟩) ∧
      ∃ p, Lexes [0x74, 0x3c, 0x61] 0 [⟨.text [0x74], 0, 1⟩] p ∧
        Begins 3 [0x3e] [⟨.text [0x74], 0, 1⟩] (Lexer.mk true 0 [0x74, 0x3c, 0x61, 0x3e]).run.1 ∧
        ∃ cause, (ofBytes [0x74, 0x3c, 0x61]).run =
          ([⟨.text [0x74], 0, 1⟩], .fault ⟨.unfinished cause, p⟩, ⟨true, 1, [0x3c, 0x61]⟩) := by
  have ran : (ofPart [0x74, 0x3c, 0x61]).run =
      ([⟨.text [0x74], 0, 1⟩], .incomplete, ⟨false, 1, [0x3c, 0x61]⟩) := by decide +kernel
  obtain ⟨p, lexes, _, _, extended, complete⟩ := run_continues ran
  exact ⟨ran, p, lexes, (extended true [0x3e]).1, complete⟩

end Lexer

end MarkupQuery
