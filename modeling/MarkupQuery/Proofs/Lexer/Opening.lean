import MarkupQuery.Proofs.Lexer.Continuation

/-!
The elements that tokens leave open. Start tags open elements and end tags close them; other tokens, and how
text is cut into tokens, make no difference. Main statement: where markup is a whole number of tokens, so is
the markup with one more token after it, and this token alone is what the elements left open change by
(`Lexer.exists_run_concat`).
-/
namespace MarkupQuery

namespace Lexeme

/-- The start tags of the open elements, the innermost first, after one more token. An end tag must have the
name of the innermost one, which it closes. -/
def openAfter? (opened : List Lexeme) (x : Lexeme) : Option (List Lexeme) :=
  match x.token with
  | .startTag .. => some (x :: opened)
  | .endTag name =>
    match opened with
    | [] => none
    | innermost :: outer => if innermost.token.name? = some name then some outer else none
  | _ => some opened

/-- The start tags of the elements that tokens leave open, the innermost first. -/
def open? (lexemes : List Lexeme) : Option (List Lexeme) := lexemes.foldlM openAfter? []

theorem open?_concat (lexemes : List Lexeme) (x : Lexeme) :
    open? (lexemes ++ [x]) = (open? lexemes).bind (openAfter? · x) := by
  simp [open?, List.foldlM_append]

theorem foldlM_join (x : Lexeme) (others opened : List Lexeme) :
    (x.join others).foldlM openAfter? opened = (x :: others).foldlM openAfter? opened := by
  cases others with
  | nil => rfl
  | cons y others =>
    obtain ⟨first, p, q⟩ := x
    obtain ⟨second, r, s⟩ := y
    cases first with
    | text content => cases second <;> rfl
    | _ => rfl

/-- Joining pieces of text leaves the same elements open. -/
theorem open?_merge (lexemes : List Lexeme) : open? (merge lexemes) = open? lexemes := by
  unfold open?
  generalize ([] : List Lexeme) = opened
  induction lexemes generalizing opened with
  | nil => rfl
  | cons x others ih =>
    rw [merge_cons, foldlM_join, List.foldlM_cons, List.foldlM_cons]
    congr 1
    funext further
    exact ih further

end Lexeme

namespace Lexer

/-- Where a tag or another construct follows, the tokens of a part stay as they are. -/
theorem Passes.run_extend_angle {l stopped : Lexer} {tokens : List Lexeme}
    (passes : l.Passes tokens stopped) (complete : Bool) {more : Bytes}
    (angle : more.head? = some 0x3c) :
    (l.extend complete more).run =
      (tokens ++ (stopped.extend complete more).run.1, (stopped.extend complete more).run.2) := by
  rcases passes.run_extend complete more with same | ⟨others, part, nonempty, plain, rfl, rfl, same⟩
  · exact same
  · have stops : more.takeWhile (· != 0x3c) = [] := by
      cases more with
      | nil => rfl
      | cons b rest =>
        obtain rfl : b = 0x3c := by simpa using angle
        rfl
    have stopped : (part.advance part.rest.length).extend complete more =
        Lexer.mk complete (part.position + part.rest.length) more := by
      simp [extend, advance]
    have read : part.extend complete more = Lexer.mk complete part.position (part.rest ++ more) := rfl
    rw [same, stopped, read, run_text nonempty plain stops, List.append_assoc]
    rfl

/-- One more token after markup that is a whole number of tokens. -/
theorem exists_run_concat {read more : Bytes} {lexemes : List Lexeme} {last : Lexer} {token : Token}
    (ran : (ofBytes read).run = (lexemes, .finished, last))
    (found : scan more = .token token more.length) :
    ∃ longer after, (ofBytes (read ++ more)).run = (longer, .finished, after) ∧
      Lexeme.open? longer = (Lexeme.open? lexemes).bind
        (Lexeme.openAfter? · ⟨token, read.length, read.length + more.length⟩) ∧
      ((∀ content, token ≠ .text content) →
        longer = lexemes ++ [⟨token, read.length, read.length + more.length⟩]) := by
  obtain ⟨stopped, passes, ended, _⟩ := exists_passes (ofBytes read)
  obtain ⟨_, within, complete⟩ := passes.tiles (within_ofBytes read) rfl
  rw [ran] at passes ended
  have moves := within.moves complete
  rw [← ended] at moves
  have reached : stopped.position = read.length := by
    generalize shape : (LexerStep.finished, last) = step at moves
    cases moves with
    | finished here => exact here
    | lexeme => cases shape
    | fault => cases shape
  -- Nothing of the part is left, so what is read anew is the token alone.
  have start : stopped.extend true more = Lexer.mk true read.length more := by
    rw [extend, within.rest_eq, reached, List.drop_length, List.nil_append]
  have one : (Lexer.mk true read.length more).run =
      ([⟨token, read.length, read.length + more.length⟩], .finished,
        ⟨true, read.length + more.length, []⟩) := by
    rw [run_eq, step, found]
    dsimp only [advance]
    rw [List.drop_length, run_eq]
    rfl
  obtain ⟨_, merged, rest⟩ := passes.begins true more
  rw [start, one] at merged rest
  have whole : (ofBytes read).extend true more = ofBytes (read ++ more) := rfl
  rw [whole] at merged rest
  refine ⟨_, _, Prod.ext rfl rest, ?_, ?_⟩
  · rw [← Lexeme.open?_merge, merged, Lexeme.open?_merge, Lexeme.open?_concat]
  · intro markup
    have angle := Scan.head?_of_token found markup
    have extended := passes.run_extend_angle true angle
    rw [start, one, whole] at extended
    rw [extended]

end Lexer

end MarkupQuery
