import Mathlib.Data.String.Basic
import SongPattern.Pattern.Token

namespace SongPattern.Pattern

/-- A token without its place. -/
abbrev Lexeme := TokenKind × String

def Token.lexeme (t : Token) : Lexeme := (t.kind, t.text)

namespace Lexeme

/-- A text is not empty; an operator has its own text. A finish is not written. -/
def Formed : Lexeme → Prop
  | (.text, s) => s ≠ ""
  | (.opening, s) => s = "<"
  | (.closing, s) => s = ">"
  | (.bar, s) => s = "|"
  | (.doubleBar, s) => s = "||"
  | (.finish, _) => False

def written : Lexeme → List Char
  | (.text, s) => escapeChars s.toList
  | (.opening, _) => ['<']
  | (.closing, _) => ['>']
  | (.bar, _) => ['|']
  | (.doubleBar, _) => ['|', '|']
  | (.finish, _) => []

end Lexeme

def writeLexemes (ls : List Lexeme) : List Char := ls.flatMap Lexeme.written

theorem writeLexemes_append (ls more : List Lexeme) :
    writeLexemes (ls ++ more) = writeLexemes ls ++ writeLexemes more := List.flatMap_append

theorem writeLexemes_cons (l : Lexeme) (ls : List Lexeme) :
    writeLexemes (l :: ls) = l.written ++ writeLexemes ls := List.flatMap_cons

/-- Two tokens that are not read as others when one is written right behind the other. -/
def Apart : TokenKind → TokenKind → Prop
  | .text, .text | .bar, .bar | .bar, .doubleBar => False
  | _, _ => True

/-- Tokens that can be told from how they are written. -/
def Spaced : List Lexeme → Prop
  | [] => True
  | l :: ls => l.Formed ∧ (∀ next ∈ ls.head?, Apart l.1 next.1) ∧ Spaced ls

/-- The lexemes of the tokens, with the finish that comes last. -/
def Finished (ls : List Lexeme) (ts : List Token) : Prop :=
  ts.map Token.lexeme = ls ++ [(.finish, "")]

theorem finish_not_formed {l : Lexeme} (h : l.Formed) : l.1 ≠ .finish := by
  rintro he
  obtain ⟨kind, s⟩ := l
  subst he
  exact h

theorem formed_of_spaced {ls : List Lexeme} (h : Spaced ls) : ∀ l ∈ ls, l.Formed := by
  induction ls with
  | nil => exact nofun
  | cons l ls ih =>
    rw [List.forall_mem_cons]
    exact ⟨h.1, ih h.2.2⟩

/-- What is read is what stands in front of the finish. -/
theorem takeWhile_of_finished {ls : List Lexeme} {ts : List Token} (h : Spaced ls)
    (hf : Finished ls ts) :
    (ts.takeWhile (·.kind ≠ .finish)).map Token.lexeme = ls := by
  have all : ∀ l ∈ ls, decide (l.1 ≠ .finish) = true := fun l hl =>
    decide_eq_true (finish_not_formed (formed_of_spaced h l hl))
  have whole := congrArg (List.takeWhile fun l => decide (l.1 ≠ .finish)) hf
  rw [List.takeWhile_append_of_pos all, List.takeWhile_map] at whole
  rw [List.takeWhile_cons_of_neg (by decide), List.append_nil] at whole
  exact whole

/-- What stands right behind a token of some kind is no part of it. -/
def Free : TokenKind → List Char → Prop
  | .text, rest => ∀ c ∈ rest.head?, c = '<' ∨ c = '>' ∨ c = '|'
  | .bar, rest => rest.head? ≠ some '|'
  | _, _ => True

theorem free_nil (kind : TokenKind) : Free kind [] := by
  cases kind <;> simp [Free]

/-- An operator is written as its own text, and that has no backslash. -/
theorem written_operator {l : Lexeme} (formed : l.Formed) (operator : l.1 ≠ .text) :
    l.written = l.2.toList ∧ '\\' ∉ l.written := by
  obtain ⟨kind, s⟩ := l
  cases kind with
  | text => exact absurd rfl operator
  | finish => exact formed.elim
  | _ =>
    cases formed
    decide

/-- A text stands apart from all that is no text. -/
theorem apart_text {kind : TokenKind} (h : kind ≠ .text) : Apart .text kind := by
  cases kind <;> trivial

/-- A token stands free of the next one where the two stand apart. -/
theorem free_written {kind : TokenKind} {l : Lexeme} (formed : l.Formed) (apart : Apart kind l.1)
    (rest : List Char) : Free kind (l.written ++ rest) := by
  obtain ⟨next, s⟩ := l
  cases kind with
  | text =>
    cases next with
    | text => exact apart.elim
    | finish => exact formed.elim
    | _ => simp [Free, Lexeme.written]
  | bar =>
    cases next with
    | text =>
      obtain ⟨c, cs, hc⟩ := List.exists_cons_of_ne_nil (mt String.toList_eq_nil_iff.mp formed)
      rw [Lexeme.written, hc, escapeChars]
      split
      · simp [Free]
      next plain =>
        simp only [isSpecial, Bool.or_eq_true, decide_eq_true_eq, not_or] at plain
        simpa [Free] using plain.2
    | bar => exact apart.elim
    | doubleBar => exact apart.elim
    | finish => exact formed.elim
    | _ => simp [Free, Lexeme.written]
  | _ => trivial

end SongPattern.Pattern
