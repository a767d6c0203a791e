import Mathlib.Data.List.Chain
import SongPattern.Proofs.Pattern.Scan

namespace SongPattern.Pattern

/-- What writing keeps of a token: the text of a text, and only the kind of any other. A token that
was read loses nothing. -/
def Lexeme.shown : Lexeme → Lexeme
  | (.text, s) => (.text, s)
  | (.opening, _) => (.opening, "<")
  | (.closing, _) => (.closing, ">")
  | (.bar, _) => (.bar, "|")
  | (.doubleBar, _) => (.doubleBar, "||")
  | (.finish, _) => (.finish, "")

/-- Tokens as they are written in a pattern. -/
def printTokens (ls : List Lexeme) : String := .ofList (writeLexemes ls)

/-- Tokens as they are read: the finish comes last and nowhere else, no text is empty or behind
another one, and no bar has bars right behind it. -/
structure Regular (ls : List Lexeme) : Prop where
  finished : ∃ front s, ls = front ++ [(.finish, s)] ∧ ∀ l ∈ front, l.1 ≠ .finish
  full : ∀ l ∈ ls, l.1 = .text → l.2 ≠ ""
  texts_apart : ls.IsChain fun l next => ¬(l.1 = .text ∧ next.1 = .text)
  bars_apart : ls.IsChain fun l next => ¬(l.1 = .bar ∧ (next.1 = .bar ∨ next.1 = .doubleBar))

theorem written_shown (l : Lexeme) : l.shown.written = l.written := by
  obtain ⟨kind, s⟩ := l
  cases kind <;> rfl

theorem writeLexemes_shown (ls : List Lexeme) :
    writeLexemes (ls.map Lexeme.shown) = writeLexemes ls := by
  rw [writeLexemes, List.flatMap_map, writeLexemes]
  exact List.flatMap_congr fun l _ => written_shown l

theorem kind_shown (l : Lexeme) : l.shown.1 = l.1 := by
  obtain ⟨kind, s⟩ := l
  cases kind <;> rfl

theorem formed_shown {l : Lexeme} (unfinished : l.1 ≠ .finish) (full : l.1 = .text → l.2 ≠ "") :
    l.shown.Formed := by
  obtain ⟨kind, s⟩ := l
  cases kind with
  | text => exact full rfl
  | finish => exact absurd rfl unfinished
  | _ => rfl

theorem shown_of_formed {l : Lexeme} (h : l.Formed) : l.shown = l := by
  obtain ⟨kind, s⟩ := l
  cases kind with
  | text => rfl
  | finish => exact h.elim
  | _ =>
    cases h
    rfl

theorem apart_iff {kind next : TokenKind} :
    Apart kind next ↔ ¬(kind = .text ∧ next = .text) ∧
      ¬(kind = .bar ∧ (next = .bar ∨ next = .doubleBar)) := by
  cases kind <;> cases next <;> simp [Apart]

theorem spaced_iff {ls : List Lexeme} :
    Spaced ls ↔ (∀ l ∈ ls, l.Formed) ∧ ls.IsChain fun l next => Apart l.1 next.1 := by
  induction ls with
  | nil => exact iff_of_true trivial ⟨nofun, .nil⟩
  | cons l ls ih =>
    rw [Spaced, ih, List.forall_mem_cons, List.isChain_cons]
    tauto

theorem isChain_and {α : Type} {R S : α → α → Prop} {xs : List α} :
    (xs.IsChain fun x y => R x y ∧ S x y) ↔ xs.IsChain R ∧ xs.IsChain S := by
  induction xs with
  | nil => simp
  | cons x xs ih =>
    rw [List.isChain_cons, List.isChain_cons, List.isChain_cons, ih]
    simp only [forall_and]
    tauto

/-- Behind any token a finish stands apart. -/
theorem isChain_finish {ls : List Lexeme} (s : String)
    (h : ls.IsChain fun l next => Apart l.1 next.1) :
    (ls ++ [((.finish, s) : Lexeme)]).IsChain fun l next => Apart l.1 next.1 := by
  refine h.append (List.isChain_singleton _) ?_
  rintro l _ next ⟨⟩
  cases l.1 <;> trivial

theorem regular_of_spaced {ls : List Lexeme} (h : Spaced ls) (s : String) :
    Regular (ls ++ [(.finish, s)]) := by
  obtain ⟨formed, apart⟩ := spaced_iff.mp h
  have parted := (isChain_finish s apart).imp fun _ _ => apart_iff.mp
  obtain ⟨texts, bars⟩ := isChain_and.mp parted
  refine ⟨⟨ls, s, rfl, fun l hl => finish_not_formed (formed l hl)⟩, ?_, texts, bars⟩
  rw [List.forall_mem_append, List.forall_mem_singleton]
  refine ⟨?_, nofun⟩
  rintro ⟨kind, t⟩ hl rfl
  exact formed _ hl

theorem Regular.spaced {front : List Lexeme} {s : String}
    (h : Regular (front ++ [(.finish, s)])) (unfinished : ∀ l ∈ front, l.1 ≠ .finish) :
    Spaced (front.map Lexeme.shown) := by
  have apart : front.IsChain fun l next => Apart l.1 next.1 :=
    (isChain_and.mpr ⟨h.texts_apart, h.bars_apart⟩).left_of_append.imp fun _ _ => apart_iff.mpr
  rw [spaced_iff, List.forall_mem_map, List.isChain_map]
  simp only [kind_shown]
  exact ⟨fun l hl => formed_shown (unfinished l hl) (h.full l (List.mem_append_left _ hl)), apart⟩

theorem regular_of_tokenize {source : String} {ts : List Token} (h : tokenize source = .ok ts) :
    Regular (ts.map Token.lexeme) ∧ ∀ t ∈ ts, t.lexeme.shown = t.lexeme := by
  obtain ⟨ls, spaced, finished⟩ := spaced_of_scan h
  constructor
  · rw [finished]
    exact regular_of_spaced spaced ""
  · have own : ∀ l ∈ ts.map Token.lexeme, l.shown = l := by
      rw [finished, List.forall_mem_append, List.forall_mem_singleton]
      exact ⟨fun l hl => shown_of_formed (formed_of_spaced spaced l hl), rfl⟩
    exact List.forall_mem_map.mp own

theorem tokenize_printTokens {ls : List Lexeme} (h : Regular ls) :
    ∃ ts, tokenize (printTokens ls) = .ok ts ∧ ts.map Token.lexeme = ls.map Lexeme.shown := by
  obtain ⟨front, s, rfl, unfinished⟩ := h.finished
  obtain ⟨ts, hts, finished⟩ := scan_writeLexemes (h.spaced unfinished) 0
  have written : writeLexemes (front ++ [(.finish, s)]) = writeLexemes front := by
    rw [writeLexemes, List.flatMap_append, ← writeLexemes]
    exact List.append_nil _
  refine ⟨ts, ?_, ?_⟩
  · rw [tokenize, printTokens, String.toList_ofList, written, ← writeLexemes_shown]
    exact hts
  · rw [finished, List.map_append]
    rfl

/-- The token lists that can be read are the regular ones, and each of them can be read from how it
is written. -/
theorem tokenize_regular :
    (∀ source ts, tokenize source = .ok ts →
      Regular (ts.map Token.lexeme) ∧ (∀ t ∈ ts, t.lexeme.shown = t.lexeme) ∧
      ∃ us, tokenize (printTokens (ts.map Token.lexeme)) = .ok us ∧
        us.map Token.lexeme = ts.map Token.lexeme) ∧
    (∀ ls, Regular ls → ∃ ts, tokenize (printTokens ls) = .ok ts ∧
      ts.map Token.lexeme = ls.map Lexeme.shown ∧
      ((∀ l ∈ ls, l.shown = l) → ts.map Token.lexeme = ls)) ∧
    ∀ s, s ≠ "" → ∃ ts, tokenize (escape s) = .ok ts ∧
      ts.map Token.lexeme = [(.text, s), (.finish, "")] := by
  have kept {ls : List Lexeme} (own : ∀ l ∈ ls, l.shown = l) : ls.map Lexeme.shown = ls :=
    (List.map_congr_left own).trans (List.map_id ls)
  refine ⟨?_, ?_, ?_⟩
  · intro source ts h
    obtain ⟨regular, own⟩ := regular_of_tokenize h
    obtain ⟨us, hus, same⟩ := tokenize_printTokens regular
    refine ⟨regular, own, us, hus, same.trans (kept ?_)⟩
    rwa [List.forall_mem_map]
  · intro ls h
    obtain ⟨ts, hts, same⟩ := tokenize_printTokens h
    exact ⟨ts, hts, same, fun own => same.trans (kept own)⟩
  · intro s full
    have spaced : Spaced [(.text, s)] := ⟨full, nofun, trivial⟩
    obtain ⟨ts, hts, same⟩ := tokenize_printTokens (regular_of_spaced spaced "")
    have escaped : printTokens ([(.text, s)] ++ [(.finish, "")]) = escape s :=
      congrArg String.ofList (List.append_nil (escapeChars s.toList))
    rw [escaped] at hts
    exact ⟨ts, hts, same⟩

/-- Texts that end in a backslash or hold bars and line breaks. -/
theorem tokenize_regular_bars :
    let ls : List Lexeme :=
      [(.text, "a\\"), (.bar, "|"), (.text, "\n|"), (.doubleBar, "||"), (.bar, "|"), (.finish, "")]
    Regular ls ∧ printTokens ls = "a\\\\|\n\\||||" ∧
      (∃ ts, tokenize "a\\\\|\n\\||||" = .ok ts ∧ ts.map Token.lexeme = ls ∧
        ∀ t ∈ ts, t.lexeme.shown = t.lexeme) ∧
      ∃ ts, tokenize "\n\\|" = .ok ts ∧ ts.map Token.lexeme = [(.text, "\n|"), (.finish, "")] := by
  intro ls
  have h : Regular ls := by
    refine ⟨⟨ls.dropLast, "", rfl, by decide⟩, by decide, ?_, ?_⟩
    all_goals
      simp only [ls, List.isChain_cons_cons]
      simp
  have printed : printTokens ls = "a\\\\|\n\\||||" := by decide +kernel
  have escaped : escape "\n|" = "\n\\|" := by decide +kernel
  obtain ⟨read, written, single⟩ := tokenize_regular
  obtain ⟨ts, hts, _, same⟩ := written ls h
  have own : ∀ t ∈ ts, t.lexeme.shown = t.lexeme := (read _ ts hts).2.1
  have text := single "\n|" (by decide)
  rw [printed] at hts
  rw [escaped] at text
  exact ⟨h, printed, ⟨ts, hts, same (by decide), own⟩, text⟩

end SongPattern.Pattern
