import SongPattern.Proofs.Formatter.Build
import SongPattern.Proofs.Pattern.Scan
import SongPattern.Proofs.Policy.Opening

namespace SongPattern

namespace Pattern

/-- Operators have the brackets and bars, and texts have the backslashes. -/
def Token.Parted (t : Token) : Prop :=
  (t.kind = .text → '<' ∉ t.text.toList ∧ '>' ∉ t.text.toList ∧ '|' ∉ t.text.toList) ∧
    (t.kind ≠ .text → '\\' ∉ t.text.toList)

/-- The source is read, and as tokens that spell `cs`. -/
def ReadsAs (source : List Char) (position : Nat) (cs : List Char) : Prop :=
  ∃ ts, scan position source = .ok ts ∧ concat (ts.map Token.text) = .ofList cs ∧
    ∀ t ∈ ts, t.Parted

def doubled (cs : List Char) : List Char :=
  cs.flatMap fun c => if c = '\\' then ['\\', '\\'] else [c]

variable {c : Char} {cs : List Char} {kind : TokenKind}

theorem doubled_append (cs ds : List Char) : doubled (cs ++ ds) = doubled cs ++ doubled ds :=
  List.flatMap_append

theorem doubled_of_not_mem (h : '\\' ∉ cs) : doubled cs = cs := by
  induction cs with
  | nil => rfl
  | cons c cs ih =>
    simp only [List.mem_cons, not_or] at h
    have first : doubled (c :: cs) = c :: doubled cs := by
      simp [doubled, Ne.symm h.1]
    rw [first, ih h.2]

theorem head?_doubled (cs : List Char) : (doubled cs).head? = cs.head? := by
  cases cs with
  | nil => rfl
  | cons c cs =>
    by_cases slash : c = '\\' <;> simp [doubled, slash]

theorem free_doubled (h : Free kind cs) : Free kind (doubled cs) := by
  cases kind with
  | text => simpa only [Free, head?_doubled] using h
  | bar => simpa only [Free, head?_doubled] using h
  | _ => trivial

theorem concat_prepend (position : Nat) (cs : List Char) (ts : List Token) :
    concat ((prepend position cs ts).map Token.text) =
      .ofList cs ++ concat (ts.map Token.text) := by
  cases ts with
  | nil => simp [prepend, concat]
  | cons t ts =>
    rw [prepend]
    split <;> simp [concat, String.append_assoc]

theorem parted_prepend {position : Nat} {ts : List Token}
    (plain : c ≠ '<' ∧ c ≠ '>' ∧ c ≠ '|') (h : ∀ t ∈ ts, t.Parted) :
    ∀ t ∈ prepend position [c] ts, t.Parted := by
  obtain ⟨left, right, bar⟩ := plain
  have alone : (⟨.text, .ofList [c], position⟩ : Token).Parted := by
    simp [Token.Parted, Ne.symm left, Ne.symm right, Ne.symm bar]
  cases ts with
  | nil => simpa [prepend] using alone
  | cons t ts =>
    obtain ⟨first, rest⟩ := List.forall_mem_cons.mp h
    rw [prepend]
    split
    next text =>
      have joined := first.1 text
      rw [List.forall_mem_cons]
      refine ⟨?_, rest⟩
      simp [Token.Parted, joined, Ne.symm left, Ne.symm right, Ne.symm bar]
    next other =>
      rw [List.forall_mem_cons]
      exact ⟨alone, h⟩

/-- A character that starts no operator is read as it stands, and a backslash from two of them. -/
theorem readsAs_char (plain : c ≠ '<' ∧ c ≠ '>' ∧ c ≠ '|') {position : Nat}
    (h : ∀ position, ReadsAs (doubled cs) position cs) :
    ReadsAs (doubled (c :: cs)) position (c :: cs) := by
  have written : doubled (c :: cs) = escapeChars [c] ++ doubled cs := by
    by_cases slash : c = '\\' <;> simp [doubled, escapeChars, isSpecial, slash, plain]
  obtain ⟨ts, scanned, spelled, parted⟩ := h (position + String.utf8Len (escapeChars [c]))
  refine ⟨prepend position [c] ts, ?_, ?_, parted_prepend plain parted⟩
  · rw [written, scan_escaped, scanned]
    rfl
  · rw [concat_prepend, spelled, ← String.ofList_append]
    rfl

/-- An operator is read as such. -/
theorem readsAs_operator {l : Lexeme} (formed : l.Formed) (operator : l.1 ≠ .text)
    (free : Free l.1 cs) {position : Nat} (h : ∀ position, ReadsAs (doubled cs) position cs) :
    ReadsAs (doubled (l.2.toList ++ cs)) position (l.2.toList ++ cs) := by
  obtain ⟨own, bare⟩ := written_operator formed operator
  rw [own] at bare
  have written : doubled (l.2.toList ++ cs) = l.written ++ doubled cs := by
    rw [doubled_append, doubled_of_not_mem bare, own]
  obtain ⟨ts, scanned, spelled, parted⟩ := h (position + String.utf8Len l.written)
  refine ⟨⟨l.1, l.2, position⟩ :: ts, ?_, ?_, ?_⟩
  · rw [written, scan_written formed (free_doubled free), scanned]
    rfl
  · have step : concat ((⟨l.1, l.2, position⟩ :: ts : List Token).map Token.text) =
        l.2 ++ concat (ts.map Token.text) := rfl
    rw [step, spelled, String.ofList_append, String.ofList_toList]
  · rw [List.forall_mem_cons]
    exact ⟨⟨fun text => absurd text operator, fun _ => bare⟩, parted⟩

theorem exists_operator (h : c = '<' ∨ c = '>' ∨ c = '|') (cs : List Char) :
    ∃ (l : Lexeme) (rest : List Char), c :: cs = l.2.toList ++ rest ∧ l.Formed ∧ l.1 ≠ .text ∧
      Free l.1 rest ∧ rest.length ≤ cs.length := by
  rcases h with left | right | bar
  · exact ⟨(.opening, "<"), cs, by simp [left], rfl, nofun, trivial, Nat.le_refl _⟩
  · exact ⟨(.closing, ">"), cs, by simp [right], rfl, nofun, trivial, Nat.le_refl _⟩
  · by_cases double : cs.head? = some '|'
    · obtain ⟨rest, same⟩ := List.head?_eq_some_iff.mp double
      exact ⟨(.doubleBar, "||"), rest, by simp [bar, same], rfl, nofun, trivial, by simp [same]⟩
    · exact ⟨(.bar, "|"), cs, by simp [bar], rfl, nofun, double, Nat.le_refl _⟩

/-- Two bars are read together, so the induction is on the length. -/
theorem readsAs_doubled (cs : List Char) (position : Nat) :
    ReadsAs (doubled cs) position cs := by
  induction hn : cs.length using Nat.strongRecOn generalizing cs position with
  | ind n ih =>
    cases cs with
    | nil =>
      refine ⟨[⟨.finish, "", position⟩], rfl, rfl, ?_⟩
      simp [Token.Parted]
    | cons c cs =>
      simp only [List.length_cons] at hn
      by_cases operator : c = '<' ∨ c = '>' ∨ c = '|'
      · obtain ⟨l, rest, whole, formed, kind, free, shorter⟩ := exists_operator operator cs
        have behind (position : Nat) : ReadsAs (doubled rest) position rest :=
          ih rest.length (by omega) rest position rfl
        rw [whole]
        exact readsAs_operator formed kind free behind
      · simp only [not_or] at operator
        have behind (position : Nat) : ReadsAs (doubled cs) position cs :=
          ih cs.length (by omega) cs position rfl
        exact readsAs_char operator behind

theorem tokenize_doubleBackslashes (pattern : String) :
    ∃ ts, tokenize (FilePath.doubleBackslashes pattern) = .ok ts ∧
      concat (ts.map Token.text) = pattern ∧ ∀ t ∈ ts, t.Parted := by
  have source : (FilePath.doubleBackslashes pattern).toList = doubled pattern.toList :=
    String.toList_ofList
  obtain ⟨ts, scanned, spelled, parted⟩ := readsAs_doubled pattern.toList 0
  rw [String.ofList_toList] at spelled
  refine ⟨ts, ?_, spelled, parted⟩
  rw [tokenize, source, scanned]

end Pattern

namespace Formatter

/-- On Windows every pattern can be read, and what is read spells it: its backslashes are text and
its brackets and bars are operators. A formatter can only be refused for the path of the
stand-in. -/
theorem build_windows (keep : Bool) (options : PathOptions) (home : Option String)
    (pattern : String) :
    let policy := Policy.filePath keep options ⟨.windows, home⟩
    (∃ ts, Pattern.tokenize (policy.preprocess pattern) = .ok ts ∧
        concat (ts.map Pattern.Token.text) = pattern ∧ ∀ t ∈ ts, t.Parted) ∧
      ∀ parser, (∃ f, build pattern policy parser = .ok f) ∨
        ∃ path, build pattern policy parser = .error (.invalid pattern (.notRooted path)) := by
  intro policy
  have read := Pattern.tokenize_doubleBackslashes pattern
  refine ⟨read, ?_⟩
  intro parser
  obtain ⟨ts, tokens, -, -⟩ := read
  have parsed : Pattern.parse (policy.preprocess pattern) = .ok (Pattern.parseTokens ts) :=
    congrArg (Except.map Pattern.parseTokens) tokens
  have built := build_of_parse parsed parser
  rcases checked_cases (ofNodes pattern policy parser (Pattern.parseTokens ts)) with
    accepted | ⟨cause, failed, refused⟩
  · exact .inl ⟨_, built.trans accepted⟩
  · obtain ⟨path, same⟩ := FilePath.notRooted_of_finish failed
    rw [same] at refused
    exact .inr ⟨path, built.trans refused⟩

/-- Backslashes in front of a line break, of an operator and of nothing. -/
example : (Pattern.tokenize (FilePath.doubleBackslashes "C:\\\n\\|<\\")).map
    (·.map Pattern.Token.text) = .ok ["C:\\\n\\", "|", "<", "\\", ""] := by decide +kernel

end Formatter

end SongPattern
