import SongPattern.Formatter

namespace SongPattern.Formatter

open Pattern (Node)

variable {pattern : String} {policy : Policy} {parser : QueryParser} {f : Formatter}

/-- The formatter of a pattern that was read as `nodes`. -/
def ofNodes (pattern : String) (policy : Policy) (parser : QueryParser) (nodes : List Node) :
    Formatter where
  pattern := pattern
  policy := policy
  scalar := (Program.compile .joined policy.literal parser nodes).program
  list := (Program.compile .listed policy.literal parser nodes).program
  tags := (Program.compile .joined policy.literal parser nodes).tags

/-- A formatter that renders the stand-in. -/
def checked (f : Formatter) : Except PatternError Formatter :=
  match f.format .standIn with
  | .ok _ => .ok f
  | .error cause => .error (.invalid f.pattern cause)

theorem checked_cases (g : Formatter) : g.checked = .ok g ∨
    ∃ cause, g.format .standIn = .error cause ∧
      g.checked = .error (.invalid g.pattern cause) := by
  rw [checked]
  cases g.format .standIn with
  | error cause => exact .inr ⟨cause, rfl, rfl⟩
  | ok s => exact .inl rfl

theorem checked_eq_ok_iff {g : Formatter} :
    g.checked = .ok f ↔ f = g ∧ ∃ s, g.format .standIn = .ok s := by
  rw [checked]
  cases g.format .standIn with
  | error cause =>
    constructor
    · intro h
      cases h
    · rintro ⟨_, s, h⟩
      cases h
  | ok s =>
    constructor
    · intro h
      cases h
      exact ⟨rfl, s, rfl⟩
    · rintro ⟨rfl, _⟩
      rfl

theorem build_eq (pattern : String) (policy : Policy) (parser : QueryParser) :
    build pattern policy parser = (Pattern.parse (policy.preprocess pattern)).bind fun nodes =>
      (ofNodes pattern policy parser nodes).checked := rfl

/-- A pattern that can be read is left to be tried. -/
theorem build_of_parse {nodes : List Node}
    (h : Pattern.parse (policy.preprocess pattern) = .ok nodes) (parser : QueryParser) :
    build pattern policy parser = (ofNodes pattern policy parser nodes).checked := by
  rw [build_eq, h]
  rfl

/-- A formatter is built just where the pattern can be read and the stand-in can be rendered. -/
theorem build_eq_ok_iff :
    build pattern policy parser = .ok f ↔
      ∃ nodes, Pattern.parse (policy.preprocess pattern) = .ok nodes ∧
        f = ofNodes pattern policy parser nodes ∧ ∃ s, f.format .standIn = .ok s := by
  rw [build_eq]
  cases Pattern.parse (policy.preprocess pattern) with
  | error e =>
    constructor
    · intro h
      cases h
    · rintro ⟨nodes, h, _⟩
      cases h
  | ok nodes =>
    simp only [Except.bind, Except.ok.injEq, exists_eq_left', checked_eq_ok_iff]
    refine and_congr_right ?_
    rintro rfl
    rfl

/-- Nothing that can be read is refused where the text is left as it is. -/
theorem build_plain {nodes : List Node} (h : Pattern.parse pattern = .ok nodes)
    (parser : QueryParser) :
    build pattern .plain parser = .ok (ofNodes pattern .plain parser nodes) :=
  build_eq_ok_iff.mpr ⟨nodes, h, rfl, _, rfl⟩

end SongPattern.Formatter
