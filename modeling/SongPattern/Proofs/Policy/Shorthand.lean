import SongPattern.Proofs.Policy.Markup
import SongPattern.Proofs.Text.Blank

namespace SongPattern.Policy

open Text (isBlank Tight takeWhile_append_stop)

variable {body? : List Char → Option (List Char)} {name blanks text body rest cs : List Char}

/-- The names of elements that may have attributes. -/
def linked : List String := ["a", "span"]

/-- The inside of a bracket that opens or closes an element, or that opens one with attributes. -/
inductive Shorthand : List Char → Prop where
  | element (closing : Bool) {name blanks : List Char} (known : String.ofList name ∈ elements)
      (blank : ∀ c ∈ blanks, isBlank c = true) :
      Shorthand ((if closing then ['/'] else []) ++ name ++ blanks)
  | attributes {name blanks text : List Char} (known : String.ofList name ∈ linked)
      (blank : ∀ c ∈ blanks, isBlank c = true) (apart : blanks ≠ [])
      (inside : ∀ c ∈ text, c ≠ '[' ∧ c ≠ ']' ∧ c ≠ '\n') : Shorthand (name ++ blanks ++ text)

/-- An element that may have attributes, with room for them but none there. -/
def Spaced (body : List Char) : Prop :=
  ∃ name blanks, String.ofList name ∈ linked ∧ (∀ c ∈ blanks, isBlank c = true) ∧
    blanks ≠ [] ∧ body = name ++ blanks

def bracketed (slashes : Nat) (body : List Char) : String :=
  .ofList (List.replicate slashes '\\' ++ '[' :: body ++ [']'])

def asElement (slashes : Nat) (body : List Char) : String :=
  .ofList (List.replicate slashes '\\' ++ '<' :: body ++ ['>'])

theorem expand_replicate (n slashes : Nat) (cs : List Char) :
    expand body? 0 slashes (List.replicate n '\\' ++ cs) = expand body? 0 (slashes + n) cs := by
  induction n generalizing slashes with
  | zero => rfl
  | succ n ih =>
    rw [List.replicate_succ, List.cons_append, expand, if_pos rfl, ih, Nat.add_right_comm]
    rfl

/-- What was taken for a bracket is passed over. -/
theorem expand_length_append (body? : List Char → Option (List Char)) (cs rest : List Char) :
    expand body? cs.length 0 (cs ++ rest) = expand body? 0 0 rest := by
  induction cs with
  | nil => rfl
  | cons c cs ih => exact ih

/-- Without a bracket nothing changes. -/
theorem expand_of_not_mem (h : '[' ∉ cs) (slashes : Nat) :
    expand body? 0 slashes cs = List.replicate slashes '\\' ++ cs := by
  induction cs generalizing slashes with
  | nil => rw [expand, List.append_nil]
  | cons c cs ih =>
    rw [List.mem_cons, not_or] at h
    rw [expand]
    split
    next slash =>
      rw [ih h.2, List.replicate_succ', List.append_assoc, slash]
      rfl
    · rw [if_neg (Ne.symm h.1), ih h.2]
      rfl

theorem expand_bracketed (slashes : Nat) (accepted : body? (body ++ [']']) = some body) :
    expand body? 0 0 (List.replicate slashes '\\' ++ '[' :: body ++ [']']) =
      bracket slashes body := by
  have behind := expand_length_append body? (body ++ [']']) []
  rw [List.append_nil, List.length_append] at behind
  rw [List.append_assoc, expand_replicate, Nat.zero_add, List.cons_append, expand,
    if_neg (by decide), if_pos rfl, accepted]
  exact (congrArg (bracket slashes body ++ ·) behind).trans (List.append_nil _)

theorem expand_refused (slashes : Nat) (refused : body? (body ++ [']']) = none)
    (h : '[' ∉ body) :
    expand body? 0 0 (List.replicate slashes '\\' ++ '[' :: body ++ [']']) =
      List.replicate slashes '\\' ++ '[' :: body ++ [']'] := by
  have behind : '[' ∉ body ++ [']'] := by simp [h]
  rw [List.append_assoc, expand_replicate, Nat.zero_add, List.cons_append, expand,
    if_neg (by decide), if_pos rfl, refused]
  exact congrArg (List.replicate slashes '\\' ++ '[' :: ·) (expand_of_not_mem behind 0)

theorem mem_names (known : String.ofList name ∈ elements) :
    name ∈ elements.map String.toList := by
  have listed := List.mem_map_of_mem (f := String.toList) known
  rwa [String.toList_ofList] at listed

theorem name_solid (known : String.ofList name ∈ elements) :
    ∀ c ∈ name, isBlank c = false ∧ c ≠ ']' := by
  have all : ∀ name ∈ elements.map String.toList,
      name.all (fun c => !isBlank c && c != ']') = true := by
    decide
  intro c hc
  have solid := List.all_eq_true.mp (all name (mem_names known)) c hc
  rwa [Bool.and_eq_true, Bool.not_eq_true', bne_iff_ne] at solid

theorem name_no_bracket (known : String.ofList name ∈ elements) : '[' ∉ name := by
  have all : ∀ name ∈ elements.map String.toList, '[' ∉ name := by decide
  exact all name (mem_names known)

theorem name_start (known : String.ofList name ∈ elements) :
    ∃ c cs, name = c :: cs ∧ c ≠ '/' := by
  have all : ∀ name ∈ elements.map String.toList, name ≠ [] ∧ name.head? ≠ some '/' := by decide
  obtain ⟨full, start⟩ := all name (mem_names known)
  obtain ⟨c, cs, rfl⟩ := List.exists_cons_of_ne_nil full
  exact ⟨c, cs, rfl, fun slash => start (congrArg some slash)⟩

theorem tight_close : Tight [']'] := by
  rintro c ⟨⟩
  decide

theorem known_of_linked (known : String.ofList name ∈ linked) :
    String.ofList name ∈ elements := by
  have all : ∀ s ∈ linked, s ∈ elements := by decide
  exact all _ known

/-- Both readers take a name and the blanks behind it off the text. -/
theorem reads_name (solid : ∀ c ∈ name, isBlank c = false ∧ c ≠ ']')
    (blank : ∀ c ∈ blanks, isBlank c = true) (tight : Tight rest)
    (apart : blanks = [] → rest.head? = some ']') :
    elementName (name ++ (blanks ++ rest)) = name ∧
      (blanks ++ rest).takeWhile isBlank = blanks := by
  refine ⟨takeWhile_append_stop ?_ ?_, takeWhile_append_stop blank tight⟩
  · intro c hc
    simp [solid c hc]
  · intro c hc
    cases blanks with
    | nil =>
      have closing : c = ']' := Option.some.inj (hc.symm.trans (apart rfl))
      simp [closing]
    | cons b blanks =>
      cases hc
      simp [blank]

theorem plainBody?_append (closing : Bool) (rest : List Char)
    (known : String.ofList name ∈ elements)
    (blank : ∀ c ∈ blanks, isBlank c = true) (tight : Tight rest)
    (apart : blanks = [] → rest.head? = some ']') :
    plainBody? ((if closing then ['/'] else []) ++ (name ++ (blanks ++ rest))) =
      if rest.head? = some ']' then some ((if closing then ['/'] else []) ++ name ++ blanks)
      else none := by
  obtain ⟨named, taken⟩ := reads_name (name_solid known) blank tight apart
  have lead : (if ((if closing then ['/'] else []) ++ (name ++ (blanks ++ rest))).head? = some '/'
      then ['/'] else []) = if closing then ['/'] else [] := by
    cases closing with
    | true => rfl
    | false =>
      obtain ⟨c, cs, rfl, start⟩ := name_start known
      exact if_neg fun slash => start (Option.some.inj slash)
  simp only [plainBody?, lead, List.drop_left, named, taken, known, decide_true, Bool.true_and,
    decide_eq_true_eq]

theorem attributeBody?_append (text : List Char) (solid : ∀ c ∈ name, isBlank c = false ∧ c ≠ ']')
    (blank : ∀ c ∈ blanks, isBlank c = true) (tight : Tight text)
    (inside : ∀ c ∈ text, c ≠ '[' ∧ c ≠ ']' ∧ c ≠ '\n')
    (apart : blanks = [] → text = []) :
    attributeBody? (name ++ (blanks ++ (text ++ [']']))) =
      if String.ofList name ∈ linked ∧ blanks ≠ [] then some (name ++ blanks ++ text)
      else none := by
  have stop : Tight (text ++ [']']) := by
    cases text with
    | nil => exact tight_close
    | cons c text => exact tight
  have closed : blanks = [] → (text ++ [']']).head? = some ']' := by
    intro none
    rw [apart none]
    rfl
  obtain ⟨named, taken⟩ := reads_name solid blank stop closed
  have line : (text ++ [']']).takeWhile (fun c => c ≠ ']' && c ≠ '\n') = text := by
    refine takeWhile_append_stop ?_ ?_
    · intro c hc
      simp [inside c hc]
    · rintro c ⟨⟩
      decide
  simp only [attributeBody?, List.drop_left, named, taken, line]
  simp [linked]

theorem Spaced.reads (h : Spaced body) :
    plainBody? (body ++ [']']) = some body ∧ attributeBody? (body ++ [']']) = some body := by
  obtain ⟨name, blanks, known, blank, apart, rfl⟩ := h
  have listed := known_of_linked known
  rw [List.append_assoc]
  constructor
  · exact plainBody?_append false _ listed blank tight_close fun _ => rfl
  · have read := attributeBody?_append [] (name_solid listed) blank nofun nofun fun _ => rfl
    rwa [if_pos ⟨known, apart⟩, List.append_nil] at read

/-- What the passes make of the inside of a bracket. Only where an element leaves room for
attributes do both of them accept it. -/
inductive Reading (body : List Char) : Prop where
  | plain (first : plainBody? (body ++ [']']) = some body)
      (second : attributeBody? (body ++ [']']) = none)
  | attributes (first : plainBody? (body ++ [']']) = none)
      (second : attributeBody? (body ++ [']']) = some body)
  | both (spaced : Spaced body)

theorem reading_element (closing : Bool) (known : String.ofList name ∈ elements)
    (blank : ∀ c ∈ blanks, isBlank c = true) :
    Reading ((if closing then ['/'] else []) ++ name ++ blanks) := by
  have first := plainBody?_append closing _ known blank tight_close fun _ => rfl
  simp only [List.head?_cons, if_true, ← List.append_assoc] at first
  cases closing with
  | true =>
    have slashed : ∀ c ∈ '/' :: name, isBlank c = false ∧ c ≠ ']' := by
      rw [List.forall_mem_cons]
      exact ⟨by decide, name_solid known⟩
    have other : String.ofList ('/' :: name) ∉ linked := by
      intro listed
      obtain ⟨c, cs, whole, start⟩ := name_start (known_of_linked listed)
      exact start (List.cons.inj whole).1.symm
    have second := attributeBody?_append [] slashed blank nofun nofun fun _ => rfl
    rw [if_neg fun both => other both.1, ← List.append_assoc] at second
    exact .plain first second
  | false =>
    have second := attributeBody?_append [] (name_solid known) blank nofun nofun fun _ => rfl
    by_cases spaced : String.ofList name ∈ linked ∧ blanks ≠ []
    · exact .both ⟨name, blanks, spaced.1, blank, spaced.2, rfl⟩
    · rw [if_neg spaced, ← List.append_assoc] at second
      exact .plain first second

theorem Shorthand.reading (h : Shorthand body) : Reading body := by
  cases h with
  | element closing known blank => exact reading_element closing known blank
  | @attributes name blanks text known blank apart inside =>
    have listed := known_of_linked known
    -- blanks at the start of the attributes are read with those before
    obtain ⟨more, rest, rfl, blankMore, tight⟩ : ∃ more rest, text = more ++ rest ∧
        (∀ c ∈ more, isBlank c = true) ∧ Tight rest :=
      ⟨_, _, List.takeWhile_append_dropWhile.symm, fun c hc => List.mem_takeWhile_imp hc,
        Text.tight_trimStart text⟩
    have wide : ∀ c ∈ blanks ++ more, isBlank c = true :=
      List.forall_mem_append.mpr ⟨blank, blankMore⟩
    have some : blanks ++ more ≠ [] := List.append_ne_nil_of_left_ne_nil apart more
    have whole : name ++ blanks ++ (more ++ rest) = name ++ (blanks ++ more) ++ rest := by
      simp only [List.append_assoc]
    rw [whole]
    cases rest with
    | nil =>
      rw [List.append_nil]
      exact .both ⟨name, blanks ++ more, known, wide, some, rfl⟩
    | cons c rest =>
      have here := (List.forall_mem_append.mp inside).2
      have second := attributeBody?_append (c :: rest) (name_solid listed) wide tight here
        fun none => absurd none some
      have going : ¬(c :: rest ++ [']']).head? = Option.some ']' := fun ends =>
        (here c List.mem_cons_self).2.1 (Option.some.inj ends)
      have first : plainBody? (name ++ ((blanks ++ more) ++ (c :: rest ++ [']']))) = none :=
        (plainBody?_append false (c :: rest ++ [']']) listed wide tight
          fun none => absurd none some).trans (if_neg going)
      rw [if_pos ⟨known, some⟩] at second
      refine .attributes ?_ ?_
      · simpa only [List.append_assoc] using first
      · simpa only [List.append_assoc] using second

theorem Shorthand.no_bracket (h : Shorthand body) : '[' ∉ body := by
  have gap {blanks : List Char} (blank : ∀ c ∈ blanks, isBlank c = true) : '[' ∉ blanks :=
    fun hc => absurd (blank _ hc) (by decide)
  cases h with
  | element closing known blank => cases closing <;> simp [name_no_bracket known, gap blank]
  | attributes known blank apart inside =>
    simp only [List.mem_append, not_or]
    exact ⟨⟨name_no_bracket (known_of_linked known), gap blank⟩, fun hc => (inside _ hc).1 rfl⟩

theorem bracket_even {slashes : Nat} (even : slashes % 2 = 0) (body : List Char) :
    bracket slashes body = List.replicate slashes '\\' ++ '<' :: body ++ ['>'] :=
  if_neg (by omega)

theorem bracket_odd {slashes : Nat} (odd : slashes % 2 = 1) (body : List Char) :
    bracket slashes body = List.replicate (slashes - 1) '\\' ++ '[' :: body ++ [']'] :=
  if_pos odd

/-- What has become an element is left alone. -/
theorem expand_bracket_even {slashes : Nat} (even : slashes % 2 = 0) (h : '[' ∉ body) :
    expand body? 0 0 (bracket slashes body) = bracket slashes body := by
  have none : '[' ∉ bracket slashes body := by
    rw [bracket_even even]
    simp [h]
  exact expand_of_not_mem none 0

theorem expandShorthand_bracketed (slashes : Nat) (body : List Char) :
    expandShorthand (bracketed slashes body) = .ofList (expand attributeBody? 0 0
      (expand plainBody? 0 0 (List.replicate slashes '\\' ++ '[' :: body ++ [']']))) := by
  rw [expandShorthand, bracketed, String.toList_ofList]

/-- A bracket that one of the passes does not know is left to the other. -/
theorem expandShorthand_of_not_spaced (slashes : Nat) (h : Shorthand body)
    (other : ¬Spaced body) :
    expandShorthand (bracketed slashes body) = .ofList (bracket slashes body) := by
  have single := h.no_bracket
  rw [expandShorthand_bracketed]
  cases h.reading with
  | plain first second =>
    rw [expand_bracketed slashes first]
    rcases Nat.mod_two_eq_zero_or_one slashes with even | odd
    · rw [expand_bracket_even even single]
    · rw [bracket_odd odd, expand_refused _ second single]
  | attributes first second =>
    rw [expand_refused slashes first single, expand_bracketed slashes second]
  | both spaced => exact absurd spaced other

/-- The second pass sees a bracket that the first one has stripped of its escape. -/
theorem expandShorthand_of_spaced (slashes : Nat) (h : Shorthand body) (spaced : Spaced body) :
    expandShorthand (bracketed slashes body) = asElement (slashes - slashes % 2) body := by
  have single := h.no_bracket
  obtain ⟨first, second⟩ := spaced.reads
  rw [expandShorthand_bracketed, expand_bracketed slashes first]
  rcases Nat.mod_two_eq_zero_or_one slashes with even | odd
  · rw [expand_bracket_even even single, bracket_even even, even, Nat.sub_zero]
    rfl
  · have less : (slashes - 1) % 2 = 0 := by omega
    rw [bracket_odd odd, expand_bracketed _ second, bracket_even less, odd]
    rfl

theorem asElement_ne_bracketed (slashes : Nat) (body : List Char) :
    asElement slashes body ≠ bracketed slashes body := by
  intro same
  have chars := String.ofList_injective same
  simp at chars

/-- A shorthand is expanded behind an even number of backslashes. An odd number escapes it and
loses one, but not where an element leaves room for attributes that it does not have: there both
passes count, and the second one finds an even number. -/
theorem literal_bracketed_iff (slashes : Nat) {body : List Char} (h : Shorthand body) :
    (markupShorthand.literal (bracketed slashes body) =
        (if slashes % 2 = 0 then asElement slashes body else bracketed (slashes - 1) body) ↔
      slashes % 2 = 0 ∨ ¬Spaced body) ∧
    (slashes % 2 = 1 → Spaced body →
      markupShorthand.literal (bracketed slashes body) = asElement (slashes - 1) body) := by
  have literal : markupShorthand.literal = expandShorthand := rfl
  rw [literal]
  by_cases spaced : Spaced body
  · rw [expandShorthand_of_spaced slashes h spaced]
    rcases Nat.mod_two_eq_zero_or_one slashes with even | odd
    · simp [even]
    · simp [odd, spaced, asElement_ne_bracketed]
  · rw [expandShorthand_of_not_spaced slashes h spaced, bracket]
    rcases Nat.mod_two_eq_zero_or_one slashes with even | odd
    · simp [even, asElement]
    · simp [odd, spaced, bracketed]

theorem literal_bracketed_span :
    Shorthand ['a', ' ', 'x'] ∧ ¬Spaced ['a', ' ', 'x'] ∧
      markupShorthand.literal "\\\\\\[a x]" = "\\\\[a x]" := by
  have body : Shorthand (['a'] ++ [' '] ++ ['x']) :=
    .attributes (by decide) (List.forall_mem_singleton.mpr (by decide)) (by decide)
      (List.forall_mem_singleton.mpr (by decide))
  have other : ¬Spaced ['a', ' ', 'x'] := by
    intro spaced
    exact absurd spaced.reads.1 (by decide)
  exact ⟨body, other, (literal_bracketed_iff 3 body).1.mpr (.inr other)⟩

/-- The escape is used up by the first pass, and the second one expands the bracket. -/
theorem literal_bracketed_escaped :
    Shorthand ['a', ' '] ∧ bracketed 1 ['a', ' '] = "\\[a ]" ∧
      bracketed 0 ['a', ' '] = "[a ]" ∧ markupShorthand.literal "\\[a ]" = "<a >" ∧
      markupShorthand.literal "\\\\\\[span ]" = "\\\\<span >" :=
  ⟨@Shorthand.element false ['a'] [' '] (by decide) (List.forall_mem_singleton.mpr (by decide)),
    by decide⟩

end SongPattern.Policy
