import Mathlib.Data.List.DropRight
import SongPattern.Proofs.Text.Pieces
import SongPattern.Text.Blank

namespace SongPattern.Text

/-- Something other than blanks. -/
def shows (s : String) : Bool := s.toList.any fun c => !isBlank c

/-- Something other than line breaks, so that one of its lines is not empty. -/
def hasLine (s : String) : Bool := s.toList.any fun c => c ≠ '\n'

theorem shows_iff {s : String} : shows s = true ↔ ∃ c ∈ s.toList, isBlank c = false := by
  simp [shows]

theorem hasLine_iff {s : String} : hasLine s = true ↔ ∃ c ∈ s.toList, c ≠ '\n' := by
  simp [hasLine]

theorem ne_line_break {c : Char} (h : isBlank c = false) : c ≠ '\n' := by
  rintro rfl
  exact absurd h (by decide)

theorem hasLine_of_shows {s : String} (h : shows s = true) : hasLine s = true := by
  obtain ⟨c, hc, solid⟩ := shows_iff.mp h
  exact hasLine_iff.mpr ⟨c, hc, ne_line_break solid⟩

theorem ne_empty_of_hasLine {s : String} (h : hasLine s = true) : s ≠ "" := by
  rintro rfl
  cases h

theorem all_blank_trimStart {cs : List Char} :
    (∀ c ∈ trimStart cs, isBlank c = true) ↔ ∀ c ∈ cs, isBlank c = true := by
  constructor
  · intro h c hc
    rw [← List.takeWhile_append_dropWhile (p := isBlank) (l := cs), List.mem_append] at hc
    rcases hc with hc | hc
    · exact List.mem_takeWhile_imp hc
    · exact h c hc
  · exact fun h c hc => h c ((List.dropWhile_sublist _).subset hc)

theorem mem_of_mem_trim {c : Char} {s : String} (h : c ∈ (trim s).toList) : c ∈ s.toList := by
  rw [trim, String.toList_ofList, trimEnd, List.mem_reverse] at h
  have inStart := (List.dropWhile_sublist _).subset h
  exact (List.dropWhile_sublist _).subset (List.mem_reverse.mp inStart)

/-- Nothing is left just where there were blanks alone. -/
theorem trim_ne_empty_iff {s : String} : trim s ≠ "" ↔ shows s = true := by
  have nothing : trim s = "" ↔ ∀ c ∈ s.toList, isBlank c = true := by
    rw [trim, String.ofList_eq_empty_iff, trimEnd, List.reverse_eq_nil_iff,
      List.dropWhile_eq_nil_iff]
    simp only [List.mem_reverse]
    exact all_blank_trimStart
  rw [Ne, nothing, shows_iff]
  simp

/-- The first character is no blank, if there is one. -/
def Tight (cs : List Char) : Prop := ∀ c ∈ cs.head?, isBlank c = false

theorem Tight.nil : Tight [] := fun _ hc => absurd hc (by simp)

theorem Tight.shows {s : String} (h : Tight s.toList) (full : s ≠ "") : shows s = true := by
  obtain ⟨c, cs, hs⟩ := List.exists_cons_of_ne_nil (mt String.toList_eq_nil_iff.mp full)
  rw [hs] at h
  exact shows_iff.mpr ⟨c, by simp [hs], h c rfl⟩

theorem Tight.of_start {cs start : List Char} (h : Tight cs) (hs : start <+: cs) : Tight start := by
  obtain ⟨rest, rfl⟩ := hs
  cases start with
  | nil => exact Tight.nil
  | cons c start => exact h

theorem Tight.append {cs more : List Char} (h : Tight cs) (some : cs ≠ []) :
    Tight (cs ++ more) := by
  cases cs with
  | nil => exact absurd rfl some
  | cons c cs => exact h

theorem tight_trimStart (cs : List Char) : Tight (trimStart cs) := by
  intro c hc
  have first := List.head?_dropWhile_not isBlank cs
  rw [trimStart, Option.mem_def] at hc
  rw [hc] at first
  exact first

theorem tight_trim (s : String) : Tight (trim s).toList := by
  rw [trim, String.toList_ofList]
  exact (tight_trimStart s.toList).of_start (List.rdropWhile_prefix _ _)

theorem tight_of_trim {s : String} (h : trim s = s) : Tight s.toList := h ▸ tight_trim s

theorem trimStart_of_tight {cs : List Char} (h : Tight cs) : trimStart cs = cs := by
  cases cs with
  | nil => rfl
  | cons c cs => rw [trimStart, List.dropWhile_cons_of_neg (Bool.eq_false_iff.mp (h c rfl))]

theorem reverse_trimEnd (cs : List Char) : (trimEnd cs).reverse = trimStart cs.reverse :=
  List.reverse_reverse _

/-- Neither end is a blank. -/
def TightEnds (cs : List Char) : Prop := Tight cs ∧ Tight cs.reverse

theorem trim_eq_self_iff {s : String} : trim s = s ↔ TightEnds s.toList := by
  constructor
  · intro h
    refine ⟨tight_of_trim h, ?_⟩
    have chars := congrArg String.toList h
    rw [trim, String.toList_ofList] at chars
    rw [← chars, reverse_trimEnd]
    exact tight_trimStart _
  · rintro ⟨start, ends⟩
    have behind := congrArg List.reverse (reverse_trimEnd s.toList)
    rw [trimStart_of_tight ends, List.reverse_reverse, List.reverse_reverse] at behind
    rw [trim, trimStart_of_tight start, behind, String.ofList_toList]

section Padding

variable {before cs after before' cs' after' : List Char}

/-- Something is there, and neither end of it is a blank. -/
structure Core (cs : List Char) : Prop where
  full : cs ≠ []
  tight : TightEnds cs

theorem Core.tight_append (h : Core cs) (after : List Char) : Tight (cs ++ after) :=
  h.tight.1.append h.full

theorem trimStart_padded (hb : ∀ c ∈ before, isBlank c = true) (h : Core cs) :
    trimStart (before ++ (cs ++ after)) = cs ++ after := by
  rw [trimStart, List.dropWhile_append_of_pos hb]
  exact trimStart_of_tight (h.tight_append after)

/-- All blanks around a text are dropped. -/
theorem trim_padded (hb : ∀ c ∈ before, isBlank c = true) (ha : ∀ c ∈ after, isBlank c = true)
    (h : Core cs) : trimEnd (trimStart (before ++ (cs ++ after))) = cs := by
  have blank : ∀ c ∈ after.reverse, isBlank c = true := fun c hc => ha c (List.mem_reverse.mp hc)
  have ends : (trimEnd (cs ++ after)).reverse = cs.reverse := by
    rw [reverse_trimEnd, List.reverse_append, trimStart, List.dropWhile_append_of_pos blank]
    exact trimStart_of_tight h.tight.2
  rw [trimStart_padded hb h, List.reverse_inj.mp ends]

/-- What was trimmed away was blank. -/
theorem exists_padded (cs : List Char) : ∃ before after, (∀ c ∈ before, isBlank c = true) ∧
    (∀ c ∈ after, isBlank c = true) ∧ before ++ (trimEnd (trimStart cs) ++ after) = cs := by
  refine ⟨cs.takeWhile isBlank, (trimStart cs).rtakeWhile isBlank,
    fun c hc => List.mem_takeWhile_imp hc, fun c hc => List.mem_rtakeWhile_imp hc, ?_⟩
  have ends : trimEnd (trimStart cs) ++ (trimStart cs).rtakeWhile isBlank = trimStart cs :=
    List.rdropWhile_append_rtakeWhile
  rw [ends]
  exact List.takeWhile_append_dropWhile

/-- More blanks at an end make no difference. -/
theorem trim_blank_start (hb : ∀ c ∈ before, isBlank c = true) (cs : List Char) :
    trimStart (before ++ cs) = trimStart cs := List.dropWhile_append_of_pos hb

theorem trim_blank_end (ha : ∀ c ∈ after, isBlank c = true) (cs : List Char) :
    trimEnd (trimStart (cs ++ after)) = trimEnd (trimStart cs) := by
  have blank : ∀ c ∈ after.reverse, isBlank c = true := fun c hc => ha c (List.mem_reverse.mp hc)
  rw [trimStart, List.dropWhile_append]
  split
  next none =>
    have rest : after.dropWhile isBlank = [] := List.dropWhile_eq_nil_iff.mpr ha
    rw [rest, trimStart, List.isEmpty_iff.mp none]
  · rw [trimEnd, List.reverse_append, List.dropWhile_append_of_pos blank]
    rfl

/-- A text is found again between the blanks around it. -/
theorem padded_inj (hb : ∀ c ∈ before, isBlank c = true) (ha : ∀ c ∈ after, isBlank c = true)
    (h : Core cs) (hb' : ∀ c ∈ before', isBlank c = true) (ha' : ∀ c ∈ after', isBlank c = true)
    (h' : Core cs') (same : before ++ (cs ++ after) = before' ++ (cs' ++ after')) :
    before = before' ∧ cs = cs' ∧ after = after' := by
  have middle := congrArg (trimEnd ∘ trimStart) same
  simp only [Function.comp, trim_padded hb ha h, trim_padded hb' ha' h'] at middle
  subst middle
  have front := congrArg (List.takeWhile isBlank) same
  rw [takeWhile_append_stop hb (h.tight_append after),
    takeWhile_append_stop hb' (h.tight_append after')] at front
  subst front
  exact ⟨rfl, rfl, List.append_cancel_left (List.append_cancel_left same)⟩

end Padding

end SongPattern.Text
