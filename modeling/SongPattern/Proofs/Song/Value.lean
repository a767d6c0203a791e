import SongPattern.Proofs.Text.Blank
import SongPattern.Song.Value

namespace SongPattern

open Text (isBlank shows Tight)

namespace Number

/-- A text, and no blank in it. -/
def Solid (cs : List Char) : Prop := cs ≠ [] ∧ ∀ c ∈ cs, isBlank c = false

/-- The visible signs of ASCII. -/
theorem isBlank_of_range {c : Char} (low : 0x21 ≤ c.toNat) (high : c.toNat ≤ 0x7e) :
    isBlank c = false := by
  simp only [isBlank, Text.blanks, Unicode.CharSet.contains, Unicode.CharSet.member, List.any_cons,
    List.any_nil, Bool.or_false, Bool.or_eq_false_iff, Bool.and_eq_false_iff,
    decide_eq_false_iff_not]
  omega

theorem isBlank_of_isDigit {c : Char} (h : c.isDigit = true) : isBlank c = false := by
  simp only [Char.isDigit, Bool.and_eq_true, decide_eq_true_eq] at h
  have low : 48 ≤ c.toNat := h.1
  have high : c.toNat ≤ 57 := h.2
  exact isBlank_of_range (by omega) (by omega)

theorem solid_digits (n : Nat) : Solid (digits n) :=
  ⟨Nat.toDigits_ne_nil, fun _ hc =>
    isBlank_of_isDigit (Nat.isDigit_of_mem_toDigits (by decide) (by decide) hc)⟩

theorem no_blank_of_all {cs : List Char} (h : cs.all (fun c => !isBlank c) = true) :
    ∀ c ∈ cs, isBlank c = false := by
  simpa using h

theorem zeros_no_blank (count : Nat) : ∀ c ∈ zeros count, isBlank c = false := by
  intro c hc
  rw [List.eq_of_mem_replicate hc]
  decide

theorem minus_no_blank (negative : Bool) : ∀ c ∈ minus negative, isBlank c = false := by
  cases negative <;> exact no_blank_of_all (by decide)

theorem Solid.behind {cs before : List Char} (h : Solid cs) (hb : ∀ c ∈ before, isBlank c = false) :
    Solid (before ++ cs) :=
  ⟨List.append_ne_nil_of_right_ne_nil before h.1, List.forall_mem_append.mpr ⟨hb, h.2⟩⟩

theorem solid_padded (width : Nat) (n : Int) : Solid (padded width n).toList := by
  rw [padded]
  split
  · rw [String.toList_ofList, ← List.singleton_append]
    exact ((solid_digits _).behind (zeros_no_blank _)).behind (no_blank_of_all (by decide))
  · rw [String.toList_ofList]
    exact (solid_digits _).behind (zeros_no_blank _)

/-- There are more digits than places, so one stands in front of the point. -/
theorem solid_withPoint (places n : Nat) : Solid (withPoint places n) := by
  have solid : Solid (zeros (places + 1 - (digits n).length) ++ digits n) :=
    (solid_digits n).behind (zeros_no_blank _)
  have longer : places < (zeros (places + 1 - (digits n).length) ++ digits n).length := by
    simp only [zeros, List.length_append, List.length_replicate]
    omega
  simp only [withPoint]
  generalize zeros (places + 1 - (digits n).length) ++ digits n = ds at solid longer ⊢
  constructor
  · intro nothing
    have whole := (List.append_eq_nil_iff.mp nothing).1
    rw [List.take_eq_nil_iff] at whole
    rcases whole with none | none
    · omega
    · exact solid.1 none
  · rw [List.forall_mem_append]
    refine ⟨fun c hc => solid.2 c (List.mem_of_mem_take hc), ?_⟩
    split
    · exact nofun
    · rw [List.forall_mem_cons]
      exact ⟨by decide, fun c hc => solid.2 c (List.mem_of_mem_drop hc)⟩

theorem solid_twoPlaces (f : Float) : Solid (twoPlaces f).toList := by
  rw [twoPlaces]
  split
  · exact ⟨by decide, no_blank_of_all (by decide)⟩
  next negative _ =>
    rw [String.toList_ofList]
    have inf : Solid "inf".toList := ⟨by decide, no_blank_of_all (by decide)⟩
    exact inf.behind (minus_no_blank negative)
  · rw [String.toList_ofList]
    exact (solid_withPoint _ _).behind (minus_no_blank _)

end Number

theorem Value.solid_int (n : Int) : Number.Solid (Value.int n).display.toList :=
  Number.solid_padded 0 n

theorem Value.solid_float (f : Float) : Number.Solid (Value.float f).display.toList :=
  Number.solid_twoPlaces f

theorem Number.Solid.shows {s : String} (h : Number.Solid s.toList) : Text.shows s = true := by
  obtain ⟨c, hc⟩ := List.exists_mem_of_ne_nil _ h.1
  exact Text.shows_iff.mpr ⟨c, hc, h.2 c hc⟩

theorem Number.Solid.tight {cs : List Char} (h : Number.Solid cs) : Tight cs := fun c hc =>
  h.2 c (List.mem_of_mem_head? hc)

theorem Number.Solid.tightEnds {cs : List Char} (h : Number.Solid cs) : Text.TightEnds cs :=
  ⟨h.tight, fun c hc => h.2 c (List.mem_reverse.mp (List.mem_of_mem_head? hc))⟩

theorem Number.Solid.core {cs : List Char} (h : Number.Solid cs) : Text.Core cs :=
  ⟨h.1, h.tightEnds⟩

end SongPattern
