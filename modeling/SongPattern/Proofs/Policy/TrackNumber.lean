import SongPattern.Proofs.Number.Padded
import SongPattern.Proofs.Policy.FilePath

namespace SongPattern.FilePath

open Number (digits padded readWord? zeros)
open Text (bytes isBlank)

/-- What stands between the slashes, without the blanks around it. -/
def numberTexts (value : String) : List String := (Text.split '/' value).map Text.trim

theorem numberTexts_eq (value : String) : numberTexts value =
    (Text.splitChars '/' value.toList).map fun cs =>
      .ofList (Text.trimEnd (Text.trimStart cs)) := by
  simp [numberTexts, Text.split, Text.trim, Function.comp_def]

theorem slash_not_mem_blanks {cs : List Char} (h : ∀ c ∈ cs, isBlank c = true) : '/' ∉ cs := by
  intro slash
  have blank := h '/' slash
  exact absurd blank (by decide)

/-- Only the first and the last text lose blanks when the whole is trimmed, and they are trimmed by
themselves anyway. -/
theorem numberTexts_trim (value : String) : numberTexts (Text.trim value) = numberTexts value := by
  obtain ⟨before, after, hb, ha, whole⟩ := Text.exists_padded value.toList
  rw [numberTexts_eq, numberTexts_eq, ← whole, Text.trim, String.toList_ofList]
  generalize Text.trimEnd (Text.trimStart value.toList) = core
  obtain ⟨first, rest, cut, cutBehind⟩ :=
    Text.splitChars_behind (slash_not_mem_blanks hb) (core ++ after)
  obtain ⟨front, last, cutCore, cutFront⟩ := Text.splitChars_append (slash_not_mem_blanks ha) core
  have start : (Text.splitChars '/' (before ++ (core ++ after))).map
      (fun cs => String.ofList (Text.trimEnd (Text.trimStart cs))) =
      (Text.splitChars '/' (core ++ after)).map
        fun cs => String.ofList (Text.trimEnd (Text.trimStart cs)) := by
    rw [cutBehind, cut, List.map_cons, List.map_cons, Text.trim_blank_start hb]
  rw [start, cutFront, cutCore]
  simp [Text.trim_blank_end ha]

theorem padNumber_track (value : String) : padNumber "tracknumber" value =
    ((numberTexts value)[0]?.bind readWord?).elim value (padded
      (((numberTexts value)[1]?.bind readWord?).elim 2 fun total =>
        max 2 (Number.text total).length)) := by
  have texts (i : Nat) : (numberTexts value)[i]?.bind readWord? =
      (Text.split '/' value)[i]?.bind fun part => readWord? (Text.trim part) := by
    rw [numberTexts, List.getElem?_map, Option.bind_map, Function.comp_def]
  rw [texts, texts, padNumber, List.head?_eq_getElem?]
  generalize (Text.split '/' value)[0]?.bind (fun part => readWord? (Text.trim part)) = number
  cases number with
  | none => rfl
  | some n => exact if_pos rfl

/-- A padded number has neither a separator nor a blank to lose. -/
theorem cleanValue_of_padded {p : Platform} {key value : String} {width : Nat} {n : Int}
    (h : padNumber key value = padded width n) : cleanValue p key value = padded width n := by
  have kept : (padded width n).toList.map
      (fun c => if c = p.separator || c = '\uff0f' then '_' else c) = (padded width n).toList := by
    have same : ∀ c ∈ (padded width n).toList,
        (if c = p.separator || c = '\uff0f' then '_' else c) = c := by
      intro c hc
      have other : c ≠ p.separator ∧ c ≠ '\uff0f' := by
        rcases Number.mem_padded hc with rfl | digit
        · exact ⟨(separator_ne p (by decide) (by decide)).symm, by decide⟩
        · have range := Number.digit_range digit
          refine ⟨(separator_ne p ?_ ?_).symm, ?_⟩
          all_goals
            rintro rfl
            exact absurd range (by decide)
      simp [other]
    rw [List.map_congr_left same, List.map_id']
  rw [cleanValue, h, kept, String.ofList_toList]
  exact Text.trim_eq_self_iff.mpr (Number.solid_padded width n).tightEnds

/-- A number in decimal, with or without zeros in front, and blanks around it. -/
def Spells (cs : List Char) (n : Nat) : Prop :=
  ∃ before count after, (∀ c ∈ before, isBlank c = true) ∧ (∀ c ∈ after, isBlank c = true) ∧
    cs = before ++ (zeros count ++ digits n ++ after)

/-- A track number and the number of all tracks, such as `3/12`. -/
def SpellsOf (value : String) (n total : Nat) : Prop :=
  ∃ front behind, Spells front n ∧ Spells behind total ∧ value.toList = front ++ '/' :: behind

variable {cs : List Char} {n total : Nat} {value : String}

theorem Spells.no_slash (h : Spells cs n) : '/' ∉ cs := by
  obtain ⟨before, count, after, hb, ha, rfl⟩ := h
  have inNumber : '/' ∉ zeros count ++ digits n := fun h =>
    absurd (Number.isDigit_numeral count n _ h) (by decide)
  rw [List.mem_append, List.mem_append, not_or, not_or]
  exact ⟨slash_not_mem_blanks hb, inNumber, slash_not_mem_blanks ha⟩

theorem Spells.reads (h : Spells cs n) (fits : n ≤ 0x7fffffffffffffff) :
    readWord? (Text.trim (.ofList cs)) = some (n : Int) := by
  obtain ⟨before, count, after, hb, ha, rfl⟩ := h
  have solid : Number.Solid (zeros count ++ digits n) :=
    (Number.solid_digits n).behind (Number.zeros_no_blank count)
  rw [Text.trim, String.toList_ofList, Text.trim_padded hb ha solid.core]
  exact Number.readWord?_numeral fits count

theorem SpellsOf.numberTexts_eq (h : SpellsOf value n total) :
    ∃ front behind, Spells front n ∧ Spells behind total ∧
      numberTexts value = [Text.trim (.ofList front), Text.trim (.ofList behind)] := by
  obtain ⟨front, behind, hf, hb, chars⟩ := h
  refine ⟨front, behind, hf, hb, ?_⟩
  have cut : Text.splitChars '/' (front ++ '/' :: behind) = [front, behind] := by
    rw [Text.splitChars_append_sep hf.no_slash, Text.splitChars_of_not_mem hb.no_slash]
  simp [numberTexts, Text.split, chars, cut]

theorem SpellsOf.padNumber_eq (h : SpellsOf value n total) (hn : n ≤ 0x7fffffffffffffff)
    (ht : total ≤ 0x7fffffffffffffff) :
    padNumber "tracknumber" value = padded (max 2 (Number.text total).length) n := by
  obtain ⟨front, behind, hf, hb, texts⟩ := h.numberTexts_eq
  rw [padNumber_track, texts]
  simp only [List.getElem?_cons_zero, List.getElem?_cons_succ, Option.bind_some, hf.reads hn,
    hb.reads ht, Option.elim_some]

/-- Tracks of one album are named by texts of the same length, from which their numbers can be read
again. Whatever else the names of their files hold, in the order of bytes they are sorted as the
tracks are. -/
theorem padNumber_ascending {n k total : Nat} {value value' : String} (less : n < k)
    (within : k ≤ total) (fits : total ≤ 0x7fffffffffffffff) (h : SpellsOf value n total)
    (h' : SpellsOf value' k total) :
    let first := padNumber "tracknumber" value
    let second := padNumber "tracknumber" value'
    first.length = second.length ∧ readWord? first = some (n : Int) ∧
      readWord? second = some (k : Int) ∧ bytes first < bytes second ∧
      ∀ (p : Platform) (front behind behind' : String),
        bytes (front ++ cleanValue p "tracknumber" value ++ behind) <
          bytes (front ++ cleanValue p "tracknumber" value' ++ behind') := by
  intro first second
  have first_eq : first = padded (max 2 (Number.text total).length) n :=
    h.padNumber_eq (by omega) fits
  have second_eq : second = padded (max 2 (Number.text total).length) k :=
    h'.padNumber_eq (by omega) fits
  have length : (padded (max 2 (Number.text total).length) n).length =
      (padded (max 2 (Number.text total).length) k).length := by
    have shorter := Number.length_text_mono (show n ≤ total by omega)
    have shorter' := Number.length_text_mono within
    rw [(Number.zeroPadded_padded _ _).2, (Number.zeroPadded_padded _ _).2]
    omega
  have ordered := Number.bytes_padded_lt less length
  refine ⟨?_, ?_, ?_, ?_, ?_⟩
  · rw [first_eq, second_eq, length]
  · rw [first_eq]
    exact Number.readWord?_padded (Number.fitsWord_of_le (by omega)) _
  · rw [second_eq]
    exact Number.readWord?_padded (Number.fitsWord_of_le (by omega)) _
  · rw [first_eq, second_eq]
    simpa using ordered "" "" ""
  · intro p front behind behind'
    rw [cleanValue_of_padded first_eq, cleanValue_of_padded second_eq]
    exact ordered front behind behind'

/-- The ninth and the tenth track of a hundred, their numbers written in different ways. -/
theorem padNumber_ascending_hundred :
    let first := padNumber "tracknumber" " 9/ 100"
    let second := padNumber "tracknumber" "010 /100"
    SpellsOf " 9/ 100" 9 100 ∧ SpellsOf "010 /100" 10 100 ∧ first = "009" ∧ second = "010" ∧
      first.length = second.length ∧ readWord? first = some 9 ∧ readWord? second = some 10 ∧
      bytes first < bytes second ∧
      bytes ("/" ++ cleanValue ⟨.unix, none⟩ "tracknumber" " 9/ 100" ++ " b") <
        bytes ("/" ++ cleanValue ⟨.unix, none⟩ "tracknumber" "010 /100" ++ " a") := by
  intro first second
  have blank : ∀ c ∈ [' '], isBlank c = true := List.forall_mem_singleton.mpr (by decide)
  have none : ∀ c ∈ [], isBlank c = true := List.forall_mem_nil _
  have nine : Spells [' ', '9'] 9 := ⟨[' '], 0, [], blank, none, by decide⟩
  have ten : Spells ['0', '1', '0', ' '] 10 := ⟨[], 1, [' '], none, blank, by decide⟩
  have hundred : Spells ['1', '0', '0'] 100 := ⟨[], 0, [], none, none, by decide⟩
  have hundred' : Spells [' ', '1', '0', '0'] 100 := ⟨[' '], 0, [], blank, none, by decide⟩
  have ninth : SpellsOf " 9/ 100" 9 100 := ⟨_, _, nine, hundred', by decide⟩
  have tenth : SpellsOf "010 /100" 10 100 := ⟨_, _, ten, hundred, by decide⟩
  have padded : first = "009" ∧ second = "010" := by decide +kernel
  obtain ⟨length, reads, reads', order, names⟩ :=
    padNumber_ascending (by decide) (by decide) (by decide) ninth tenth
  exact ⟨ninth, tenth, padded.1, padded.2, length, reads, reads', order,
    names ⟨.unix, .none⟩ "/" " b" " a"⟩

end SongPattern.FilePath
