import SongPattern.Proofs.Policy.Markup
import SongPattern.Proofs.Policy.Url
import SongPattern.Proofs.Text.Bytes

namespace SongPattern.Policy

open Text (bytes)

variable {mark c : Char} {behind : List Char → Prop} {cs : List Char} {b : UInt8}

/-- Wherever `mark` stands, what comes behind it is as `behind` says. -/
def AtEach (mark : Char) (behind : List Char → Prop) (cs : List Char) : Prop :=
  ∀ rest, mark :: rest <:+ cs → behind rest

theorem atEach_nil : AtEach mark behind [] := by
  intro rest h
  cases List.suffix_nil.mp h

theorem atEach_cons : AtEach mark behind (c :: cs) ↔
    (c = mark → behind cs) ∧ AtEach mark behind cs := by
  constructor
  · intro h
    constructor
    · intro same
      exact h cs (same ▸ List.suffix_refl _)
    · exact fun rest later => h rest (List.suffix_cons_iff.mpr (.inr later))
  · intro h rest found
    cases List.suffix_cons_iff.mp found with
    | inl whole =>
      cases whole
      exact h.1 rfl
    | inr later => exact h.2 rest later

theorem atEach_append {written : List Char} (unmarked : mark ∉ written)
    (later : AtEach mark behind cs) : AtEach mark behind (written ++ cs) := by
  induction written with
  | nil => exact later
  | cons c written ih =>
    rw [List.mem_cons, not_or] at unmarked
    exact atEach_cons.mpr ⟨fun same => absurd same.symm unmarked.1, ih unmarked.2⟩

/-- The value of a hexadecimal digit, in upper or lower case. -/
def hexValue? (c : Char) : Option Nat :=
  if c.isDigit then some (c.toNat - 48)
  else if 'A' ≤ c ∧ c ≤ 'F' then some (c.toNat - 55)
  else if 'a' ≤ c ∧ c ≤ 'f' then some (c.toNat - 87)
  else none

/-- A plus stands for a space and a percent sign with two digits for a byte. Any other character
stands for itself; a percent sign without digits is refused. -/
def formBytes? : List Char → Option (List UInt8)
  | [] => some []
  | '%' :: x :: y :: cs => do
    let high ← hexValue? x
    let low ← hexValue? y
    return UInt8.ofNat (16 * high + low) :: (← formBytes? cs)
  | c :: cs =>
    if c = '%' then none
    else if c = '+' then (formBytes? cs).map (32 :: ·)
    else (formBytes? cs).map (String.utf8EncodeChar c ++ ·)

/-- Reads a form-encoded text, whose bytes have to be UTF-8. -/
def formDecode? (s : String) : Option String :=
  (formBytes? s.toList).bind fun decoded => String.fromUTF8? decoded.toByteArray

def isUpperHex (c : Char) : Bool := c.isDigit || ('A' ≤ c && c ≤ 'F')

/-- A letter or digit of ASCII, or one of six signs. -/
def isFormChar (c : Char) : Bool := c.isAlphanum || "_.-~+%".toList.contains c

/-- Two hexadecimal digits, their letters in upper case. -/
def StartsHex (cs : List Char) : Prop :=
  ∃ x y rest, cs = x :: y :: rest ∧ isUpperHex x = true ∧ isUpperHex y = true

theorem hexDigit_spec : ∀ n < 16, hexValue? (hexDigit n) = some n ∧
    isUpperHex (hexDigit n) = true ∧ isFormChar (hexDigit n) = true ∧ hexDigit n ≠ '%' := by
  decide +kernel

/-- The three ways to write a byte. -/
inductive Quoted (b : UInt8) : List Char → Prop where
  | itself (c : Char) (ascii : String.utf8EncodeChar c = [b]) (form : isFormChar c = true)
      (percent : c ≠ '%') (plus : c ≠ '+') : Quoted b [c]
  | space (same : b = 32) : Quoted b ['+']
  | hex (high low : Nat) (hh : high < 16) (hl : low < 16) (value : 16 * high + low = b.toNat) :
      Quoted b ['%', hexDigit high, hexDigit low]

theorem unreserved_spec : ∀ n < 128, isUnreserved (UInt8.ofNat n) = true →
    (Char.ofNat n).toNat = n ∧ isFormChar (Char.ofNat n) = true ∧ Char.ofNat n ≠ '%' ∧
      Char.ofNat n ≠ '+' := by
  decide +kernel

theorem lt_of_isUnreserved (h : isUnreserved b = true) : b.toNat < 128 := by
  simp only [isUnreserved, Bool.or_eq_true, Bool.and_eq_true, decide_eq_true_eq] at h
  omega

theorem quoted_quoteByte (b : UInt8) : Quoted b (quoteByte b) := by
  have small := b.toNat_lt
  rw [quoteByte]
  split
  next plain =>
    have ascii := lt_of_isUnreserved plain
    obtain ⟨same, form, percent, plus⟩ := unreserved_spec b.toNat ascii
      (by rwa [UInt8.ofNat_toNat])
    have encoded := Text.utf8EncodeChar_ascii (c := Char.ofNat b.toNat) (by omega)
    rw [same, UInt8.ofNat_toNat] at encoded
    exact .itself _ encoded form percent plus
  · split
    next space => exact .space space
    · exact .hex _ _ (by omega) (by omega) (by omega)

theorem formBytes?_char (c : Char) (cs : List Char) (percent : c ≠ '%') :
    formBytes? (c :: cs) = if c = '+' then (formBytes? cs).map (32 :: ·)
      else (formBytes? cs).map (String.utf8EncodeChar c ++ ·) := by
  rw [formBytes?, if_neg percent]
  intro x y rest h
  exact absurd h percent

theorem formBytes?_quoted {written : List Char} (h : Quoted b written) (cs : List Char) :
    formBytes? (written ++ cs) = (formBytes? cs).map (b :: ·) := by
  cases h with
  | itself c ascii form percent plus =>
    rw [List.singleton_append, formBytes?_char c cs percent, if_neg plus, ascii]
    rfl
  | space same =>
    rw [List.singleton_append, formBytes?_char '+' cs (by decide), if_pos rfl, same]
  | hex high low hh hl value =>
    have first := (hexDigit_spec high hh).1
    have second := (hexDigit_spec low hl).1
    simp only [List.cons_append, List.nil_append, formBytes?, first, second, Option.bind_eq_bind,
      Option.bind_some, value, UInt8.ofNat_toNat]
    cases formBytes? cs <;> rfl

theorem isFormChar_quoted {written : List Char} (h : Quoted b written) :
    ∀ c ∈ written, isFormChar c = true := by
  cases h with
  | itself c ascii form percent plus => exact List.forall_mem_singleton.mpr form
  | space same => exact List.forall_mem_singleton.mpr (by decide)
  | hex high low hh hl value =>
    have first := (hexDigit_spec high hh).2.2.1
    have second := (hexDigit_spec low hl).2.2.1
    have sign : isFormChar '%' = true := by decide
    simp [sign, first, second]

/-- A percent sign is written in front of two digits only. -/
theorem atEach_quoted {written : List Char} (h : Quoted b written)
    (later : AtEach '%' StartsHex cs) : AtEach '%' StartsHex (written ++ cs) := by
  cases h with
  | itself c ascii form percent plus =>
    exact atEach_append (fun h => percent (List.mem_singleton.mp h).symm) later
  | space same => exact atEach_append (by decide) later
  | hex high low hh hl value =>
    obtain ⟨-, upperHigh, -, plainHigh⟩ := hexDigit_spec high hh
    obtain ⟨-, upperLow, -, plainLow⟩ := hexDigit_spec low hl
    have unmarked : '%' ∉ [hexDigit high, hexDigit low] := by simp [plainHigh.symm, plainLow.symm]
    have digits := atEach_append unmarked later
    exact atEach_cons.mpr ⟨fun _ => ⟨_, _, cs, rfl, upperHigh, upperLow⟩, digits⟩

theorem quotePlus_eq (s : String) : quotePlus s = .ofList ((bytes s).flatMap quoteByte) := by
  rw [Text.bytes_eq, List.flatMap_assoc]
  rfl

theorem formBytes?_quoteBytes (sent : List UInt8) :
    formBytes? (sent.flatMap quoteByte) = some sent := by
  induction sent with
  | nil => rfl
  | cons b sent ih =>
    rw [List.flatMap_cons, formBytes?_quoted (quoted_quoteByte b), ih]
    rfl

theorem atEach_quoteBytes (sent : List UInt8) :
    AtEach '%' StartsHex (sent.flatMap quoteByte) := by
  induction sent with
  | nil => exact atEach_nil
  | cons b sent ih =>
    rw [List.flatMap_cons]
    exact atEach_quoted (quoted_quoteByte b) ih

theorem formDecode?_quotePlus (s : String) : formDecode? (quotePlus s) = some s := by
  rw [formDecode?, quotePlus_eq, String.toList_ofList, formBytes?_quoteBytes]
  exact Text.fromUTF8?_bytes s

theorem isFormChar_quotePlus {s : String} (h : c ∈ (quotePlus s).toList) :
    isFormChar c = true := by
  rw [quotePlus_eq, String.toList_ofList] at h
  obtain ⟨b, -, hc⟩ := List.mem_flatMap.mp h
  exact isFormChar_quoted (quoted_quoteByte b) c hc

theorem atEach_quotePlus (s : String) : AtEach '%' StartsHex (quotePlus s).toList := by
  rw [quotePlus_eq, String.toList_ofList]
  exact atEach_quoteBytes _

/-- Replaces the three entities in one pass from the left. -/
def unescapeMarkup : List Char → List Char
  | [] => []
  | '&' :: 'a' :: 'm' :: 'p' :: ';' :: cs => '&' :: unescapeMarkup cs
  | '&' :: 'l' :: 't' :: ';' :: cs => '<' :: unescapeMarkup cs
  | '&' :: 'g' :: 't' :: ';' :: cs => '>' :: unescapeMarkup cs
  | c :: cs => c :: unescapeMarkup cs

/-- The rest of one of the three entities, behind its ampersand. -/
def StartsEntity (cs : List Char) : Prop :=
  ∃ name ∈ ["amp;", "lt;", "gt;"], name.toList <+: cs

theorem unescapeMarkup_char (cs : List Char) (ampersand : c ≠ '&') :
    unescapeMarkup (c :: cs) = c :: unescapeMarkup cs := by
  rw [unescapeMarkup] <;> intro rest same <;> exact absurd same ampersand

/-- What is written for one character is replaced by it, whatever comes behind. -/
theorem unescapeMarkup_escaped (c : Char) (cs : List Char) :
    unescapeMarkup (escapeMarkupChar c ++ cs) = c :: unescapeMarkup cs := by
  rw [escapeMarkupChar]
  split
  next ampersand =>
    rw [ampersand]
    rfl
  next ampersand =>
    split
    next less =>
      rw [less]
      rfl
    · split
      next greater =>
        rw [greater]
        rfl
      · exact unescapeMarkup_char cs ampersand

theorem atEach_entity (name : String) (known : name ∈ ["amp;", "lt;", "gt;"])
    (later : AtEach '&' StartsEntity cs) :
    AtEach '&' StartsEntity ('&' :: (name.toList ++ cs)) := by
  have plain : ∀ name ∈ ["amp;", "lt;", "gt;"], '&' ∉ name.toList := by decide
  have started : StartsEntity (name.toList ++ cs) := ⟨name, known, List.prefix_append _ cs⟩
  exact atEach_cons.mpr ⟨fun _ => started, atEach_append (plain name known) later⟩

theorem atEach_escaped (c : Char) (later : AtEach '&' StartsEntity cs) :
    AtEach '&' StartsEntity (escapeMarkupChar c ++ cs) := by
  rw [escapeMarkupChar]
  split
  · exact atEach_entity "amp;" (by decide) later
  next ampersand =>
    split
    · exact atEach_entity "lt;" (by decide) later
    · split
      · exact atEach_entity "gt;" (by decide) later
      · exact atEach_append (fun h => ampersand (List.mem_singleton.mp h).symm) later

theorem not_mem_escaped (c : Char) : '<' ∉ escapeMarkupChar c ∧ '>' ∉ escapeMarkupChar c := by
  rw [escapeMarkupChar]
  split
  · decide
  · split
    · decide
    next less =>
      split
      · decide
      next greater => exact ⟨fun h => less (List.mem_singleton.mp h).symm,
          fun h => greater (List.mem_singleton.mp h).symm⟩

theorem unescapeMarkup_escapeMarkup (s : String) :
    .ofList (unescapeMarkup (escapeMarkup s).toList) = s := by
  rw [escapeMarkup, String.toList_ofList]
  have undone : ∀ cs : List Char, unescapeMarkup (cs.flatMap escapeMarkupChar) = cs := by
    intro cs
    induction cs with
    | nil => rfl
    | cons c cs ih => rw [List.flatMap_cons, unescapeMarkup_escaped, ih]
  rw [undone, String.ofList_toList]

theorem atEach_escapeMarkup (s : String) : AtEach '&' StartsEntity (escapeMarkup s).toList := by
  rw [escapeMarkup, String.toList_ofList]
  induction s.toList with
  | nil => exact atEach_nil
  | cons c cs ih =>
    rw [List.flatMap_cons]
    exact atEach_escaped c ih

theorem not_mem_escapeMarkup (s : String) :
    '<' ∉ (escapeMarkup s).toList ∧ '>' ∉ (escapeMarkup s).toList := by
  rw [escapeMarkup, String.toList_ofList, List.mem_flatMap, List.mem_flatMap]
  constructor
  · intro h
    obtain ⟨c, -, hc⟩ := h
    exact (not_mem_escaped c).1 hc
  · intro h
    obtain ⟨c, -, hc⟩ := h
    exact (not_mem_escaped c).2 hc

/-- Both ways to write a value can be undone, and neither lets a character of the value act as a
sign of the text around it. -/
theorem encodings_undone (s t : String) :
    formDecode? (quotePlus s) = some s ∧ quotePlus (s ++ t) = quotePlus s ++ quotePlus t ∧
      (∀ c ∈ (quotePlus s).toList, isFormChar c = true) ∧
      AtEach '%' StartsHex (quotePlus s).toList ∧
      .ofList (unescapeMarkup (escapeMarkup s).toList) = s ∧
      '<' ∉ (escapeMarkup s).toList ∧ '>' ∉ (escapeMarkup s).toList ∧
      AtEach '&' StartsEntity (escapeMarkup s).toList := by
  have form : ∀ c ∈ (quotePlus s).toList, isFormChar c = true := fun c hc => isFormChar_quotePlus hc
  obtain ⟨less, greater⟩ := not_mem_escapeMarkup s
  exact ⟨formDecode?_quotePlus s, quotePlus_append s t, form, atEach_quotePlus s,
    unescapeMarkup_escapeMarkup s, less, greater, atEach_escapeMarkup s⟩

end SongPattern.Policy
