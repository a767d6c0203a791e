import SongPattern.Proofs.Formatter.Parts
import SongPattern.Proofs.Policy.TrackNumber
import SongPattern.Proofs.Song.JoinedText

namespace SongPattern

open FilePath (cleanValue numberTexts)
open Number (ZeroPadded readWord?)

namespace TagTable

theorem textOf_tracknumber (t : TagTable) :
    t.textOf "tracknumber" = (t.raw? "tracknumber").elim "" Value.display := rfl

/-- The numeric tags of a track are the numbers between the slashes. -/
theorem numberPart?_track (t : TagTable) (index : Nat) : t.numberPart? "tracknumber" index =
    ((numberTexts (t.textOf "tracknumber"))[index]?.bind readWord?).map .int := by
  rw [textOf_tracknumber, numberPart?, rawText?, numberTexts, List.getElem?_map]
  cases t.raw? "tracknumber" with
  | none => rcases index with _ | _ | index <;> rfl
  | some v =>
    simp only [Option.map_some, Option.elim_some, Option.bind_map]
    change ((Text.split '/' v.display)[index]?.bind fun part =>
      (readWord? (Text.trim part)).bind fun n => some (Value.int n)) = _
    cases (Text.split '/' v.display)[index]? with
    | none => rfl
    | some part => cases read : readWord? (Text.trim part) <;> simp [read]

theorem get?_track (t : TagTable) : t.get? "~#track" =
    ((numberTexts (t.textOf "tracknumber"))[0]?.bind readWord?).map .int :=
  t.numberPart?_track 0

theorem get?_tracks (t : TagTable) : t.get? "~#tracks" =
    ((numberTexts (t.textOf "tracknumber"))[1]?.bind readWord?).map .int :=
  t.numberPart?_track 1

end TagTable

/-- No separator is left, nor its full-width likeness. -/
def FilePath.underscored (p : Platform) (s : String) : String :=
  .ofList (s.toList.map fun c => if c = p.separator ∨ c = '\uff0f' then '_' else c)

/-- The track number that a path shows is the one of the song's numeric tags, as long as the number
of all tracks where there is one. Where the song has no such number, the path shows the text. -/
theorem Policy.shown_tracknumber {t : TagTable}
    (line : ∀ v, t.raw? "tracknumber" = some v → '\n' ∉ v.display.toList) (keep : Bool)
    (options : PathOptions) (p : Platform) :
    let policy := Policy.filePath keep options p
    let value := (policy.source t.song).joined "tracknumber"
    (∀ parser nodes, policy.fragments parser t.song nodes =
      (policy.parts parser t.song nodes).map (policy.shown t.song)) ∧
    policy.shown t.song (.tag "tracknumber") = .text value ∧
    (∀ n, t.get? "~#track" = some (.int n) →
      ZeroPadded (max 2 ((t.get? "~#tracks").elim 0 fun total => total.display.length)) n value) ∧
    (t.get? "~#track" = none →
      value = Text.trim (FilePath.underscored p (t.joined "tracknumber").display)) ∧
    (t.get? "~#track" = none ∨ ∃ n, t.get? "~#track" = some (.int n)) := by
  intro policy value
  have one : '\n' ∉ (t.textOf "tracknumber").toList := by
    rw [TagTable.textOf_tracknumber]
    cases hv : t.raw? "tracknumber" with
    | none => exact List.not_mem_nil
    | some v => exact line v hv
  have shown : value = cleanValue p "tracknumber" (Text.trim (t.textOf "tracknumber")) :=
    congrArg (cleanValue p "tracknumber") (TagTable.display_joined_of_line one)
  have padded := FilePath.padNumber_track (Text.trim (t.textOf "tracknumber"))
  rw [FilePath.numberTexts_trim] at padded
  have track := t.get?_track
  have tracks := t.get?_tracks
  refine ⟨fun parser nodes => policy.fragments_eq_shown parser t.song nodes, rfl, ?_, ?_, ?_⟩
  · intro n hn
    have read : (numberTexts (t.textOf "tracknumber"))[0]?.bind readWord? = some n := by
      rw [track, Option.map_eq_some_iff] at hn
      obtain ⟨k, read, same⟩ := hn
      cases same
      exact read
    rw [read, Option.elim_some] at padded
    rw [shown, FilePath.cleanValue_of_padded padded, tracks]
    cases (numberTexts (t.textOf "tracknumber"))[1]?.bind readWord? with
    | none => exact Number.zeroPadded_padded 2 n
    | some total => exact Number.zeroPadded_padded _ n
  · intro none
    rw [track, Option.map_eq_none_iff] at none
    rw [none, Option.elim_none] at padded
    rw [shown, cleanValue, padded, FilePath.underscored, TagTable.display_joined_of_line one]
    simp
  · cases number : (numberTexts (t.textOf "tracknumber"))[0]?.bind readWord? with
    | none => exact .inl (by rw [track, number]; rfl)
    | some n => exact .inr ⟨n, by rw [track, number]; rfl⟩

/-- The sign takes one of the four places that the total needs. -/
theorem Policy.shown_tracknumber_negative :
    let t := TagTable.ofList [("tracknumber", .text " -3 / 1234 ")]
    let value := ((Policy.filePath true {} ⟨.unix, none⟩).source t.song).joined "tracknumber"
    (∀ v, t.raw? "tracknumber" = some v → '\n' ∉ v.display.toList) ∧
      t.get? "~#track" = some (.int (-3)) ∧ t.get? "~#tracks" = some (.int 1234) ∧
      ZeroPadded 4 (-3) value ∧ value = "-003" := by
  intro t value
  have stored : t.raw? "tracknumber" = some (.text " -3 / 1234 ") := rfl
  have line : ∀ v, t.raw? "tracknumber" = some v → '\n' ∉ v.display.toList := by
    intro v hv
    cases Option.some.inj (stored.symm.trans hv)
    decide
  have track : t.get? "~#track" = some (.int (-3)) := by rfl
  have tracks : t.get? "~#tracks" = some (.int 1234) := by rfl
  have padded := (Policy.shown_tracknumber line true {} ⟨.unix, none⟩).2.2.1 (-3) track
  rw [tracks] at padded
  exact ⟨line, track, tracks, padded, by decide +kernel⟩

end SongPattern
