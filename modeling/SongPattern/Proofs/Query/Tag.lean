import SongPattern.Query

namespace SongPattern

theorem Song.textOf_congr {song song' : Song} {tag : String}
    (same : song.get tag = song'.get tag) : song.textOf tag = song'.textOf tag := by
  rw [Song.textOf, Song.textOf, same]

namespace Query

/-- The tag that a query asks for. -/
def tag : Query → String
  | .contains tag _ | .equals tag _ | .matches tag _ _ | .numeric tag _ _ => tag

/-- A query looks at no other tag. -/
theorem holds_congr {q : Query} {song song' : Song} (same : song.get q.tag = song'.get q.tag) :
    q.holds song = q.holds song' := by
  cases q with
  | contains tag needle =>
    have text : song.textOf tag = song'.textOf tag := Song.textOf_congr same
    rw [holds, holds, text]
  | equals tag value =>
    have text : song.textOf tag = song'.textOf tag := Song.textOf_congr same
    rw [holds, holds, text]
  | «matches» tag source found =>
    have text : song.textOf tag = song'.textOf tag := Song.textOf_congr same
    rw [holds, holds, text]
  | numeric tag op value =>
    have value : song.get tag = song'.get tag := same
    rw [holds, holds, value]

end Query

end SongPattern
