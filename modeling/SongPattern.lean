import SongPattern.Main
import SongPattern.Proofs.Cache.Transparency
import SongPattern.Proofs.Formatter.Concatenation
import SongPattern.Proofs.Formatter.Declared
import SongPattern.Proofs.Formatter.Directory
import SongPattern.Proofs.Formatter.Parts
import SongPattern.Proofs.Formatter.Presence
import SongPattern.Proofs.Formatter.TrackNumber
import SongPattern.Proofs.Formatter.Validation
import SongPattern.Proofs.Formatter.WindowsPattern
import SongPattern.Proofs.Pattern.Backslash
import SongPattern.Proofs.Pattern.Order
import SongPattern.Proofs.Pattern.Recovery
import SongPattern.Proofs.Pattern.Tiling
import SongPattern.Proofs.Pattern.Tokens
import SongPattern.Proofs.Policy.Decoding
import SongPattern.Proofs.Policy.Extension
import SongPattern.Proofs.Policy.Shorthand
import SongPattern.Proofs.Policy.WindowsPath
import SongPattern.Proofs.Program.Disjunction
import SongPattern.Proofs.Program.Follow
import SongPattern.Proofs.Program.Question
import SongPattern.Proofs.Query.Choice
import SongPattern.Proofs.Query.Substring
import SongPattern.Proofs.Song.JoinedText
import SongPattern.Proofs.Song.SortText
import SongPattern.Proofs.Song.TiedName
import SongPattern.Render
import SongPattern.Settings.Document
