import AgentScript.Text.Search

set_option autoImplicit false

/-! # Moods

A mood is a free text. Its keywords decide which track plays; of several the last in the table
counts. -/

namespace AgentScript.Command

/-- The keywords of moods and the tracks they call for. -/
def moodTracks : List (String × String) :=
  [("focus", "MUSIC_MOOG"), ("sad", "MUSIC_FALLING"), ("energetic", "MUSIC_TELL"),
   ("calm", "REUNITED"), ("romantic", "MUSIC_TELL"), ("creative", "MUSIC_MOOG")]

/-- The track for a mood without any keyword. -/
def silentTrack : String := "MUSIC_SILENCE"

/-- The track for a mood. -/
def trackForMood (mood : String) : String :=
  moodTracks.foldl (fun track rule => if Text.occursIn rule.1 mood then rule.2 else track)
    silentTrack

end AgentScript.Command
