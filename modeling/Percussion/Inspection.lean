import Percussion.Sequence.Basic
import Percussion.Yaml.Listing

/-!
# Inspections

What a score has been understood to say: its beats, and the events that it gives when it is
played, all written out.
-/

namespace Percussion

/-- The lines for a hit. -/
def Hit.listing (hit : Hit) : List String := [
  s!"sound: {hit.sound.key.toNat}",
  s!"volume: {hit.volume.name}"]

/-- The lines for an event. -/
def Event.listing (event : Event) : List String :=
  [s!"kind: {event.kind.name}"] ++ event.hit.listing ++ [s!"tick: {event.tick.toNat}"]

/-- The lines for a beat. -/
def Beat.listing (beat : Beat) : List String :=
  Yaml.nestedList (beat.hits.map Hit.listing)

/-- A score and the sequence that it gives, as a text. -/
def inspection (score : Score) (sequence : Sequence) : String :=
  let lines :=
    [s!"ticks_per_beat: {sequence.resolution.ticks.toNat}"] ++
    Yaml.keyedList "beats" (score.beats.map Beat.listing) ++
    Yaml.keyedList "events" (sequence.events.map Event.listing)
  String.join (lines.map (· ++ "\n"))

end Percussion
