/-!
# Canned lines

Two sets of lines of notation. The lines of a set have the same number of beats, so any of them
can be played together.
-/

namespace Percussion.Rhythm

/-- Lines of eight beats. -/
def eightBeat : List String := [
  "BOOM .    .    boom .    .    .    boom",
  "chik chik KAH  chik chik PSS  KAH  chik",
  "tik  .    tik  tik  .    tik  tik  tik",
  "plik .    .    plik .    .    plik .",
  "dang .    .    pss  pss  .    dang .",
  "DOOM .    .    boom DOOM .    .    .",
  ".    .    bum  .    .    tik  bom  bom",
  "goh  .    goh  .    goh  .    goh  ."]

/-- Lines of sixteen beats. -/
def sixteenBeat : List String := [
  "chik .    chik .    chik .    chik .    chik .    chik .    chik .    chik .",
  "boom .    .    .    KAH  .    .    boom .    kah  boom .    KAH  .    .    .",
  "dang .    dang dang .    .    dang .    dang .    dang .    dang .    dang .",
  "doom .    .    .    kah  .    .    .    .    .    doom .    .    .    doom .",
  "BOOM .    chik BOOM .    boom chik .    BOOM .    chik BOOM .    boom chik BOOM",
  "tik  .    .    tik  .    .    tik  .    tik  .    .    tik  .    .    tik  .",
  ".    .    dink .    dink .    .    .    dink .    .    dink .    .    dink .",
  "ding .    ding .    dong dong .    ding .    ding .    ding dong .    dong ."]

/-- The fewest lines of a rhythm. -/
def minLines : Nat := 2

/-- The most lines of a rhythm. -/
def maxLines : Nat := 4

end Percussion.Rhythm
