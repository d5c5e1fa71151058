import Percussion.Text.Blank

/-!
# Paths

A path is a row of names with slashes between them. It starts at the root or at the current
folder, and a slash at its end says that it leads to a folder.
-/

namespace Percussion.Storage

/-- The names that lead from the root to a file or folder. The root itself has none. -/
abbrev Location := List String

/-- A way to a file or folder. -/
structure Path where
  /-- Whether the way starts at the root. -/
  absolute : Bool
  /-- The names on the way. Slashes that follow each other count as one, so none is empty. -/
  names : List String
  /-- Whether a slash stands at the end. -/
  closed : Bool
  deriving Repr, DecidableEq

namespace Path

/-- The path that a text writes down. The empty text is none. -/
def ofText? (text : String) : Option Path :=
  let chars := text.toList
  match chars.head?, chars.getLast? with
  | some first, some last => some {
      absolute := first == '/'
      names := ((Text.pieces (· == '/') chars).filter (!·.isEmpty)).map String.ofList
      closed := last == '/' }
  | _, _ => none

end Path

/-- Where `name` leads from the folder at `location`: a dot stays there, two dots lead to the
folder around it, and any other name to what the folder has under it. -/
def Location.follow (location : Location) (name : String) : Location :=
  if name = "." then location
  else if name = ".." then location.dropLast
  else location ++ [name]

end Percussion.Storage
