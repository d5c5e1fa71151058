/-!
# Listings

Lists in block style. An item is some lines of text: a dash stands before the first, and the
others are moved to the right by as much. The items of a list stand as far to the left as its
key, and a list without items is written in brackets.
-/

namespace Percussion.Yaml

/-- The lines of an item. -/
def listItem : List String → List String
  | [] => []
  | first :: rest => ("- " ++ first) :: rest.map ("  " ++ ·)

/-- The lines of a list that is an item itself. -/
def nestedList (items : List (List String)) : List String :=
  if items.isEmpty then ["[]"] else items.flatMap listItem

/-- The lines of a list under a key. -/
def keyedList (key : String) (items : List (List String)) : List String :=
  if items.isEmpty then [key ++ ": []"] else (key ++ ":") :: items.flatMap listItem

end Percussion.Yaml
