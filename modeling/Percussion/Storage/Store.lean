import Percussion.Storage.Fault
import Percussion.Storage.Path

/-!
# Stores

A store holds files and folders by their locations, and knows the folder at which relative paths
start. A location can be barred: for lack of a permission, because of a name that is too long, or for
whatever reason the system gives. A file is written as a whole or not at all, and what can be written
can be read. What a store holds is seen through `get?`: `get?_put` says that putting something at a
location changes nothing elsewhere.
-/

namespace Percussion.Storage

/-- What can be at a location. -/
inductive Entry where
  | file (bytes : List UInt8)
  | folder
  /-- A file that can be read, but not be written, for the reason `fault`. -/
  | readOnly (bytes : List UInt8) (fault : Fault)
  /-- Here nothing can be read and nothing can be written, each for a reason of its own. Whether there
  is anything does not matter: under a folder that cannot be written all files that are not there
  are barred, with `missing` as the reason against reading. -/
  | barred (reading writing : Fault)
  deriving Repr, DecidableEq

namespace Entry

/-- The bytes that can be read, or the reason why there are none. -/
def bytes : Entry → Except Fault (List UInt8)
  | file bytes => .ok bytes
  | folder => .error .isFolder
  | readOnly bytes _ => .ok bytes
  | barred reading _ => .error reading

/-- Why a path does not lead on from here, if it does not. -/
def stop? : Entry → Option Fault
  | file _ => some .notFolder
  | folder => none
  | readOnly _ _ => some .notFolder
  | barred reading _ => some reading

/-- Why no file can be written in place of this, if none can. -/
def bar? : Entry → Option Fault
  | file _ => none
  | folder => some .isFolder
  | readOnly _ fault => some fault
  | barred _ writing => some writing

end Entry

/-- Files and folders. -/
structure Store where
  /-- What there is besides the root, each location at most once. -/
  entries : List (Location × Entry) := []
  /-- Where relative paths start. -/
  current : Location := []
  deriving Repr, DecidableEq

namespace Store

/-- What is at a location. At the root there is a folder. -/
def get? (store : Store) (location : Location) : Option Entry :=
  if location = [] then some .folder else store.entries.lookup location

/-- The entries with `entry` at `location`, in place of what was there. -/
def replace (location : Location) (entry : Entry) :
    List (Location × Entry) → List (Location × Entry)
  | [] => [(location, entry)]
  | old :: rest =>
    if location = old.1 then (location, entry) :: rest else old :: replace location entry rest

/-- The store with `entry` at `location`, in place of what was there. -/
def put (store : Store) (location : Location) (entry : Entry) : Store :=
  { store with entries := replace location entry store.entries }

theorem lookup_replace (location other : Location) (entry : Entry)
    (entries : List (Location × Entry)) :
    (replace location entry entries).lookup other =
      if other = location then some entry else entries.lookup other := by
  induction entries with
  | nil => by_cases h : other = location <;> simp [replace, List.lookup_cons, h, beq_false_of_ne]
  | cons old rest ih =>
    obtain ⟨here, held⟩ := old
    by_cases h : location = here
    · subst h
      by_cases g : other = location <;> simp [replace, List.lookup_cons, g, beq_false_of_ne]
    · by_cases g : other = here
      · subst g
        simp [replace, h, Ne.symm h]
      · simp [replace, List.lookup_cons, h, beq_false_of_ne g, ih]

/-- Putting something at a location is seen there and nowhere else. -/
theorem get?_put {location : Location} (h : location ≠ []) (store : Store) (entry : Entry)
    (other : Location) :
    (store.put location entry).get? other =
      if other = location then some entry else store.get? other := by
  by_cases g : other = []
  · subst g
    simp [get?, Ne.symm h]
  · simp [get?, g, put, lookup_replace]

/-- Follows names from a location. Each name is looked up in a folder. -/
def walk (store : Store) : Location → List String → Except Fault Location
  | location, [] => .ok location
  | location, name :: rest =>
    match store.get? location with
    | none => .error .missing
    | some entry =>
      match entry.stop? with
      | some fault => .error fault
      | none => store.walk (location.follow name) rest

/-- The location to which a path leads. There need not be anything. -/
def locate (store : Store) (path : Path) : Except Fault Location :=
  store.walk (if path.absolute then [] else store.current) path.names

/-- The bytes of the file at a path. -/
def read (store : Store) (path : String) : Except Fault (List UInt8) :=
  match Path.ofText? path with
  | none => .error .missing
  | some path => do
    match store.get? (← store.locate path) with
    | none => .error .missing
    | some entry =>
      let bytes ← entry.bytes
      if path.closed then .error .notFolder else .ok bytes

/-- The store in which the file at a path has the given bytes. A file that is there is replaced,
and one that is not is added to a folder that is there, unless the location is barred. -/
def write (store : Store) (path : String) (bytes : List UInt8) : Except Fault Store :=
  match Path.ofText? path with
  | none => .error .missing
  | some path => do
    let location ← store.locate path
    if path.closed then
      .error .isFolder
    else
      match (store.get? location).bind Entry.bar? with
      | some fault => .error fault
      | none => .ok (store.put location (.file bytes))

/-- The folders around a location, the outermost first. The root is not among them. -/
def foldersAround (location : Location) : List Location :=
  ((List.range location.length).drop 1).map location.take

/-- The store with an entry and the folders around it. -/
def add (store : Store) (location : Location) (entry : Entry) : Store :=
  ((foldersAround location).foldl (fun store folder => store.put folder .folder) store).put
    location entry

/-- The files of a store that can be read. -/
def files (store : Store) : List (Location × List UInt8) :=
  store.entries.filterMap fun (location, entry) =>
    entry.bytes.toOption.map fun bytes => (location, bytes)

end Store

end Percussion.Storage
