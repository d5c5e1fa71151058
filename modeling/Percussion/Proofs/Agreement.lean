import Percussion.Proofs.Calls

/-!
# What a command sees

A command sees of a store what its paths lead to (`Command.Agree`), and of a configuration the parts
that it needs (`Command.SameFor`). Where these are the same, two runs are alike: they report the
same, and whatever the stores had in common before they have in common afterwards
(`Command.run_alike`).
-/

namespace Percussion

open Storage

/-! ## Paths -/

/-- The locations to which a path leads from a folder, name by name. -/
def Storage.Path.stations (current : Location) (path : Path) : List Location :=
  path.names.scanl Location.follow (if path.absolute then [] else current)

/-- Two stores have the same at all locations to which a path leads. -/
def Storage.Store.AgreeAlong (store other : Store) (path : String) : Prop :=
  other.current = store.current ∧ ∀ way ∈ Path.ofText? path,
    ∀ location ∈ way.stations store.current, other.get? location = store.get? location

instance (store other : Store) (path : String) : Decidable (store.AgreeAlong other path) :=
  inferInstanceAs (Decidable (_ ∧ _))

namespace Storage.Store

variable {store other : Store} {path : String}

/-- A walk looks only at the places on its way. -/
theorem walk_congr {start : Location} {names : List String}
    (same : ∀ location ∈ names.scanl Location.follow start,
      other.get? location = store.get? location) :
    other.walk start names = store.walk start names := by
  induction names generalizing start with
  | nil => rfl
  | cons name names ih =>
    rw [List.scanl_cons, List.forall_mem_cons] at same
    rw [walk, walk, same.1, ih same.2]

/-- A walk ends at a location to which its names lead. -/
theorem mem_scanl_of_walk {start finish : Location} {names : List String}
    (h : store.walk start names = .ok finish) :
    finish ∈ names.scanl Location.follow start := by
  induction names generalizing start with
  | nil =>
    rw [walk, Except.ok.injEq] at h
    subst h
    exact List.mem_singleton_self _
  | cons name names ih =>
    rw [List.scanl_cons]
    exact List.mem_cons_of_mem _ (ih (walk_cons_eq_ok_iff.mp h).2)

namespace AgreeAlong

variable (h : store.AgreeAlong other path)

include h

/-- Stores that agree along a path lead it to the same location. -/
theorem locate_eq {way : Path} (hway : Path.ofText? path = some way) :
    other.locate way = store.locate way := by
  unfold locate
  rw [h.1]
  exact walk_congr (h.2 way hway)

theorem get?_eq {way : Path} (hway : Path.ofText? path = some way) {location : Location}
    (located : store.locate way = .ok location) : other.get? location = store.get? location :=
  h.2 way hway location (mem_scanl_of_walk located)

/-- They give the same bytes there, or the same fault. -/
theorem read_eq : other.read path = store.read path := by
  unfold read
  cases hway : Path.ofText? path with
  | none => rfl
  | some way =>
    simp only [h.locate_eq hway]
    cases located : store.locate way with
    | error fault => rfl
    | ok location =>
      simp only [bind, Except.bind]
      rw [h.get?_eq hway located]

/-- A file can be written in both stores at the same location, or in none for the same reason. -/
theorem write_cases (bytes : List UInt8) :
    (∃ fault, store.write path bytes = .error fault ∧ other.write path bytes = .error fault) ∨
    ∃ location, location ≠ [] ∧ store.write path bytes = .ok (store.put location (.file bytes)) ∧
      other.write path bytes = .ok (other.put location (.file bytes)) := by
  unfold write
  cases hway : Path.ofText? path with
  | none => exact .inl ⟨_, rfl, rfl⟩
  | some way =>
    simp only [h.locate_eq hway]
    cases located : store.locate way with
    | error fault => exact .inl ⟨fault, rfl, rfl⟩
    | ok location =>
      simp only [bind, Except.bind]
      rw [h.get?_eq hway located]
      cases closed : way.closed with
      | true => exact .inl ⟨_, rfl, rfl⟩
      | false =>
        cases barred : (store.get? location).bind Entry.bar? with
        | some fault => exact .inl ⟨fault, rfl, rfl⟩
        | none =>
          have free := Option.bind_eq_none_iff.mp barred
          exact .inr ⟨location, ne_root_of_free free, rfl, rfl⟩

end AgreeAlong

end Storage.Store

/-! ## Runs that are alike -/

/-- Two runs, one from each of two stores, give the same, and what the stores had in common before
they have in common afterwards. -/
structure Alike {α : Type} (store other : Store) (done done' : α × Store) : Prop where
  same : done'.1 = done.1
  common : ∀ location, other.get? location = store.get? location →
    done'.2.get? location = done.2.get? location

section Runs

variable {α : Type} {store other : Store} {input output text : String}
  {tempo repeats : UInt32} {names : Names}

/-- Outcomes that leave both stores as they were are alike. -/
theorem alike_of_unchanged (result : α) (store other : Store) :
    Alike store other (result, store) (result, other) :=
  ⟨rfl, fun _ same => same⟩

theorem alike_put (result : α) {location : Location} (ne : location ≠ []) (entry : Entry) :
    Alike store other (result, store.put location entry) (result, other.put location entry) := by
  refine ⟨rfl, ?_⟩
  intro place same
  show (other.put location entry).get? place = (store.put location entry).get? place
  rw [Store.get?_put ne, Store.get?_put ne, same]

theorem Alike.exists_eq {done done' : α × Store} (h : Alike store other done done') :
    ∃ result after after', done = (result, after) ∧ done' = (result, after') ∧
      ∀ location, other.get? location = store.get? location →
        after'.get? location = after.get? location :=
  ⟨done.1, done.2, done'.2, rfl, Prod.ext h.same rfl, h.common⟩

/-- What is compiled into a file depends on the store only along the path of the output. -/
theorem compileToFile_alike (agree : store.AgreeAlong other output) :
    Alike store other
      ((compileToFile text tempo repeats output names : StateM Store _).run store)
      ((compileToFile text tempo repeats output names : StateM Store _).run other) := by
  cases compiled : compileBytes text tempo repeats names with
  | error error =>
    rw [run_compileToFile_of_error compiled, run_compileToFile_of_error compiled]
    exact alike_of_unchanged _ store other
  | ok result =>
    obtain ⟨sequence, bytes⟩ := result
    rw [run_compileToFile_of_ok compiled, run_compileToFile_of_ok compiled]
    rcases agree.write_cases bytes with ⟨fault, shut, shut'⟩ | ⟨location, ne, written, written'⟩
    · rw [shut, shut']
      exact alike_of_unchanged _ store other
    · rw [written, written']
      exact alike_put _ ne _

/-- Where stores agree, they hold the same text, or none for the same reason. -/
theorem Storage.Store.AgreeAlong.holds_or_unreadable (agree : store.AgreeAlong other input) :
    (∃ text, store.Holds input text ∧ other.Holds input text) ∨
    ∃ fault, store.Unreadable input fault ∧ other.Unreadable input fault := by
  rcases store.holds_or_unreadable input with ⟨text, holds⟩ | ⟨fault, unreadable⟩
  · exact .inl ⟨text, holds, agree.read_eq.trans holds⟩
  · refine .inr ⟨fault, unreadable, ?_⟩
    cases unreadable with
    | unread unread => exact .unread (agree.read_eq.trans unread)
    | notText read none => exact .notText (agree.read_eq.trans read) none

/-- What becomes of a file to be compiled depends on the store only along its path and that of the
output. -/
theorem compileFile_alike (agree : store.AgreeAlong other input)
    (agree' : store.AgreeAlong other output) :
    Alike store other
      ((compileFile input tempo repeats output names : StateM Store _).run store)
      ((compileFile input tempo repeats output names : StateM Store _).run other) := by
  rcases agree.holds_or_unreadable with ⟨text, holds, holds'⟩ | ⟨fault, unreadable, unreadable'⟩
  · rw [run_compileFile_of_holds holds, run_compileFile_of_holds holds']
    exact compileToFile_alike agree'
  · rw [run_compileFile_of_unreadable unreadable, run_compileFile_of_unreadable unreadable']
    exact alike_of_unchanged _ store other

/-- What an inspection shows does not depend on the tempo, as long as there is one. -/
theorem inspect_congr (text : String) {tempo tempo' : UInt32} (zero : tempo' = 0 ↔ tempo = 0)
    (repeats : UInt32) (resolution : Resolution) :
    inspect text { tempo := tempo', repeats, resolution } =
      inspect text { tempo, repeats, resolution } := by
  unfold inspect
  cases Score.ofText text with
  | error error => rfl
  | ok score =>
    by_cases still : tempo = 0
    · rw [zero.mpr still, still]
    · have rendered := @score.render_eq_ok { tempo, repeats, resolution } still
      have rendered' := @score.render_eq_ok { tempo := tempo', repeats, resolution }
        (mt zero.mp still)
      simp only [Except.mapError, bind, Except.bind, rendered, rendered']
      rfl

end Runs

/-! ## Commands -/

namespace Command

/-- The paths of a command. -/
def paths : Command → List String
  | render input _ _ output => [input, output]
  | random output .. => [output]
  | inspect input .. => [input]
  | sounds => []
  | showConfig => []

/-- Two stores agree along all paths of a command. -/
def Agree (command : Command) (store other : Store) : Prop :=
  ∀ path ∈ command.paths, store.AgreeAlong other path

instance (command : Command) (store other : Store) : Decidable (command.Agree store other) :=
  List.decidableBAll _ command.paths

/-- A command finds the same in two configurations, and with two seeds. -/
def SameFor (seed seed' : UInt64) (config config' : Config) : Command → Prop
  | render .. => config'.names = config.names
  | random _ tempo? repeats? seed? _ =>
    seed?.getD seed' = seed?.getD seed ∧ tempo?.getD config'.tempo = tempo?.getD config.tempo ∧
      repeats?.getD config'.repeats = repeats?.getD config.repeats ∧
      config'.names = config.names
  | inspect .. => config'.tempo = 0 ↔ config.tempo = 0
  | sounds => True
  | showConfig => config' = config

theorem sameFor_refl (seed : UInt64) (config : Config) (command : Command) :
    command.SameFor seed seed config config := by
  cases command with
  | render => rfl
  | random => exact ⟨rfl, rfl, rfl, rfl⟩
  | inspect => exact Iff.rfl
  | sounds => trivial
  | showConfig => rfl

/-- With the same to be found, a command does the same. -/
theorem run_alike {command : Command} {store other : Store} {seed seed' : UInt64}
    {config config' : Config} (agree : command.Agree store other)
    (found : command.SameFor seed seed' config config') (quiet : Bool) :
    Alike store other ((command.run seed config quiet : StateM Store Report).run store)
      ((command.run seed' config' quiet : StateM Store Report).run other) := by
  -- each command looks at its paths, and of the configuration at what it cannot tell apart
  cases command with
  | render input tempo repeats output =>
    have names : config'.names = config.names := found
    obtain ⟨result, after, after', ran, ran', common⟩ :=
      (@compileFile_alike store other input output tempo repeats config.names
        (agree input (by simp [paths])) (agree output (by simp [paths]))).exists_eq
    rw [← names] at ran'
    rw [run_render seed ran, run_render seed' ran']
    exact ⟨rfl, common⟩
  | random output tempo? repeats? seed? print =>
    obtain ⟨drawn, tempo, repeats, names⟩ := found
    obtain ⟨text, rhythm⟩ : ∃ text, Rhythm.ofSeed (seed?.getD seed) = text := ⟨_, rfl⟩
    obtain ⟨result, after, after', ran, ran', common⟩ :=
      (@compileToFile_alike store other output text (tempo?.getD config.tempo)
        (repeats?.getD config.repeats) config.names (agree output (by simp [paths]))).exists_eq
    rw [← tempo, ← repeats, ← names] at ran'
    rw [run_random rhythm ran, run_random (drawn ▸ rhythm) ran']
    exact ⟨rfl, common⟩
  | inspect input repeats resolution =>
    have zero : config'.tempo = 0 ↔ config.tempo = 0 := found
    rcases (agree input (by simp [paths])).holds_or_unreadable with
      ⟨text, holds, holds'⟩ | ⟨fault, unreadable, unreadable'⟩
    · rw [run_inspect_of_holds holds, run_inspect_of_holds holds',
        inspect_congr text zero]
      cases Percussion.inspect text { tempo := config.tempo, repeats, resolution } with
      | error error => exact alike_of_unchanged _ store other
      | ok listing => exact alike_of_unchanged _ store other
    · rw [run_inspect_of_unreadable unreadable, run_inspect_of_unreadable unreadable']
      exact alike_of_unchanged _ store other
  | sounds => exact alike_of_unchanged _ store other
  | showConfig =>
    have same : config' = config := found
    rw [same]
    exact alike_of_unchanged _ store other

end Command

end Percussion
