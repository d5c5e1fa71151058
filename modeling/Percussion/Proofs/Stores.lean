import Percussion.Storage.Access

/-!
# What reading and writing do to a store

A file can be written at a path exactly where the path opens (`Store.Opens`), which does not depend
on the bytes: then the file at its location has the bytes and nothing else has changed
(`Opens.written`), and the path reads them back (`Opens.read_put`). A file holds a text
(`Store.Holds`) if its bytes are the text in UTF-8; if it holds none, there is a reason why it
cannot be read as one (`Store.Unreadable`).
-/

namespace Percussion.Storage

namespace Store

/-- The bytes of the file at a path are a text in UTF-8. -/
def Holds (store : Store) (path text : String) : Prop :=
  store.read path = .ok text.toUTF8.data.toList

/-- Why no text can be read at a path: there are no bytes, or they are not those of any text. -/
inductive Unreadable (store : Store) (path : String) : Fault → Prop
  | unread {fault : Fault} : store.read path = .error fault → Unreadable store path fault
  | notText {bytes : List UInt8} : store.read path = .ok bytes →
    (∀ text : String, text.toUTF8.data.toList ≠ bytes) → Unreadable store path .notText

/-- A file can be written at a path: the path leads through folders to `location`, where nothing
stands against a file, and does not itself say that there is a folder. -/
def Opens (store : Store) (path : String) (location : Location) : Prop :=
  ∃ way, Path.ofText? path = some way ∧ way.closed = false ∧
    store.locate way = .ok location ∧ ∀ entry ∈ store.get? location, entry.bar? = none

/-- `after` has a file with the given bytes at a location, and differs from `store` nowhere else. -/
structure Written (store : Store) (location : Location) (bytes : List UInt8) (after : Store) :
    Prop where
  here : after.get? location = some (.file bytes)
  elsewhere : ∀ other, other ≠ location → after.get? other = store.get? other
  current : after.current = store.current

end Store

/-! ## Reading texts -/

/-- Bytes are decoded exactly to the text whose UTF-8 they are. -/
theorem decode_eq_ok_iff {bytes : List UInt8} {text : String} :
    decode bytes = .ok text ↔ bytes = text.toUTF8.data.toList := by
  unfold decode String.fromUTF8?
  constructor
  · intro h
    by_cases valid : (⟨bytes.toArray⟩ : ByteArray).IsValidUTF8
    · rw [dif_pos valid] at h
      obtain rfl := Except.ok.inj h
      rfl
    · rw [dif_neg valid] at h
      cases h
  · rintro rfl
    have valid : (⟨text.toUTF8.data.toList.toArray⟩ : ByteArray).IsValidUTF8 := text.isValidUTF8
    rw [dif_pos valid]
    rfl

theorem decode_eq_error {bytes : List UInt8} {fault : Fault} (h : decode bytes = .error fault) :
    fault = .notText := by
  unfold decode at h
  split at h
  · cases h
  · exact (Except.error.inj h).symm

namespace Store

variable {store : Store} {path : String}

theorem Holds.unique {text other : String} (h : store.Holds path text)
    (h' : store.Holds path other) : text = other := by
  have same : decode text.toUTF8.data.toList = .ok other :=
    decode_eq_ok_iff.mpr (Except.ok.inj (h.symm.trans h'))
  rw [decode_eq_ok_iff.mpr rfl] at same
  exact Except.ok.inj same

/-- The text that a file holds is read from it. -/
theorem Holds.run_readText {text : String} (h : store.Holds path text) :
    (Storage.readText path : StateM Store _).run store = (.ok text, store) := by
  have run : (Storage.readText path : StateM Store _).run store =
      ((store.read path).bind decode, store) := rfl
  rw [run, h, Except.bind, decode_eq_ok_iff.mpr rfl]

theorem Unreadable.run_readText {fault : Fault} (h : store.Unreadable path fault) :
    (Storage.readText path : StateM Store _).run store = (.error fault, store) := by
  have run : (Storage.readText path : StateM Store _).run store =
      ((store.read path).bind decode, store) := rfl
  cases h with
  | unread h => rw [run, h, Except.bind]
  | @notText bytes h none =>
    rw [run, h, Except.bind]
    cases decoded : decode bytes with
    | error fault => rw [decode_eq_error decoded]
    | ok text => exact absurd (decode_eq_ok_iff.mp decoded).symm (none text)

theorem Unreadable.not_holds {fault : Fault} (h : store.Unreadable path fault) (text : String) :
    ¬ store.Holds path text := by
  intro holds
  have run := h.run_readText
  rw [holds.run_readText] at run
  cases run

theorem Unreadable.unique {fault other : Fault} (h : store.Unreadable path fault)
    (h' : store.Unreadable path other) : fault = other := by
  have run := h.run_readText
  rw [h'.run_readText, Prod.mk.injEq] at run
  exact (Except.error.inj run.1).symm

/-- A path gives a text or a reason why it does not. -/
theorem holds_or_unreadable (store : Store) (path : String) :
    (∃ text, store.Holds path text) ∨ ∃ fault, store.Unreadable path fault := by
  cases h : store.read path with
  | error fault => exact .inr ⟨fault, .unread h⟩
  | ok bytes =>
    by_cases text : ∃ text : String, text.toUTF8.data.toList = bytes
    · obtain ⟨text, rfl⟩ := text
      exact .inl ⟨text, h⟩
    · rw [not_exists] at text
      exact .inr ⟨.notText, .notText h text⟩

/-! ## Writing -/

/-- What is written changes the store, and a fault leaves it as it is. -/
theorem run_write (store : Store) (path : String) (bytes : List UInt8) :
    (FileAccess.write path bytes : StateM Store _).run store =
      match store.write path bytes with
      | .error fault => (.error fault, store)
      | .ok after => (.ok (), after) := by
  simp only [FileAccess.write, StateT.run_bind, StateT.run_get, pure_bind]
  cases store.write path bytes with
  | error fault => rfl
  | ok after => rfl

/-- At the root no file can be written. -/
theorem ne_root_of_free {location : Location}
    (free : ∀ entry ∈ store.get? location, entry.bar? = none) : location ≠ [] := by
  intro root
  subst root
  exact absurd (free .folder rfl) nofun

/-- The root cannot be opened as a file. -/
theorem Opens.ne_root {location : Location} (h : store.Opens path location) : location ≠ [] := by
  obtain ⟨_, _, _, _, free⟩ := h
  exact ne_root_of_free free

theorem Opens.unique {location other : Location} (h : store.Opens path location)
    (h' : store.Opens path other) : location = other := by
  obtain ⟨way, read, _, located, _⟩ := h
  obtain ⟨way', read', _, located', _⟩ := h'
  obtain rfl := Option.some.inj (read.symm.trans read')
  exact Except.ok.inj (located.symm.trans located')

/-- Writing puts a file where the path opens. -/
theorem Opens.write_eq {location : Location} (h : store.Opens path location)
    (bytes : List UInt8) : store.write path bytes = .ok (store.put location (.file bytes)) := by
  obtain ⟨way, read, opened, located, free⟩ := h
  have free' : (store.get? location).bind Entry.bar? = none := Option.bind_eq_none_iff.mpr free
  simp [write, read, located, opened, free', bind, Except.bind]

/-- Where no path opens nothing can be written, whatever it is. -/
theorem exists_write_eq_error (h : ∀ location, ¬ store.Opens path location) :
    ∃ fault, ∀ bytes, store.write path bytes = .error fault := by
  unfold write
  cases read : Path.ofText? path with
  | none => exact ⟨_, fun _ => rfl⟩
  | some way =>
    cases located : store.locate way with
    | error fault => exact ⟨fault, fun _ => by simp [located, bind, Except.bind]⟩
    | ok location =>
      cases closed : way.closed with
      | true => exact ⟨.isFolder, fun _ => by simp [located, closed, bind, Except.bind]⟩
      | false =>
        cases barred : (store.get? location).bind Entry.bar? with
        | some fault =>
          exact ⟨fault, fun _ => by simp [located, closed, barred, bind, Except.bind]⟩
        | none =>
          have free := Option.bind_eq_none_iff.mp barred
          exact absurd ⟨way, read, closed, located, free⟩ (h location)

/-- Where a path opens, bytes can be put. -/
theorem Opens.written {location : Location} (h : store.Opens path location) (bytes : List UInt8) :
    store.Written location bytes (store.put location (.file bytes)) where
  here := by rw [get?_put h.ne_root, if_pos rfl]
  elsewhere other ne := by rw [get?_put h.ne_root, if_neg ne]
  current := rfl

/-- What has been written settles what there is everywhere. -/
theorem Written.get?_eq {location : Location} {bytes : List UInt8} {after other : Store}
    (h : store.Written location bytes after) (h' : store.Written location bytes other)
    (place : Location) : after.get? place = other.get? place := by
  by_cases here : place = location
  · rw [here, h.here, h'.here]
  · rw [h.elsewhere place here, h'.elsewhere place here]

/-- A walk that goes on has found a folder. -/
theorem walk_cons_eq_ok_iff {location finish : Location} {name : String} {names : List String} :
    store.walk location (name :: names) = .ok finish ↔
      store.get? location = some .folder ∧
        store.walk (location.follow name) names = .ok finish := by
  rw [walk]
  cases store.get? location with
  | none => simp
  | some entry => cases entry <;> simp [Entry.stop?]

/-- A walk leads through folders only, so a file that is put where there is no folder does not
change it. -/
theorem walk_put {location : Location} (free : ∀ entry ∈ store.get? location, entry.bar? = none)
    (bytes : List UInt8) {start finish : Location} {names : List String}
    (h : store.walk start names = .ok finish) :
    (store.put location (.file bytes)).walk start names = .ok finish := by
  induction names generalizing start with
  | nil => exact h
  | cons name names ih =>
    rw [walk_cons_eq_ok_iff] at h ⊢
    have ne : start ≠ location := by
      intro same
      rw [same] at h
      exact absurd (free .folder h.1) nofun
    rw [get?_put (ne_root_of_free free), if_neg ne]
    exact ⟨h.1, ih h.2⟩

/-- What is written at a path is read back there. -/
theorem Opens.read_put {location : Location} (h : store.Opens path location)
    (bytes : List UInt8) : (store.put location (.file bytes)).read path = .ok bytes := by
  have here := (h.written bytes).here
  obtain ⟨way, read, opened, located, free⟩ := h
  have again : (store.put location (.file bytes)).locate way = .ok location :=
    walk_put free bytes located
  simp [Store.read, read, again, here, opened, Entry.bytes, bind, Except.bind]

/-- What has been written to a path is read from it. -/
theorem read_of_write {bytes : List UInt8} {after : Store}
    (h : store.write path bytes = .ok after) :
    after.read path = .ok bytes := by
  by_cases opens : ∃ location, store.Opens path location
  · obtain ⟨location, opens⟩ := opens
    rw [opens.write_eq] at h
    obtain rfl := Except.ok.inj h
    exact opens.read_put bytes
  · rw [not_exists] at opens
    obtain ⟨fault, fails⟩ := exists_write_eq_error opens
    rw [fails] at h
    cases h

end Store

end Percussion.Storage
