import Mathlib.Data.List.Forall2

/-!
# Lists of steps that can fail

Taking a list entry by entry through a step that can fail either gives one result for each entry
(`mapM_eq_ok_iff`) or the error of the first entry that has one (`mapM_eq_error_iff`).
-/

namespace Percussion

variable {α β ε : Type} {step : α → Except ε β}

/-- An outcome that is mapped succeeds with what its own value is mapped to. -/
theorem map_eq_ok_iff {outcome : Except ε α} {f : α → β} {result : β} :
    outcome.map f = .ok result ↔ ∃ value, outcome = .ok value ∧ f value = result := by
  cases outcome with
  | error error => simp [Except.map]
  | ok value => simp [Except.map]

/-- Two steps succeed if both do, the second with the value of the first. -/
theorem bind_eq_ok_iff {outcome : Except ε α} {next : α → Except ε β} {result : β} :
    (outcome >>= next) = .ok result ↔ ∃ value, outcome = .ok value ∧ next value = .ok result := by
  cases outcome with
  | error error => simp [bind, Except.bind]
  | ok value => simp [bind, Except.bind]

theorem map_eq_error_iff {outcome : Except ε α} {f : α → β} {error : ε} :
    outcome.map f = .error error ↔ outcome = .error error := by
  cases outcome with
  | error error => simp [Except.map]
  | ok value => simp [Except.map]

/-- An entry that succeeds adds its result to those of the others. -/
theorem mapM_cons_of_ok {entry : α} {result : β} (h : step entry = .ok result) (later : List α) :
    (entry :: later).mapM step = (later.mapM step).map (result :: ·) := by
  rw [List.mapM_cons, h]
  cases later.mapM step <;> rfl

/-- An entry that fails is the error of all, whatever comes after it. -/
theorem mapM_cons_of_error {entry : α} {error : ε} (h : step entry = .error error)
    (later : List α) : (entry :: later).mapM step = .error error := by
  rw [List.mapM_cons, h]
  rfl

/-- Entries that succeed add their results to those of the ones after them. -/
theorem mapM_append_of_ok {entries : List α} {results : List β}
    (h : entries.mapM step = .ok results) (later : List α) :
    (entries ++ later).mapM step = (later.mapM step).map (results ++ ·) := by
  rw [List.mapM_append, h]
  cases later.mapM step <;> rfl

theorem mapM_append_of_error {entries : List α} {error : ε}
    (h : entries.mapM step = .error error) (later : List α) :
    (entries ++ later).mapM step = .error error := by
  rw [List.mapM_append, h]
  rfl

/-- All steps succeed, and each gives the result at its place. -/
theorem mapM_eq_ok_iff {entries : List α} {results : List β} :
    entries.mapM step = .ok results ↔
      List.Forall₂ (fun entry result => step entry = .ok result) entries results := by
  induction entries generalizing results with
  | nil =>
    rw [List.mapM_nil, List.forall₂_nil_left_iff]
    constructor
    · intro h
      exact (Except.ok.inj h).symm
    · rintro rfl
      rfl
  | cons entry later ih =>
    cases first : step entry with
    | error error => simp [mapM_cons_of_error first, List.forall₂_cons_left_iff, first]
    | ok result =>
      rw [mapM_cons_of_ok first, List.forall₂_cons_left_iff, map_eq_ok_iff]
      constructor
      · rintro ⟨others, rest, rfl⟩
        exact ⟨result, others, first, ih.mp rest, rfl⟩
      · rintro ⟨found, others, same, rest, rfl⟩
        exact ⟨others, ih.mpr rest, by rw [Except.ok.inj (first.symm.trans same)]⟩

/-- Some step fails, and it is the first to do so. -/
theorem mapM_eq_error_iff {entries : List α} {error : ε} :
    entries.mapM step = .error error ↔
      ∃ before entry after, entries = before ++ entry :: after ∧
        (∀ earlier ∈ before, ∃ result, step earlier = .ok result) ∧
        step entry = .error error := by
  constructor
  · intro h
    induction entries with
    | nil => cases h
    | cons entry later ih =>
      cases first : step entry with
      | error found =>
        rw [mapM_cons_of_error first] at h
        obtain rfl := Except.error.inj h
        exact ⟨[], entry, later, rfl, nofun, first⟩
      | ok result =>
        rw [mapM_cons_of_ok first, map_eq_error_iff] at h
        obtain ⟨before, failing, after, rfl, succeed, fails⟩ := ih h
        exact ⟨entry :: before, failing, after, rfl,
          List.forall_mem_cons.mpr ⟨⟨result, first⟩, succeed⟩, fails⟩
  · rintro ⟨before, entry, after, rfl, succeed, fails⟩
    induction before with
    | nil => exact mapM_cons_of_error fails after
    | cons earlier before ih =>
      obtain ⟨⟨result, first⟩, succeed⟩ := List.forall_mem_cons.mp succeed
      rw [List.cons_append, mapM_cons_of_ok first, ih succeed]
      rfl

end Percussion
