/-!
# Quantities

The two ways in which a MIDI file writes a number: a fixed number of bytes, or as many groups of
seven bits as it takes, each byte but the last marked by its high bit. Both put the most
significant part first. Reading gives the number and what follows it: `readVariable?_append` and
`readFixed?_append` say that it undoes writing.
-/

namespace Percussion.Midi

/-- The greatest number that may be written as a quantity of variable length. -/
def maxQuantity : Nat := 0xFFFFFFF

/-- Puts the groups of seven bits of `n` in front of `later`, each marked as not the last. -/
def markedGroups (n : Nat) (later : List UInt8) : List UInt8 :=
  if n = 0 then
    later
  else
    markedGroups (n / 128) (UInt8.ofNat (128 + n % 128) :: later)
termination_by n
decreasing_by omega

/-- A number as a quantity of variable length. -/
def variableLength (n : Nat) : List UInt8 :=
  markedGroups (n / 128) [UInt8.ofNat (n % 128)]

/-- A number in `width` bytes; what does not fit is left out. -/
def fixedLength : (width : Nat) → Nat → List UInt8
  | 0, _ => []
  | width + 1, n => fixedLength width (n / 256) ++ [UInt8.ofNat (n % 256)]

/-- Reads the groups of a number up to the one that is not marked. `n` is the value of the groups
before. -/
def readGroups? : Nat → List UInt8 → Option (Nat × List UInt8)
  | _, [] => none
  | n, byte :: rest =>
    if byte.toNat < 128 then some (n * 128 + byte.toNat, rest)
    else readGroups? (n * 128 + (byte.toNat - 128)) rest

/-- Reads a quantity of variable length. One that is too great is refused. -/
def readVariable? (bytes : List UInt8) : Option (Nat × List UInt8) := do
  let (n, rest) ← readGroups? 0 bytes
  if n ≤ maxQuantity then some (n, rest) else none

/-- Reads a number in `width` more bytes. `n` is the value of the bytes before. -/
def readFixed? : (width : Nat) → Nat → List UInt8 → Option (Nat × List UInt8)
  | 0, n, bytes => some (n, bytes)
  | _ + 1, _, [] => none
  | width + 1, n, byte :: rest => readFixed? width (n * 256 + byte.toNat) rest

theorem toNat_ofNat_byte {n : Nat} (h : n < 256) : (UInt8.ofNat n).toNat = n := by
  simp [Nat.mod_eq_of_lt h]

@[simp] theorem markedGroups_zero (later : List UInt8) : markedGroups 0 later = later := by
  rw [markedGroups, if_pos rfl]

/-- The last group of a number goes in front of what comes later, and the others in front of it. -/
theorem markedGroups_of_ne_zero {n : Nat} (h : n ≠ 0) (later : List UInt8) :
    markedGroups n later = markedGroups (n / 128) (UInt8.ofNat (128 + n % 128) :: later) := by
  rw [markedGroups, if_neg h]

/-- Marked groups only add up their number. -/
theorem readGroups?_markedGroups (n : Nat) (later : List UInt8) :
    readGroups? 0 (markedGroups n later) = readGroups? n later := by
  induction n using Nat.strongRecOn generalizing later with
  | ind n ih =>
    by_cases zero : n = 0
    · rw [zero, markedGroups_zero]
    · have byte := toNat_ofNat_byte (by omega : 128 + n % 128 < 256)
      rw [markedGroups_of_ne_zero zero, ih (n / 128) (by omega), readGroups?, byte,
        if_neg (by omega), show n / 128 * 128 + (128 + n % 128 - 128) = n by omega]

theorem markedGroups_append (n : Nat) (later rest : List UInt8) :
    markedGroups n later ++ rest = markedGroups n (later ++ rest) := by
  induction n using Nat.strongRecOn generalizing later with
  | ind n ih =>
    by_cases zero : n = 0
    · rw [zero, markedGroups_zero, markedGroups_zero]
    · rw [markedGroups_of_ne_zero zero, markedGroups_of_ne_zero zero, ih (n / 128) (by omega),
        List.cons_append]

/-- A quantity of variable length is read back, whatever follows it. -/
theorem readVariable?_append {n : Nat} (h : n ≤ maxQuantity) (rest : List UInt8) :
    readVariable? (variableLength n ++ rest) = some (n, rest) := by
  have byte := toNat_ofNat_byte (by omega : n % 128 < 256)
  rw [readVariable?, variableLength, markedGroups_append, readGroups?_markedGroups]
  simp only [List.singleton_append, readGroups?, byte]
  rw [if_pos (by omega), show n / 128 * 128 + n % 128 = n by omega]
  simp [h]

/-- Reading on after a number of `width` bytes goes on with the value so far. -/
theorem readFixed?_add_append (width more before n : Nat) (rest : List UInt8) :
    readFixed? (width + more) before (fixedLength width n ++ rest) =
      readFixed? more (before * Nat.pow 256 width + n % Nat.pow 256 width) rest := by
  induction width generalizing more n rest with
  | zero => simp [fixedLength, Nat.mod_one]
  | succ width ih =>
    have byte := toNat_ofNat_byte (by omega : n % 256 < 256)
    have power : Nat.pow 256 (width + 1) = 256 * Nat.pow 256 width := Nat.mul_comm _ _
    have lower : n % (256 * Nat.pow 256 width) =
        n % 256 + 256 * (n / 256 % Nat.pow 256 width) := Nat.mod_mul
    have upper : before * (256 * Nat.pow 256 width) = 256 * (before * Nat.pow 256 width) :=
      Nat.mul_left_comm _ _ _
    rw [fixedLength, List.append_assoc, show width + 1 + more = width + (more + 1) by omega, ih,
      List.singleton_append, readFixed?, byte, power, lower, upper,
      show (before * Nat.pow 256 width + n / 256 % Nat.pow 256 width) * 256 + n % 256 =
        256 * (before * Nat.pow 256 width) +
          (n % 256 + 256 * (n / 256 % Nat.pow 256 width)) by omega]

/-- A number in a fixed number of bytes is read back, whatever follows it. -/
theorem readFixed?_append {width n : Nat} (h : n < Nat.pow 256 width) (rest : List UInt8) :
    readFixed? width 0 (fixedLength width n ++ rest) = some (n, rest) := by
  have := readFixed?_add_append width 0 0 n rest
  rwa [Nat.add_zero, Nat.zero_mul, Nat.zero_add, Nat.mod_eq_of_lt h] at this

end Percussion.Midi
