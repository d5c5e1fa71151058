import Percussion.Proofs.Literals
import Percussion.Yaml.Document

/-!
# Mappings of scalars, read

A text that consists of entries `key: value`, one under the other, is a document with one mapping.
Each entry takes three steps: its key waits until the colon is seen, then the key and the colon are
released, and then the value. Between two entries nothing waits, so that what is read from the
beginning of a line on (`ReadsAs`) is what the entry there gives, and then what is read from the next
line on. The break at the end of the last line may be missing.
-/

namespace Percussion.Yaml

/-- At the beginning of a line there is a key, or the text ends. -/
def BeginsKey (rest : List Char) : Prop := ∀ c ∈ rest.head?, c.isAlpha = true

/-- A character of one kind is none of those of which none is of that kind. -/
theorem ne_of_any {kind : Char → Bool} {c : Char} {others : List Char} (h : kind c = true)
    (none : others.any kind = false) : ∀ d ∈ others, c ≠ d := by
  rintro d hd rfl
  exact List.any_eq_false.mp none c hd h

/-- A letter is nothing else than that. -/
theorem ne_of_isAlpha {c d : Char} (h : c.isAlpha = true) (other : d.isAlpha = false) : c ≠ d := by
  rintro rfl
  rw [h] at other
  cases other

theorem not_isIndicator_of_isAlpha {c : Char} (h : c.isAlpha = true) :
    Lexer.isIndicator c = false := by
  rw [Lexer.isIndicator, List.contains_eq_mem, decide_eq_false_iff_not]
  intro mem
  exact ne_of_any h (by decide) c mem rfl

/-- A key can only begin at the beginning of a line. -/
theorem BeginsKey.beginsLine {rest : List Char} (h : BeginsKey rest) : BeginsLine rest := by
  intro c hc
  simp [isSpaceOrTab, isBreak, ne_of_isAlpha (h c hc)]

/-- How many octets some characters take. -/
def octetsOf (text : List Char) : Nat := (text.map Char.utf8Size).sum

/-- Within a line, characters move the mark on by their number and their octets. -/
theorem Mark.afterAll_eq {text : List Char} (line : ∀ c ∈ text, isBreak c = false) (mark : Mark) :
    mark.afterAll text = ⟨mark.line, mark.column + text.length, mark.octets + octetsOf text⟩ := by
  induction text generalizing mark with
  | nil => rfl
  | cons c text ih =>
    have here := line c (List.mem_cons_self ..)
    have later := ih (fun d hd => line d (List.mem_cons_of_mem c hd)) (mark.after c)
    rw [Mark.afterAll, List.foldl_cons]
    refine later.trans ?_
    simp [Mark.after, here, octetsOf]
    omega

/-- A key that is recognised at the beginning of a line: it can be written without quotes, begins
with a letter, and is not too long. -/
structure IsKey (key : List Char) : Prop where
  plain : IsPlain key
  begins : ∃ c ∈ key.head?, c.isAlpha = true
  short : octetsOf key ≤ Lexer.maxKeyLength

namespace IsKey

variable {key : List Char}

theorem length_pos (h : IsKey key) : 0 < key.length := by
  obtain ⟨c, head, _⟩ := h.begins
  cases key with
  | nil => cases head
  | cons => exact Nat.succ_pos _

theorem beginsKey_append (h : IsKey key) (rest : List Char) : BeginsKey (key ++ rest) := by
  obtain ⟨c, head, letter⟩ := h.begins
  cases key with
  | nil => cases head
  | cons c' key =>
    cases head
    rintro _ ⟨⟩
    exact letter

/-- A key is short enough to be still waited for at its colon. -/
theorem not_isStale (h : IsKey key) (mark : Mark) :
    Lexer.isStale mark (mark.afterAll key) = false := by
  have short := h.short
  simp [Lexer.isStale, Mark.afterAll_eq h.plain.line]
  omega

end IsKey

namespace Lexer

/-- Where a line has ended, or is just about to, and `rest` comes next. -/
def EndsLine (cursor : Cursor) (keyAllowed : Bool) (rest : List Char) : Prop :=
  ∃ mark : Mark, mark.column = 0 ∧
    skipFrom false cursor.rest cursor.mark keyAllowed false = (⟨rest, mark⟩, true)

variable {lx : Lexer} {c : Char} {rest : List Char} {mark : Mark}

/-- Nothing is passed over before a token. -/
theorem skipFrom_token (space : isSpaceOrTab c = false) (ends : isBreak c = false)
    (comment : c ≠ '#') (order : mark.column = 0 → c ≠ byteOrderMark) (rest : List Char)
    (keyAllowed : Bool) :
    skipFrom false (c :: rest) mark keyAllowed false = (⟨c :: rest, mark⟩, keyAllowed) := by
  simp only [isSpaceOrTab, Bool.or_eq_false_iff] at space
  have start : (c == byteOrderMark && mark.column == 0) = false := by
    by_cases column : mark.column = 0 <;> simp [column, order]
  simp [skipFrom, ends, space, comment, start]

/-- Nothing is passed over before a key. -/
theorem skipFrom_key (h : BeginsKey rest) (mark : Mark) :
    skipFrom false rest mark true false = (⟨rest, mark⟩, true) := by
  cases rest with
  | nil => rfl
  | cons c rest =>
    obtain ⟨space, ends⟩ := h.beginsLine c rfl
    have comment : c ≠ '#' := ne_of_isAlpha (h c rfl) rfl
    have order : c ≠ byteOrderMark := ne_of_isAlpha (h c rfl) rfl
    exact skipFrom_token space ends comment (fun _ => order) rest true

theorem endsLine_of_column (h : BeginsKey rest) (mark : Mark) (column : mark.column = 0) :
    EndsLine ⟨rest, mark⟩ true rest :=
  ⟨mark, column, skipFrom_key h mark⟩

theorem endsLine_feed (h : BeginsKey rest) (mark : Mark) (keyAllowed : Bool) :
    EndsLine ⟨'\n' :: rest, mark⟩ keyAllowed rest := by
  have feed : isBreak '\n' = true := rfl
  obtain ⟨mark', column, skipped⟩ := endsLine_of_column h mark.nextLine rfl
  refine ⟨mark', column, ?_⟩
  rw [skipFrom, if_pos feed, ← skipped]
  simp [Mark.after, feed]

/-- A plain scalar begins where nothing else does. -/
theorem fetch_plain (flow : lx.outer = []) (cursor : lx.cursor.rest = c :: rest)
    (directive : lx.cursor.mark.column = 0 → c ≠ '%')
    (document : atDocumentIndicator lx.cursor.mark (c :: rest) = false)
    (begins : beginsPlain false c rest = true) (entry : c = '-' → endsWord rest = false) :
    lx.fetch = lx.fetchPlain := by
  have outside : lx.inFlow = false := by simp [inFlow, flow]
  have percent : (lx.cursor.mark.column == 0 && c == '%') = false := by
    by_cases column : lx.cursor.mark.column = 0 <;> simp [column, directive]
  simp only [atDocumentIndicator, Bool.or_eq_false_iff] at document
  have word (d : Char) (needs : d = '?' ∨ d = ':') : (c == d && endsWord rest) = false := by
    by_contra ends
    rw [Bool.not_eq_false, Bool.and_eq_true, beq_iff_eq] at ends
    obtain ⟨rfl, ends⟩ := ends
    rcases needs with rfl | rfl <;> simp [beginsPlain, isIndicator, ends] at begins
  have dash : (c == '-' && endsWord rest) = false := by
    by_cases dash : c = '-' <;> simp [dash, entry]
  have other : ∀ d ∈ ['[', '{', ']', '}', ',', '*', '&', '!', '|', '>', '\'', '"'], c ≠ d := by
    rintro d hd rfl
    simp only [List.mem_cons, List.not_mem_nil, or_false] at hd
    rcases hd with rfl | rfl | rfl | rfl | rfl | rfl | rfl | rfl | rfl | rfl | rfl | rfl <;>
      simp [beginsPlain, isIndicator, isSpaceOrTab] at begins
  simp only [List.forall_mem_cons] at other
  rw [fetch]
  simp [cursor, percent, document, outside, dash, word, other, begins]

/-! ## Steps -/

/-- Nothing happens to keys that are still waited for. -/
theorem expireKeys_eq (flow : lx.outer = [])
    (fresh : expire lx.cursor.mark lx.pending = some lx.pending) :
    lx.expireKeys = some lx := by
  obtain ⟨cursor, indents, keyAllowed, pending, outer, queue, done, doneCount, ended⟩ := lx
  subst flow
  simp only at fresh
  simp [expireKeys, fresh]

/-- What has to hold so that the token after what is passed over is read, with no brackets open. -/
theorem step_of_fetch {next : Lexer} {cursor : Cursor} {keyAllowed : Bool} (flow : lx.outer = [])
    (skipped :
      skipFrom false lx.cursor.rest lx.cursor.mark lx.keyAllowed false = (cursor, keyAllowed))
    (fresh : expire cursor.mark lx.pending = some lx.pending)
    (top : ∀ indent ∈ lx.indents.head?, indent ≤ cursor.mark.column)
    (fetched : { lx with cursor, keyAllowed }.fetch = some next) (flow' : next.outer = [])
    (fresh' : expire next.cursor.mark next.pending = some next.pending) :
    lx.step = some next.release := by
  have outside : lx.inFlow = false := by simp [inFlow, flow]
  have skip : lx.skipToToken = { lx with cursor, keyAllowed } := by
    rw [skipToToken, outside, skipped]
  have unrolled : Lexer.unroll { lx with cursor, keyAllowed } (some cursor.mark.column) =
      { lx with cursor, keyAllowed } := by
    have none : (lx.indents.takeWhile fun indent => decide (cursor.mark.column < indent)) = [] := by
      cases indents : lx.indents with
      | nil => rfl
      | cons indent _ => simp [top indent (by simp [indents])]
    simp [unroll, inFlow, flow, none]
  have settled : Lexer.expireKeys { lx with cursor, keyAllowed } =
      some { lx with cursor, keyAllowed } := expireKeys_eq flow fresh
  rw [step, skip, settled, Option.bind_eq_bind, Option.bind_some, unrolled, fetched,
    Option.bind_some, expireKeys_eq flow' fresh', Option.bind_some]
  rfl

/-- Without a pending key no token waits. -/
theorem release_of_none (flow : lx.outer = []) (pending : lx.pending = none) :
    lx.release =
      { lx with
        queue := []
        done := lx.queue.reverse ++ lx.done
        doneCount := lx.doneCount + lx.queue.length } := by
  simp [release, flow, pending]

/-- A pending key before which no token waits holds all of them back. -/
theorem release_of_some {key : PendingKey} (flow : lx.outer = []) (pending : lx.pending = some key)
    (index : key.index = lx.doneCount) :
    lx.release = lx := by
  obtain ⟨cursor, indents, keyAllowed, _, outer, queue, done, doneCount, ended⟩ := lx
  subst pending flow
  simp only at index
  simp [release, index]

theorem run_of_step {next : Lexer} (read : lx.step = some next) (goesOn : next.ended = false)
    (count : Nat) : lx.run (count + 1) = next.run count := by
  rw [run, read]
  simp [goesOn]

/-! ## Keys -/

/-- Outside of brackets, with no key pending. Between two lines of a mapping the queue is empty. -/
def settled (cursor : Cursor) (indents : List Nat) (keyAllowed : Bool)
    (queue done : List (Located Token)) (doneCount : Nat) : Lexer :=
  { cursor, indents, keyAllowed, queue, done, doneCount }

/-- Without a key to wait for, all tokens are released. -/
theorem release_settled (cursor : Cursor) (indents : List Nat) (keyAllowed : Bool)
    (queue done : List (Located Token)) (doneCount : Nat) :
    (settled cursor indents keyAllowed queue done doneCount).release =
      settled cursor indents keyAllowed [] (queue.reverse ++ done) (doneCount + queue.length) :=
  release_of_none rfl rfl

/-- A key has been read, and its colon has not. -/
def afterKey (key : List Char) (mark : Mark) (rest : List Char) (indents : List Nat)
    (done : List (Located Token)) (doneCount : Nat) : Lexer where
  cursor := ⟨rest, mark.afterAll key⟩
  indents := indents
  keyAllowed := false
  pending := some ⟨doneCount, indents.head? == some mark.column, mark⟩
  queue := [⟨.scalar .plain key, mark⟩]
  done := done
  doneCount := doneCount

/-- A key is read as a plain scalar up to its colon. -/
theorem fetch_key {key more : List Char} (h : IsKey key) (word : endsWord more = true)
    {indents : List Nat} (margin : indents.head?.elim 0 (· + 1) ≤ 1) (mark : Mark)
    (done : List (Located Token)) (doneCount : Nat) :
    (settled ⟨key ++ ':' :: more, mark⟩ indents true [] done doneCount).fetch =
      some (afterKey key mark (':' :: more) indents done doneCount) := by
  have read := Plain.read?_colon margin h.plain word mark
  obtain ⟨c, head, letter⟩ := h.begins
  cases key with
  | nil => cases head
  | cons c' key =>
    cases head
    have document : atDocumentIndicator mark (c :: (key ++ ':' :: more)) = false := by
      simp [atDocumentIndicator, atIndicator, documentStart, documentEnd, ne_of_isAlpha letter]
    have begins : beginsPlain false c (key ++ ':' :: more) = true := by
      simp [beginsPlain, isSpaceOrTab, not_isIndicator_of_isAlpha letter, ne_of_isAlpha letter]
    rw [settled, fetch_plain rfl rfl (fun _ => ne_of_isAlpha letter rfl) document begins
      fun dash => absurd dash (ne_of_isAlpha letter rfl)]
    rw [List.cons_append] at read
    simp [fetchPlain, noteKey, dropKey, inFlow, push, read, afterKey]

/-- In one step the lexer takes in a key, and waits for the colon after it. -/
theorem step_key {key more : List Char} (h : IsKey key) {cursor : Cursor} {keyAllowed : Bool}
    (skipped : skipFrom false cursor.rest cursor.mark keyAllowed false =
      (⟨key ++ ':' :: ' ' :: more, mark⟩, true))
    {indents : List Nat} (top : ∀ indent ∈ indents.head?, indent = 0) (done : List (Located Token))
    (doneCount : Nat) :
    (settled cursor indents keyAllowed [] done doneCount).step =
      some (afterKey key mark (':' :: ' ' :: more) indents done doneCount) := by
  have margin : indents.head?.elim 0 (· + 1) ≤ 1 := by
    cases indents with
    | nil => exact Nat.zero_le 1
    | cons indent indents => simp [top indent rfl]
  have waits : (afterKey key mark (':' :: ' ' :: more) indents done doneCount).release =
      afterKey key mark (':' :: ' ' :: more) indents done doneCount := release_of_some rfl rfl rfl
  rw [← waits]
  refine step_of_fetch rfl skipped rfl ?_ (fetch_key h rfl margin mark done doneCount) rfl ?_
  · intro indent hi
    simp [top indent hi]
  · simp [afterKey, expire, h.not_isStale]

/-- The tokens in front of a value, last one first. -/
def keyTokens (key : List Char) (mark colon : Mark) (opening : Bool) : List (Located Token) :=
  ⟨.value, colon⟩ :: ⟨.scalar .plain key, mark⟩ :: ⟨.key, mark⟩ ::
    if opening then [⟨.blockMappingStart, mark⟩] else []

/-- A colon inside a line that ends a word is one before a value. -/
theorem fetch_colon (cursor : lx.cursor.rest = ':' :: rest)
    (right : 0 < lx.cursor.mark.column) (word : endsWord rest = true) :
    lx.fetch = lx.fetchValue := by
  simp [fetch, cursor, atIndicator, Nat.ne_of_gt right, word]

/-- The colon after a key releases both. The first key of a mapping opens it. -/
theorem step_colon {key : List Char} (h : IsKey key) (more : List Char) (column : mark.column = 0)
    {indents : List Nat} (top : indents = [] ∨ indents = [0]) (done : List (Located Token))
    (doneCount : Nat) :
    ∃ (mark' : Mark) (doneCount' : Nat),
      (afterKey key mark (':' :: ' ' :: more) indents done doneCount).step =
        some (settled ⟨' ' :: more, mark'⟩ [0] false []
          (keyTokens key mark (mark.afterAll key) indents.isEmpty ++ done) doneCount') := by
  have right : 0 < (mark.afterAll key).column := by
    have pos := h.length_pos
    rw [Mark.afterAll_eq h.plain.line]
    show 0 < mark.column + key.length
    omega
  have fetched : (afterKey key mark (':' :: ' ' :: more) indents done doneCount).fetch =
      some (settled ⟨' ' :: more, (mark.afterAll key).after ':'⟩ [0] false
        (keyTokens key mark (mark.afterAll key) indents.isEmpty).reverse done doneCount) := by
    rw [fetch_colon rfl right rfl]
    rcases top with rfl | rfl <;>
      simp [fetchValue, afterKey, settled, keyTokens, opens, inFlow, column, pushIndicator, push,
        Cursor.skip, Mark.afterAll]
  have fresh : expire (mark.afterAll key) (afterKey key mark (':' :: ' ' :: more) indents done
      doneCount).pending = some (some ⟨doneCount, indents.head? == some mark.column, mark⟩) := by
    simp [afterKey, expire, h.not_isStale]
  have left : ∀ indent ∈ indents.head?, indent ≤ (mark.afterAll key).column := by
    rcases top with rfl | rfl <;> simp
  have skipped : skipFrom false (':' :: ' ' :: more) (mark.afterAll key) false false =
      (⟨':' :: ' ' :: more, mark.afterAll key⟩, false) :=
    skipFrom_token rfl rfl (by decide) (fun _ => by decide) _ _
  have read : (afterKey key mark (':' :: ' ' :: more) indents done doneCount).step =
      some (settled ⟨' ' :: more, (mark.afterAll key).after ':'⟩ [0] false
        (keyTokens key mark (mark.afterAll key) indents.isEmpty).reverse done doneCount).release :=
    step_of_fetch rfl skipped fresh left fetched rfl rfl
  rw [release_settled, List.reverse_reverse] at read
  exact ⟨_, _, read⟩

/-- At the end of a text, with a mapping closed. -/
def closing (mark : Mark) (done : List (Located Token)) (doneCount : Nat) : Lexer where
  cursor := ⟨[], mark⟩
  keyAllowed := false
  queue := [⟨.blockEnd, mark⟩, ⟨.streamEnd, mark⟩]
  done := done
  doneCount := doneCount
  ended := true

end Lexer

/-! ## Values -/

open Lexer

/-- After a key and a space, `written` is read as the scalar `text` and its line ends with it. -/
structure IsWritten (written : List Char) (style : Style) (text : List Char) : Prop where
  begins : ∃ c ∈ written.head?, isSpaceOrTab c = false ∧ isBreak c = false ∧ c ≠ '#'
  fetched : ∀ {rest : List Char} {mark : Mark}, BeginsKey rest → 0 < mark.column →
    ∀ (done : List (Located Token)) (doneCount : Nat),
      ∃ (cursor : Cursor) (keyAllowed : Bool), EndsLine cursor keyAllowed rest ∧
        (settled ⟨written ++ rest, mark⟩ [0] false [] done doneCount).fetch =
          some (settled cursor [0] keyAllowed [⟨.scalar style text, mark⟩] done doneCount)

/-- A text that no indicator opens begins a plain scalar. -/
theorem beginsPlain_of_opensWithIndicator {c : Char} {text : List Char}
    (h : opensWithIndicator (c :: text) = false) (space : isSpaceOrTab c = false)
    (rest : List Char) :
    beginsPlain false c (text ++ rest) = true ∧ (c = '-' → endsWord (text ++ rest) = false) := by
  simp only [opensWithIndicator, Bool.or_eq_false_iff] at h
  obtain ⟨_, opens, word⟩ := h
  by_cases sign : c = '?' ∨ c = ':' ∨ c = '-'
  · have inner : text.head?.all separates = false := by
      rcases sign with rfl | rfl | rfl <;> simpa using word
    cases text with
    | nil => cases inner
    | cons d text =>
      have separate : separates d = false := inner
      simp only [separates, isAnyBreak, Bool.or_eq_false_iff] at separate
      rcases sign with rfl | rfl | rfl <;> simp [beginsPlain, endsWord, separate]
  · rw [not_or, not_or] at sign
    have word : isIndicator c = false := by
      simp only [opensOtherwise, isIndicator, List.contains_eq_mem, decide_eq_false_iff_not,
        List.mem_cons, not_or] at opens ⊢
      simp [opens, sign]
    simp [beginsPlain, space, word, sign]

/-- A value begins here: nothing is skipped, and the line does not end. -/
def BeginsValue (text : List Char) : Prop :=
  ∃ c ∈ text.head?, isSpaceOrTab c = false ∧ isBreak c = false ∧ c ≠ '#'

theorem BeginsValue.append {text : List Char} (h : BeginsValue text) (rest : List Char) :
    BeginsValue (text ++ rest) := by
  obtain ⟨c, head, others⟩ := h
  refine ⟨c, ?_, others⟩
  rw [Option.mem_def] at head ⊢
  rw [List.head?_append, head]
  rfl

/-- A value that can be written without quotes. -/
structure IsPlainValue (text : List Char) : Prop where
  plain : IsPlain text
  ne : text ≠ []
  space : ∀ c ∈ text.head?, isSpaceOrTab c = false
  opens : opensWithIndicator text = false

namespace IsPlainValue

variable {text : List Char}

theorem begins (h : IsPlainValue text) : BeginsValue text := by
  obtain ⟨plain, ne, space, opens⟩ := h
  obtain ⟨c, text, rfl⟩ := List.exists_cons_of_ne_nil ne
  refine ⟨c, rfl, space c rfl, plain.line c (List.mem_cons_self ..), ?_⟩
  intro comment
  subst comment
  simp [opensWithIndicator, opensOtherwise] at opens

/-- What is read without quotes is the token. -/
theorem fetch_eq (h : IsPlainValue text) {stop : List Char} {mark : Mark} {cursor : Cursor}
    {broken : Bool} (right : 0 < mark.column)
    (read : Plain.read? false 1 ⟨text ++ stop, mark⟩ = some (text, cursor, broken))
    (done : List (Located Token)) (doneCount : Nat) :
    (settled ⟨text ++ stop, mark⟩ [0] false [] done doneCount).fetch =
      some (settled cursor [0] broken [⟨.scalar .plain text, mark⟩] done doneCount) := by
  obtain ⟨_, ne, space, opens⟩ := h
  obtain ⟨c, text, rfl⟩ := List.exists_cons_of_ne_nil ne
  obtain ⟨begins, entry⟩ := beginsPlain_of_opensWithIndicator opens (space c rfl) stop
  have document := atDocumentIndicator_eq_false right (c :: (text ++ stop))
  rw [List.cons_append] at read ⊢
  rw [settled, fetch_plain rfl rfl (fun column => absurd column (Nat.ne_of_gt right)) document
    begins entry]
  simp [settled, fetchPlain, noteKey, inFlow, push, read]

end IsPlainValue

/-- A value without quotes is read back. -/
theorem isWritten_plain {text : List Char} (h : IsPlainValue text) :
    IsWritten (writeAs .plain text ++ ['\n']) .plain text where
  begins := h.begins.append ['\n']
  fetched := by
    intro rest mark key right done doneCount
    have read := Plain.read?_line h.plain key.beginsLine mark
    refine ⟨⟨rest, (mark.afterAll text).nextLine⟩, true, endsLine_of_column key _ rfl, ?_⟩
    rw [writeAs, List.append_assoc]
    exact h.fetch_eq right read done doneCount

/-- A value in single quotes is read back. -/
theorem isWritten_singleQuoted {text : List Char} (h : IsSingleQuotable '\'' text) :
    IsWritten (writeAs .singleQuoted text ++ ['\n']) .singleQuoted text where
  begins := ⟨'\'', rfl, by decide⟩
  fetched := by
    intro rest mark key right done doneCount
    have closes : ('\n' :: rest).head? ≠ some '\'' := by simp
    obtain ⟨mark', read⟩ := Quoted.single?_append h closes mark
    refine ⟨⟨'\n' :: rest, mark'⟩, false, endsLine_feed key mark' false, ?_⟩
    rw [List.cons_append] at read
    simp [writeAs, settled, fetch, atIndicator, Nat.ne_of_gt right, inFlow, fetchNode, noteKey,
      read, push]

/-- Between double quotes every text is read back. -/
theorem isWritten_doubleQuoted (text : List Char) :
    IsWritten (writeAs .doubleQuoted text ++ ['\n']) .doubleQuoted text where
  begins := ⟨'"', rfl, by decide⟩
  fetched := by
    intro rest mark key right done doneCount
    obtain ⟨mark', read⟩ := Quoted.double?_append text ('\n' :: rest) mark
    refine ⟨⟨'\n' :: rest, mark'⟩, false, endsLine_feed key mark' false, ?_⟩
    rw [List.cons_append] at read
    simp [writeAs, settled, fetch, atIndicator, Nat.ne_of_gt right, inFlow, fetchNode, noteKey,
      read, push]

/-- A literal block is read back under its key. -/
theorem isWritten_literal {text : List Char} (ne : text ≠ [])
    (breaks : ∀ c ∈ text, isAnyBreak c = isBreak c) (tab : '\t' ∉ text) :
    IsWritten (writeAs .literal text ++ if text.getLast?.any isAnyBreak then [] else ['\n'])
      .literal text where
  begins := ⟨'|', rfl, by decide⟩
  fetched := by
    intro rest mark key right done doneCount
    obtain ⟨mark', column, read⟩ := Block.read?_literal ne breaks tab key.beginsLine mark
    refine ⟨⟨rest, mark'⟩, true, endsLine_of_column key mark' column, ?_⟩
    have literal : (Style.literal == Style.folded) = false := rfl
    simp only [List.cons_append, List.append_assoc] at read
    simp [writeAs, settled, fetch, atIndicator, Nat.ne_of_gt right, inFlow, fetchBlock, dropKey,
      literal, read, push]

/-! ## Entries -/

/-- An entry of a mapping: a key, and a scalar as it is written after the key and a space. -/
structure Entry where
  key : List Char
  written : List Char
  style : Style
  text : List Char
  isKey : IsKey key
  isWritten : IsWritten written style text

namespace Entry

/-- The lines of an entry. -/
def lines (entry : Entry) : List Char := entry.key ++ ':' :: ' ' :: entry.written

/-- The tokens of an entry. -/
def tokens (entry : Entry) : List Token :=
  [.key, .scalar .plain entry.key, .value, .scalar entry.style entry.text]

theorem beginsKey_lines_append (entry : Entry) (rest : List Char) :
    BeginsKey (entry.lines ++ rest) := by
  rw [lines, List.append_assoc]
  exact entry.isKey.beginsKey_append _

theorem length_lines (entry : Entry) : 3 ≤ entry.lines.length := by
  have pos := entry.isKey.length_pos
  simp [lines]
  omega

end Entry

/-! ## From line to line -/

section Steps

variable {cursor : Cursor} {keyAllowed : Bool} {mark : Mark} {written : List Char}

/-- The value after a key and its colon is released at once. -/
theorem step_value (begins : BeginsValue written) {token : Located Token}
    {done : List (Located Token)} {doneCount : Nat}
    (fetched : (settled ⟨written, mark.after ' '⟩ [0] false [] done doneCount).fetch =
      some (settled cursor [0] keyAllowed [token] done doneCount)) :
    (settled ⟨' ' :: written, mark⟩ [0] false [] done doneCount).step =
      some (settled cursor [0] keyAllowed [] (token :: done) (doneCount + 1)) := by
  obtain ⟨c, head, space, ends, comment⟩ := begins
  have column : (mark.after ' ').column = mark.column + 1 := Mark.column_after rfl mark
  have skipped : skipFrom false (' ' :: written) mark false false =
      (⟨written, mark.after ' '⟩, false) := by
    cases written with
    | nil => cases head
    | cons c' more =>
      obtain rfl := Option.some.inj head
      -- only at the beginning of a line could the value be taken for a byte order mark
      have order : (mark.after ' ').column = 0 → c' ≠ byteOrderMark := by simp [column]
      rw [skipFrom, if_neg (by decide), if_pos (by simp)]
      exact skipFrom_token space ends comment order more false
  have read : (settled ⟨' ' :: written, mark⟩ [0] false [] done doneCount).step =
      some (settled cursor [0] keyAllowed [token] done doneCount).release :=
    step_of_fetch rfl skipped rfl (by simp [settled]) fetched rfl rfl
  rw [read, release_settled]
  rfl

/-- A key, its colon and its value are read in three steps. -/
theorem exists_run_pair {key text : List Char} {style : Style} (h : IsKey key)
    (column : mark.column = 0)
    (skipped : skipFrom false cursor.rest cursor.mark keyAllowed false =
      (⟨key ++ ':' :: ' ' :: written, mark⟩, true))
    {indents : List Nat} (top : indents = [] ∨ indents = [0])
    (begins : BeginsValue written) {Stops : Cursor → Bool → Prop}
    (fetched : ∀ mark : Mark, 0 < mark.column → ∀ (done : List (Located Token)) (doneCount : Nat),
      ∃ (cursor : Cursor) (keyAllowed : Bool), Stops cursor keyAllowed ∧
        (settled ⟨written, mark⟩ [0] false [] done doneCount).fetch =
          some (settled cursor [0] keyAllowed [⟨.scalar style text, mark⟩] done doneCount))
    (done : List (Located Token)) (doneCount : Nat) :
    ∃ (cursor' : Cursor) (keyAllowed' : Bool) (value : Mark) (doneCount' : Nat),
      Stops cursor' keyAllowed' ∧
      ∀ count, (settled cursor indents keyAllowed [] done doneCount).run (count + 3) =
        (settled cursor' [0] keyAllowed' [] (⟨.scalar style text, value⟩ ::
          (keyTokens key mark (mark.afterAll key) indents.isEmpty ++ done)) doneCount').run count := by
  have zero : ∀ indent ∈ indents.head?, indent = 0 := by
    rcases top with rfl | rfl <;> simp
  -- the key is held back until its colon tells that it is one, and the first opens the mapping
  have step₁ := step_key h skipped zero done doneCount
  obtain ⟨mark₂, doneCount₂, step₂⟩ := step_colon h written column top done doneCount
  have inside : 0 < (mark₂.after ' ').column := by
    rw [Mark.column_after rfl mark₂]
    exact Nat.succ_pos _
  obtain ⟨cursor', keyAllowed', stops, value⟩ := fetched (mark₂.after ' ') inside
    (keyTokens key mark (mark.afterAll key) indents.isEmpty ++ done) doneCount₂
  refine ⟨cursor', keyAllowed', mark₂.after ' ', doneCount₂ + 1, stops, fun count => ?_⟩
  rw [run_of_step step₁ rfl, run_of_step step₂ rfl]
  exact run_of_step (step_value begins value) rfl count

/-- The end of a text closes the mapping. It counts as the beginning of a line. -/
theorem exists_run_end {allowed : Bool}
    (skipped : skipFrom false cursor.rest cursor.mark keyAllowed false = (⟨[], mark⟩, allowed))
    (done : List (Located Token)) (doneCount : Nat) :
    ∃ last : Mark, (mark.column = 0 → last = mark) ∧
      ∀ count, ((settled cursor [0] keyAllowed [] done doneCount).run (count + 1)).done.reverse =
        done.reverse ++ [⟨.blockEnd, last⟩, ⟨.streamEnd, last⟩] := by
  refine ⟨if mark.column = 0 then mark else mark.nextLine, fun column => if_pos column, ?_⟩
  intro count
  have fetched : (settled ⟨[], mark⟩ [0] allowed [] done doneCount).fetch =
      some (closing (if mark.column = 0 then mark else mark.nextLine) done doneCount) := by
    by_cases column : mark.column = 0 <;>
      simp [closing, settled, fetch, fetchEnd, unroll, inFlow, dropKey, push, column]
  have read : (settled cursor [0] keyAllowed [] done doneCount).step =
      some (closing (if mark.column = 0 then mark else mark.nextLine) done doneCount).release :=
    step_of_fetch rfl skipped rfl (by simp [settled]) fetched rfl rfl
  rw [run, read, release_of_none rfl rfl]
  simp [closing]

end Steps

/-- From the beginning of a line on, with mappings at `indents` open, `text` is read as `tokens`, the
first of which is right there. -/
def ReadsAs (indents : List Nat) (text : List Char) (tokens : List Token) : Prop :=
  ∀ {cursor : Cursor} {keyAllowed : Bool} {mark : Mark}, mark.column = 0 →
    skipFrom false cursor.rest cursor.mark keyAllowed false = (⟨text, mark⟩, true) →
    ∀ (done : List (Located Token)) (doneCount : Nat),
      ∃ (steps : Nat) (found : List (Located Token)), steps ≤ text.length + 1 ∧
        found.map (·.item) = tokens ∧ found.head?.map (·.mark) = some mark ∧
        ∀ count, ((settled cursor indents keyAllowed [] done doneCount).run
          (count + steps)).done.reverse = done.reverse ++ found

theorem readsAs_end : ReadsAs [0] [] [.blockEnd, .streamEnd] := by
  intro cursor keyAllowed mark column skipped done doneCount
  obtain ⟨last, same, read⟩ := exists_run_end skipped done doneCount
  refine ⟨1, [⟨.blockEnd, last⟩, ⟨.streamEnd, last⟩], Nat.le_refl _, rfl, ?_, read⟩
  rw [same column]
  rfl

namespace Entry

variable {indents : List Nat}

/-- The tokens of an entry, the first of which opens the mapping. -/
def tokensAt (indents : List Nat) (entry : Entry) : List Token :=
  (if indents.isEmpty then [.blockMappingStart] else []) ++ entry.tokens

/-- An entry is read, and then what is on the lines after it. -/
theorem readsAs (entry : Entry) (top : indents = [] ∨ indents = [0]) {rest : List Char}
    {more : List Token} (key : BeginsKey rest) (later : ReadsAs [0] rest more) :
    ReadsAs indents (entry.lines ++ rest) (entry.tokensAt indents ++ more) := by
  intro cursor keyAllowed mark column skipped done doneCount
  rw [lines, List.append_assoc, List.cons_append, List.cons_append] at skipped
  have begins : BeginsValue (entry.written ++ rest) := .append entry.isWritten.begins rest
  obtain ⟨cursor', keyAllowed', value, doneCount', ⟨mark', column', skipped'⟩, read⟩ :=
    exists_run_pair entry.isKey column skipped top begins
      (fun _ right => entry.isWritten.fetched key right) done doneCount
  obtain ⟨steps, found, few, items, _, read'⟩ := later column' skipped'
    (⟨.scalar entry.style entry.text, value⟩ ::
      (keyTokens entry.key mark (mark.afterAll entry.key) indents.isEmpty ++ done)) doneCount'
  refine ⟨steps + 3, (keyTokens entry.key mark (mark.afterAll entry.key) indents.isEmpty).reverse ++
    ⟨.scalar entry.style entry.text, value⟩ :: found, ?_, ?_, ?_, fun count => ?_⟩
  · have long := entry.length_lines
    rw [List.length_append]
    omega
  · rcases top with rfl | rfl <;> simp [keyTokens, tokensAt, tokens, items]
  · rcases top with rfl | rfl <;> rfl
  · rw [← Nat.add_assoc, read, read']
    simp

/-- The entry of a value without quotes. -/
def plain {key text : List Char} (isKey : IsKey key) (value : IsPlainValue text) : Entry where
  key := key
  written := text ++ ['\n']
  style := .plain
  text := text
  isKey := isKey
  isWritten := isWritten_plain value

/-- A last entry without quotes needs no break. -/
theorem readsAs_last {key text : List Char} (h : IsKey key) (value : IsPlainValue text)
    (top : indents = [] ∨ indents = [0]) :
    ReadsAs indents (key ++ ':' :: ' ' :: text)
      ((plain h value).tokensAt indents ++ [.blockEnd, .streamEnd]) := by
  intro cursor keyAllowed mark column skipped done doneCount
  -- no line feed follows the value, so that the text ends where its line does
  have fetched (mark : Mark) (right : 0 < mark.column) (done : List (Located Token))
      (doneCount : Nat) : ∃ (cursor : Cursor) (keyAllowed : Bool), cursor.rest = [] ∧
        (settled ⟨text, mark⟩ [0] false [] done doneCount).fetch =
          some (settled cursor [0] keyAllowed [⟨.scalar .plain text, mark⟩] done doneCount) := by
    have read := value.fetch_eq right (Plain.read?_end value.plain mark) done doneCount
    rw [List.append_nil] at read
    exact ⟨_, _, rfl, read⟩
  obtain ⟨cursor', keyAllowed', place, doneCount', ended, read⟩ :=
    exists_run_pair h column skipped top value.begins fetched done doneCount
  have skipped' : skipFrom false cursor'.rest cursor'.mark keyAllowed' false =
      (⟨[], cursor'.mark⟩, keyAllowed') := by
    rw [ended]
    rfl
  obtain ⟨last, _, read'⟩ := exists_run_end skipped' (⟨.scalar .plain text, place⟩ ::
    (keyTokens key mark (mark.afterAll key) indents.isEmpty ++ done)) doneCount'
  refine ⟨1 + 3, (keyTokens key mark (mark.afterAll key) indents.isEmpty).reverse ++
    [⟨.scalar .plain text, place⟩, ⟨.blockEnd, last⟩, ⟨.streamEnd, last⟩], ?_, ?_, ?_,
    fun count => ?_⟩
  · have long := h.length_pos
    simp only [List.length_append, List.length_cons]
    omega
  · rcases top with rfl | rfl <;> simp [keyTokens, tokensAt, tokens, plain]
  · rcases top with rfl | rfl <;> rfl
  · rw [← Nat.add_assoc, read, read']
    simp

end Entry

/-! ## Texts of entries -/

/-- A text consists of entries, one under the other. At its end a break may be missing. -/
inductive IsListing : List Entry → List Char → Prop
  | nil : IsListing [] []
  | last {key text : List Char} (isKey : IsKey key) (value : IsPlainValue text) :
    IsListing [.plain isKey value] (key ++ ':' :: ' ' :: text)
  | cons {entries : List Entry} {text : List Char} (entry : Entry) : IsListing entries text →
    IsListing (entry :: entries) (entry.lines ++ text)

namespace IsListing

variable {entries : List Entry} {text : List Char}

/-- Entries that are written one under the other are a listing of them. -/
theorem flatMap_lines (entries : List Entry) : IsListing entries (entries.flatMap Entry.lines) := by
  induction entries with
  | nil => exact nil
  | cons entry entries ih => exact cons entry ih

theorem eq_nil (h : IsListing [] text) : text = [] := by
  cases h
  rfl

/-- A listing begins with a key, or is over. -/
theorem beginsKey (h : IsListing entries text) : BeginsKey text := by
  cases h with
  | nil => nofun
  | last isKey _ => exact isKey.beginsKey_append _
  | cons entry _ => exact entry.beginsKey_lines_append _

/-- The entries are read one after the other. -/
theorem readsAs (h : IsListing entries text) :
    ReadsAs [0] text (entries.flatMap Entry.tokens ++ [.blockEnd, .streamEnd]) := by
  induction h with
  | nil => exact readsAs_end
  | last isKey value => exact Entry.readsAs_last isKey value (.inr rfl)
  | cons entry listing ih =>
    rw [List.flatMap_cons, List.append_assoc]
    exact entry.readsAs (.inr rfl) listing.beginsKey ih

/-- The tokens of a text that consists of entries. The mapping opens at its beginning. -/
theorem exists_ofText (h : IsListing entries text) (ne : entries ≠ []) :
    ∃ found : List (Located Token),
      Token.ofText text = ⟨.blockMappingStart, Mark.start⟩ :: found ∧
      found.map (·.item) = entries.flatMap Entry.tokens ++ [.blockEnd, .streamEnd] := by
  have reads : ReadsAs [] text
      (.blockMappingStart :: entries.flatMap Entry.tokens ++ [.blockEnd, .streamEnd]) := by
    cases h with
    | nil => exact absurd rfl ne
    | last isKey value => exact Entry.readsAs_last isKey value (.inl rfl)
    | cons entry listing =>
      rw [List.flatMap_cons, ← List.cons_append, List.append_assoc]
      exact entry.readsAs (.inl rfl) listing.beginsKey listing.readsAs
  -- the steps are counted by characters, and no entry takes more steps than it has characters
  have line : Mark.start.column = 0 := rfl
  obtain ⟨steps, found, few, items, first, read⟩ :=
    @reads ⟨text, Mark.start⟩ true Mark.start line (skipFrom_key h.beginsKey Mark.start) [] 0
  have initial : Lexer.ofText text = settled ⟨text, Mark.start⟩ [] true [] [] 0 := rfl
  have released : Token.ofText text = found := by
    rw [Token.ofText, initial, ← Nat.sub_add_cancel few, read]
    rfl
  cases found with
  | nil => cases first
  | cons token found =>
    obtain ⟨item, mark⟩ := token
    obtain rfl := Option.some.inj first
    obtain ⟨rfl, later⟩ := List.cons.inj items
    exact ⟨found, released, later⟩

end IsListing

end Percussion.Yaml
