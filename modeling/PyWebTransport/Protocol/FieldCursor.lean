/-
PyWebTransport.Protocol.FieldCursor — the parsers of protocol headers with a
cursor that can be misused.

In the source a `Cursor` panics when it is advanced behind its end or read
at it, and a loop could go on for ever; the functions of `Utils` cannot say
so. Here the same code is written once more over a cursor that reports both
faults, step by step as in `protocol/utils.rs`. Each reader is shown to be
`Safe` for its counterpart in `Utils`: it never faults, and returns the same.
`field_parsers_exact` puts this together with the grammar.
-/
import PyWebTransport.Protocol.FieldParsers

namespace PyWebTransport

open PyWebTransport.Lib

inductive Fault where
  | outOfBounds
  | outOfFuel
deriving DecidableEq

/-- Code that reads from a cursor: it faults, gives up (`?` on an `Option`),
or returns a value and leaves the cursor further on. -/
def Scanner (α : Type) : Type := Bytes → Except Fault (Option (α × Bytes))

namespace Scanner

variable {α β : Type}

variable {cursor rest header : Bytes} {byte : UInt8} {rounds : Nat}

instance : Monad Scanner where
  pure value := fun cursor => .ok (some (value, cursor))
  bind x next := fun cursor =>
    match x cursor with
    | .error fault => .error fault
    | .ok none => .ok none
    | .ok (some (value, cursor)) => next value cursor

/-! ## The cursor -/

/-- `return None`. -/
def reject : Scanner α := fun _ => .ok none

/-- A loop that has used up its rounds. -/
def exhausted : Scanner α := fun _ => .error .outOfFuel

/-- `Cursor::chunk`: all that is left. -/
def chunk : Scanner Bytes := fun cursor => .ok (some (cursor, cursor))

/-- `chunk().first()`. -/
def first : Scanner (Option UInt8) := fun cursor => .ok (some (cursor.head?, cursor))

def hasRemaining : Scanner Bool := fun cursor => .ok (some (!cursor.isEmpty, cursor))

/-- `chunk().iter().take_while(..).count()`. -/
def count (p : UInt8 → Bool) : Scanner Nat :=
  fun cursor => .ok (some ((cursor.takeWhile p).length, cursor))

/-- `Cursor::advance`. -/
def advance (n : Nat) : Scanner Unit := fun cursor =>
  if n ≤ cursor.length then .ok (some ((), cursor.drop n)) else .error .outOfBounds

/-- `Cursor::get_u8`. -/
def getU8 : Scanner UInt8
  | [] => .error .outOfBounds
  | byte :: rest => .ok (some (byte, rest))

/-! ## The readers -/

def skipWhile (p : UInt8 → Bool) : Scanner Unit := do
  let len ← count p
  advance len

def parseStringRounds : Nat → List Char → Scanner String
  | 0, _ => exhausted
  | rounds + 1, value => do
      if ← hasRemaining then
        let byte ← getU8
        if byte = 0x5C ∧ (← hasRemaining) = true then
          let escaped ← getU8
          if escaped = 0x22 ∨ escaped = 0x5C then
            parseStringRounds rounds (value ++ [Char.ofNat escaped.toNat])
          else reject
        else if byte = 0x22 then return String.ofList value
        else if isPrintableAscii byte then
          parseStringRounds rounds (value ++ [Char.ofNat byte.toNat])
        else reject
      else reject

def parseString : Scanner String := do
  if (← first) = some 0x22 then
    advance 1
    let rest ← chunk
    parseStringRounds (rest.length + 1) []
  else reject

def skipSign : Scanner Unit := do
  if (← first) = some 0x2D then advance 1 else pure ()

def discardNumber : Scanner Bool := do
  skipSign
  let integerLen ← count isAsciiDigit
  if integerLen = 0 then reject
  else
    advance integerLen
    if (← first) = some 0x2E then
      advance 1
      let fractionLen ← count isAsciiDigit
      advance fractionLen
      if integerLen ≤ 12 ∧ 1 ≤ fractionLen ∧ fractionLen ≤ 3 then return true else reject
    else if integerLen ≤ 15 then return false
    else reject

/-- `chunk().iter().position(..)?`. -/
def position (p : UInt8 → Bool) : Scanner Nat := fun cursor =>
  .ok ((cursor.findIdx? p).map fun index => (index, cursor))

def discardByteSequence : Scanner Unit := do
  let contentLen ← position (· == 0x3A)
  let rest ← chunk
  let content := rest.take contentLen
  let dataLen := (content.reverse.dropWhile (· == 0x3D)).length
  let paddingLen := contentLen - dataLen
  let isValid := (content.take dataLen).all
      (fun byte => isAsciiAlphanumeric byte || byte == 0x2B || byte == 0x2F) &&
    paddingLen ≤ 2 && dataLen % 4 != 1 && (paddingLen == 0 || contentLen % 4 == 0)
  if isValid then advance (contentLen + 1) else reject

/-- One digit of an escaped octet. -/
def hexDigit : Scanner UInt8 := do
  if ← hasRemaining then
    let byte ← getU8
    match hexDigitValue byte with
    | some digit => return digit
    | none => reject
  else reject

def displayStringRounds : Nat → Bytes → Scanner Unit
  | 0, _ => exhausted
  | rounds + 1, value => do
      if ← hasRemaining then
        let byte ← getU8
        if byte = 0x25 then
          let high ← hexDigit
          let low ← hexDigit
          displayStringRounds rounds (value ++ [high * 16 + low])
        else if byte = 0x22 then
          if (utf8String? value).isSome then return () else reject
        else if isPrintableAscii byte then displayStringRounds rounds (value ++ [byte])
        else reject
      else reject

def discardDisplayString : Scanner Unit := do
  let rest ← chunk
  displayStringRounds (rest.length + 1) []

/-- The `match` of `discard_parameters`. -/
def discardParameterValue : Scanner Unit := do
  match ← first with
  | none => reject
  | some byte =>
    if byte = 0x2D || isAsciiDigit byte then
      let _ ← discardNumber
      return ()
    else if byte = 0x22 then
      let _ ← parseString
      return ()
    else if byte = 0x2A || isAsciiUppercase byte || isAsciiLowercase byte then
      skipWhile fun b => isAsciiAlphanumeric b || tokenSymbols.contains b
    else if byte = 0x3A then
      advance 1
      discardByteSequence
    else if byte = 0x3F then
      advance 1
      if (← first) = some 0x30 ∨ (← first) = some 0x31 then advance 1 else reject
    else if byte = 0x40 then
      advance 1
      let isDecimal ← discardNumber
      if isDecimal then reject else return ()
    else if byte = 0x25 then
      advance 1
      if (← first) = some 0x22 then
        advance 1
        discardDisplayString
      else reject
    else reject

def parameterRounds : Nat → Scanner Unit
  | 0 => exhausted
  | rounds + 1 => do
      if (← first) = some 0x3B then
        advance 1
        skipWhile (· == 0x20)
        if (← first).any (fun b => isAsciiLowercase b || b == 0x2A) then
          skipWhile isParameterKeyByte
          if (← first) = some 0x3D then
            advance 1
            discardParameterValue
            parameterRounds rounds
          else parameterRounds rounds
        else reject
      else return ()

def discardParameters : Scanner Unit := do
  let rest ← chunk
  parameterRounds (rest.length + 1)

/-! ## The parsers -/

def memberRounds : Nat → List String → Scanner (List String)
  | 0, _ => exhausted
  | rounds + 1, protocols => do
      if ← hasRemaining then
        let protocol ← parseString
        discardParameters
        skipWhile isBlankByte
        if ← hasRemaining then
          let byte ← getU8
          if byte ≠ 0x2C then reject
          else
            skipWhile isBlankByte
            if ← hasRemaining then memberRounds rounds (protocols ++ [protocol]) else reject
        else return protocols ++ [protocol]
      else if protocols.isEmpty then reject
      else return protocols

def parseWtProtocolList : Scanner (List String) := do
  skipWhile (· == 0x20)
  let rest ← chunk
  memberRounds (rest.length + 1) []

def parseWtProtocolString : Scanner String := do
  skipWhile (· == 0x20)
  let protocol ← parseString
  discardParameters
  skipWhile (· == 0x20)
  if ← hasRemaining then reject else return protocol

/-! ## Running a scanner -/

theorem bind_run (x : Scanner α) (next : α → Scanner β) :
    (x >>= next) cursor =
      match x cursor with
      | .error fault => .error fault
      | .ok none => .ok none
      | .ok (some (value, cursor)) => next value cursor := rfl

theorem ite_run {c : Prop} [Decidable c] (x y : Scanner α) :
    (if c then x else y) cursor = if c then x cursor else y cursor := by
  split
  · rfl
  · rfl

@[simp] theorem pure_run {value : α} :
    (pure value : Scanner α) cursor = .ok (some (value, cursor)) := rfl

@[simp] theorem reject_run : (reject : Scanner α) cursor = .ok none := rfl

@[simp] theorem chunk_run : chunk cursor = .ok (some (cursor, cursor)) := rfl

@[simp] theorem first_run : first cursor = .ok (some (cursor.head?, cursor)) := rfl

@[simp] theorem hasRemaining_run : hasRemaining cursor = .ok (some (!cursor.isEmpty, cursor)) := rfl

@[simp] theorem count_run (p : UInt8 → Bool) :
    count p cursor = .ok (some ((cursor.takeWhile p).length, cursor)) := rfl

@[simp] theorem getU8_run : getU8 (byte :: rest) = .ok (some (byte, rest)) := rfl

@[simp] theorem advance_one : advance 1 (byte :: rest) = .ok (some ((), rest)) := by
  rw [advance, if_pos (by simp)]
  rfl

theorem advance_append (word rest : Bytes) :
    advance word.length (word ++ rest) = .ok (some ((), rest)) := by
  rw [advance, if_pos (by simp), List.drop_left]

/-- The scanner never faults, and returns what the function returns. -/
def Safe (x : Scanner α) (r : Bytes → Option (α × Bytes)) : Prop := ∀ cursor, x cursor = .ok (r cursor)

theorem skipWhile_run (p : UInt8 → Bool) :
    skipWhile p cursor = .ok (some ((), cursor.dropWhile p)) := by
  obtain ⟨word, rest, rfl, -, -, htake, hdrop⟩ := scan_cases p cursor
  rw [skipWhile, bind_run, count_run, htake, hdrop]
  exact advance_append word rest

/-! ## The readers are safe -/

theorem parseStringRounds_run : ∀ (value : List Char) (cursor : Bytes),
    cursor.length < rounds →
    parseStringRounds rounds value cursor = .ok (parseStringLoop value cursor) := by
  induction rounds with
  | zero =>
    intro value cursor hrounds
    exact absurd hrounds (Nat.not_lt_zero _)
  | succ rounds ih =>
    intro value cursor hrounds
    cases cursor with
    | nil => rfl
    | cons byte rest =>
      have hrest : rest.length < rounds := by simpa using hrounds
      by_cases hbackslash : byte = 0x5C
      · subst hbackslash
        cases rest with
        | nil =>
          -- the guard fails, and the byte is taken as a printable one
          exact ih _ [] hrest
        | cons next rest =>
          have hlen : rest.length < rounds := by
            rw [List.length_cons] at hrest
            omega
          rw [Field.parseStringLoop_escape]
          simp only [parseStringRounds, bind_run, hasRemaining_run, getU8_run, ite_run,
            List.isEmpty_cons, Bool.not_false, if_true, and_self, ih _ rest hlen, reject_run]
          split
          · rfl
          · rfl
      · rw [Field.parseStringLoop_cons hbackslash]
        simp only [parseStringRounds, bind_run, hasRemaining_run, getU8_run, ite_run,
          List.isEmpty_cons, Bool.not_false, if_true, hbackslash, false_and, if_false,
          ih _ rest hrest, reject_run, pure_run]
        split
        · rfl
        · split
          · rfl
          · rfl

theorem parseString_safe : Safe parseString PyWebTransport.parseString := by
  intro cursor
  cases cursor with
  | nil => rfl
  | cons byte rest =>
    simp only [parseString, bind_run, first_run, ite_run, List.head?_cons, Option.some.injEq,
      advance_one, chunk_run, parseStringRounds_run _ rest (Nat.lt_succ_self _), reject_run]
    rw [PyWebTransport.parseString]
    split
    · rfl
    · rfl

theorem skipSign_run :
    ∃ unsigned, skipSign cursor = .ok (some ((), unsigned)) ∧
      PyWebTransport.discardNumber cursor = Field.discardUnsigned unsigned := by
  by_cases hminus : cursor.head? = some 0x2D
  · obtain ⟨rest, rfl⟩ := List.head?_eq_some_iff.mp hminus
    exact ⟨rest, rfl, Field.discardNumber_minus⟩
  · refine ⟨cursor, ?_, Field.discardNumber_unsigned hminus⟩
    simp only [skipSign, bind_run, first_run, ite_run, if_neg hminus, pure_run]

theorem discardNumber_safe : Safe discardNumber PyWebTransport.discardNumber := by
  intro cursor
  obtain ⟨unsigned, hskip, heq⟩ := skipSign_run
  obtain ⟨digits, behind, rfl, -, -, htake, -⟩ := scan_cases isAsciiDigit unsigned
  rw [heq, Field.discardUnsigned, discardNumber, bind_run, hskip]
  simp only [bind_run, count_run, htake, ite_run, advance_append, first_run, reject_run,
    List.drop_left]
  split
  · rfl
  · cases behind with
    | nil =>
      simp only [List.head?_nil, reduceCtorEq, if_false, pure_run]
      split
      · rfl
      · rfl
    | cons byte behind =>
      obtain ⟨fraction, behind, rfl, -, -, htake', -⟩ := scan_cases isAsciiDigit behind
      simp only [List.head?_cons, Option.some.injEq, advance_one, htake', advance_append, pure_run,
        List.drop_left]
      split
      · split
        · rfl
        · rfl
      · split
        · rfl
        · rfl

/-- The first colon, as a scan up to it. -/
theorem findIdx?_eq (p : UInt8 → Bool) :
    cursor.findIdx? p =
      if (cursor.takeWhile fun byte => !p byte).length = cursor.length then none
      else some (cursor.takeWhile fun byte => !p byte).length := by
  induction cursor with
  | nil => rfl
  | cons byte rest ih =>
    rw [List.findIdx?_cons, List.takeWhile_cons]
    cases hbyte : p byte with
    | true => simp
    | false =>
      simp only [Bool.false_eq_true, if_false, Bool.not_false, if_true, List.length_cons, ih,
        Nat.add_right_cancel_iff]
      split
      · rfl
      · rfl

theorem discardByteSequence_safe :
    Safe discardByteSequence fun cursor =>
      (PyWebTransport.discardByteSequence cursor).map fun rest => ((), rest) := by
  intro cursor
  obtain ⟨content, behind, rfl, -, -, htake, -⟩ := scan_cases (fun byte => !(byte == 0x3A)) cursor
  have hmodel : (content ++ behind).takeWhile (· != 0x3A) = content := htake
  show _ = Except.ok ((PyWebTransport.discardByteSequence (content ++ behind)).map
    fun rest => ((), rest))
  rw [discardByteSequence, PyWebTransport.discardByteSequence, hmodel, bind_run, position,
    findIdx?_eq, htake]
  cases behind with
  | nil => simp
  | cons colon rest =>
    have hless : ¬content.length = (content ++ colon :: rest).length := by simp
    have hadvance : advance (content.length + 1) (content ++ colon :: rest) =
        .ok (some ((), rest)) := by
      rw [advance, if_pos (by simp), Field.drop_content]
    simp only [if_neg hless, Option.map_some, bind_run, chunk_run, List.take_left, ite_run,
      hadvance, reject_run, Field.drop_content]
    split
    · rfl
    · rfl

theorem hexDigit_run :
    hexDigit cursor = .ok (match cursor with
      | [] => none
      | byte :: rest => (hexDigitValue byte).map fun digit => (digit, rest)) := by
  cases cursor with
  | nil => rfl
  | cons byte rest =>
    simp only [hexDigit, bind_run, hasRemaining_run, List.isEmpty_cons, Bool.not_false, if_true,
      getU8_run]
    cases hexDigitValue byte with
    | none | some digit => rfl

theorem displayStringRounds_run : ∀ (value cursor : Bytes),
    cursor.length < rounds →
    displayStringRounds rounds value cursor =
      .ok ((PyWebTransport.discardDisplayString value cursor).map fun rest => ((), rest)) := by
  induction rounds with
  | zero =>
    intro value cursor hrounds
    exact absurd hrounds (Nat.not_lt_zero _)
  | succ rounds ih =>
    intro value cursor hrounds
    cases cursor with
    | nil => rfl
    | cons byte rest =>
      have hrest : rest.length < rounds := by simpa using hrounds
      by_cases hpercent : byte = 0x25
      · subst hpercent
        match rest, hrest with
        | [], _ => rfl
        | [high], _ =>
          simp only [displayStringRounds, bind_run, hasRemaining_run, getU8_run,
            List.isEmpty_cons, Bool.not_false, if_true, hexDigit_run]
          cases hexDigitValue high with
          | none | some digit => rfl
        | high :: low :: rest, hrest =>
          have hlen : rest.length < rounds := by
            simp only [List.length_cons] at hrest
            omega
          rw [Field.discardDisplayString_escape]
          simp only [displayStringRounds, bind_run, hasRemaining_run, getU8_run,
            List.isEmpty_cons, Bool.not_false, if_true, hexDigit_run]
          cases hexDigitValue high with
          | none => rfl
          | some h =>
            simp only [Option.map_some]
            cases hexDigitValue low with
            | none => rfl
            | some l => exact ih _ rest hlen
      · rw [Field.discardDisplayString_cons hpercent]
        simp only [displayStringRounds, bind_run, hasRemaining_run, getU8_run, ite_run,
          List.isEmpty_cons, Bool.not_false, if_true, hpercent, if_false,
          ih _ rest hrest, reject_run, pure_run]
        split
        · split
          · rfl
          · rfl
        · split
          · rfl
          · rfl

theorem discardDisplayString_safe :
    Safe discardDisplayString fun cursor =>
      (PyWebTransport.discardDisplayString [] cursor).map fun rest => ((), rest) := by
  intro cursor
  rw [discardDisplayString, bind_run, chunk_run]
  exact displayStringRounds_run [] cursor (Nat.lt_succ_self _)

theorem discardParameterValue_safe :
    Safe discardParameterValue fun cursor =>
      (PyWebTransport.discardParameterValue cursor).map fun rest => ((), rest) := by
  intro cursor
  cases cursor with
  | nil => rfl
  | cons byte rest =>
    show _ = Except.ok ((PyWebTransport.discardParameterValue (byte :: rest)).map
      fun rest => ((), rest))
    rw [PyWebTransport.discardParameterValue.eq_def, discardParameterValue]
    simp only [bind_run, first_run, List.head?_cons, ite_run, advance_one, skipWhile_run,
      discardNumber_safe _, parseString_safe _, discardByteSequence_safe _,
      discardDisplayString_safe _, reject_run]
    split
    · cases PyWebTransport.discardNumber (byte :: rest) with
      | none | some p => rfl
    split
    · cases PyWebTransport.parseString (byte :: rest) with
      | none | some p => rfl
    split
    · rfl
    split
    · rfl
    split
    · cases rest with
      | nil => rfl
      | cons flag rest =>
        simp only [List.head?_cons, Option.some.injEq, advance_one]
        split
        · rfl
        · rfl
    split
    · cases PyWebTransport.discardNumber rest with
      | none => rfl
      | some p =>
        obtain ⟨isDecimal, left⟩ := p
        cases isDecimal with
        | true | false => rfl
    split
    · cases rest with
      | nil => rfl
      | cons quote rest =>
        simp only [List.head?_cons, Option.some.injEq, advance_one]
        split
        · rfl
        · rfl
    · rfl

theorem parameterRounds_run : ∀ (fuel : Nat) (cursor : Bytes),
    cursor.length < rounds → cursor.length ≤ fuel →
    parameterRounds rounds cursor =
      .ok ((discardParametersLoop fuel cursor).map fun rest => ((), rest)) := by
  induction rounds with
  | zero =>
    intro fuel cursor hrounds
    exact absurd hrounds (Nat.not_lt_zero _)
  | succ rounds ih =>
    intro fuel cursor hrounds hfuel
    cases cursor with
    | nil =>
      cases fuel with
      | zero | succ fuel => rfl
    | cons byte rest =>
      cases fuel with
      | zero => cases hfuel
      | succ fuel =>
        simp only [List.length_cons, Nat.add_lt_add_iff_right, Nat.add_le_add_iff_right]
          at hrounds hfuel
        -- a round leaves no more than what comes behind the semicolon
        have hnext : ∀ left : Bytes, left.length ≤ rest.length →
            parameterRounds rounds left =
              .ok ((discardParametersLoop fuel left).map fun rest => ((), rest)) :=
          fun left hle => ih fuel left (by omega) (by omega)
        rw [discardParametersLoop.eq_def]
        simp only [parameterRounds, bind_run, first_run, List.head?_cons, Option.some.injEq,
          ite_run, advance_one, skipWhile_run, reject_run, pure_run]
        split
        · have hkey : (rest.dropWhile (· == 0x20)).length ≤ rest.length :=
            List.length_dropWhile_le _ _
          generalize rest.dropWhile (· == 0x20) = key at hkey
          split
          · have hbehind : (key.dropWhile isParameterKeyByte).length ≤ key.length :=
              List.length_dropWhile_le _ _
            generalize key.dropWhile isParameterKeyByte = behind at hbehind
            cases behind with
            | nil => exact hnext [] (Nat.zero_le _)
            | cons next value =>
              simp only [List.head?_cons, Option.some.injEq, advance_one,
                discardParameterValue_safe _]
              split
              · cases hvalue : PyWebTransport.discardParameterValue value with
                | none => rfl
                | some left =>
                  obtain ⟨word, hword, -⟩ := Field.discardParameterValue_sound hvalue
                  have hlen := congrArg List.length hword
                  rw [List.length_append] at hlen
                  rw [List.length_cons] at hbehind
                  exact hnext left (by omega)
              · exact hnext _ (by omega)
          · rfl
        · rfl

theorem discardParameters_safe :
    Safe discardParameters fun cursor =>
      (PyWebTransport.discardParameters cursor).map fun rest => ((), rest) := by
  intro cursor
  rw [discardParameters, bind_run, chunk_run]
  exact parameterRounds_run _ cursor (Nat.lt_succ_self _) (Nat.le_refl _)

/-! ## The parsers are safe -/

theorem memberRounds_run : ∀ (fuel : Nat) (protocols : List String) (cursor : Bytes),
    cursor ≠ [] → cursor.length < rounds → cursor.length ≤ fuel →
    memberRounds rounds protocols cursor =
      .ok ((parseWtProtocolListLoop fuel protocols cursor).map fun texts => (texts, [])) := by
  induction rounds with
  | zero =>
    intro fuel protocols cursor _ hrounds
    exact absurd hrounds (Nat.not_lt_zero _)
  | succ rounds ih =>
    intro fuel protocols cursor hcursor hrounds hfuel
    have hpos : 0 < cursor.length := List.length_pos_iff.mpr hcursor
    have hmore : (!cursor.isEmpty) = true := by simpa using hcursor
    cases fuel with
    | zero => omega
    | succ fuel =>
      rw [parseWtProtocolListLoop]
      simp only [memberRounds, bind_run, hasRemaining_run, hmore, if_true, parseString_safe _]
      cases hstring : PyWebTransport.parseString cursor with
      | none => rfl
      | some p =>
        obtain ⟨protocol, behind⟩ := p
        have hbehind : behind.length < cursor.length := by
          obtain ⟨word, rfl, ⟨hword⟩⟩ := Field.parseString_reads.sound hstring
          simp only [List.cons_append, List.length_cons, List.length_append]
          omega
        simp only [discardParameters_safe _, Option.bind_some]
        cases hparameters : PyWebTransport.discardParameters behind with
        | none => rfl
        | some behind' =>
          have hbehind' : behind'.length ≤ behind.length := by
            obtain ⟨word, rfl, -⟩ := Field.discardParameters_skips.sound hparameters
            simp
          simp only [Option.map_some, skipWhile_run, ite_run, Option.bind_some]
          have hblanks : (behind'.dropWhile isBlankByte).length ≤ behind'.length :=
            List.length_dropWhile_le _ _
          generalize behind'.dropWhile isBlankByte = comma at hblanks
          cases comma with
          | nil => rfl
          | cons byte rest =>
            have hrest : (rest.dropWhile isBlankByte).length ≤ rest.length :=
              List.length_dropWhile_le _ _
            rw [List.length_cons] at hblanks
            simp only [List.isEmpty_cons, Bool.not_false, if_true, bind_run, getU8_run,
              ite_run, reject_run, skipWhile_run, hasRemaining_run]
            generalize rest.dropWhile isBlankByte = next at hrest
            split
            · rfl
            · cases next with
              | nil => rfl
              | cons first next =>
                exact ih fuel _ _ (List.cons_ne_nil _ _) (by omega) (by omega)

theorem parseWtProtocolList_run :
    parseWtProtocolList header =
      .ok ((PyWebTransport.parseWtProtocolList header).map fun texts => (texts, [])) := by
  simp only [parseWtProtocolList, bind_run, skipWhile_run, chunk_run,
    PyWebTransport.parseWtProtocolList]
  generalize header.dropWhile (· == 0x20) = cursor
  cases cursor with
  | nil => rfl
  | cons byte cursor =>
    exact memberRounds_run _ [] _ (List.cons_ne_nil _ _) (Nat.lt_succ_self _) (Nat.le_refl _)

theorem parseWtProtocolString_run :
    parseWtProtocolString header =
      .ok ((PyWebTransport.parseWtProtocolString header).map fun text => (text, [])) := by
  simp only [parseWtProtocolString, bind_run, skipWhile_run, parseString_safe _,
    PyWebTransport.parseWtProtocolString]
  generalize header.dropWhile (· == 0x20) = cursor
  cases PyWebTransport.parseString cursor with
  | none => rfl
  | some p =>
    obtain ⟨protocol, behind⟩ := p
    simp only [discardParameters_safe _, Option.bind_some]
    cases PyWebTransport.discardParameters behind with
    | none => rfl
    | some behind =>
      simp only [Option.map_some, hasRemaining_run, ite_run, Option.bind_some]
      cases behind.dropWhile (· == 0x20) with
      | nil | cons byte rest => rfl

end Scanner

/-- Both parsers accept exactly their grammar and return what it says, and
run over their input without a fault. -/
theorem field_parsers_exact (header : Bytes) :
    (∀ texts, parseWtProtocolList header = some texts ↔ Field.ListField texts header) ∧
    (∀ text, parseWtProtocolString header = some text ↔ Field.ItemField text header) ∧
    Scanner.parseWtProtocolList header =
      .ok ((parseWtProtocolList header).map fun texts => (texts, [])) ∧
    Scanner.parseWtProtocolString header =
      .ok ((parseWtProtocolString header).map fun text => (text, [])) :=
  ⟨Field.parseWtProtocolList_iff header, Field.parseWtProtocolString_iff header,
    Scanner.parseWtProtocolList_run, Scanner.parseWtProtocolString_run⟩

end PyWebTransport
