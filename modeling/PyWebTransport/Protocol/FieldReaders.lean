/-
PyWebTransport.Protocol.FieldReaders — the readers of `protocol/utils.rs`
against the rules of the grammar.

The readers share a cursor and throw most of what they read away. Each takes
exactly the words of its rule, if something comes behind them that ends
them: strings and byte sequences end themselves, numbers, tokens and names
are taken as far as they go. `discardParameterValue_skips` puts the seven
kinds of values together, and `discardParameters_skips` is the loop over the
parameters of a member.
-/
import PyWebTransport.Protocol.FieldGrammar

namespace PyWebTransport

open PyWebTransport.Lib

namespace Field

variable {byte : UInt8} {unsigned rest digits word key : Bytes} {body sign input spaces : Bytes}
  {isDecimal : Bool}

variable {value : List Char} {behind : Bytes} {fuel : Nat}

/-! ## Strings -/

theorem parseStringLoop_escape :
    parseStringLoop value (0x5C :: byte :: rest) =
      if byte = 0x22 ∨ byte = 0x5C then
        parseStringLoop (value ++ [Char.ofNat byte.toNat]) rest
      else none := by
  rw [parseStringLoop.eq_def]
  rfl

theorem parseStringLoop_cons (hbackslash : byte ≠ 0x5C) (rest : Bytes) :
    parseStringLoop value (byte :: rest) =
      if byte = 0x22 then some (String.ofList value, rest)
      else if isPrintableAscii byte then
        parseStringLoop (value ++ [Char.ofNat byte.toNat]) rest
      else none := by
  rw [parseStringLoop.eq_def]
  simp only [if_neg hbackslash]

theorem parseStringLoop_sound : ∀ (input : Bytes) {value : List Char} {text : String} {rest : Bytes},
    parseStringLoop value input = some (text, rest) →
    ∃ chars body, input = body ++ 0x22 :: rest ∧ StringBody chars body ∧
      text = String.ofList (value ++ chars)
  | [], value, text, rest, h => nomatch h
  | byte :: input, value, text, rest, h => by
      by_cases hbackslash : byte = 0x5C
      · subst hbackslash
        cases input with
        | nil => cases h
        | cons next input =>
          rw [parseStringLoop_escape] at h
          split at h
          · rename_i hspecial
            obtain ⟨chars, body, rfl, hbody, rfl⟩ := parseStringLoop_sound input h
            exact ⟨_, _, rfl, .escaped hspecial hbody, by rw [List.append_assoc]; rfl⟩
          · cases h
      · rw [parseStringLoop_cons hbackslash] at h
        split at h
        · rename_i hquote
          cases h
          exact ⟨[], [], by rw [hquote]; rfl, .nil, by rw [List.append_nil]⟩
        · rename_i hquote
          split at h
          · rename_i hprintable
            obtain ⟨chars, body, rfl, hbody, rfl⟩ := parseStringLoop_sound input h
            exact ⟨_, _, rfl, .plain hprintable hquote hbackslash hbody,
              by rw [List.append_assoc]; rfl⟩
          · cases h

theorem parseStringLoop_complete {chars : List Char} (hbody : StringBody chars body)
    (rest : Bytes) : ∀ value : List Char,
      parseStringLoop value (body ++ 0x22 :: rest) = some (String.ofList (value ++ chars), rest) := by
  induction hbody with
  | nil =>
    intro value
    rw [List.nil_append, parseStringLoop_cons (by decide), if_pos rfl, List.append_nil]
  | plain hprintable hquote hbackslash _ ih =>
    intro value
    rw [List.cons_append, parseStringLoop_cons hbackslash, if_neg hquote,
      if_pos hprintable, ih, List.append_assoc]
    rfl
  | escaped hspecial _ ih =>
    intro value
    rw [List.cons_append, List.cons_append, parseStringLoop_escape, if_pos hspecial, ih,
      List.append_assoc]
    rfl

/-- A string ends itself. -/
theorem parseString_reads : Reads parseString SfString fun _ => True where
  sound := by
    intro input text rest h
    cases input with
    | nil => cases h
    | cons byte input =>
      rw [parseString] at h
      split at h
      · rename_i hquote
        obtain ⟨chars, body, rfl, hbody, rfl⟩ := parseStringLoop_sound input h
        refine ⟨0x22 :: (body ++ [0x22]), ?_, .mk hbody⟩
        rw [hquote, List.cons_append, List.append_assoc]
        rfl
      · cases h
  complete := by
    rintro text word rest ⟨hbody⟩ -
    rename_i chars body
    have hword : 0x22 :: (body ++ [0x22]) ++ rest = 0x22 :: (body ++ 0x22 :: rest) := by simp
    rw [hword, parseString, if_pos rfl, parseStringLoop_complete hbody]
    rfl

/-! ## Numbers -/

/-- `discard_number` behind the sign. -/
def discardUnsigned (unsigned : Bytes) : Option (Bool × Bytes) :=
  let integerLen := (unsigned.takeWhile isAsciiDigit).length
  if integerLen = 0 then none
  else
    match unsigned.drop integerLen with
    | byte :: rest =>
      if byte = 0x2E then
        let fractionLen := (rest.takeWhile isAsciiDigit).length
        if integerLen ≤ 12 ∧ 1 ≤ fractionLen ∧ fractionLen ≤ 3 then
          some (true, rest.drop fractionLen)
        else none
      else if integerLen ≤ 15 then some (false, byte :: rest) else none
    | [] => if integerLen ≤ 15 then some (false, []) else none

theorem discardNumber_minus : discardNumber (0x2D :: rest) = discardUnsigned rest := rfl

theorem discardNumber_unsigned (h : unsigned.head? ≠ some 0x2D) :
    discardNumber unsigned = discardUnsigned unsigned := by
  cases unsigned with
  | nil => rfl
  | cons byte rest =>
    have hminus : byte ≠ 0x2D := fun heq => h (by rw [heq]; rfl)
    simp only [discardNumber, if_neg hminus]
    rfl

theorem discardNumber_cases (input : Bytes) :
    ∃ sign unsigned, input = sign ++ unsigned ∧ Sign sign ∧
      discardNumber input = discardUnsigned unsigned := by
  by_cases hminus : input.head? = some 0x2D
  · obtain ⟨rest, rfl⟩ := List.head?_eq_some_iff.mp hminus
    exact ⟨[0x2D], rest, rfl, Or.inr rfl, discardNumber_minus⟩
  · exact ⟨[], input, rfl, Or.inl rfl, discardNumber_unsigned hminus⟩

theorem discardNumber_signed (hsign : Sign sign) (hunsigned : unsigned.head? ≠ some 0x2D) :
    discardNumber (sign ++ unsigned) = discardUnsigned unsigned := by
  rcases hsign with rfl | rfl
  · exact discardNumber_unsigned hunsigned
  · exact discardNumber_minus

theorem discardUnsigned_sound (h : discardUnsigned unsigned = some (isDecimal, rest))
    (hsign : Sign sign) : ∃ word, unsigned = word ++ rest ∧ SfNumber isDecimal (sign ++ word) := by
  obtain ⟨digits, behind, rfl, hdigits, -, htake, -⟩ := scan_cases isAsciiDigit unsigned
  rw [discardUnsigned, htake] at h
  simp only [List.drop_left] at h
  split at h
  · cases h
  rename_i hpresent
  have hone : 1 ≤ digits.length := Nat.pos_of_ne_zero hpresent
  cases behind with
  | nil =>
    simp only at h
    split at h
    · rename_i hfew
      cases h
      exact ⟨digits, rfl, .integer hsign hdigits hone hfew⟩
    · cases h
  | cons byte behind =>
    simp only at h
    split at h
    · rename_i hpoint
      subst hpoint
      obtain ⟨fraction, behind, rfl, hfraction, -, htake, -⟩ := scan_cases isAsciiDigit behind
      rw [htake, List.drop_left] at h
      split at h
      · rename_i hfew
        cases h
        exact ⟨digits ++ 0x2E :: fraction, by simp,
          .decimal hsign hdigits hone hfew.1 hfraction hfew.2.1 hfew.2.2⟩
      · cases h
    · split at h
      · rename_i hfew
        cases h
        exact ⟨digits, rfl, .integer hsign hdigits hone hfew⟩
      · cases h

theorem discardUnsigned_integer (hdigits : Digits digits) (hone : 1 ≤ digits.length)
    (hfew : digits.length ≤ 15) (hrest : ItemEnd rest) :
    discardUnsigned (digits ++ rest) = some (false, rest) := by
  have htake : (digits ++ rest).takeWhile isAsciiDigit = digits :=
    takeWhile_exact hdigits (hrest.outside (by decide))
  rw [discardUnsigned, htake]
  simp only [List.drop_left, if_neg (Nat.ne_of_gt hone), if_pos hfew]
  cases rest with
  | nil => rfl
  | cons byte rest =>
    have hpoint : byte ≠ 0x2E := by
      rintro rfl
      exact absurd (hrest 0x2E rfl) (by decide)
    simp only [if_neg hpoint]

theorem discardUnsigned_decimal {fraction : Bytes} (hdigits : Digits digits)
    (hone : 1 ≤ digits.length) (hfew : digits.length ≤ 12) (hfraction : Digits fraction)
    (hplaces : 1 ≤ fraction.length) (hfewPlaces : fraction.length ≤ 3) (hrest : ItemEnd rest) :
    discardUnsigned (digits ++ 0x2E :: (fraction ++ rest)) = some (true, rest) := by
  have htake : (digits ++ 0x2E :: (fraction ++ rest)).takeWhile isAsciiDigit = digits :=
    takeWhile_exact hdigits (next_cons (by decide) _)
  have htake' : (fraction ++ rest).takeWhile isAsciiDigit = fraction :=
    takeWhile_exact hfraction (hrest.outside (by decide))
  rw [discardUnsigned, htake]
  simp only [List.drop_left, if_neg (Nat.ne_of_gt hone), if_true, htake', hfew, hplaces, hfewPlaces,
    and_self]

/-- The digits come right behind the sign. -/
theorem Digits.not_minus (hdigits : Digits digits) (hone : 1 ≤ digits.length) :
    (digits ++ rest).head? ≠ some 0x2D := by
  cases digits with
  | nil => cases hone
  | cons byte digits =>
    intro heq
    cases heq
    exact absurd (hdigits 0x2D List.mem_cons_self) (by decide)

theorem discardNumber_reads : Reads discardNumber SfNumber ItemEnd where
  sound := by
    intro input isDecimal rest h
    obtain ⟨sign, unsigned, rfl, hsign, heq⟩ := discardNumber_cases input
    rw [heq] at h
    obtain ⟨word, rfl, hword⟩ := discardUnsigned_sound h hsign
    exact ⟨sign ++ word, by rw [List.append_assoc], hword⟩
  complete := by
    intro isDecimal word rest hword hrest
    cases hword with
    | integer hsign hdigits hone hfew =>
      rw [List.append_assoc, discardNumber_signed hsign (hdigits.not_minus hone),
        discardUnsigned_integer hdigits hone hfew hrest]
    | decimal hsign hdigits hone hfew hfraction hplaces hfewPlaces =>
      rw [List.append_assoc, List.append_assoc, List.cons_append,
        discardNumber_signed hsign (hdigits.not_minus hone),
        discardUnsigned_decimal hdigits hone hfew hfraction hplaces hfewPlaces hrest]

/-! ## Byte sequences -/

theorem length_dropWhile_replicate {data : Bytes} (hdata : ∀ byte ∈ data, byte ≠ 0x3D)
    (padding : Nat) :
    ((data ++ List.replicate padding 0x3D).reverse.dropWhile (· == 0x3D)).length =
      data.length := by
  rw [List.reverse_append, List.reverse_replicate, dropWhile_exact, List.length_reverse]
  · intro byte hbyte
    rw [List.eq_of_mem_replicate hbyte]
    rfl
  · intro byte hbyte
    have hmem : byte ∈ data := List.mem_reverse.mp (List.mem_of_mem_head? hbyte)
    simpa using hdata byte hmem

/-- A content is its data and the equals signs at its end. -/
theorem content_cases (content : Bytes) :
    ∃ data padding, content = data ++ List.replicate padding 0x3D ∧
      (content.reverse.dropWhile (· == 0x3D)).length = data.length := by
  obtain ⟨signs, data, hreverse, hsigns, -, -, hdrop⟩ := scan_cases (· == 0x3D) content.reverse
  refine ⟨data.reverse, signs.length, ?_, by rw [hdrop, List.length_reverse]⟩
  have hreplicate : signs = List.replicate signs.length 0x3D :=
    List.eq_replicate_of_mem fun byte hbyte => by simpa using hsigns byte hbyte
  calc content = content.reverse.reverse := (List.reverse_reverse content).symm
    _ = data.reverse ++ signs.reverse := by rw [hreverse, List.reverse_append]
    _ = data.reverse ++ List.replicate signs.length 0x3D := by
        rw [hreplicate, List.reverse_replicate, List.length_replicate]

theorem isBase64Byte_ne (h : isBase64Byte byte = true) : byte ≠ 0x3A ∧ byte ≠ 0x3D := by
  constructor
  · rintro rfl
    cases h
  · rintro rfl
    cases h

/-- The check of the source, read as the rule. -/
theorem validContent_iff (data : Bytes) (padding : Nat) :
    (data.all (fun byte => isAsciiAlphanumeric byte || byte == 0x2B || byte == 0x2F) &&
        decide (data.length + padding - data.length ≤ 2) && data.length % 4 != 1 &&
        (data.length + padding - data.length == 0 || (data.length + padding) % 4 == 0)) = true ↔
      (∀ byte ∈ data, isBase64Byte byte = true) ∧ data.length % 4 ≠ 1 ∧
        (padding = 0 ∨ (padding = 1 ∨ padding = 2) ∧ (data.length + padding) % 4 = 0) := by
  have hpadding : data.length + padding - data.length = padding := by omega
  rw [hpadding]
  simp only [Bool.and_eq_true, List.all_eq_true, decide_eq_true_eq, bne_iff_ne, Bool.or_eq_true,
    beq_iff_eq, isBase64Byte]
  constructor
  · rintro ⟨⟨⟨halphabet, hfew⟩, hlength⟩, hpadded⟩
    exact ⟨halphabet, hlength, by omega⟩
  · rintro ⟨halphabet, hlength, hpadded⟩
    exact ⟨⟨⟨halphabet, by omega⟩, hlength⟩, by omega⟩

theorem drop_content (content rest : Bytes) (colon : UInt8) :
    (content ++ colon :: rest).drop (content.length + 1) = rest := by
  rw [List.append_cons]
  exact List.drop_left' (by simp)

/-- Behind the opening colon. -/
theorem discardByteSequence_skips :
    Skips discardByteSequence (fun word => SfBinary (0x3A :: word)) fun _ => True where
  sound := by
    intro input rest h
    obtain ⟨content, behind, rfl, -, hnext, htake, -⟩ := scan_cases (· != 0x3A) input
    obtain ⟨data, padding, rfl, hlength⟩ := content_cases content
    rw [discardByteSequence, htake] at h
    simp only [hlength, List.take_left] at h
    split at h
    · cases h
    rename_i hcolon
    split at h
    · rename_i hvalid
      cases behind with
      | nil => exact absurd (by rw [List.append_nil]) hcolon
      | cons colon behind =>
        have hcolon : colon = 0x3A := by simpa using hnext colon rfl
        subst hcolon
        rw [drop_content] at h
        cases h
        simp only [List.length_append, List.length_replicate] at hvalid
        obtain ⟨halphabet, hlength, hpadded⟩ := (validContent_iff data padding).mp hvalid
        exact ⟨data ++ List.replicate padding 0x3D ++ [0x3A], by simp,
          .mk halphabet hlength hpadded⟩
    · cases h
  complete := by
    intro word rest hword _
    generalize hw : 0x3A :: word = w at hword
    obtain ⟨halphabet, hlength, hpadded⟩ := hword
    rename_i data padding
    obtain rfl : word = data ++ List.replicate padding 0x3D ++ [0x3A] := (List.cons.inj hw).2
    have hcontent : ∀ byte ∈ data ++ List.replicate padding 0x3D, (byte != 0x3A) = true := by
      intro byte hbyte
      rcases List.mem_append.mp hbyte with hdata | hpad
      · simpa using (isBase64Byte_ne (halphabet byte hdata)).1
      · rw [List.eq_of_mem_replicate hpad]
        decide
    have htake : (data ++ List.replicate padding 0x3D ++ [0x3A] ++ rest).takeWhile (· != 0x3A) =
        data ++ List.replicate padding 0x3D := by
      rw [List.append_assoc]
      exact takeWhile_exact hcontent (next_cons (by decide) rest)
    have hdata := length_dropWhile_replicate
      (fun byte hbyte => (isBase64Byte_ne (halphabet byte hbyte)).2) padding
    have hvalid := (validContent_iff data padding).mpr ⟨halphabet, hlength, hpadded⟩
    have hcolon : ¬data.length + padding =
        (data ++ List.replicate padding 0x3D ++ [0x3A] ++ rest).length := by
      simp only [List.length_append, List.length_replicate, List.length_singleton]
      omega
    rw [discardByteSequence, htake]
    simp only [hdata, List.take_left]
    rw [List.length_append, List.length_replicate, if_neg hcolon, if_pos hvalid]
    have hdrop := drop_content (data ++ List.replicate padding 0x3D) rest 0x3A
    rw [List.length_append, List.length_replicate] at hdrop
    rw [List.append_assoc _ [0x3A] rest, List.singleton_append, hdrop]

/-! ## Display strings -/

theorem discardDisplayString_escape {value : Bytes} {high low : UInt8} :
    discardDisplayString value (0x25 :: high :: low :: rest) =
      match hexDigitValue high, hexDigitValue low with
      | some h, some l => discardDisplayString (value ++ [h * 16 + l]) rest
      | _, _ => none := by
  rw [discardDisplayString.eq_def]
  rfl

theorem discardDisplayString_cons {value : Bytes} (hpercent : byte ≠ 0x25) (rest : Bytes) :
    discardDisplayString value (byte :: rest) =
      if byte = 0x22 then if (utf8String? value).isSome then some rest else none
      else if isPrintableAscii byte then discardDisplayString (value ++ [byte]) rest
      else none := by
  rw [discardDisplayString.eq_def]
  simp only [if_neg hpercent]

theorem discardDisplayString_sound : ∀ (input : Bytes) {value rest : Bytes},
    discardDisplayString value input = some rest →
    ∃ octets body, input = body ++ 0x22 :: rest ∧ DisplayBody octets body ∧
      (utf8String? (value ++ octets)).isSome = true
  | [], value, rest, h => nomatch h
  | byte :: input, value, rest, h => by
      by_cases hpercent : byte = 0x25
      · subst hpercent
        match input, h with
        | [], h => cases h
        | [_], h => cases h
        | high :: low :: input, h =>
          rw [discardDisplayString_escape] at h
          split at h
          · rename_i hhigh hlow
            obtain ⟨octets, body, rfl, hbody, htext⟩ := discardDisplayString_sound input h
            refine ⟨_, _, rfl, .escaped hhigh hlow hbody, ?_⟩
            rw [List.append_assoc] at htext
            exact htext
          · cases h
      · rw [discardDisplayString_cons hpercent] at h
        split at h
        · rename_i hquote
          split at h
          · rename_i htext
            cases h
            exact ⟨[], [], by rw [hquote]; rfl, .nil, by rw [List.append_nil]; exact htext⟩
          · cases h
        · rename_i hquote
          split at h
          · rename_i hprintable
            obtain ⟨octets, body, rfl, hbody, htext⟩ := discardDisplayString_sound input h
            refine ⟨_, _, rfl, .plain hprintable hpercent hquote hbody, ?_⟩
            rw [List.append_assoc] at htext
            exact htext
          · cases h

theorem discardDisplayString_complete {octets : Bytes} (hbody : DisplayBody octets body) :
    ∀ value : Bytes, (utf8String? (value ++ octets)).isSome = true →
      discardDisplayString value (body ++ 0x22 :: rest) = some rest := by
  induction hbody with
  | nil =>
    intro value htext
    rw [List.append_nil] at htext
    rw [List.nil_append, discardDisplayString_cons (by decide), if_pos rfl, if_pos htext]
  | plain hprintable hpercent hquote _ ih =>
    intro value htext
    rw [List.cons_append, discardDisplayString_cons hpercent, if_neg hquote,
      if_pos hprintable]
    exact ih _ (by rw [List.append_assoc]; exact htext)
  | escaped hhigh hlow _ ih =>
    intro value htext
    rw [List.cons_append, List.cons_append, List.cons_append, discardDisplayString_escape, hhigh,
      hlow]
    exact ih _ (by rw [List.append_assoc]; exact htext)

/-- Behind the opening quote. -/
theorem discardDisplayString_skips :
    Skips (discardDisplayString []) (fun word => SfDisplayString (0x25 :: 0x22 :: word))
      fun _ => True where
  sound := by
    intro input rest h
    obtain ⟨octets, body, rfl, hbody, htext⟩ := discardDisplayString_sound input h
    exact ⟨body ++ [0x22], by simp, .mk hbody htext⟩
  complete := by
    intro word rest hword _
    generalize hw : 0x25 :: 0x22 :: word = w at hword
    obtain ⟨hbody, htext⟩ := hword
    obtain rfl := (List.cons.inj (List.cons.inj hw).2).2
    rw [List.append_assoc, List.singleton_append]
    exact discardDisplayString_complete hbody [] htext

/-! ## Items -/

/-- What the first byte of a token tells. -/
theorem isTokenStart_ne
    (h : byte = 0x2A ∨ isAsciiUppercase byte = true ∨ isAsciiLowercase byte = true) :
    (byte = 0x2D || isAsciiDigit byte) = false ∧ byte ≠ 0x22 ∧ isTokenByte byte = true := by
  rcases h with rfl | h
  · decide
  · simp only [isTokenByte, isAsciiAlphanumeric, isAsciiUppercase, isAsciiLowercase, isAsciiDigit,
      Bool.and_eq_true, decide_eq_true_eq] at h ⊢
    grind

theorem SfNumber.starts (h : SfNumber isDecimal word) :
    ∃ byte rest, word = byte :: rest ∧ (byte = 0x2D || isAsciiDigit byte) = true := by
  have hdigits : ∀ digits more : Bytes, Digits digits → 1 ≤ digits.length →
      ∃ byte rest, digits ++ more = byte :: rest ∧ (byte = 0x2D || isAsciiDigit byte) = true := by
    intro digits more hdigits hone
    cases digits with
    | nil => cases hone
    | cons byte digits =>
      exact ⟨byte, digits ++ more, rfl, by rw [hdigits byte List.mem_cons_self, Bool.or_true]⟩
  have hsigned : ∀ sign digits more : Bytes, Sign sign → Digits digits → 1 ≤ digits.length →
      ∃ byte rest, sign ++ (digits ++ more) = byte :: rest ∧
        (byte = 0x2D || isAsciiDigit byte) = true := by
    intro sign digits more hsign hall hone
    rcases hsign with rfl | rfl
    · exact hdigits digits more hall hone
    · exact ⟨0x2D, digits ++ more, rfl, rfl⟩
  cases h with
  | @integer sign digits hsign hall hone _ =>
    have hword := hsigned sign digits [] hsign hall hone
    rwa [List.append_nil] at hword
  | @decimal sign digits fraction hsign hall hone _ _ _ _ =>
    exact hsigned sign digits (0x2E :: fraction) hsign hall hone

theorem scanToken_skips : Skips (fun input => some (input.dropWhile isTokenByte))
    (fun word => ∀ byte ∈ word, isTokenByte byte = true) ItemEnd where
  sound := by
    intro input rest h
    obtain ⟨word, behind, rfl, hword, -, -, hdrop⟩ := scan_cases isTokenByte input
    simp only [hdrop] at h
    cases h
    exact ⟨word, rfl, hword⟩
  complete := by
    intro word rest hword hrest
    simp only [dropWhile_exact hword (hrest.outside (by decide))]

theorem discardParameterValue_sound (h : discardParameterValue input = some rest) :
    ∃ word, input = word ++ rest ∧ BareItem word := by
  cases input with
  | nil => cases h
  | cons byte input =>
    rw [discardParameterValue.eq_def] at h
    simp only at h
    split at h
    · obtain ⟨word, hinput, isDecimal, hword⟩ := discardNumber_reads.skips.sound h
      exact ⟨word, hinput, .number hword⟩
    split at h
    · obtain ⟨word, hinput, text, hword⟩ := parseString_reads.skips.sound h
      exact ⟨word, hinput, .string hword⟩
    split at h
    · rename_i hstarts
      simp only [Bool.or_eq_true, decide_eq_true_eq] at hstarts
      rw [or_assoc] at hstarts
      have htoken := (isTokenStart_ne hstarts).2.2
      have hrest : some (input.dropWhile isTokenByte) = some rest := by
        rw [← h, List.dropWhile_cons]
        exact congrArg some (if_pos htoken).symm
      obtain ⟨word, rfl, hword⟩ := scanToken_skips.sound hrest
      exact ⟨byte :: word, rfl, .token (.mk hstarts hword)⟩
    split at h
    · rename_i hcolon
      obtain ⟨word, rfl, hword⟩ := discardByteSequence_skips.sound h
      exact ⟨0x3A :: word, by rw [hcolon]; rfl, .binary hword⟩
    split at h
    · rename_i hquestion
      cases input with
      | nil => cases h
      | cons flag input =>
        simp only at h
        split at h
        · rename_i hbit
          cases h
          exact ⟨[0x3F, flag], by rw [hquestion]; rfl, .boolean hbit⟩
        · cases h
    split at h
    · rename_i hat
      split at h
      · rename_i behind hnumber
        cases h
        obtain ⟨word, rfl, hword⟩ := discardNumber_reads.sound hnumber
        exact ⟨0x40 :: word, by rw [hat]; rfl, .date hword⟩
      · cases h
    split at h
    · rename_i hpercent
      cases input with
      | nil => cases h
      | cons quote input =>
        simp only at h
        split at h
        · rename_i hquote
          obtain ⟨word, rfl, hword⟩ := discardDisplayString_skips.sound h
          exact ⟨0x25 :: 0x22 :: word, by rw [hpercent, hquote]; rfl, .display hword⟩
        · cases h
    · cases h

theorem discardParameterValue_complete (hword : BareItem word) (hrest : ItemEnd rest) :
    discardParameterValue (word ++ rest) = some rest := by
  cases hword with
  | number hnumber =>
    obtain ⟨byte, behind, rfl, hstarts⟩ := hnumber.starts
    have hskip := discardNumber_reads.skips.complete ⟨_, hnumber⟩ hrest
    rw [List.cons_append, discardParameterValue.eq_def]
    exact (if_pos hstarts).trans hskip
  | string hstring =>
    have hskip : (parseString (word ++ rest)).map Prod.snd = some rest :=
      parseString_reads.skips.complete ⟨_, hstring⟩ trivial
    obtain ⟨_⟩ := hstring
    exact hskip
  | token htoken =>
    obtain ⟨hstarts, hgoesOn⟩ := htoken
    rename_i first behind
    obtain ⟨hnumber, hquote, htoken⟩ := isTokenStart_ne hstarts
    have hstarts' : (first = 0x2A || isAsciiUppercase first || isAsciiLowercase first) = true := by
      simpa only [Bool.or_eq_true, decide_eq_true_eq, or_assoc] using hstarts
    have hskip := scanToken_skips.complete hgoesOn hrest
    rw [List.cons_append, discardParameterValue.eq_def]
    simp only [hnumber, Bool.false_eq_true, if_false, if_neg hquote, hstarts', if_true]
    rw [List.dropWhile_cons]
    exact (congrArg some (if_pos htoken)).trans hskip
  | binary hbinary =>
    have hbinary' := hbinary
    obtain ⟨_⟩ := hbinary'
    exact discardByteSequence_skips.complete hbinary trivial
  | boolean hbit =>
    rename_i flag
    show (if flag = 0x30 ∨ flag = 0x31 then some rest else none) = some rest
    rw [if_pos hbit]
  | @date word hinteger =>
    have hread := discardNumber_reads.complete hinteger hrest
    rw [List.cons_append, discardParameterValue.eq_def]
    simp [hread, isAsciiDigit, isAsciiUppercase, isAsciiLowercase]
  | display hdisplay =>
    have hdisplay' := hdisplay
    obtain ⟨_, _⟩ := hdisplay'
    exact discardDisplayString_skips.complete hdisplay trivial

/-! ## Parameters -/

theorem Spaces.scan (h : Spaces spaces) : ∀ byte ∈ spaces, (byte == 0x20) = true := by
  intro byte hbyte
  rw [h byte hbyte]
  rfl

theorem isKeyStart_isParameterKeyByte (h : isAsciiLowercase byte = true ∨ byte = 0x2A) :
    isParameterKeyByte byte = true := by
  rcases h with h | rfl
  · simp only [isParameterKeyByte, h, Bool.true_or]
  · rfl

theorem SfKey.scan (h : SfKey key) : ∀ byte ∈ key, isParameterKeyByte byte = true := by
  obtain ⟨hstarts, hgoesOn⟩ := h
  intro byte hbyte
  rcases List.mem_cons.mp hbyte with rfl | htail
  · exact isKeyStart_isParameterKeyByte hstarts
  · exact hgoesOn byte htail

/-- A key does not start with a space. -/
theorem SfKey.not_space (h : SfKey key) :
    Next (fun byte => (byte == 0x20) = false) (key ++ behind) := by
  obtain ⟨hstarts, -⟩ := h
  refine next_cons ?_ _
  rcases hstarts with hlower | rfl
  · rw [beq_eq_false_iff_ne]
    rintro rfl
    cases hlower
  · rfl

/-- What `discard_parameters` does with the bytes behind the name of a parameter. -/
def behindKey (fuel : Nat) : Bytes → Option Bytes
  | next :: value =>
    if next = 0x3D then (discardParameterValue value).bind (discardParametersLoop fuel)
    else discardParametersLoop fuel (next :: value)
  | [] => discardParametersLoop fuel []

/-- A round of the loop that comes to the name of a parameter. -/
theorem discardParametersLoop_key (hspaces : Spaces spaces) (hkey : SfKey key)
    (hbehind : Next (fun byte => isParameterKeyByte byte = false) behind) :
    discardParametersLoop (fuel + 1) (0x3B :: (spaces ++ (key ++ behind))) =
      behindKey fuel behind := by
  have hdrop : (spaces ++ (key ++ behind)).dropWhile (· == 0x20) = key ++ behind :=
    dropWhile_exact hspaces.scan hkey.not_space
  have hdrop' : (key ++ behind).dropWhile isParameterKeyByte = behind :=
    dropWhile_exact hkey.scan hbehind
  have hstarts : (key ++ behind).head?.any (fun b => isAsciiLowercase b || b == 0x2A) = true := by
    obtain ⟨hstarts, -⟩ := hkey
    simpa using hstarts
  rw [discardParametersLoop.eq_def]
  simp only [if_true, hdrop, hstarts, hdrop']
  cases behind with
  | nil | cons next value => rfl

/-- Every round of the loop that does something comes to the name of a parameter. -/
theorem discardParametersLoop_cases (h : discardParametersLoop (fuel + 1) input = some rest) :
    input = rest ∨ ∃ spaces key behind, input = 0x3B :: (spaces ++ (key ++ behind)) ∧
      Spaces spaces ∧ SfKey key ∧ behindKey fuel behind = some rest := by
  cases input with
  | nil =>
    cases h
    exact Or.inl rfl
  | cons byte input =>
    by_cases hsemicolon : byte = 0x3B
    · subst hsemicolon
      right
      obtain ⟨spaces, named, rfl, hspaces, -, -, hdrop⟩ := scan_cases (· == 0x20) input
      obtain ⟨key, behind, rfl, hkey, hbehind, -, hdrop'⟩ :=
        scan_cases isParameterKeyByte named
      have hspaces : Spaces spaces := fun byte hbyte => by simpa using hspaces byte hbyte
      by_cases hstarts : (key ++ behind).head?.any
          (fun b => isAsciiLowercase b || b == 0x2A) = true
      · have hnamed : SfKey key := by
          cases key with
          | nil =>
            -- the first byte would have been taken as part of the key
            cases behind with
            | nil => cases hstarts
            | cons first behind =>
              have hfirst : isAsciiLowercase first = true ∨ first = 0x2A := by
                simpa using hstarts
              have hkey := isKeyStart_isParameterKeyByte hfirst
              rw [hbehind first rfl] at hkey
              cases hkey
          | cons first key =>
            exact .mk (by simpa using hstarts) fun byte hbyte =>
              hkey byte (List.mem_cons_of_mem first hbyte)
        rw [discardParametersLoop_key hspaces hnamed hbehind] at h
        exact ⟨spaces, key, behind, rfl, hspaces, hnamed, h⟩
      · rw [discardParametersLoop.eq_def] at h
        simp only [if_true, hdrop, hstarts, Bool.false_eq_true, if_false] at h
        cases h
    · rw [discardParametersLoop.eq_def] at h
      simp only [if_neg hsemicolon] at h
      exact Or.inl (Option.some.inj h)

theorem discardParametersLoop_sound : ∀ {input rest : Bytes},
    discardParametersLoop fuel input = some rest →
    ∃ word, input = word ++ rest ∧ Parameters word := by
  induction fuel with
  | zero =>
    intro input rest h
    rw [discardParametersLoop.eq_def] at h
    simp only at h
    split at h
    · cases h
    · exact ⟨[], Option.some.inj h, .nil⟩
  | succ fuel ih =>
    intro input rest h
    rcases discardParametersLoop_cases h with rfl | ⟨spaces, key, behind, rfl, hspaces, hkey,
      hrest⟩
    · exact ⟨[], rfl, .nil⟩
    · cases behind with
      | nil =>
        obtain ⟨word, hinput, hword⟩ := ih hrest
        refine ⟨0x3B :: (spaces ++ (key ++ word)), ?_, .flag hspaces hkey hword⟩
        rw [hinput]
        simp
      | cons next value =>
        rw [behindKey] at hrest
        split at hrest
        · rename_i hequals
          subst hequals
          obtain ⟨left, hvalue, hleft⟩ := Option.bind_eq_some_iff.mp hrest
          obtain ⟨item, rfl, hitem⟩ := discardParameterValue_sound hvalue
          obtain ⟨word, rfl, hword⟩ := ih hleft
          refine ⟨0x3B :: (spaces ++ (key ++ 0x3D :: (item ++ word))), ?_,
            .value hspaces hkey hitem hword⟩
          simp
        · obtain ⟨word, hinput, hword⟩ := ih hrest
          refine ⟨0x3B :: (spaces ++ (key ++ word)), ?_, .flag hspaces hkey hword⟩
          rw [hinput]
          simp

/-- A parameter starts with what may come behind another. -/
theorem Parameters.itemEnd (h : Parameters word) (hrest : MemberEnd rest) :
    ItemEnd (word ++ rest) := by
  cases h with
  | nil => exact hrest.itemEnd
  | flag | value => exact next_cons (P := fun byte => endsItem byte = true) rfl _

theorem discardParametersLoop_complete (hword : Parameters word) (hrest : MemberEnd rest) :
    ∀ fuel, word.length ≤ fuel →
      discardParametersLoop fuel (word ++ rest) = some rest := by
  induction hword with
  | nil =>
    intro fuel _
    have hhead : ∀ byte, rest.head? = some byte → byte ≠ 0x3B := by
      rintro byte hbyte rfl
      exact absurd (hrest 0x3B hbyte) (by decide)
    cases fuel with
    | zero =>
      rw [List.nil_append, discardParametersLoop.eq_def]
      exact if_neg fun heq => hhead _ heq rfl
    | succ fuel =>
      cases rest with
      | nil => rfl
      | cons byte rest =>
        rw [List.nil_append, discardParametersLoop.eq_def]
        exact if_neg (hhead byte rfl)
  | @flag spaces key others hspaces hkey hothers ih =>
    intro fuel hfuel
    cases fuel with
    | zero => cases hfuel
    | succ fuel =>
      have hend := hothers.itemEnd hrest
      have hlen : others.length ≤ fuel := by
        simp only [List.length_cons, List.length_append] at hfuel
        omega
      have hshape : 0x3B :: (spaces ++ (key ++ others)) ++ rest =
          0x3B :: (spaces ++ (key ++ (others ++ rest))) := by simp
      rw [hshape, discardParametersLoop_key hspaces hkey (hend.outside (by decide)),
        ← ih fuel hlen]
      generalize others ++ rest = behind at hend
      cases behind with
      | nil => rfl
      | cons next value =>
        refine if_neg ?_
        rintro rfl
        exact absurd (hend 0x3D rfl) (by decide)
  | @value spaces key item others hspaces hkey hitem hothers ih =>
    intro fuel hfuel
    cases fuel with
    | zero => cases hfuel
    | succ fuel =>
      have hlen : others.length ≤ fuel := by
        simp only [List.length_cons, List.length_append] at hfuel
        omega
      have hshape : 0x3B :: (spaces ++ (key ++ 0x3D :: (item ++ others))) ++ rest =
          0x3B :: (spaces ++ (key ++ 0x3D :: (item ++ (others ++ rest)))) := by simp
      rw [hshape, discardParametersLoop_key hspaces hkey (next_cons (by decide) _),
        behindKey, if_pos rfl,
        discardParameterValue_complete hitem (hothers.itemEnd hrest)]
      exact ih fuel hlen

theorem discardParameters_skips : Skips discardParameters Parameters MemberEnd where
  sound h := discardParametersLoop_sound h
  complete hword hrest := discardParametersLoop_complete hword hrest _ (by simp)

end Field

end PyWebTransport
