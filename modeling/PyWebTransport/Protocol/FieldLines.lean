/-
PyWebTransport.Protocol.FieldLines — protocol headers that come in several
lines, and the values an endpoint writes itself.

`combine_header` joins the lines of one name with a comma. For a list this
is one more comma between members, so the joined value stands for all the
protocols one after the other; for a single string it is one too many
(`combined_lines_parse`).

`encode_wt_protocol_list` writes words of the grammar, escaping what a
string may not hold as it is (`encodeWtProtocolList_listField`), and fails on
exactly the texts with a byte that is not printable ASCII
(`encodeWtProtocolList_isOk_iff`).
-/
import Mathlib.Data.List.Forall2
import PyWebTransport.Lib.Results
import PyWebTransport.Protocol.FieldCursor

namespace PyWebTransport

open PyWebTransport.Lib

namespace Field

variable {texts : List String} {text : String} {encoded : Bytes} {texts' : List String}
  {word value bytes : Bytes} {byte : UInt8}

/-! ## Joining lines -/

/-- The values of the lines of one name. -/
def headerLines (headers : Headers) (key : Bytes) : List Bytes :=
  (headers.filter (fun header => header.1 == key)).map Prod.snd

theorem combineHeader_eq {headers : Headers} {key : Bytes} (h : headerLines headers key ≠ []) :
    combineHeader headers key =
      some (List.intercalate (asciiBytes [',', ' ']) (headerLines headers key)) := by
  unfold combineHeader
  unfold headerLines at h ⊢
  generalize (headers.filter fun header => header.1 == key).map Prod.snd = lines at h ⊢
  cases lines with
  | nil => exact absurd rfl h
  | cons value rest =>
    cases rest with
    | nil => simp [List.intercalate]
    | cons next rest => rfl

theorem intercalate_cons {separator : Bytes} {values : List Bytes} (h : values ≠ []) :
    List.intercalate separator (value :: values) =
      value ++ (separator ++ List.intercalate separator values) := by
  cases values with
  | nil => exact absurd rfl h
  | cons next values => simp [List.intercalate]

theorem Members.append {word' : Bytes} (h : Members texts word) (h' : Members texts' word')
    {before behind : Bytes} (hbefore : Ows before) (hbehind : Ows behind) :
    Members (texts ++ texts') (word ++ (before ++ 0x2C :: (behind ++ word'))) := by
  induction h with
  | one hmember => exact .cons hmember hbefore hbehind h'
  | @cons text texts word before' behind' rest hmember hbefore' hbehind' _ ih =>
    have hshape : word ++ (before' ++ 0x2C :: (behind' ++ rest)) ++
          (before ++ 0x2C :: (behind ++ word')) =
        word ++ (before' ++ 0x2C :: (behind' ++ (rest ++ (before ++ 0x2C :: (behind ++ word'))))) :=
      by simp
    rw [hshape]
    exact .cons hmember hbefore' hbehind' ih

theorem Spaces.ows {spaces : Bytes} (h : Spaces spaces) : Ows spaces := by
  intro byte hbyte
  rw [h byte hbyte]
  rfl

/-- A comma and a space between two lists makes them one. -/
theorem ListField.append {value' : Bytes} (h : ListField texts value)
    (h' : ListField texts' value') :
    ListField (texts ++ texts') (value ++ (asciiBytes [',', ' '] ++ value')) := by
  obtain ⟨hspaces, hmembers, hblanks⟩ := h
  obtain ⟨hspaces', hmembers', hblanks'⟩ := h'
  rename_i spaces word blanks spaces' word' blanks'
  have hbehind : Ows (0x20 :: spaces') := by
    intro byte hbyte
    rcases List.mem_cons.mp hbyte with rfl | hmem
    · rfl
    · exact hspaces'.ows byte hmem
  have hjoined := ListField.mk hspaces (hmembers.append hmembers' hblanks hbehind) hblanks'
  have hshape : spaces ++ (word ++ blanks) ++
        (asciiBytes [',', ' '] ++ (spaces' ++ (word' ++ blanks'))) =
      spaces ++ (word ++ (blanks ++ 0x2C :: (0x20 :: spaces' ++ word')) ++ blanks') := by
    simp [asciiBytes]
  rw [hshape]
  exact hjoined

theorem listField_intercalate : ∀ {values : List Bytes} {lists : List (List String)},
    List.Forall₂ (fun value texts => ListField texts value) values lists → values ≠ [] →
    ListField lists.flatten (List.intercalate (asciiBytes [',', ' ']) values)
  | [], _, _, hne => absurd rfl hne
  | [value], _, .cons hfirst .nil, _ => by
      rw [List.flatten_cons, List.flatten_nil, List.append_nil]
      simpa [List.intercalate] using hfirst
  | value :: next :: values, texts :: lists, .cons hfirst hrest, _ => by
      rw [intercalate_cons (List.cons_ne_nil next values), List.flatten_cons]
      exact hfirst.append (listField_intercalate hrest (List.cons_ne_nil next values))

/-- Behind a single string only spaces may come. -/
theorem ItemField.comma (h : ItemField text value) (rest : Bytes) :
    parseWtProtocolString (value ++ (asciiBytes [',', ' '] ++ rest)) = none := by
  obtain ⟨hspaces, hmember, hblanks⟩ := h
  rename_i spaces word blanks
  have hshape : spaces ++ (word ++ blanks) ++ (asciiBytes [',', ' '] ++ rest) =
      spaces ++ (word ++ (blanks ++ 0x2C :: 0x20 :: rest)) := by simp [asciiBytes]
  have hend : MemberEnd (blanks ++ 0x2C :: 0x20 :: rest) :=
    memberEnd_of_spaces hblanks (next_cons (P := fun byte => endsMember byte = true) rfl _)
  have hdrop : (blanks ++ 0x2C :: 0x20 :: rest).dropWhile (· == 0x20) = 0x2C :: 0x20 :: rest :=
    dropWhile_exact hblanks.scan (next_cons (by decide) _)
  rw [hshape, parseWtProtocolString_eq, dropWhile_leading hspaces hmember.starts,
    readMember_reads.complete hmember hend, Option.bind_some]
  simp only [hdrop, reduceCtorEq, if_false]

/-- Lists may be split over lines, and a single string may not be repeated. -/
theorem combined_lines_parse (headers : Headers) :
    (∀ lists, headerLines headers wtAvailableProtocols ≠ [] →
      List.Forall₂ (fun value texts => parseWtProtocolList value = some texts)
        (headerLines headers wtAvailableProtocols) lists →
      (combineHeader headers wtAvailableProtocols).bind parseWtProtocolList =
        some lists.flatten) ∧
    (2 ≤ (headerLines headers wtProtocol).length →
      (∀ value ∈ headerLines headers wtProtocol, (parseWtProtocolString value).isSome = true) →
      (combineHeader headers wtProtocol).map parseWtProtocolString = some none) := by
  constructor
  · intro lists hlines hparse
    rw [combineHeader_eq hlines, Option.bind_some]
    refine (parseWtProtocolList_iff _ _).mpr (listField_intercalate ?_ hlines)
    exact hparse.imp fun value texts h => (parseWtProtocolList_iff value texts).mp h
  · intro htwo hparse
    match hlines : headerLines headers wtProtocol, htwo with
    | value :: next :: rest, _ =>
      have hne : headerLines headers wtProtocol ≠ [] := by
        rw [hlines]
        exact List.cons_ne_nil _ _
      obtain ⟨text, hvalue⟩ := Option.isSome_iff_exists.mp
        (hparse value (by rw [hlines]; exact List.mem_cons_self))
      have hitem := (parseWtProtocolString_iff value text).mp hvalue
      rw [combineHeader_eq hne, hlines, intercalate_cons (List.cons_ne_nil next rest),
        Option.map_some, hitem.comma]

/-- Two lines with a protocol each, and a header of another name between them. -/
def sampleLines : Headers :=
  [(wtAvailableProtocols, asciiBytes ['"', 'a', '"', ';', 'q']),
    (wtProtocol, asciiBytes ['"', 'a', '"']),
    (wtAvailableProtocols, asciiBytes [' ', '"', 'b', '"']),
    (wtProtocol, asciiBytes ['"', 'a', '"'])]

theorem combined_lines_parse_two :
    (combineHeader sampleLines wtAvailableProtocols).bind parseWtProtocolList =
      some ["a", "b"] ∧
    (combineHeader sampleLines wtProtocol).map parseWtProtocolString = some none := by
  constructor
  · have hlists : List.Forall₂ (fun value texts => parseWtProtocolList value = some texts)
        (headerLines sampleLines wtAvailableProtocols) [["a"], ["b"]] :=
      .cons rfl (.cons rfl .nil)
    exact (combined_lines_parse sampleLines).1 [["a"], ["b"]] (by decide) hlists
  · exact (combined_lines_parse sampleLines).2 (by decide) (by decide)

/-! ## Writing protocols -/

/-- The text whose characters are the bytes. -/
def bytesText (bytes : Bytes) : List Char := bytes.map fun byte => Char.ofNat byte.toNat

theorem utf8EncodeChar_ascii (h : byte < 0x80) :
    String.utf8EncodeChar (Char.ofNat byte.toNat) = [byte] := by
  have hlt : byte.toNat < 0x80 := h
  have hval : (Char.ofNat byte.toNat).val.toNat = byte.toNat := by
    have hvalid : byte.toNat.isValidChar := Or.inl (by omega)
    rw [Char.ofNat, dif_pos hvalid]
    rfl
  rw [String.utf8EncodeChar]
  simp only [hval]
  rw [if_pos (by omega), UInt8.ofNat_toNat]

theorem flatMap_utf8EncodeChar (h : ∀ byte ∈ bytes, byte < 0x80) :
    (bytesText bytes).flatMap String.utf8EncodeChar = bytes := by
  induction bytes with
  | nil => rfl
  | cons byte bytes ih =>
    have htail := ih fun b hb => h b (List.mem_cons_of_mem byte hb)
    rw [bytesText, List.map_cons, List.flatMap_cons, utf8EncodeChar_ascii (h byte List.mem_cons_self)]
    exact congrArg (byte :: ·) htail

/-- A text of ASCII characters is its bytes. -/
theorem ofList_bytesText (h : ∀ byte ∈ utf8Bytes text, byte < 0x80) :
    String.ofList (bytesText (utf8Bytes text)) = text := by
  apply String.toByteArray_inj.mp
  show (List.flatMap String.utf8EncodeChar (bytesText (utf8Bytes text))).toByteArray =
    text.toByteArray
  rw [flatMap_utf8EncodeChar h]
  apply ByteArray.ext
  simp [utf8Bytes]

def Printable (text : String) : Prop := ∀ byte ∈ utf8Bytes text, isPrintableAscii byte = true

theorem lt_of_isPrintableAscii (h : isPrintableAscii byte = true) : byte < 0x80 := by
  simp only [isPrintableAscii, Bool.and_eq_true, decide_eq_true_eq] at h
  grind

theorem encodeWtProtocolBytes_isOk_iff :
    (∃ encoded, encodeWtProtocolBytes bytes = .ok encoded) ↔
      ∀ byte ∈ bytes, isPrintableAscii byte = true := by
  induction bytes with
  | nil => exact ⟨fun _ byte hbyte => (nomatch hbyte), fun _ => ⟨[], rfl⟩⟩
  | cons byte bytes ih =>
    rw [encodeWtProtocolBytes, List.forall_mem_cons, ← ih]
    by_cases hbyte : isPrintableAscii byte = true
    · rw [if_pos hbyte]
      cases encodeWtProtocolBytes bytes with
      | error e => simp [Except.map]
      | ok encoded => simp [Except.map, hbyte]
    · rw [if_neg hbyte]
      simp [hbyte]

theorem encodeWtProtocolBytes_body (h : encodeWtProtocolBytes bytes = .ok encoded) :
    StringBody (bytesText bytes) encoded := by
  induction bytes generalizing encoded with
  | nil =>
    cases h
    exact .nil
  | cons byte bytes ih =>
    rw [encodeWtProtocolBytes] at h
    split at h
    · rename_i hprintable
      obtain ⟨tail, htail, h⟩ := exists_of_map_eq_ok h
      have hbody := ih htail
      split at h
      · rename_i hspecial
        subst h
        exact .escaped hspecial.symm hbody
      · rename_i hspecial
        subst h
        obtain ⟨hbackslash, hquote⟩ := not_or.mp hspecial
        exact .plain hprintable hquote hbackslash hbody
    · cases h

/-- What is written for one protocol is a string that stands for it. -/
theorem member_encoded (h : encodeWtProtocolBytes (utf8Bytes text) = .ok encoded) :
    Member text (0x22 :: encoded ++ [0x22]) := by
  have hprintable := encodeWtProtocolBytes_isOk_iff.mp ⟨encoded, h⟩
  have htext := ofList_bytesText fun byte hbyte => lt_of_isPrintableAscii (hprintable byte hbyte)
  have hstring := SfString.mk (encodeWtProtocolBytes_body h)
  rw [htext] at hstring
  exact ⟨_, [], by rw [List.append_nil]; rfl, hstring, .nil⟩

theorem encodeWtProtocolMembers_members : ∀ {texts : List String} {members : List Bytes},
    encodeWtProtocolMembers texts = .ok members →
    List.Forall₂ (fun member text => Member text member) members texts
  | [], members, h => by
      cases h
      exact .nil
  | text :: texts, members, h => by
      rw [encodeWtProtocolMembers] at h
      obtain ⟨encoded, hfirst, h⟩ := exists_of_bind_eq_ok h
      obtain ⟨others, hrest, rfl⟩ := exists_of_map_eq_ok h
      exact .cons (member_encoded hfirst) (encodeWtProtocolMembers_members hrest)

theorem encodeWtProtocolMembers_isOk_iff :
    (∃ members, encodeWtProtocolMembers texts = .ok members) ↔ ∀ text ∈ texts, Printable text := by
  induction texts with
  | nil => exact ⟨fun _ text htext => (nomatch htext), fun _ => ⟨[], rfl⟩⟩
  | cons text texts ih =>
    rw [encodeWtProtocolMembers, List.forall_mem_cons, ← ih, Printable,
      ← encodeWtProtocolBytes_isOk_iff]
    cases encodeWtProtocolBytes (utf8Bytes text) with
    | error e => simp [Except.bind]
    | ok encoded =>
      cases encodeWtProtocolMembers texts with
      | error e | ok members => simp [Except.bind, Except.map]

/-- A list is written unless a text has a byte that is not printable. -/
theorem encodeWtProtocolList_isOk_iff (texts : List String) :
    (∃ encoded, encodeWtProtocolList texts = .ok encoded) ↔ ∀ text ∈ texts, Printable text := by
  rw [← encodeWtProtocolMembers_isOk_iff, encodeWtProtocolList]
  cases encodeWtProtocolMembers texts with
  | error e | ok members => simp [Except.map]

theorem spaces_nil : Spaces [] := fun _ hbyte => (nomatch hbyte)

theorem listField_of_member (h : Member text word) : ListField [text] word := by
  have hfield := ListField.mk spaces_nil (Members.one h) spaces_nil.ows
  rwa [List.nil_append, List.append_nil] at hfield

/-- What is written for a list stands for the list. -/
theorem encodeWtProtocolList_listField (hne : texts ≠ [])
    (h : encodeWtProtocolList texts = .ok encoded) : ListField texts encoded := by
  rw [encodeWtProtocolList] at h
  obtain ⟨members, hmembers, rfl⟩ := exists_of_map_eq_ok h
  have hall := encodeWtProtocolMembers_members hmembers
  have hlists : List.Forall₂ (fun value texts => ListField texts value) members
      (texts.map fun text => [text]) :=
    List.forall₂_map_right_iff.mpr (hall.imp fun member text => listField_of_member)
  have hmembersNe : members ≠ [] := by
    rintro rfl
    cases hall
    exact hne rfl
  have hfield := listField_intercalate hlists hmembersNe
  rwa [← List.flatMap_def, List.flatMap_singleton'] at hfield

/-- What is written for a single protocol stands for it. -/
theorem encodeWtProtocolList_itemField (h : encodeWtProtocolList [text] = .ok encoded) :
    ItemField text encoded := by
  rw [encodeWtProtocolList, encodeWtProtocolMembers] at h
  obtain ⟨members, hmembers, rfl⟩ := exists_of_map_eq_ok h
  obtain ⟨body, hbytes, hbody⟩ := exists_of_bind_eq_ok hmembers
  cases hbody
  have hfield := ItemField.mk spaces_nil (member_encoded hbytes) spaces_nil
  rw [List.nil_append, List.append_nil] at hfield
  simpa [List.intercalate] using hfield

end Field

end PyWebTransport
