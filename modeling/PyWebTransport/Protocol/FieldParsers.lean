/-
PyWebTransport.Protocol.FieldParsers — the two parsers of protocol headers
accept exactly the grammar.

A member is a string with parameters, and `readMember` is the part of the
source that both parsers share. Each is then a loop, or a single round, with
blanks around the members (`parseWtProtocolList_iff`,
`parseWtProtocolString_iff`).
-/
import PyWebTransport.Protocol.FieldReaders

namespace PyWebTransport

open PyWebTransport.Lib

namespace Field

variable {word spaces : Bytes} {texts : List String}

variable {fuel : Nat}

/-! ## Members -/

/-- A string and the parameters behind it. -/
def readMember (input : Bytes) : Option (String × Bytes) :=
  (parseString input).bind fun p => (discardParameters p.2).map fun rest => (p.1, rest)

theorem readMember_reads : Reads readMember Member MemberEnd :=
  parseString_reads.seq discardParameters_skips fun _ _ _ _ => trivial

/-- A member starts with its opening quote. -/
theorem Member.starts {text : String} (h : Member text word) : ∃ tail, word = 0x22 :: tail := by
  obtain ⟨string, parameters, rfl, ⟨hbody⟩, -⟩ := h
  exact ⟨_, rfl⟩

theorem Members.starts (h : Members texts word) : ∃ tail, word = 0x22 :: tail := by
  cases h with
  | one hmember => exact hmember.starts
  | cons hmember _ _ _ =>
    obtain ⟨tail, rfl⟩ := hmember.starts
    exact ⟨_, rfl⟩

/-! ## The list -/

/-- A round of the loop. -/
theorem parseWtProtocolListLoop_succ {protocols : List String} {cursor : Bytes} :
    parseWtProtocolListLoop (fuel + 1) protocols cursor =
      (readMember cursor).bind fun p =>
        match p.2.dropWhile isBlankByte with
        | [] => some (protocols ++ [p.1])
        | byte :: rest =>
          if byte ≠ 0x2C then none
          else
            match rest.dropWhile isBlankByte with
            | [] => none
            | next => parseWtProtocolListLoop fuel (protocols ++ [p.1]) next := by
  rw [parseWtProtocolListLoop, readMember, Option.bind_assoc]
  refine Option.bind_congr fun p _ => ?_
  rw [Option.bind_map]
  rfl

theorem parseWtProtocolListLoop_sound :
    ∀ {protocols texts : List String} {cursor : Bytes},
      parseWtProtocolListLoop fuel protocols cursor = some texts →
      ∃ members word blanks, cursor = word ++ blanks ∧ Members members word ∧ Ows blanks ∧
        texts = protocols ++ members := by
  induction fuel with
  | zero =>
    intro protocols texts cursor h
    cases h
  | succ fuel ih =>
    intro protocols texts cursor h
    rw [parseWtProtocolListLoop_succ] at h
    obtain ⟨⟨protocol, behind⟩, hread, hround⟩ := Option.bind_eq_some_iff.mp h
    clear h
    obtain ⟨word, rfl, hword⟩ := readMember_reads.sound hread
    obtain ⟨blanks, comma, rfl, hblanks, -, -, hdrop⟩ := scan_cases isBlankByte behind
    simp only [hdrop] at hround
    cases comma with
    | nil =>
      cases hround
      exact ⟨[protocol], word, blanks, by rw [List.append_nil], .one hword, hblanks, rfl⟩
    | cons byte behind =>
      simp only at hround
      split at hround
      · cases hround
      rename_i hcomma
      have hcomma : byte = 0x2C := by simpa using hcomma
      subst hcomma
      obtain ⟨blanks', next, rfl, hblanks', -, -, hdrop'⟩ := scan_cases isBlankByte behind
      rw [hdrop'] at hround
      cases next with
      | nil => cases hround
      | cons byte next =>
        obtain ⟨members, rest, left, hnext, hrest, hleft, rfl⟩ := ih hround
        refine ⟨protocol :: members, _, left, ?_, .cons hword hblanks hblanks' hrest, hleft,
          by rw [List.append_assoc]; rfl⟩
        rw [hnext]
        simp

theorem parseWtProtocolListLoop_complete (hmembers : Members texts word) {blanks : Bytes}
    (hblanks : Ows blanks) :
    ∀ (fuel : Nat) (protocols : List String), word.length ≤ fuel →
      parseWtProtocolListLoop fuel protocols (word ++ blanks) = some (protocols ++ texts) := by
  induction hmembers with
  | @one text word hmember =>
    intro fuel protocols hfuel
    cases fuel with
    | zero =>
      obtain ⟨tail, rfl⟩ := hmember.starts
      cases hfuel
    | succ fuel =>
      have hend : MemberEnd blanks := fun byte hbyte => by
        show endsMember byte = true
        rw [endsMember, hblanks byte (List.mem_of_mem_head? hbyte), Bool.or_true]
      have hdrop : blanks.dropWhile isBlankByte = [] := by
        have hall := dropWhile_exact hblanks (next_nil _)
        rwa [List.append_nil] at hall
      rw [parseWtProtocolListLoop_succ, readMember_reads.complete hmember hend,
        Option.bind_some]
      simp only [hdrop]
  | @cons text texts word before behind rest hmember hbefore hbehind hothers ih =>
    intro fuel protocols hfuel
    cases fuel with
    | zero =>
      obtain ⟨tail, rfl⟩ := hmember.starts
      cases hfuel
    | succ fuel =>
      have hshape : word ++ (before ++ 0x2C :: (behind ++ rest)) ++ blanks =
          word ++ (before ++ 0x2C :: (behind ++ (rest ++ blanks))) := by simp
      have hend : MemberEnd (before ++ 0x2C :: (behind ++ (rest ++ blanks))) :=
        Next.append (fun byte hbyte => by rw [endsMember, hbefore byte hbyte, Bool.or_true])
          (next_cons (P := fun byte => endsMember byte = true) rfl _)
      have hdrop : (before ++ 0x2C :: (behind ++ (rest ++ blanks))).dropWhile isBlankByte =
          0x2C :: (behind ++ (rest ++ blanks)) :=
        dropWhile_exact hbefore (next_cons (by decide) _)
      have hlen : rest.length ≤ fuel := by
        simp only [List.length_append, List.length_cons] at hfuel
        omega
      obtain ⟨tail, htail⟩ := hothers.starts
      have hdrop' : (behind ++ (rest ++ blanks)).dropWhile isBlankByte = rest ++ blanks := by
        refine dropWhile_exact hbehind ?_
        rw [htail]
        exact next_cons (by decide) _
      rw [hshape, parseWtProtocolListLoop_succ, readMember_reads.complete hmember hend,
        Option.bind_some]
      simp only [hdrop, hdrop', ne_eq, not_true_eq_false, if_false]
      rw [htail] at ih ⊢
      exact (ih fuel (protocols ++ [text]) (by rw [← htail]; exact hlen)).trans
        (by rw [List.append_assoc]; rfl)

/-- Leading spaces, and then a quote. -/
theorem dropWhile_leading (hspaces : Spaces spaces) (hword : ∃ tail, word = 0x22 :: tail)
    (rest : Bytes) : (spaces ++ (word ++ rest)).dropWhile (· == 0x20) = word ++ rest := by
  obtain ⟨tail, rfl⟩ := hword
  exact dropWhile_exact hspaces.scan (next_cons (by decide) _)

theorem spaces_of_scan (h : ∀ byte ∈ spaces, (byte == 0x20) = true) : Spaces spaces :=
  fun byte hbyte => by simpa using h byte hbyte

theorem parseWtProtocolList_iff (header : Bytes) (texts : List String) :
    parseWtProtocolList header = some texts ↔ ListField texts header := by
  constructor
  · intro h
    obtain ⟨spaces, cursor, rfl, hspaces, -, -, hdrop⟩ := scan_cases (· == 0x20) header
    rw [parseWtProtocolList, hdrop] at h
    cases cursor with
    | nil => cases h
    | cons byte cursor =>
      obtain ⟨members, word, blanks, hcursor, hmembers, hblanks, rfl⟩ :=
        parseWtProtocolListLoop_sound h
      rw [hcursor]
      exact .mk (spaces_of_scan hspaces) hmembers hblanks
  · rintro ⟨hspaces, hmembers, hblanks⟩
    rename_i spaces word blanks
    have hloop := parseWtProtocolListLoop_complete hmembers hblanks (word ++ blanks).length []
      (by simp)
    rw [parseWtProtocolList, dropWhile_leading hspaces hmembers.starts]
    obtain ⟨tail, rfl⟩ := hmembers.starts
    exact hloop

/-! ## The single item -/

theorem parseWtProtocolString_eq {header : Bytes} :
    parseWtProtocolString header =
      (readMember (header.dropWhile (· == 0x20))).bind fun p =>
        if p.2.dropWhile (· == 0x20) = [] then some p.1 else none := by
  rw [parseWtProtocolString, readMember, Option.bind_assoc]
  refine Option.bind_congr fun p _ => ?_
  rw [Option.bind_map]
  rfl

theorem memberEnd_of_spaces {rest : Bytes} (hspaces : Spaces spaces) (hrest : MemberEnd rest) :
    MemberEnd (spaces ++ rest) :=
  Next.append (fun byte hbyte => by rw [hspaces byte hbyte]; rfl) hrest

theorem parseWtProtocolString_iff (header : Bytes) (text : String) :
    parseWtProtocolString header = some text ↔ ItemField text header := by
  constructor
  · intro h
    obtain ⟨spaces, cursor, rfl, hspaces, -, -, hdrop⟩ := scan_cases (· == 0x20) header
    rw [parseWtProtocolString_eq, hdrop] at h
    obtain ⟨⟨protocol, behind⟩, hread, hround⟩ := Option.bind_eq_some_iff.mp h
    obtain ⟨word, rfl, hword⟩ := readMember_reads.sound hread
    obtain ⟨blanks, left, rfl, hblanks, -, -, hdrop'⟩ := scan_cases (· == 0x20) behind
    simp only [hdrop'] at hround
    split at hround
    · rename_i hleft
      cases hround
      rw [hleft, List.append_nil]
      exact .mk (spaces_of_scan hspaces) hword (spaces_of_scan hblanks)
    · cases hround
  · rintro ⟨hspaces, hmember, hblanks⟩
    rename_i spaces word blanks
    have hend := memberEnd_of_spaces hblanks (next_nil _)
    have hdrop : blanks.dropWhile (· == 0x20) = [] := by
      have hall := dropWhile_exact hblanks.scan (next_nil _)
      rwa [List.append_nil] at hall
    rw [List.append_nil] at hend
    rw [parseWtProtocolString_eq, dropWhile_leading hspaces hmember.starts,
      readMember_reads.complete hmember hend, Option.bind_some]
    exact if_pos hdrop

end Field

end PyWebTransport
