/-
PyWebTransport.Protocol.HeaderAgreement — what one side may send, the other
takes.

The application's headers are checked by `is_valid_user_headers` before they
are sent, and all headers by `validate_request_headers` or
`validate_response_headers` when they arrive. These are separate functions. A
field the first lets through is regular for the other two (`Regular`): valid,
no pseudo-header, not specific to a connection, and no `host` in a request. So
are the fields the library adds for the protocols of a session, since what
`encode_wt_protocol_list` writes begins and ends with a quote or is empty
(`isValidValue_encoded`). The headers of a CONNECT request and of both kinds
of response are pseudo-headers followed by regular fields, and pass
(`headers_agree`).
-/
import PyWebTransport.Protocol.CharBoundary
import PyWebTransport.Protocol.Negotiation

namespace PyWebTransport

open PyWebTransport.Lib PyWebTransport.Field

variable {value encoded : Bytes} {protocols : List String}

variable {isRequest : Bool}

/-! ## Values -/

/-- The part of `is_valid_header` that is about the value. -/
def isValidValue (value : Bytes) : Bool :=
  !(value.head?.any isBlankByte || value.getLast?.any isBlankByte) && value.all isFieldValueByte

theorem isValidValue_iff :
    isValidValue value = true ↔ value.head?.any isBlankByte = false ∧
      value.getLast?.any isBlankByte = false ∧ ∀ byte ∈ value, isFieldValueByte byte = true := by
  simp only [isValidValue, Bool.and_eq_true, Bool.not_eq_true', Bool.or_eq_false_iff,
    List.all_eq_true, and_assoc]

theorem isFieldValueByte_of_printable {byte : UInt8} (h : isPrintableAscii byte = true) :
    isFieldValueByte byte = true := by
  simp [isFieldValueByte, h]

/-- A value of visible characters has no blank at either end. -/
theorem isValidValue_of_graphic (h : ∀ byte ∈ value, H3.isAsciiGraphic byte = true) :
    isValidValue value = true := by
  have hblank : ∀ byte ∈ value, isBlankByte byte = false := by
    intro byte hbyte
    have hgraphic := h byte hbyte
    simp only [H3.isAsciiGraphic, Bool.and_eq_true, decide_eq_true_eq] at hgraphic
    simp only [isBlankByte, Bool.or_eq_false_iff, beq_eq_false_iff_ne]
    constructor
    · rintro rfl
      exact absurd hgraphic.1 (by decide)
    · rintro rfl
      exact absurd hgraphic.1 (by decide)
  refine isValidValue_iff.mpr ⟨?_, ?_, fun byte hbyte => ?_⟩
  · rw [Option.any_eq_false]
    exact fun byte hbyte => hblank byte (List.mem_of_mem_head? hbyte)
  · rw [Option.any_eq_false]
    exact fun byte hbyte => hblank byte (List.mem_of_getLast? hbyte)
  · have hgraphic := h byte hbyte
    simp only [H3.isAsciiGraphic, Bool.and_eq_true, decide_eq_true_eq] at hgraphic
    apply isFieldValueByte_of_printable
    simp only [isPrintableAscii, Bool.and_eq_true, decide_eq_true_eq]
    exact ⟨UInt8.le_trans (by decide) hgraphic.1, hgraphic.2⟩

/-! ## The protocols as a value -/

/-- Printable bytes between two quotes. -/
def Quoted (value : Bytes) : Prop :=
  ∃ body, value = 0x22 :: body ++ [0x22] ∧ ∀ byte ∈ body, isPrintableAscii byte = true

theorem Quoted.isValidValue (h : Quoted value) : isValidValue value = true := by
  obtain ⟨body, rfl, hbody⟩ := h
  refine isValidValue_iff.mpr ⟨rfl, ?_, fun byte hbyte => ?_⟩
  · rw [List.getLast?_append]
    rfl
  · simp only [List.cons_append, List.mem_cons, List.mem_append, List.not_mem_nil, or_false]
      at hbyte
    rcases hbyte with rfl | hbyte | rfl
    · rfl
    · exact isFieldValueByte_of_printable (hbody byte hbyte)
    · rfl

theorem Quoted.join {first rest : Bytes} (hfirst : Quoted first) (hrest : Quoted rest) :
    Quoted (first ++ asciiBytes [',', ' '] ++ rest) := by
  obtain ⟨body, rfl, hbody⟩ := hfirst
  obtain ⟨more, rfl, hmore⟩ := hrest
  refine ⟨body ++ 0x22 :: 0x2C :: 0x20 :: 0x22 :: more, ?_, ?_⟩
  · have hseparator : asciiBytes [',', ' '] = [0x2C, 0x20] := rfl
    simp [hseparator]
  · intro byte hbyte
    simp only [List.mem_append, List.mem_cons] at hbyte
    rcases hbyte with h | rfl | rfl | rfl | rfl | h
    · exact hbody byte h
    · rfl
    · rfl
    · rfl
    · rfl
    · exact hmore byte h

theorem encodeWtProtocolBytes_printable {bytes : Bytes} :
    ∀ {encoded : Bytes}, encodeWtProtocolBytes bytes = .ok encoded →
      ∀ byte ∈ encoded, isPrintableAscii byte = true := by
  induction bytes with
  | nil =>
    intro encoded h
    cases h
    exact fun _ hbyte => nomatch hbyte
  | cons byte bytes ih =>
    intro encoded h
    rw [encodeWtProtocolBytes] at h
    split at h
    · rename_i hprintable
      obtain ⟨tail, htail, h⟩ := exists_of_map_eq_ok h
      have hencoded : (if byte = 0x5C ∨ byte = 0x22 then 0x5C :: byte :: tail
          else byte :: tail) = encoded := h
      subst hencoded
      intro other hother
      split at hother
      · simp only [List.mem_cons] at hother
        rcases hother with rfl | rfl | hother
        · rfl
        · exact hprintable
        · exact ih htail other hother
      · simp only [List.mem_cons] at hother
        rcases hother with rfl | hother
        · exact hprintable
        · exact ih htail other hother
    · cases h

theorem encodeWtProtocolMembers_quoted : ∀ {texts : List String} {members : List Bytes},
    encodeWtProtocolMembers texts = .ok members → ∀ member ∈ members, Quoted member
  | [], members, h => by
      cases h
      exact fun _ hmember => nomatch hmember
  | text :: texts, members, h => by
      rw [encodeWtProtocolMembers] at h
      obtain ⟨encoded, hfirst, h⟩ := exists_of_bind_eq_ok h
      obtain ⟨others, hrest, rfl⟩ := exists_of_map_eq_ok h
      intro member hmember
      rcases List.mem_cons.mp hmember with rfl | hmember
      · exact ⟨encoded, rfl, encodeWtProtocolBytes_printable hfirst⟩
      · exact encodeWtProtocolMembers_quoted hrest member hmember

theorem quoted_intercalate : ∀ {members : List Bytes}, members ≠ [] →
    (∀ member ∈ members, Quoted member) → Quoted (List.intercalate (asciiBytes [',', ' ']) members)
  | [], hne, _ => absurd rfl hne
  | [member], _, h => by
      simpa using h member List.mem_cons_self
  | first :: second :: rest, _, h => by
      have hrest := quoted_intercalate (List.cons_ne_nil second rest)
        fun member hmember => h member (List.mem_cons_of_mem first hmember)
      have hjoin := (h first List.mem_cons_self).join hrest
      rwa [List.intercalate_cons_cons]

/-- What the library writes for protocols is a value, also for no protocols at all. -/
theorem isValidValue_encoded (h : encodeWtProtocolList protocols = .ok encoded) :
    isValidValue encoded = true := by
  rw [encodeWtProtocolList] at h
  obtain ⟨members, hmembers, rfl⟩ := exists_of_map_eq_ok h
  by_cases hne : members = []
  · subst hne
    rfl
  · exact (quoted_intercalate hne (encodeWtProtocolMembers_quoted hmembers)).isValidValue

/-! ## Fields both sides take -/

/-- The part of `is_valid_header` that is about the name. -/
def isValidName (key : Bytes) : Bool :=
  let name := match key with
    | byte :: rest => if byte = 0x3A then rest else key
    | [] => key
  !name.isEmpty && name.all isFieldNameByte

theorem isValidHeader_eq {key : Bytes} :
    isValidHeader key value = (isValidName key && isValidValue value) :=
  Bool.and_assoc (isValidName key)
    (!(value.head?.any isBlankByte || value.getLast?.any isBlankByte)) (value.all isFieldValueByte)

/-- A field behind the pseudo-headers that the receiver has nothing against. -/
structure Regular ( isRequest : Bool) (header : Bytes × Bytes) : Prop where
  valid : isValidHeader header.1 header.2 = true
  notPseudo : header.1.head? ≠ some 0x3A
  notConnectionSpecific : isConnectionSpecificHeader header.1 header.2 isRequest = false
  notHost : isRequest = true → header.1 ≠ asciiBytes ['h', 'o', 's', 't']

/-- What the sender lets through is regular. -/
theorem regular_of_isValidUserHeaders {headers : Headers}
    (h : isValidUserHeaders headers isRequest = true) :
    ∀ header ∈ headers, Regular isRequest header := by
  intro header hheader
  have hvalid := List.all_eq_true.mp h header hheader
  simp only [Bool.and_eq_true, Bool.not_eq_true', Bool.or_eq_false_iff, beq_eq_false_iff_ne,
    Bool.and_eq_false_iff] at hvalid
  obtain ⟨hfield, ⟨⟨⟨⟨hpseudo, hspecific⟩, hhost⟩, -⟩, -⟩, -⟩ := hvalid
  refine ⟨hfield, hpseudo, hspecific, fun hrequest => ?_⟩
  rcases hhost with hno | hhost
  · rw [hrequest] at hno
    cases hno
  · exact hhost

/-- The fields the library adds are regular. -/
theorem regular_protocols (h : encodeWtProtocolList protocols = .ok encoded) :
    Regular isRequest (wtAvailableProtocols, encoded) ∧ Regular isRequest (wtProtocol, encoded) := by
  have hregular : ∀ key, isValidName key = true → key.head? ≠ some 0x3A →
      isConnectionSpecificHeader key encoded isRequest = false →
      key ≠ asciiBytes ['h', 'o', 's', 't'] → Regular isRequest (key, encoded) := by
    intro key hname hpseudo hspecific hhost
    refine ⟨?_, hpseudo, hspecific, fun _ => hhost⟩
    rw [isValidHeader_eq, hname, isValidValue_encoded h]
    rfl
  exact ⟨hregular _ (by decide) (by decide) rfl (by decide),
    hregular _ (by decide) (by decide) rfl (by decide)⟩

namespace H3

variable {headers : Headers}

variable {streamId : StreamId}

theorem collectStatus_regular (h : ∀ header ∈ headers, Regular false header) (afterPseudo : Bool)
    (status : Option Bytes) : collectStatus afterPseudo status headers = some status := by
  induction headers generalizing afterPseudo with
  | nil => rfl
  | cons header headers ih =>
    obtain ⟨hvalid, hpseudo, hspecific, -⟩ := h header List.mem_cons_self
    rw [collectStatus, if_neg (by simp [hvalid, hspecific]), if_neg hpseudo]
    exact ih (fun other hother => h other (List.mem_cons_of_mem header hother)) true

/-- A status and regular fields are a response. -/
theorem validateResponseHeaders_ok {status : Bytes} (hstatus : isValidValue status = true)
    (h : ∀ header ∈ headers, Regular false header) :
    validateResponseHeaders streamId
      ((asciiBytes [':', 's', 't', 'a', 't', 'u', 's'], status) :: headers) = .ok () := by
  have hvalid : isValidHeader (asciiBytes [':', 's', 't', 'a', 't', 'u', 's']) status = true := by
    rw [isValidHeader_eq, hstatus]
    decide
  have hspecific : isConnectionSpecificHeader (asciiBytes [':', 's', 't', 'a', 't', 'u', 's'])
      status false = false := rfl
  have hcollect : collectStatus false none
      ((asciiBytes [':', 's', 't', 'a', 't', 'u', 's'], status) :: headers) = some (some status) := by
    rw [collectStatus, if_neg (by simp [hvalid, hspecific]), if_pos (by decide),
      if_neg (by simp)]
    exact collectStatus_regular h false (some status)
  rw [validateResponseHeaders, hcollect]

theorem collectRequestPseudo_regular (h : ∀ header ∈ headers, Regular true header)
    (pseudo : RequestPseudo) :
    ∃ afterPseudo, collectRequestPseudo pseudo headers =
      some { pseudo with afterPseudo := afterPseudo } := by
  induction headers generalizing pseudo with
  | nil => exact ⟨pseudo.afterPseudo, rfl⟩
  | cons header headers ih =>
    obtain ⟨hvalid, hpseudo, hspecific, hhost⟩ := h header List.mem_cons_self
    obtain ⟨afterPseudo, hrest⟩ := ih
      (fun other hother => h other (List.mem_cons_of_mem header hother))
      { pseudo with afterPseudo := true }
    refine ⟨afterPseudo, ?_⟩
    rw [collectRequestPseudo, if_neg (by simp [hvalid, hspecific]), if_neg hpseudo,
      if_neg (hhost rfl)]
    exact hrest

theorem collectRequestPseudo_pseudo {pseudo pseudo' : RequestPseudo} {key : Bytes}
    (hname : isValidName key = true) (hvalue : isValidValue value = true)
    (hspecific : isConnectionSpecificHeader key value true = false) (hkey : key.head? = some 0x3A)
    (hadd : addRequestPseudo pseudo key value = some pseudo') (headers : Headers) :
    collectRequestPseudo pseudo ((key, value) :: headers) =
      collectRequestPseudo pseudo' headers := by
  have hvalid : isValidHeader key value = true := by
    rw [isValidHeader_eq, hname, hvalue]
    rfl
  rw [collectRequestPseudo, if_neg (by simp [hvalid, hspecific]), if_pos hkey, hadd]
  rfl

/-- The pseudo-headers of a CONNECT request for a session. -/
def connectPseudo (authority path : String) : RequestPseudo where
  method := some connectMethod
  scheme := some (asciiBytes ['h', 't', 't', 'p', 's'])
  authority := some (utf8Bytes authority)
  path := some (utf8Bytes path)
  protocol := some wtUpgradeToken

/-- The headers of a CONNECT request whose own fields are regular are a request. -/
theorem validateRequestHeaders_ok {authority path : String}
    (hauthority : utf8Bytes authority ≠ []) (hvalue : isValidValue (utf8Bytes authority) = true)
    (hslash : (utf8Bytes path).head? = some 0x2F)
    (hpath : ∀ byte ∈ utf8Bytes path, isAsciiGraphic byte = true)
    (h : ∀ header ∈ headers, Regular true header) :
    validateRequestHeaders streamId (connectRequestHeaders authority path headers) = .ok () := by
  have hcollect : collectRequestPseudo {} (connectRequestHeaders authority path headers) =
      collectRequestPseudo (connectPseudo authority path) headers := by
    simp only [connectRequestHeaders, List.cons_append, List.nil_append]
    rw [collectRequestPseudo_pseudo (by decide) (by decide) rfl rfl rfl,
      collectRequestPseudo_pseudo (by decide) (by decide) rfl rfl rfl,
      collectRequestPseudo_pseudo (by decide) hvalue rfl rfl rfl,
      collectRequestPseudo_pseudo (by decide) (isValidValue_of_graphic hpath) rfl rfl rfl,
      collectRequestPseudo_pseudo (by decide) (by decide) rfl rfl rfl]
    rfl
  obtain ⟨afterPseudo, hregular⟩ := collectRequestPseudo_regular h (connectPseudo authority path)
  have hgraphic : (utf8Bytes path).all isAsciiGraphic = true := List.all_eq_true.mpr hpath
  have hnonempty : (utf8Bytes authority).isEmpty = false := by
    cases hbytes : utf8Bytes authority with
    | nil => exact absurd hbytes hauthority
    | cons byte bytes => rfl
  rw [validateRequestHeaders, hcollect, hregular]
  simp only [connectPseudo, isValidPseudo, isValidAuthority, isValidHttpPath, isHttpScheme,
    Option.all_some, Option.any_some, hgraphic, hnonempty, hslash, Option.isSome_some,
    decide_true, Bool.and_self, Bool.not_true, Bool.or_self, Bool.false_eq_true, if_false,
    Bool.not_false, Bool.true_or, Bool.and_false]

end H3

/-! ## Responses -/

theorem utf8EncodeChar_digit {c : Char} (h : c.isDigit = true) :
    ∀ byte ∈ String.utf8EncodeChar c, H3.isAsciiGraphic byte = true := by
  simp only [Char.isDigit, Bool.and_eq_true, decide_eq_true_eq, ge_iff_le,
    UInt32.le_iff_toNat_le] at h
  have hlow : ('0'.val).toNat = 0x30 := rfl
  have hhigh : ('9'.val).toNat = 0x39 := rfl
  rw [hlow, hhigh] at h
  rw [String.utf8EncodeChar]
  simp only [if_pos (Nat.le_trans h.2 (by decide : 0x39 ≤ 0x7f)), List.mem_singleton, forall_eq]
  simp only [H3.isAsciiGraphic, Bool.and_eq_true, decide_eq_true_eq, UInt8.le_iff_toNat_le,
    UInt8.toNat_ofNat']
  have hfirst : (0x21 : UInt8).toNat = 0x21 := rfl
  have hlast : (0x7E : UInt8).toNat = 0x7E := rfl
  omega

/-- A number as the value of `:status`. -/
theorem isValidValue_toString {n : Nat} : isValidValue (utf8Bytes (toString n)) = true := by
  apply isValidValue_of_graphic
  intro byte hbyte
  have hlist : (toString n).toList = Nat.toDigits 10 n := Nat.toList_repr
  rw [utf8Bytes_eq_charBytes, hlist, charBytes, List.mem_flatMap] at hbyte
  obtain ⟨c, hc, hbyte⟩ := hbyte
  exact utf8EncodeChar_digit (Nat.isDigit_of_mem_toDigits (by decide) (Nat.le_refl 10) hc) byte hbyte

namespace Session

variable {s : Session} {headers : Headers}

variable {requestId : RequestId} {now : Timestamp} {streamId : StreamId}

/-- The headers `accept` sends pass; it sends none only for a protocol that
was not offered. -/
theorem accept_passes (hserver : s.isClient = false) (hstate : s.state = .connecting)
    (hheaders : isValidUserHeaders headers false = true) {wtProtocol : Option String}
    (hencodable : ∀ protocol, wtProtocol = some protocol →
      ∃ encoded, encodeWtProtocolList [protocol] = .ok encoded) :
    (∃ response, (s.accept requestId headers wtProtocol now).2.head? =
        some (.sendH3Headers s.id response false) ∧
      H3.validateResponseHeaders streamId response = .ok ()) ∨
    (∃ protocol, wtProtocol = some protocol ∧
      ¬ s.wtAvailableProtocols.any (fun protocols => protocols.contains protocol) = true ∧
      (s.accept requestId headers wtProtocol now).2 =
        [failRequest requestId "wt_protocol validate invalid"]) := by
  have hstatus : isValidValue (asciiBytes ['2', '0', '0']) = true := by decide
  have huser := regular_of_isValidUserHeaders hheaders
  unfold accept
  rw [if_neg (by simp [hserver]), if_neg (by simp [hstate]), if_neg (by simp [hheaders])]
  cases wtProtocol with
  | none =>
    left
    have hfields : ∀ header ∈ headers ++ [], Regular false header := by
      rw [List.append_nil]
      exact huser
    exact ⟨_, rfl, H3.validateResponseHeaders_ok hstatus hfields⟩
  | some protocol =>
    obtain ⟨encoded, hencoded⟩ := hencodable protocol rfl
    by_cases hoffered :
        s.wtAvailableProtocols.any (fun protocols => protocols.contains protocol) = true
    · left
      simp only [acceptProtocolHeader, hencoded, hoffered, if_true]
      refine ⟨_, rfl, H3.validateResponseHeaders_ok hstatus fun header hheader => ?_⟩
      rcases List.mem_append.mp hheader with h | h
      · exact huser header h
      · rw [List.mem_singleton.mp h]
        exact (regular_protocols hencoded).2
    · refine .inr ⟨protocol, rfl, hoffered, ?_⟩
      simp only [acceptProtocolHeader, hencoded, if_neg hoffered]

theorem reject_passes (hserver : s.isClient = false) (hstate : s.state = .connecting)
    (hheaders : isValidUserHeaders headers false = true) {statusCode : Nat}
    (hcode : 300 ≤ statusCode ∧ statusCode ≤ 599) :
    ∃ response, .sendH3Headers s.id response true ∈ (s.reject requestId headers statusCode now).2 ∧
      H3.validateResponseHeaders streamId response = .ok () := by
  unfold reject
  rw [if_neg (by simp [hserver]), if_neg (by simp [hstate]), if_neg (not_not_intro hcode),
    if_neg (by simp [hheaders])]
  refine ⟨_, List.mem_append_right _ List.mem_cons_self, ?_⟩
  exact H3.validateResponseHeaders_ok isValidValue_toString
    (regular_of_isValidUserHeaders hheaders)

end Session

/-! ## Requests -/

namespace Connection

/-- The headers `create_session` adds to those of the application, if it can write them. -/
theorem createSession_passes {c : Connection} (hc : c.TakesRequests) {request : SessionRequest}
    (hheaders : isValidUserHeaders request.headers true = true)
    (hencodable : ∀ protocols, request.wtAvailableProtocols = some protocols →
      ∃ encoded, encodeWtProtocolList protocols = .ok encoded) {requestId : RequestId} :
    ∃ headers, (c.createSession requestId request).2 =
        [.createH3ConnectStream requestId request.authority request.path headers] ∧
      ∀ header ∈ headers, Regular true header := by
  have huser := regular_of_isValidUserHeaders hheaders
  cases hoffer : request.wtAvailableProtocols with
  | none =>
    refine ⟨request.headers, ?_, huser⟩
    unfold createSession
    rw [if_neg (by simp [hc.client]), if_neg (by simp [hc.connected]),
      if_neg (by simp [hc.noGoaway]), if_neg hc.room, if_neg (by simp [hheaders])]
    simp only [hoffer, submitSession]
  | some protocols =>
    obtain ⟨encoded, hencoded⟩ := hencodable protocols hoffer
    refine ⟨request.headers ++ [(PyWebTransport.wtAvailableProtocols, encoded)], ?_, ?_⟩
    · rw [createSession_offer hc hheaders hoffer]
      simp only [hencoded, submitSession]
    · intro header hheader
      rcases List.mem_append.mp hheader with h | h
      · exact huser header h
      · rw [List.mem_singleton.mp h]
        exact (regular_protocols hencoded).1

/-- A server that may take a session takes one from these headers, and tells
the application its path. -/
def TakenWith (request : Headers) (path : String) : Prop :=
  ∀ (server : Connection) (streamId : StreamId) (now : Timestamp), server.TakesSessions →
    server.sessions.contains streamId = false →
    (server.recvHeaders streamId request now).1.isSessionStream streamId = true ∧
    ∃ available rest, (server.recvHeaders streamId request now).2 =
      .emitSessionEvent streamId .sessionRequestReceived
        { path := some path, headers := some request, wtAvailableProtocols := available } :: rest

theorem takenWith_connectRequest {authority path : String} {headers : Headers} :
    TakenWith (H3.connectRequestHeaders authority path headers) path := by
  intro c streamId now hc habsent
  have hmethod : findHeader (H3.connectRequestHeaders authority path headers)
      (asciiBytes [':', 'm', 'e', 't', 'h', 'o', 'd']) =
        some (asciiBytes ['C', 'O', 'N', 'N', 'E', 'C', 'T']) := rfl
  have hupgrade : findHeader (H3.connectRequestHeaders authority path headers)
      (asciiBytes [':', 'p', 'r', 'o', 't', 'o', 'c', 'o', 'l']) = some wtUpgradeToken := rfl
  have hpath : ((findHeader (H3.connectRequestHeaders authority path headers)
      (asciiBytes [':', 'p', 'a', 't', 'h'])).bind utf8String?).getD "/" = path := by
    have hfind : findHeader (H3.connectRequestHeaders authority path headers)
        (asciiBytes [':', 'p', 'a', 't', 'h']) = some (utf8Bytes path) := rfl
    rw [hfind, Option.bind_some, utf8String?_utf8Bytes, Option.getD_some]
  generalize H3.connectRequestHeaders authority path headers = request at *
  unfold recvHeaders recvHeadersServer
  rw [if_neg (by simp [hc.server]), if_neg (by simp [habsent]), if_neg (by simp [hc.connected]),
    if_neg (by simp [hc.noGoaway]), if_neg hc.room, if_neg (by simp [hmethod, hupgrade])]
  simp only [hpath]
  refine ⟨?_, _, _, rfl⟩
  generalize Session.new streamId path request _ c.isClient c.sessionParameters now = session
  obtain ⟨session', hget, -⟩ := keepsOffers_replayEarlyEvents
    { c with sessions := c.sessions.insert streamId session } streamId now streamId session
    (OrderedMap.get?_insert_self _ _ _)
  rw [isSessionStream, OrderedMap.contains, hget]
  rfl

end Connection

/-- Sender and receiver agree: responses made of headers the application may
send pass at the client, and requests made of such headers pass at the server
and are taken as a CONNECT for a session with their path. -/
theorem headers_agree :
    (∀ (s : Session) (requestId : RequestId) (headers : Headers) (wtProtocol : Option String)
      (now : Timestamp) (streamId : StreamId), s.isClient = false → s.state = .connecting →
      isValidUserHeaders headers false = true →
      (∀ protocol, wtProtocol = some protocol →
        ∃ encoded, encodeWtProtocolList [protocol] = .ok encoded) →
      (∃ response, (s.accept requestId headers wtProtocol now).2.head? =
          some (.sendH3Headers s.id response false) ∧
        H3.validateResponseHeaders streamId response = .ok ()) ∨
      (∃ protocol, wtProtocol = some protocol ∧
        ¬ s.wtAvailableProtocols.any (fun protocols => protocols.contains protocol) = true ∧
        (s.accept requestId headers wtProtocol now).2 =
          [Session.failRequest requestId "wt_protocol validate invalid"])) ∧
    (∀ (s : Session) (requestId : RequestId) (headers : Headers) (statusCode : Nat)
      (now : Timestamp) (streamId : StreamId), s.isClient = false → s.state = .connecting →
      isValidUserHeaders headers false = true → 300 ≤ statusCode ∧ statusCode ≤ 599 →
      ∃ response,
        .sendH3Headers s.id response true ∈ (s.reject requestId headers statusCode now).2 ∧
        H3.validateResponseHeaders streamId response = .ok ()) ∧
    (∀ (c : Connection) (requestId : RequestId) (request : SessionRequest) (streamId : StreamId),
      c.TakesRequests → isValidUserHeaders request.headers true = true →
      (∀ protocols, request.wtAvailableProtocols = some protocols →
        ∃ encoded, encodeWtProtocolList protocols = .ok encoded) →
      utf8Bytes request.authority ≠ [] → isValidValue (utf8Bytes request.authority) = true →
      (utf8Bytes request.path).head? = some 0x2F →
      (∀ byte ∈ utf8Bytes request.path, H3.isAsciiGraphic byte = true) →
      ∃ headers, (c.createSession requestId request).2 =
          [.createH3ConnectStream requestId request.authority request.path headers] ∧
        H3.validateRequestHeaders streamId
          (H3.connectRequestHeaders request.authority request.path headers) = .ok () ∧
        Connection.TakenWith (H3.connectRequestHeaders request.authority request.path headers)
          request.path) := by
  refine ⟨?_, ?_, ?_⟩
  · intro s requestId headers wtProtocol now streamId hserver hstate hheaders hencodable
    exact Session.accept_passes hserver hstate hheaders hencodable
  · intro s requestId headers statusCode now streamId hserver hstate hheaders hcode
    exact Session.reject_passes hserver hstate hheaders hcode
  · intro c requestId request streamId hc hheaders hencodable hauthority hvalue hslash hpath
    obtain ⟨headers, hcreate, hregular⟩ :=
      Connection.createSession_passes hc hheaders hencodable
    exact ⟨headers, hcreate,
      H3.validateRequestHeaders_ok hauthority hvalue hslash hpath hregular,
      Connection.takenWith_connectRequest⟩

end PyWebTransport
