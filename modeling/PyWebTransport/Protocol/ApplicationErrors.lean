/-
PyWebTransport.Protocol.ApplicationErrors — the mapping between the error
codes of an application and the HTTP/3 codes that carry them
(`webtransport_code_to_http_code` and its inverse in `protocol/utils.rs`).

HTTP/3 reserves one code in 31, so the codes of the application are counted
through the rest: relative to the first of the range, the mapping is
`Lib.skip 30` and its inverse `Lib.unskip 30`. The range starts so that a
code is reserved exactly when it is the last of a block of 31
(`isReserved_iff`), and it ends with the largest 32-bit code
(`skip_largest`).
-/
import PyWebTransport.Lib.Skip
import PyWebTransport.Protocol.Utils

namespace PyWebTransport

open PyWebTransport.Lib

variable {httpErrorCode : Nat}

variable {n : Nat}

/-- The range of HTTP/3 codes for errors of the application. -/
def IsApplicationError (httpErrorCode : ErrorCode) : Prop :=
  errWtApplicationErrorFirst ≤ httpErrorCode ∧ httpErrorCode ≤ errWtApplicationErrorLast

/-- The codes HTTP/3 reserves, `0x1f * k + 0x21`. -/
def IsReservedError (httpErrorCode : ErrorCode) : Prop :=
  ∃ k, httpErrorCode = h3ErrorReservedModulo * k + h3ErrorReservedOffset

/-- Of a code in the range, how far it is from the first. -/
def applicationErrorOffset (httpErrorCode : ErrorCode) : Nat :=
  httpErrorCode - errWtApplicationErrorFirst

theorem webtransportCodeToHttpCode_eq :
    webtransportCodeToHttpCode n = errWtApplicationErrorFirst + skip wtErrorMapDivisor n := by
  simp only [webtransportCodeToHttpCode, skip, Nat.add_assoc]

/-- The range is as long as it takes for 32 bits. -/
theorem skip_largest :
    errWtApplicationErrorFirst + skip wtErrorMapDivisor (2 ^ 32 - 1) =
      errWtApplicationErrorLast := by
  decide

theorem mod_eq_zero_iff (h : IsApplicationError httpErrorCode) :
    (httpErrorCode - h3ErrorReservedOffset) % h3ErrorReservedModulo = 0 ↔
      applicationErrorOffset httpErrorCode % (wtErrorMapDivisor + 1) = wtErrorMapDivisor := by
  obtain ⟨offset, rfl⟩ := Nat.exists_eq_add_of_le h.1
  rw [applicationErrorOffset, Nat.add_sub_cancel_left]
  unfold h3ErrorReservedModulo h3ErrorReservedOffset wtErrorMapDivisor errWtApplicationErrorFirst
  omega

/-- A code of the range is reserved if it is the last of a block of 31. -/
theorem isReserved_iff (h : IsApplicationError httpErrorCode) :
    IsReservedError httpErrorCode ↔
      applicationErrorOffset httpErrorCode % (wtErrorMapDivisor + 1) = wtErrorMapDivisor := by
  rw [← mod_eq_zero_iff h]
  have hoffset : h3ErrorReservedOffset ≤ httpErrorCode := le_trans (by decide) h.1
  constructor
  · rintro ⟨k, rfl⟩
    rw [Nat.add_sub_cancel, Nat.mul_mod_right]
  · intro hmod
    obtain ⟨k, hk⟩ := Nat.dvd_of_mod_eq_zero hmod
    exact ⟨k, by rw [← hk, Nat.sub_add_cancel hoffset]⟩

theorem isApplicationError_code (hn : n < 2 ^ 32) :
    IsApplicationError (webtransportCodeToHttpCode n) := by
  rw [webtransportCodeToHttpCode_eq]
  refine ⟨Nat.le_add_right _ _, ?_⟩
  rw [← skip_largest]
  refine Nat.add_le_add_left ?_ _
  rcases Nat.lt_or_ge n (2 ^ 32 - 1) with hless | hlargest
  · exact (skip_lt_skip _ hless).le
  · rw [show n = 2 ^ 32 - 1 by omega]

theorem applicationErrorOffset_code :
    applicationErrorOffset (webtransportCodeToHttpCode n) = skip wtErrorMapDivisor n := by
  rw [applicationErrorOffset, webtransportCodeToHttpCode_eq, Nat.add_sub_cancel_left]

theorem not_isReserved_code (hn : n < 2 ^ 32) :
    ¬IsReservedError (webtransportCodeToHttpCode n) := by
  rw [isReserved_iff (isApplicationError_code hn), applicationErrorOffset_code]
  exact skip_mod_ne (by decide) n

/-- Relative to the first code, the inverse takes the reserved codes off. -/
theorem unskip_lt (h : IsApplicationError httpErrorCode)
    (hreserved : ¬IsReservedError httpErrorCode) :
    unskip wtErrorMapDivisor (applicationErrorOffset httpErrorCode) < 2 ^ 32 := by
  rw [isReserved_iff h] at hreserved
  by_contra hlarge
  -- a larger code would come out behind the end of the range
  have hbehind : skip wtErrorMapDivisor (2 ^ 32 - 1) <
      skip wtErrorMapDivisor (unskip wtErrorMapDivisor (applicationErrorOffset httpErrorCode)) :=
    skip_lt_skip _ (by omega)
  rw [skip_unskip (by decide) hreserved] at hbehind
  refine absurd h.2 (Nat.not_le.mpr ?_)
  rw [← skip_largest, ← Nat.add_sub_cancel' h.1]
  exact Nat.add_lt_add_left hbehind _

theorem httpCodeToWebtransportCode_eq (h : IsApplicationError httpErrorCode)
    (hreserved : ¬IsReservedError httpErrorCode) :
    httpCodeToWebtransportCode httpErrorCode =
      some (unskip wtErrorMapDivisor (applicationErrorOffset httpErrorCode)) := by
  have hlt := unskip_lt h hreserved
  have hmod := mt (isReserved_iff h |>.mpr) hreserved
  rw [← mod_eq_zero_iff h] at hmod
  unfold httpCodeToWebtransportCode
  rw [if_neg (not_not.mpr ⟨h.1, h.2⟩), if_neg hmod]
  exact if_pos hlt

theorem httpCodeToWebtransportCode_isSome_iff :
    (∃ n, httpCodeToWebtransportCode httpErrorCode = some n) ↔
      IsApplicationError httpErrorCode ∧ ¬IsReservedError httpErrorCode := by
  constructor
  · rintro ⟨n, hn⟩
    unfold httpCodeToWebtransportCode at hn
    split at hn
    · cases hn
    · rename_i hrange
      have hin : IsApplicationError httpErrorCode := not_not.mp hrange
      split at hn
      · cases hn
      · rename_i hmod
        rw [mod_eq_zero_iff hin] at hmod
        exact ⟨hin, mt (isReserved_iff hin).mp hmod⟩
  · rintro ⟨hin, hreserved⟩
    exact ⟨_, httpCodeToWebtransportCode_eq hin hreserved⟩

/-- The codes of an application are mapped one to one, in order, onto the
codes of the range that are not reserved, and the two functions are inverse
to each other. The sums stay below 2^64, and nothing larger is subtracted. -/
theorem application_code_isomorphism :
    (∀ n : UInt32,
      IsApplicationError (webtransportCodeToHttpCode n.toNat) ∧
      ¬IsReservedError (webtransportCodeToHttpCode n.toNat) ∧
      httpCodeToWebtransportCode (webtransportCodeToHttpCode n.toNat) = some n.toNat ∧
      errWtApplicationErrorFirst + n.toNat < 2 ^ 64 ∧
      webtransportCodeToHttpCode n.toNat < 2 ^ 64) ∧
    (∀ m n : UInt32, m < n →
      webtransportCodeToHttpCode m.toNat < webtransportCodeToHttpCode n.toNat) ∧
    ∀ h : UInt64,
      ((∃ n, httpCodeToWebtransportCode h.toNat = some n) ↔
        IsApplicationError h.toNat ∧ ¬IsReservedError h.toNat) ∧
      (∀ n, httpCodeToWebtransportCode h.toNat = some n →
        n < 2 ^ 32 ∧ webtransportCodeToHttpCode n = h.toNat) ∧
      (IsApplicationError h.toNat →
        h3ErrorReservedOffset ≤ h.toNat ∧ errWtApplicationErrorFirst ≤ h.toNat ∧
        applicationErrorOffset h.toNat / h3ErrorReservedModulo ≤
          applicationErrorOffset h.toNat) := by
  refine ⟨fun n => ?_, fun m n hless => ?_, fun h => ⟨?_, fun n hn => ?_, fun hin => ?_⟩⟩
  · have hin := isApplicationError_code n.toNat_lt
    have hreserved := not_isReserved_code n.toNat_lt
    have hbelow : webtransportCodeToHttpCode n.toNat < 2 ^ 64 := lt_of_le_of_lt hin.2 (by decide)
    refine ⟨hin, hreserved, ?_, ?_, hbelow⟩
    · rw [httpCodeToWebtransportCode_eq hin hreserved, applicationErrorOffset_code,
        unskip_skip (by decide)]
    · refine lt_of_le_of_lt ?_ hbelow
      rw [webtransportCodeToHttpCode_eq, skip, ← Nat.add_assoc]
      exact Nat.le_add_right _ _
  · rw [webtransportCodeToHttpCode_eq, webtransportCodeToHttpCode_eq]
    exact Nat.add_lt_add_left (skip_lt_skip _ (UInt32.lt_iff_toNat_lt.mp hless)) _
  · exact httpCodeToWebtransportCode_isSome_iff
  · obtain ⟨hin, hreserved⟩ := httpCodeToWebtransportCode_isSome_iff.mp ⟨n, hn⟩
    rw [httpCodeToWebtransportCode_eq hin hreserved] at hn
    cases hn
    refine ⟨unskip_lt hin hreserved, ?_⟩
    rw [webtransportCodeToHttpCode_eq,
      skip_unskip (by decide) (mt (isReserved_iff hin).mpr hreserved)]
    exact Nat.add_sub_cancel' hin.1
  · exact ⟨le_trans (by decide) hin.1, hin.1, Nat.div_le_self _ _⟩

end PyWebTransport
