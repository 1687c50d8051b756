/-
PyWebTransport.Protocol.Session.KeyingMaterial — the context under which a
session exports TLS keying material.

The context is the session's id in eight bytes, then the label and the
application's context, each behind its length in one byte. The lengths are
checked before they are written, so each fits into its byte, and the three
fields can be read off the context again: two exports with one context are
exports of one session with one label and one context
(`exporter_contexts_separate`).
-/
import PyWebTransport.Protocol.Session.RequestRuns

namespace PyWebTransport

open PyWebTransport.Lib

/-- A text is given by its bytes. -/
theorem utf8Bytes_inj {text text' : String} (h : utf8Bytes text = utf8Bytes text') :
    text = text' := by
  have harrays : text.toUTF8 = text'.toUTF8 := ByteArray.ext (Array.toList_inj.mp h)
  exact String.toByteArray_inj.mp harrays

namespace Session

variable {label : String} {context : Bytes} {s : Session}

variable {requestId : RequestId} {length : Nat}

/-- The exporter context of a session for a label and a context. -/
def exporterContext (id : SessionId) (label : String) (context : Bytes) : Bytes :=
  beBytes 8 id ++ (lengthPrefixed 1 (utf8Bytes label) ++ lengthPrefixed 1 context)

theorem exporterContext_inj {id id' : SessionId} {label' : String} {context' : Bytes}
    (hid : id < 2 ^ 64) (hid' : id' < 2 ^ 64) (hlabel : (utf8Bytes label).length ≤ 255)
    (hlabel' : (utf8Bytes label').length ≤ 255) (hcontext : context.length ≤ 255)
    (hcontext' : context'.length ≤ 255)
    (h : exporterContext id label context = exporterContext id' label' context') :
    id = id' ∧ label = label' ∧ context = context' := by
  obtain ⟨hids, hrest⟩ := List.append_inj h (by rw [length_beBytes, length_beBytes])
  have hids' : id = id' :=
    beBytes_inj (lt_of_lt_of_le hid (by decide)) (lt_of_lt_of_le hid' (by decide)) hids
  obtain ⟨hlabels, hcontexts⟩ := lengthPrefixed_append_inj
    (Nat.lt_succ_of_le hlabel) (Nat.lt_succ_of_le hlabel') hrest
  rw [← List.append_nil (lengthPrefixed 1 context),
    ← List.append_nil (lengthPrefixed 1 context')] at hcontexts
  obtain ⟨hcontexts', -⟩ := lengthPrefixed_append_inj
    (Nat.lt_succ_of_le hcontext) (Nat.lt_succ_of_le hcontext') hcontexts
  exact ⟨hids', utf8Bytes_inj hlabels, hcontexts'⟩

/-- Why a session refuses an export: it is not established, or a length does
not fit into a byte. -/
def RefusesExport (s : Session) (label : String) (context : Bytes) : Prop :=
  (s.state ≠ .connected ∧ s.state ≠ .draining) ∨ (utf8Bytes label).length > 255 ∨
    context.length > 255

theorem exportKeyingMaterial_of_refuses (h : s.RefusesExport label context) :
    ∃ source errorCode reason, s.exportKeyingMaterial requestId label context length =
      [.notifyRequestFailed requestId source errorCode reason] := by
  unfold exportKeyingMaterial
  split
  · exact ⟨_, _, _, rfl⟩
  · rename_i hstate
    rw [if_pos (h.resolve_left hstate)]
    exact ⟨_, _, _, rfl⟩

theorem exportKeyingMaterial_of_not_refuses (h : ¬s.RefusesExport label context)
    (requestId : RequestId) (length : Nat) :
    s.exportKeyingMaterial requestId label context length =
      [.exportTlsKeyingMaterial requestId wtExporterLabel (exporterContext s.id label context)
        length] := by
  unfold RefusesExport at h
  push Not at h
  unfold exportKeyingMaterial
  rw [if_neg (fun hstate => absurd (h.1 hstate.1) hstate.2)]
  have hlengths : ¬((utf8Bytes label).length > 255 ∨ context.length > 255) := by
    have hlabel := h.2.1
    have hcontext := h.2.2
    omega
  simp only [if_neg hlengths, exporterContext, lengthPrefixed, List.append_assoc]

/-- An export that goes through is not refused, and its context is that of
the session, the label and the context of the request. -/
theorem mem_exportKeyingMaterial {id : RequestId} {name : String} {bytes : Bytes} {size : Nat}
    (h : Effect.exportTlsKeyingMaterial id name bytes size ∈
      s.exportKeyingMaterial requestId label context length) :
    ¬s.RefusesExport label context ∧ bytes = exporterContext s.id label context := by
  by_cases hrefuses : s.RefusesExport label context
  · obtain ⟨source, errorCode, reason, hfailed⟩ :=
      exportKeyingMaterial_of_refuses hrefuses
    rw [hfailed] at h
    simp at h
  · rw [exportKeyingMaterial_of_not_refuses hrefuses] at h
    simp only [List.mem_singleton, Effect.exportTlsKeyingMaterial.injEq] at h
    exact ⟨hrefuses, h.2.2.1⟩

/-- Two exports have the same context only if session, label and context are
the same, and an export is refused exactly if the session is not established
or a length is above 255. -/
theorem exporter_contexts_separate (s s' : Session) (hid : s.id < 2 ^ 64) (hid' : s'.id < 2 ^ 64)
    (requestId requestId' : RequestId) (label label' : String) (context context' : Bytes)
    (length length' : Nat) :
    (∀ name name' bytes,
      Effect.exportTlsKeyingMaterial requestId name bytes length ∈
        s.exportKeyingMaterial requestId label context length →
      Effect.exportTlsKeyingMaterial requestId' name' bytes length' ∈
        s'.exportKeyingMaterial requestId' label' context' length' →
      s.id = s'.id ∧ label = label' ∧ context = context') ∧
    ((∃ source errorCode reason, s.exportKeyingMaterial requestId label context length =
        [.notifyRequestFailed requestId source errorCode reason]) ↔
      (s.state ≠ .connected ∧ s.state ≠ .draining) ∨ (utf8Bytes label).length > 255 ∨
        context.length > 255) ∧
    ((∃ name bytes, s.exportKeyingMaterial requestId label context length =
        [.exportTlsKeyingMaterial requestId name bytes length]) ↔
      ¬((s.state ≠ .connected ∧ s.state ≠ .draining) ∨ (utf8Bytes label).length > 255 ∨
        context.length > 255)) := by
  refine ⟨fun name name' bytes h h' => ?_, ⟨?_, fun hrefuses => ?_⟩, ⟨?_, fun hnot => ?_⟩⟩
  · obtain ⟨hgoes, rfl⟩ := mem_exportKeyingMaterial h
    obtain ⟨hgoes', hsame⟩ := mem_exportKeyingMaterial h'
    unfold RefusesExport at hgoes hgoes'
    push Not at hgoes hgoes'
    exact exporterContext_inj hid hid' hgoes.2.1 hgoes'.2.1 hgoes.2.2 hgoes'.2.2 hsame
  · rintro ⟨source, errorCode, reason, hfailed⟩
    by_contra hnot
    rw [exportKeyingMaterial_of_not_refuses hnot] at hfailed
    simp at hfailed
  · exact exportKeyingMaterial_of_refuses hrefuses
  · rintro ⟨name, bytes, hexport⟩
    have hmem : Effect.exportTlsKeyingMaterial requestId name bytes length ∈
        s.exportKeyingMaterial requestId label context length := by
      rw [hexport]
      exact List.mem_singleton_self _
    exact (mem_exportKeyingMaterial hmem).1
  · exact ⟨_, _, exportKeyingMaterial_of_not_refuses hnot requestId length⟩

/-- An established session with this id. -/
def sampleExporter (id : SessionId) : Session :=
  { new id "/" [] none true SessionRun.sampleParameters 0 with state := .connected }

/-- Sessions 0 and 4 both export, and share no exporter context. -/
theorem exporter_contexts_separate_sample :
    (∃ name bytes, (sampleExporter 0).exportKeyingMaterial 1 "a" [] 32 =
      [.exportTlsKeyingMaterial 1 name bytes 32]) ∧
    ¬∃ bytes,
      Effect.exportTlsKeyingMaterial 1 wtExporterLabel bytes 32 ∈
        (sampleExporter 0).exportKeyingMaterial 1 "a" [] 32 ∧
      Effect.exportTlsKeyingMaterial 2 wtExporterLabel bytes 32 ∈
        (sampleExporter 4).exportKeyingMaterial 2 "a" [] 32 := by
  have h := exporter_contexts_separate (sampleExporter 0) (sampleExporter 4) (by decide) (by decide)
    1 2 "a" "a" [] [] 32 32
  refine ⟨h.2.2.mpr (by decide +kernel), ?_⟩
  rintro ⟨bytes, hfirst, hsecond⟩
  exact absurd (h.1 _ _ bytes hfirst hsecond).1 (by decide)

end Session

end PyWebTransport
