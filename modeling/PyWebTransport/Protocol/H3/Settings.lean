/-
PyWebTransport.Protocol.H3.Settings — the SETTINGS payload: writing and
reading it agree.

A payload is a list of pairs of integers (`SpellsPairs`). The reader is
looked at in two layers: `parseSettingsLoop` reads pairs and stops at 64
(`parseSettings_of_spells`, `spells_of_parseSettingsLoop`), and `addAll`
collects them. What is collected is said by `Collected` with membership only
(a known setting is in its slot, every other pair in the list), so the order
of the pairs shows in the order of the unknown ones and nowhere else.

The nine known settings are spelled out twice in the source, once to write
and once to read. Here they are one function of the identifier, `slot`; the
only lemmas that look at the nine are `settingsEntries_eq`, `ext_slot`,
`addSetting_known` and `addSetting_unknown`.
-/
import PyWebTransport.Protocol.H3.CapsuleRoundTrip
import Mathlib.Data.List.Nodup

namespace PyWebTransport

open PyWebTransport.Lib

namespace H3

variable {settings' : H3Settings} {identifier value : Nat} {d : Bytes}
  {entries : List (Nat × Nat)} {settings first second : H3Settings} {rest : List (Nat × Nat)}

/-! ## Slots -/

/-- The settings that have a field of their own, in wire order. -/
def knownSettings : List Nat :=
  [settingsQpackMaxTableCapacity, settingsMaxFieldSectionSize, settingsQpackBlockedStreams,
    settingsEnableConnectProtocol, settingsH3Datagram, settingsWtInitialMaxData,
    settingsWtInitialMaxStreamsUni, settingsWtInitialMaxStreamsBidi, settingsWtEnabled]

/-- The settings of HTTP/2 that HTTP/3 must not carry. -/
def reservedSettings : List Nat :=
  [settingsReservedEnablePush, settingsReservedInitialWindowSize,
    settingsReservedMaxConcurrentStreams, settingsReservedMaxFrameSize]

/-- The field of a known setting. -/
def slot (settings : H3Settings) (identifier : Nat) : Option Nat :=
  if identifier = settingsQpackMaxTableCapacity then settings.qpackMaxTableCapacity
  else if identifier = settingsMaxFieldSectionSize then settings.maxFieldSectionSize
  else if identifier = settingsQpackBlockedStreams then settings.qpackBlockedStreams
  else if identifier = settingsEnableConnectProtocol then settings.enableConnectProtocol
  else if identifier = settingsH3Datagram then settings.h3Datagram
  else if identifier = settingsWtInitialMaxData then settings.wtInitialMaxData
  else if identifier = settingsWtInitialMaxStreamsUni then settings.wtInitialMaxStreamsUni
  else if identifier = settingsWtInitialMaxStreamsBidi then settings.wtInitialMaxStreamsBidi
  else if identifier = settingsWtEnabled then settings.wtEnabled
  else none

/-- The pairs of the slots that are filled. -/
def filled (slots : List (Nat × Option Nat)) : List (Nat × Nat) :=
  slots.filterMap fun entry => entry.2.map fun value => (entry.1, value)

theorem settingsEntries_eq :
    settingsEntries settings =
      filled (knownSettings.map fun identifier => (identifier, slot settings identifier)) ++
        settings.unknown := rfl

/-- Settings are given by their slots and the unknown pairs. -/
theorem ext_slot
    (hslot : ∀ identifier ∈ knownSettings, slot settings identifier = slot settings' identifier)
    (hunknown : settings.unknown = settings'.unknown) : settings = settings' := by
  simp only [knownSettings, List.forall_mem_cons] at hslot
  obtain ⟨h₁, h₂, h₃, h₄, h₅, h₆, h₇, h₈, h₉, -⟩ := hslot
  cases settings
  cases settings'
  simp only [H3Settings.mk.injEq]
  exact ⟨h₄, h₅, h₂, h₃, h₁, hunknown, h₉, h₆, h₈, h₇⟩

theorem mem_filled {slots : List (Nat × Option Nat)} :
    (identifier, value) ∈ filled slots ↔ (identifier, some value) ∈ slots := by
  simp only [filled, List.mem_filterMap, Option.map_eq_some_iff, Prod.mk.injEq]
  constructor
  · rintro ⟨⟨found, stored⟩, hmem, value', hstored, rfl, rfl⟩
    rwa [← hstored]
  · intro hmem
    exact ⟨_, hmem, value, rfl, rfl, rfl⟩

theorem filled_sublist (slots : List (Nat × Option Nat)) :
    ((filled slots).map Prod.fst).Sublist (slots.map Prod.fst) := by
  induction slots with
  | nil => exact List.Sublist.slnil
  | cons entry rest ih =>
    obtain ⟨identifier, stored⟩ := entry
    cases stored with
    | none => exact ih.cons identifier
    | some value => exact ih.cons_cons identifier

/-- What is written for some settings. -/
theorem mem_settingsEntries :
    (identifier, value) ∈ settingsEntries settings ↔
      (identifier ∈ knownSettings ∧ slot settings identifier = some value) ∨
        (identifier, value) ∈ settings.unknown := by
  rw [settingsEntries_eq, List.mem_append, mem_filled, List.mem_map]
  refine or_congr_left ⟨?_, fun ⟨hknown, hslot⟩ => ⟨identifier, hknown, by rw [hslot]⟩⟩
  rintro ⟨found, hknown, hentry⟩
  obtain ⟨rfl, hslot⟩ := Prod.mk.inj hentry
  exact ⟨hknown, hslot⟩

/-! ## One pair -/

/-- What storing a pair does. -/
inductive Stores (settings : H3Settings) (identifier value : Nat) : H3Settings → Prop
  | inSlot {settings' : H3Settings} (known : identifier ∈ knownSettings)
      (free : slot settings identifier = none)
      (slots : ∀ other, slot settings' other =
        if other = identifier then some value else slot settings other)
      (unknown : settings'.unknown = settings.unknown) : Stores settings identifier value settings'
  | inList (notKnown : identifier ∉ knownSettings)
      (free : identifier ∉ settings.unknown.map Prod.fst) :
      Stores settings identifier value
        { settings with unknown := settings.unknown ++ [(identifier, value)] }

theorem map_fillSlot_ok_iff {stored : Option Nat} {store : Option Nat → H3Settings} :
    (fillSlot stored value).map store = .ok settings' ↔
      stored = none ∧ store (some value) = settings' := by
  cases stored with
  | none | some held => simp [fillSlot, Except.map]

/-- Storing into the slot of a known setting. -/
theorem addSetting_known {settings : H3Settings} {identifier : Nat}
    (hknown : identifier ∈ knownSettings) (value : Nat) :
    ∃ store : Option Nat → H3Settings,
      addSetting settings identifier value =
        (fillSlot (slot settings identifier) value).map store ∧
      (∀ other, slot (store (some value)) other =
        if other = identifier then some value else slot settings other) ∧
      (store (some value)).unknown = settings.unknown := by
  have hslots : ∀ {stored : H3Settings}, slot stored identifier = some value →
      (∀ other, other ≠ identifier → slot stored other = slot settings other) →
      ∀ other, slot stored other =
        if other = identifier then some value else slot settings other := by
    intro stored hself hothers other
    by_cases hother : other = identifier
    · rw [if_pos hother, hother, hself]
    · rw [if_neg hother, hothers other hother]
  simp only [knownSettings, List.mem_cons, List.not_mem_nil, or_false] at hknown
  rcases hknown with rfl | rfl | rfl | rfl | rfl | rfl | rfl | rfl | rfl
  all_goals
    refine ⟨_, rfl, hslots rfl (fun other hother => ?_), rfl⟩
    simp only [slot, if_neg hother]

theorem addSetting_reserved (hreserved : identifier ∈ reservedSettings) (value : Nat) :
    addSetting settings identifier value = .error invalidSettings := by
  unfold addSetting
  rw [if_pos (by simpa [reservedSettings] using hreserved)]

/-- A setting without a slot goes to the end of the list, once. -/
theorem addSetting_unknown (hknown : identifier ∉ knownSettings)
    (hreserved : identifier ∉ reservedSettings) (value : Nat) :
    addSetting settings identifier value =
      if identifier ∈ settings.unknown.map Prod.fst then .error invalidSettings
      else .ok { settings with unknown := settings.unknown ++ [(identifier, value)] } := by
  simp only [knownSettings, List.mem_cons, List.not_mem_nil, or_false, not_or] at hknown
  obtain ⟨h₁, h₂, h₃, h₄, h₅, h₆, h₇, h₈, h₉⟩ := hknown
  unfold addSetting
  rw [if_neg (by simpa [reservedSettings] using hreserved), if_neg h₄, if_neg h₅, if_neg h₂,
    if_neg h₃, if_neg h₁, if_neg h₉, if_neg h₆, if_neg h₈, if_neg h₇]
  refine if_congr ?_ rfl rfl
  simp only [List.any_eq_true, decide_eq_true_eq, List.mem_map]

theorem addSetting_ok (h : addSetting settings identifier value = .ok settings') :
    identifier ∉ reservedSettings ∧ Stores settings identifier value settings' := by
  have hreserved : identifier ∉ reservedSettings := by
    intro hreserved
    rw [addSetting_reserved hreserved] at h
    cases h
  refine ⟨hreserved, ?_⟩
  by_cases hknown : identifier ∈ knownSettings
  · obtain ⟨store, hstore, hslots, hunknown⟩ := @addSetting_known settings identifier hknown value
    rw [hstore] at h
    obtain ⟨hfree, rfl⟩ := map_fillSlot_ok_iff.mp h
    exact .inSlot hknown hfree hslots hunknown
  · rw [addSetting_unknown hknown hreserved] at h
    split at h
    · cases h
    · rename_i hfree
      cases h
      exact .inList hknown hfree

/-- A pair whose place is free is stored. -/
theorem addSetting_isOk (hreserved : identifier ∉ reservedSettings)
    (hslot : slot settings identifier = none) (hlist : identifier ∉ settings.unknown.map Prod.fst) :
    ∃ settings', addSetting settings identifier value = .ok settings' := by
  by_cases hknown : identifier ∈ knownSettings
  · obtain ⟨store, hstore, -⟩ := @addSetting_known settings identifier hknown value
    exact ⟨_, hstore.trans (map_fillSlot_ok_iff.mpr ⟨hslot, rfl⟩)⟩
  · exact ⟨_, (addSetting_unknown hknown hreserved value).trans (if_neg hlist)⟩

/-! ## All pairs -/

/-- Store a list of pairs, one after the other. -/
def addAll (settings : H3Settings) : List (Nat × Nat) → Except WebTransportError H3Settings
  | [] => .ok settings
  | (identifier, value) :: rest =>
    (addSetting settings identifier value).bind fun settings => addAll settings rest

/-- What a list of pairs adds to some settings. -/
structure Collected (settings : H3Settings) (entries : List (Nat × Nat))
    (settings' : H3Settings) : Prop where
  allowed : ∀ entry ∈ entries, entry.1 ∉ reservedSettings
  nodup : (entries.map Prod.fst).Nodup
  freeSlot : ∀ entry ∈ entries, entry.1 ∈ knownSettings → slot settings entry.1 = none
  freeList : ∀ entry ∈ entries, entry.1 ∉ knownSettings → entry.1 ∉ settings.unknown.map Prod.fst
  slots : ∀ identifier ∈ knownSettings, ∀ value, slot settings' identifier = some value ↔
    slot settings identifier = some value ∨ (identifier, value) ∈ entries
  unknown : settings'.unknown =
    settings.unknown ++ entries.filter fun entry => entry.1 ∉ knownSettings

theorem Collected.nil (settings : H3Settings) : Collected settings [] settings where
  allowed _ h := nomatch h
  nodup := List.nodup_nil
  freeSlot _ h := nomatch h
  freeList _ h := nomatch h
  slots _ _ _ := ⟨Or.inl, fun h => h.resolve_right fun hmem => nomatch hmem⟩
  unknown := (List.append_nil _).symm

/-- A pair that went into its slot, before the others. -/
theorem Collected.cons_slot {stored : H3Settings} (hallowed : identifier ∉ reservedSettings)
    (hknown : identifier ∈ knownSettings) (hfree : slot settings identifier = none)
    (hslots : ∀ other, slot stored other =
      if other = identifier then some value else slot settings other)
    (hunknown : stored.unknown = settings.unknown) (hrest : Collected stored rest settings') :
    Collected settings ((identifier, value) :: rest) settings' where
  allowed := List.forall_mem_cons.mpr ⟨hallowed, hrest.allowed⟩
  nodup := by
    refine List.nodup_cons.mpr ⟨fun hmem => ?_, hrest.nodup⟩
    obtain ⟨entry, hentry, hsame⟩ := List.mem_map.mp hmem
    have hnone := hrest.freeSlot entry hentry (hsame ▸ hknown)
    rw [hsame, hslots, if_pos rfl] at hnone
    cases hnone
  freeSlot := by
    refine List.forall_mem_cons.mpr ⟨fun _ => hfree, fun entry hentry hmem => ?_⟩
    have hnone := hrest.freeSlot entry hentry hmem
    rw [hslots] at hnone
    split at hnone
    · cases hnone
    · exact hnone
  freeList := by
    refine List.forall_mem_cons.mpr ⟨fun hnot => absurd hknown hnot, fun entry hentry hnot => ?_⟩
    rw [← hunknown]
    exact hrest.freeList entry hentry hnot
  slots other hother found := by
    rw [hrest.slots other hother, hslots, List.mem_cons]
    split
    · rename_i hsame
      subst hsame
      rw [hfree]
      simp [eq_comm]
    · rename_i hdiffer
      simp [hdiffer]
  unknown := by
    rw [hrest.unknown, hunknown, List.filter_cons_of_neg (by simpa using hknown)]

/-- A pair that went to the list, before the others. -/
theorem Collected.cons_list (hallowed : identifier ∉ reservedSettings)
    (hknown : identifier ∉ knownSettings) (hfree : identifier ∉ settings.unknown.map Prod.fst)
    (hrest : Collected { settings with unknown := settings.unknown ++ [(identifier, value)] } rest
      settings') : Collected settings ((identifier, value) :: rest) settings' where
  allowed := List.forall_mem_cons.mpr ⟨hallowed, hrest.allowed⟩
  nodup := by
    refine List.nodup_cons.mpr ⟨fun hmem => ?_, hrest.nodup⟩
    obtain ⟨entry, hentry, hsame⟩ := List.mem_map.mp hmem
    refine hrest.freeList entry hentry (hsame ▸ hknown) ?_
    simp [hsame]
  freeSlot := List.forall_mem_cons.mpr ⟨fun hmem => absurd hmem hknown, hrest.freeSlot⟩
  freeList := by
    refine List.forall_mem_cons.mpr ⟨fun _ => hfree, fun entry hentry hnot hmem => ?_⟩
    refine hrest.freeList entry hentry hnot ?_
    rw [List.map_append]
    exact List.mem_append_left _ hmem
  slots other hother found := by
    rw [hrest.slots other hother, List.mem_cons]
    have hdiffer : (other, found) ≠ (identifier, value) := by
      rintro hsame
      cases hsame
      exact hknown hother
    simp only [hdiffer, false_or]
    rfl
  unknown := by
    rw [hrest.unknown, List.filter_cons_of_pos (by simpa using hknown), List.append_assoc]
    rfl

theorem collected_of_addAll :
    ∀ {entries : List (Nat × Nat)}, addAll settings entries = .ok settings' →
      Collected settings entries settings' := by
  intro entries
  induction entries generalizing settings with
  | nil =>
    intro h
    cases h
    exact Collected.nil _
  | cons entry rest ih =>
    intro h
    obtain ⟨identifier, value⟩ := entry
    rw [addAll] at h
    cases hadded : addSetting settings identifier value with
    | error e =>
      rw [hadded] at h
      cases h
    | ok stored =>
      rw [hadded] at h
      obtain ⟨hallowed, hstores⟩ := addSetting_ok hadded
      cases hstores with
      | inSlot known free slots unknown =>
        exact Collected.cons_slot hallowed known free slots unknown (ih h)
      | inList notKnown free => exact Collected.cons_list hallowed notKnown free (ih h)

/-- Pairs with different identifiers, all of them allowed, are collected. -/
theorem addAll_isOk {settings : H3Settings} :
    ∀ {entries : List (Nat × Nat)}, (∀ entry ∈ entries, entry.1 ∉ reservedSettings) →
      (entries.map Prod.fst).Nodup → (∀ entry ∈ entries, slot settings entry.1 = none) →
      (∀ entry ∈ entries, entry.1 ∉ settings.unknown.map Prod.fst) →
      ∃ settings', addAll settings entries = .ok settings' := by
  intro entries
  induction entries generalizing settings with
  | nil => exact fun _ _ _ _ => ⟨_, rfl⟩
  | cons entry rest ih =>
    intro hallowed hnodup hslots hlist
    obtain ⟨identifier, value⟩ := entry
    obtain ⟨hapart, hnodup'⟩ := List.nodup_cons.mp hnodup
    obtain ⟨hallowed₁, hallowed'⟩ := List.forall_mem_cons.mp hallowed
    obtain ⟨hslot, hslots'⟩ := List.forall_mem_cons.mp hslots
    obtain ⟨hfree, hlist'⟩ := List.forall_mem_cons.mp hlist
    have hother : ∀ entry ∈ rest, entry.1 ≠ identifier := by
      intro entry hentry hsame
      exact hapart (List.mem_map.mpr ⟨entry, hentry, hsame⟩)
    obtain ⟨stored, hstored⟩ := addSetting_isOk hallowed₁ hslot hfree
    obtain ⟨-, hstores⟩ := addSetting_ok hstored
    have hrest : ∃ settings', addAll stored rest = .ok settings' := by
      cases hstores with
      | inSlot known free slots unknown =>
        refine ih hallowed' hnodup' (fun entry hentry => ?_) (fun entry hentry => ?_)
        · rw [slots, if_neg (hother entry hentry)]
          exact hslots' entry hentry
        · rw [unknown]
          exact hlist' entry hentry
      | inList notKnown free =>
        refine ih hallowed' hnodup' hslots' (fun entry hentry hmem => ?_)
        rw [List.map_append, List.mem_append] at hmem
        rcases hmem with hold | hnew
        · exact hlist' entry hentry hold
        · exact hother entry hentry (List.mem_singleton.mp hnew)
    obtain ⟨settings', hsettings'⟩ := hrest
    refine ⟨settings', ?_⟩
    rw [addAll, hstored]
    exact hsettings'

/-! ## Bytes -/

/-- The bytes spell the pairs, each integer in some encoding. -/
inductive SpellsPairs : Bytes → List (Nat × Nat) → Prop
  | nil : SpellsPairs [] []
  | cons {identifierBytes valueBytes rest : Bytes} {identifier value : Nat}
      {entries : List (Nat × Nat)} (identifiers : IsVarint identifierBytes identifier)
      (values : IsVarint valueBytes value) (others : SpellsPairs rest entries) :
      SpellsPairs (identifierBytes ++ (valueBytes ++ rest)) ((identifier, value) :: entries)

theorem decodeVarint_ok_iff {buffer : Bytes} {rest : Bytes} :
    decodeVarint buffer = .ok (value, rest) ↔ readVarint buffer = .ok (value, rest) := by
  unfold decodeVarint
  cases readVarint buffer with
  | ok result | error e => simp

theorem decodeVarint_of_isVarint {bytes : Bytes} (h : IsVarint bytes value) (rest : Bytes) :
    decodeVarint (bytes ++ rest) = .ok (value, rest) :=
  decodeVarint_ok_iff.mpr (h.read rest)

/-- One round of the loop. -/
theorem parseSettingsLoop_succ {limit : Nat} {cursor : Bytes} (hcursor : cursor ≠ []) :
    parseSettingsLoop (limit + 1) settings cursor =
      (decodeVarint cursor).bind fun identifier =>
        (decodeVarint identifier.2).bind fun value =>
          (addSetting settings identifier.1 value.1).bind fun settings =>
            parseSettingsLoop limit settings value.2 := by
  cases cursor with
  | nil => exact absurd rfl hcursor
  | cons byte rest => rfl

/-- Bytes that spell few enough pairs are read as those pairs. -/
theorem parseSettingsLoop_of_spells (h : SpellsPairs d entries) :
    ∀ {limit : Nat} (settings : H3Settings), entries.length ≤ limit →
      parseSettingsLoop limit settings d = addAll settings entries := by
  induction h with
  | nil =>
    intro limit settings _
    cases limit <;> rfl
  | @cons identifierBytes valueBytes rest identifier value entries identifiers values _ ih =>
    intro limit settings hlimit
    cases limit with
    | zero => exact absurd hlimit (by simp)
    | succ limit =>
      rw [parseSettingsLoop_succ (List.append_ne_nil_of_left_ne_nil
        identifiers.ne_nil _), decodeVarint_of_isVarint identifiers, addAll]
      simp only [Except.bind, decodeVarint_of_isVarint values rest]
      cases addSetting settings identifier value with
      | error e => rfl
      | ok stored => exact ih stored (Nat.le_of_succ_le_succ hlimit)

theorem parseSettings_of_spells (h : SpellsPairs d entries) (hfew : entries.length ≤ 64) :
    parseSettings d = addAll {} entries :=
  parseSettingsLoop_of_spells h {} hfew

/-- What is read is a list of pairs, and their number is within the limit. -/
theorem spells_of_parseSettingsLoop :
    ∀ {limit : Nat} {settings settings' : H3Settings} {d : Bytes},
      parseSettingsLoop limit settings d = .ok settings' →
      ∃ entries, SpellsPairs d entries ∧ entries.length ≤ limit ∧
        addAll settings entries = .ok settings' := by
  intro limit
  induction limit with
  | zero =>
    intro settings settings' d h
    cases d with
    | nil =>
      cases h
      exact ⟨[], .nil, Nat.le_refl 0, rfl⟩
    | cons byte rest => cases h
  | succ limit ih =>
    intro settings settings' d h
    cases d with
    | nil =>
      cases h
      exact ⟨[], .nil, Nat.zero_le _, rfl⟩
    | cons byte bytes =>
      rw [parseSettingsLoop_succ (List.cons_ne_nil byte bytes)] at h
      cases hidentifier : decodeVarint (byte :: bytes) with
      | error e =>
        rw [hidentifier] at h
        cases h
      | ok first =>
        obtain ⟨identifier, cursor⟩ := first
        simp only [hidentifier, Except.bind] at h
        cases hvalue : decodeVarint cursor with
        | error e =>
          rw [hvalue] at h
          cases h
        | ok second =>
          obtain ⟨value, rest⟩ := second
          simp only [hvalue] at h
          cases hadded : addSetting settings identifier value with
          | error e =>
            rw [hadded] at h
            cases h
          | ok stored =>
            rw [hadded] at h
            obtain ⟨entries, hspells, hlength, hall⟩ := ih h
            obtain ⟨identifierBytes, hids, hbuffer⟩ :=
              readVarint_ok_iff.mp (decodeVarint_ok_iff.mp hidentifier)
            obtain ⟨valueBytes, hvalues, hcursor⟩ :=
              readVarint_ok_iff.mp (decodeVarint_ok_iff.mp hvalue)
            subst hcursor
            refine ⟨(identifier, value) :: entries, ?_, Nat.succ_le_succ hlength, ?_⟩
            · rw [hbuffer]
              exact .cons hids hvalues hspells
            · rw [addAll, hadded]
              exact hall

theorem spells_of_encodeSettingsEntries :
    ∀ {entries : List (Nat × Nat)},
      (∀ entry ∈ entries, entry.1 ≤ quicVarintLimit ∧ entry.2 ≤ quicVarintLimit) →
      ∃ d, encodeSettingsEntries entries = .ok d ∧ SpellsPairs d entries := by
  intro entries
  induction entries with
  | nil => exact fun _ => ⟨[], rfl, .nil⟩
  | cons entry rest ih =>
    intro hall
    obtain ⟨identifier, value⟩ := entry
    obtain ⟨⟨hidentifier, hvalue⟩, hrest⟩ := List.forall_mem_cons.mp hall
    obtain ⟨d, hd, hspells⟩ := ih hrest
    obtain ⟨identifierBytes, hids, -⟩ := encodeVarint_isOk hidentifier
    obtain ⟨valueBytes, hvalues, -⟩ := encodeVarint_isOk hvalue
    refine ⟨identifierBytes ++ (valueBytes ++ d), ?_, ?_⟩
    · rw [encodeSettingsEntries, hids, hvalues, hd]
      rfl
    · exact .cons (isVarint_of_writeVarint (encodeVarint_ok hids))
        (isVarint_of_writeVarint (encodeVarint_ok hvalues)) hspells

theorem SpellsPairs.lt (h : SpellsPairs d entries) :
    ∀ entry ∈ entries, entry.1 < 2 ^ 62 ∧ entry.2 < 2 ^ 62 := by
  induction h with
  | nil => exact fun _ h => nomatch h
  | cons identifiers values _ ih =>
    exact List.forall_mem_cons.mpr ⟨⟨identifiers.lt, values.lt⟩, ih⟩

/-! ## Both directions -/

theorem slot_empty : slot {} identifier = none := by
  unfold slot
  split_ifs <;> rfl

/-- Of the same pairs in another order, the known settings are the same and
the unknown ones are in another order. -/
theorem Collected.perm {entries' : List (Nat × Nat)} (h : Collected settings entries first)
    (h' : Collected settings entries' second) (hperm : entries'.Perm entries) :
    { second with unknown := first.unknown } = first ∧ second.unknown.Perm first.unknown := by
  refine ⟨ext_slot (fun identifier hknown => Option.ext fun value => ?_) rfl, ?_⟩
  · refine (h'.slots identifier hknown value).trans ?_
    rw [h.slots identifier hknown value, hperm.mem_iff]
  · rw [h.unknown, h'.unknown]
    exact (hperm.filter _).append_left _

theorem Collected.unique (h : Collected settings entries first)
    (h' : Collected settings entries second) : second = first := by
  have hsame := (h.perm h' (.refl _)).1
  rwa [h.unknown, ← h'.unknown] at hsame

/-- Settings that have an encoding that can be read: the integers have one,
the unknown identifiers are different, neither known nor reserved, and there
are at most 64 settings. -/
structure WellFormed (settings : H3Settings) : Prop where
  values : ∀ entry ∈ settingsEntries settings, entry.2 < 2 ^ 62
  identifiers : ∀ entry ∈ settings.unknown, entry.1 < 2 ^ 62 ∧ entry.1 ∉ knownSettings ∧
    entry.1 ∉ reservedSettings
  distinct : (settings.unknown.map Prod.fst).Nodup
  few : (settingsEntries settings).length ≤ 64

theorem nodup_settingsEntries (hdistinct : (settings.unknown.map Prod.fst).Nodup)
    (hunknown : ∀ entry ∈ settings.unknown, entry.1 ∉ knownSettings) :
    ((settingsEntries settings).map Prod.fst).Nodup := by
  have hknown := filled_sublist
    (knownSettings.map fun identifier => (identifier, slot settings identifier))
  rw [List.map_map, show (Prod.fst ∘ fun identifier => (identifier, slot settings identifier)) = id
    from rfl, List.map_id] at hknown
  rw [settingsEntries_eq, List.map_append]
  refine List.Nodup.append (List.Nodup.sublist hknown (by decide)) hdistinct ?_
  intro identifier hleft hright
  obtain ⟨entry, hentry, rfl⟩ := List.mem_map.mp hright
  exact hunknown entry hentry (hknown.subset hleft)

theorem WellFormed.collected (h : WellFormed settings) :
    Collected {} (settingsEntries settings) settings where
  allowed := by
    intro entry hentry
    rcases mem_settingsEntries.mp hentry with ⟨hknown, -⟩ | hunknown
    · have hapart : ∀ identifier ∈ knownSettings, identifier ∉ reservedSettings := by decide
      exact hapart entry.1 hknown
    · exact (h.identifiers entry hunknown).2.2
  nodup := nodup_settingsEntries h.distinct fun entry hentry => (h.identifiers entry hentry).2.1
  freeSlot entry _ _ := slot_empty
  freeList _ _ _ hmem := nomatch hmem
  slots identifier hknown value := by
    rw [slot_empty, mem_settingsEntries]
    have hnot : (identifier, value) ∉ settings.unknown :=
      fun hmem => (h.identifiers _ hmem).2.1 hknown
    simp [hknown, hnot]
  unknown := by
    have hknown : (filled (knownSettings.map fun identifier =>
        (identifier, slot settings identifier))).filter (fun entry => entry.1 ∉ knownSettings) =
        [] := by
      refine List.filter_eq_nil_iff.mpr fun entry hentry => ?_
      obtain ⟨identifier, hmem, hsame⟩ := List.mem_map.mp (mem_filled.mp hentry)
      obtain ⟨rfl, -⟩ := Prod.mk.inj hsame
      simpa using hmem
    have hunknown : settings.unknown.filter (fun entry => entry.1 ∉ knownSettings) =
        settings.unknown :=
      List.filter_eq_self.mpr fun entry hentry => by simpa using (h.identifiers entry hentry).2.1
    rw [settingsEntries_eq, List.filter_append, hknown, hunknown]
    rfl

section

variable (h : Collected {} entries settings)
include h

/-- The unknown settings that were collected from nothing. -/
theorem Collected.mem_unknown {entry : Nat × Nat} :
    entry ∈ settings.unknown ↔ entry ∈ entries ∧ entry.1 ∉ knownSettings := by
  have hunknown : settings.unknown = entries.filter fun entry => entry.1 ∉ knownSettings :=
    h.unknown
  rw [hunknown, List.mem_filter, decide_eq_true_eq]

theorem Collected.distinct :
    (settings.unknown.map Prod.fst).Nodup := by
  have hunknown : settings.unknown = entries.filter fun entry => entry.1 ∉ knownSettings :=
    h.unknown
  rw [hunknown]
  exact h.nodup.sublist (List.filter_sublist.map _)

/-- What was collected from nothing is written as the pairs it was collected
from, in another order. -/
theorem Collected.entries_perm :
    (settingsEntries settings).Perm entries := by
  have hnodup := nodup_settingsEntries h.distinct fun entry hentry => (h.mem_unknown.mp hentry).2
  refine (List.perm_ext_iff_of_nodup hnodup.of_map h.nodup.of_map).mpr fun entry => ?_
  obtain ⟨identifier, value⟩ := entry
  rw [mem_settingsEntries, h.mem_unknown]
  by_cases hknown : identifier ∈ knownSettings
  · rw [h.slots identifier hknown value, slot_empty]
    simp [hknown]
  · simp [hknown]

theorem Collected.wellFormed (hspells : SpellsPairs d entries)
    (hfew : entries.length ≤ 64) : WellFormed settings where
  values entry hentry := (hspells.lt entry (h.entries_perm.mem_iff.mp hentry)).2
  identifiers entry hentry := by
    obtain ⟨hmem, hknown⟩ := h.mem_unknown.mp hentry
    exact ⟨(hspells.lt entry hmem).1, hknown, h.allowed entry hmem⟩
  distinct := h.distinct
  few := h.entries_perm.length_eq.trans_le hfew

end

/-- Well-formed settings are read back as they were written. -/
theorem WellFormed.round_trip (h : WellFormed settings) :
    ∃ d, encodeSettings settings = .ok d ∧ parseSettings d = .ok settings := by
  have hfits : ∀ entry ∈ settingsEntries settings,
      entry.1 ≤ quicVarintLimit ∧ entry.2 ≤ quicVarintLimit := by
    intro entry hentry
    refine ⟨?_, Nat.le_sub_one_of_lt (h.values entry hentry)⟩
    rcases mem_settingsEntries.mp hentry with ⟨hknown, -⟩ | hunknown
    · have hsmall : ∀ identifier ∈ knownSettings, identifier ≤ quicVarintLimit := by decide
      exact hsmall entry.1 hknown
    · exact Nat.le_sub_one_of_lt (h.identifiers entry hunknown).1
  obtain ⟨d, hencoded, hspells⟩ := spells_of_encodeSettingsEntries hfits
  refine ⟨d, hencoded, ?_⟩
  have hcollected := h.collected
  obtain ⟨read, hread⟩ := addAll_isOk hcollected.allowed hcollected.nodup
    (fun entry _ => slot_empty) (fun _ _ hmem => nomatch hmem)
  rw [parseSettings_of_spells hspells h.few, hread,
    hcollected.unique (collected_of_addAll hread)]

/-- SETTINGS that can be written are read back the same. Conversely a payload
that is accepted is a list of at most 64 pairs with different identifiers,
none of them reserved; a permutation of the pairs gives the same known
settings and the same unknown pairs in another order; and what was read can
be written and read back. -/
theorem settings_codec :
    (∀ settings, WellFormed settings →
      ∃ d, encodeSettings settings = .ok d ∧ parseSettings d = .ok settings) ∧
    ∀ d settings, parseSettings d = .ok settings →
      (∃ entries, SpellsPairs d entries ∧ entries.length ≤ 64 ∧
        (entries.map Prod.fst).Nodup ∧ (∀ entry ∈ entries, entry.1 ∉ reservedSettings) ∧
        ∀ entries' d', entries'.Perm entries → SpellsPairs d' entries' →
          ∃ settings', parseSettings d' = .ok settings' ∧
            { settings' with unknown := settings.unknown } = settings ∧
            settings'.unknown.Perm settings.unknown) ∧
      ∃ d', encodeSettings settings = .ok d' ∧ parseSettings d' = .ok settings := by
  refine ⟨fun settings h => h.round_trip, fun d settings hparsed => ?_⟩
  obtain ⟨entries, hspells, hfew, hall⟩ := spells_of_parseSettingsLoop hparsed
  have hcollected := collected_of_addAll hall
  refine ⟨⟨entries, hspells, hfew, hcollected.nodup, hcollected.allowed,
    fun entries' d' hperm hspells' => ?_⟩, (hcollected.wellFormed hspells hfew).round_trip⟩
  -- a permutation of the pairs is again a list that can be collected
  obtain ⟨settings', hall'⟩ := @addAll_isOk {} entries'
    (fun entry hentry => hcollected.allowed entry (hperm.mem_iff.mp hentry))
    ((hperm.map _).nodup_iff.mpr hcollected.nodup)
    (fun entry _ => slot_empty) (fun _ _ hmem => nomatch hmem)
  refine ⟨settings', ?_, hcollected.perm (collected_of_addAll hall') hperm⟩
  rw [parseSettings_of_spells hspells' (hperm.length_eq.trans_le hfew), hall']

end H3

end PyWebTransport
