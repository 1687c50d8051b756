/-
PyWebTransport.Lib.Scan — readers that take a word off the front of a list.

A hand-written parser is a chain of readers, each of which looks at what is
left of the input. `Reads` and `Skips` compare one with the language it is
meant for: what it takes is a word of the language (`sound`), and it takes
any word of the language that is followed by something that ends it
(`complete`). A reader that takes as much as it can needs such an end;
`Next` says what may come next.
-/
import Mathlib.Data.List.TakeWhile

namespace PyWebTransport.Lib

variable {α β : Type*} {P : α → Prop} {rest word : List α} {p : α → Bool}

/-- The list is empty, or goes on with an element in `P`. -/
def Next (P : α → Prop) (rest : List α) : Prop := ∀ a, rest.head? = some a → P a

theorem next_nil (P : α → Prop) : Next P [] := by
  intro a ha
  cases ha

theorem next_cons {a : α} (ha : P a) (rest : List α) : Next P (a :: rest) := by
  intro b hb
  cases hb
  exact ha

theorem Next.imp {P' : α → Prop} (h : Next P rest) (himp : ∀ a, P a → P' a) : Next P' rest :=
  fun a ha => himp a (h a ha)

/-- The first element of `word ++ rest` is the first of `word`, or `word` is empty. -/
theorem Next.append (hword : ∀ a ∈ word, P a) (hrest : Next P rest) : Next P (word ++ rest) := by
  cases word with
  | nil => exact hrest
  | cons a word => exact next_cons (hword a List.mem_cons_self) _

/-! ## Taking as much as there is -/

theorem next_dropWhile (p : α → Bool) (input : List α) :
    Next (fun a => p a = false) (input.dropWhile p) := by
  induction input with
  | nil => exact next_nil _
  | cons a input ih =>
    rw [List.dropWhile_cons]
    split
    · exact ih
    · rename_i ha
      exact next_cons (by simpa using ha) input

theorem takeWhile_exact (hword : ∀ a ∈ word, p a = true)
    (hrest : Next (fun a => p a = false) rest) : (word ++ rest).takeWhile p = word := by
  induction word with
  | nil =>
    cases rest with
    | nil => rfl
    | cons a rest =>
      have ha : p a = false := hrest a rfl
      simp [ha]
  | cons a word ih =>
    have ha : p a = true := hword a List.mem_cons_self
    have htail := ih fun b hb => hword b (List.mem_cons_of_mem a hb)
    simp [ha, htail]

theorem dropWhile_exact (hword : ∀ a ∈ word, p a = true)
    (hrest : Next (fun a => p a = false) rest) : (word ++ rest).dropWhile p = rest := by
  induction word with
  | nil =>
    cases rest with
    | nil => rfl
    | cons a rest =>
      have ha : p a = false := hrest a rfl
      simp [ha]
  | cons a word ih =>
    have ha : p a = true := hword a List.mem_cons_self
    have htail := ih fun b hb => hword b (List.mem_cons_of_mem a hb)
    simp [ha, htail]

/-- What a scan takes, and what it leaves. -/
theorem scan_cases (p : α → Bool) (input : List α) :
    ∃ word rest, input = word ++ rest ∧ (∀ a ∈ word, p a = true) ∧
      Next (fun a => p a = false) rest ∧ input.takeWhile p = word ∧ input.dropWhile p = rest := by
  refine ⟨input.takeWhile p, input.dropWhile p, List.takeWhile_append_dropWhile.symm, ?_,
    next_dropWhile p input, rfl, rfl⟩
  intro a ha
  exact List.mem_takeWhile_imp ha

/-! ## Readers and languages -/

/-- The reader takes exactly the words of the language, if an end comes next. -/
structure Skips (r : List α → Option (List α)) (L F : List α → Prop) : Prop where
  sound : ∀ {input rest}, r input = some rest → ∃ word, input = word ++ rest ∧ L word
  complete : ∀ {word rest}, L word → F rest → r (word ++ rest) = some rest

/-- The same for a reader that returns what the word stands for. -/
structure Reads (r : List α → Option (β × List α)) (L : β → List α → Prop) (F : List α → Prop) :
    Prop where
  sound : ∀ {input value rest}, r input = some (value, rest) →
    ∃ word, input = word ++ rest ∧ L value word
  complete : ∀ {value word rest}, L value word → F rest → r (word ++ rest) = some (value, rest)

variable {r : List α → Option (β × List α)} {L : β → List α → Prop} {F : List α → Prop}

/-- A reader whose value is thrown away. -/
theorem Reads.skips (h : Reads r L F) :
    Skips (fun input => (r input).map Prod.snd) (fun word => ∃ value, L value word) F where
  sound := by
    intro input rest hr
    obtain ⟨⟨value, left⟩, hread, rfl⟩ := Option.map_eq_some_iff.mp hr
    obtain ⟨word, hinput, hword⟩ := h.sound hread
    exact ⟨word, hinput, value, hword⟩
  complete := by
    rintro word rest ⟨value, hword⟩ hrest
    show (r (word ++ rest)).map Prod.snd = some rest
    rw [h.complete hword hrest, Option.map_some]

/-- Two readers one after the other. The first word has to be ended by
whatever the second one starts with. -/
theorem Reads.seq {r' : List α → Option (List α)} {L' F' : List α → Prop} (h : Reads r L F)
    (h' : Skips r' L' F') (hends : ∀ word rest, L' word → F' rest → F (word ++ rest)) :
    Reads (fun input => (r input).bind fun p => (r' p.2).map fun rest => (p.1, rest))
      (fun value word => ∃ first second, word = first ++ second ∧ L value first ∧ L' second)
      F' where
  sound := by
    intro input value rest hr
    obtain ⟨⟨value', left⟩, hread, hrest⟩ := Option.bind_eq_some_iff.mp hr
    obtain ⟨rest', hskip, heq⟩ := Option.map_eq_some_iff.mp hrest
    cases heq
    obtain ⟨first, rfl, hfirst⟩ := h.sound hread
    obtain ⟨second, hleft, hsecond⟩ := h'.sound hskip
    have hleft : left = second ++ rest := hleft
    exact ⟨first ++ second, by rw [hleft, List.append_assoc], first, second, rfl, hfirst, hsecond⟩
  complete := by
    rintro value word rest ⟨first, second, rfl, hfirst, hsecond⟩ hrest
    show (r (first ++ second ++ rest)).bind _ = _
    rw [List.append_assoc, h.complete hfirst (hends second rest hsecond hrest), Option.bind_some,
      h'.complete hsecond hrest, Option.map_some]

end PyWebTransport.Lib
