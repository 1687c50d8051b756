/-
PyWebTransport.Lib.Incremental — parsers that are fed piece by piece.

An incremental parser makes one move at a time on the input at hand: it can
be idle, fail, or consume some of the input and produce output. The laws are
FIELDS of the structure: a move consumes something, and more input at the
end changes neither a move nor a failure. Whatever pieces the input comes
in, the moves are therefore those made on the whole input, in order.

A move may pause the parser: it then makes no further move until it is fed
again, even if it could. How far the parser gets depends on how often it is
fed, and `agree_iff` says exactly when this can be observed.
-/
import Mathlib.Data.List.Basic
import Mathlib.Tactic
import PyWebTransport.Lib.Results

namespace PyWebTransport.Lib

universe u v w x y

/-- One move of an incremental parser. -/
structure Move (σ : Type u) (β : Type v) (ω : Type w) where
  next : σ
  rest : List β
  out : List ω
  pauses : Bool

structure Incremental (σ : Type u) (β : Type v) (ω : Type w) (ε : Type x) where
  step : σ → List β → Option (Except ε (Move σ β ω))
  idle_nil : ∀ s, step s [] = none
  consumes : ∀ {s b m}, step s b = some (.ok m) → m.rest.length < b.length
  extend_ok : ∀ {s b m}, step s b = some (.ok m) → ∀ y,
    step s (b ++ y) = some (.ok { m with rest := m.rest ++ y })
  extend_error : ∀ {s b e}, step s b = some (.error e) → ∀ y,
    step s (b ++ y) = some (.error e)

namespace Incremental

variable {σ : Type u} {β : Type v} {ω : Type w} {ε : Type x} {s : σ} {b w : List β} {k : Nat}
  {cs : List (List β)}

/-- A state, the input left and the output so far, behind earlier output. -/
def prepend (out : List ω) (p : σ × List β × List ω) : σ × List β × List ω :=
  (p.1, p.2.1, out ++ p.2.2)

@[simp] theorem prepend_nil (p : σ × List β × List ω) : prepend [] p = p := rfl

@[simp] theorem prepend_prepend (a b : List ω) (p : σ × List β × List ω) :
    prepend a (prepend b p) = prepend (a ++ b) p := by
  simp [prepend]

@[simp] theorem map_prepend_nil (r : Except ε (σ × List β × List ω)) : r.map (prepend []) = r := by
  cases r <;> rfl

theorem map_prepend_prepend (a b : List ω) (r : Except ε (σ × List β × List ω)) :
    (r.map (prepend b)).map (prepend a) = r.map (prepend (a ++ b)) := by
  cases r with
  | error e => rfl
  | ok p => simp [Except.map]

variable (P : Incremental σ β ω ε)

/-! ## Moving up to a number of pauses -/

/-- Move until there is no move to make, a failure, or the `k`-th pause. -/
def advance : Nat → σ → List β → Except ε (σ × List β × List ω)
  | 0, s, b => .ok (s, b, [])
  | k + 1, s, b =>
    match h : P.step s b with
    | none => .ok (s, b, [])
    | some (.error e) => .error e
    | some (.ok m) =>
      (advance (if m.pauses then k else k + 1) m.next m.rest).map (prepend m.out)
termination_by _ _ b => b.length
decreasing_by exact P.consumes h

@[simp] theorem advance_zero (s : σ) (b : List β) : P.advance 0 s b = .ok (s, b, []) := by
  rw [advance]

theorem advance_of_idle (h : P.step s b = none) (k : Nat) : P.advance k s b = .ok (s, b, []) := by
  cases k with
  | zero => rw [advance]
  | succ k =>
    rw [advance]
    split
    · rfl
    · rename_i heq
      rw [h] at heq
      cases heq
    · rename_i heq
      rw [h] at heq
      cases heq

theorem advance_of_error {e : ε} (h : P.step s b = some (.error e)) (k : Nat) :
    P.advance (k + 1) s b = .error e := by
  rw [advance]
  split
  · rename_i heq
    rw [h] at heq
    cases heq
  · rename_i heq
    rw [h] at heq
    cases heq
    rfl
  · rename_i heq
    rw [h] at heq
    cases heq

theorem advance_of_ok {m : Move σ β ω} (h : P.step s b = some (.ok m)) (k : Nat) :
    P.advance (k + 1) s b =
      (P.advance (if m.pauses then k else k + 1) m.next m.rest).map (prepend m.out) := by
  rw [advance]
  split
  · rename_i heq
    rw [h] at heq
    cases heq
  · rename_i heq
    rw [h] at heq
    cases heq
  · rename_i heq
    rw [h] at heq
    cases heq
    rfl

/-- What every move preserves holds where the moves end. -/
theorem advance_invariant {I : σ → Prop}
    (hstep : ∀ {s b m}, I s → P.step s b = some (.ok m) → I m.next) (k : Nat) (s : σ)
    (b : List β) {p : σ × List β × List ω} (hs : I s) (h : P.advance k s b = .ok p) : I p.1 := by
  cases k with
  | zero =>
    rw [advance_zero] at h
    cases h
    exact hs
  | succ k =>
    cases hmove : P.step s b with
    | none =>
      rw [P.advance_of_idle hmove] at h
      cases h
      exact hs
    | some result =>
      cases result with
      | error e =>
        rw [P.advance_of_error hmove] at h
        cases h
      | ok m =>
        have hlt := P.consumes hmove
        rw [P.advance_of_ok hmove] at h
        obtain ⟨q, hrest, rfl⟩ := exists_of_map_eq_ok h
        have hnext : I q.1 :=
          advance_invariant hstep _ m.next m.rest (hstep hs hmove) hrest
        exact hnext
termination_by b.length

/-- Passing `j + k` pauses is passing `j` and then `k`. -/
theorem advance_add (j k : Nat) (s : σ) (b : List β) :
    P.advance (j + k) s b =
      (P.advance j s b).bind fun p => (P.advance k p.1 p.2.1).map (prepend p.2.2) := by
  induction hn : b.length using Nat.strong_induction_on generalizing j s b with
  | _ n ih =>
    cases j with
    | zero => simp [Except.bind]
    | succ j =>
      rw [Nat.succ_add]
      cases hstep : P.step s b with
      | none =>
        rw [P.advance_of_idle hstep, P.advance_of_idle hstep]
        simp [Except.bind, P.advance_of_idle hstep]
      | some result =>
        cases result with
        | error e =>
          rw [P.advance_of_error hstep, P.advance_of_error hstep]
          rfl
        | ok m =>
          have hlt : m.rest.length < n := hn ▸ P.consumes hstep
          rw [P.advance_of_ok hstep, P.advance_of_ok hstep]
          have hcount : (if m.pauses then j + k else j + k + 1) =
              (if m.pauses then j else j + 1) + k := by
            cases m.pauses <;> simp <;> omega
          rw [hcount, ih m.rest.length hlt _ m.next m.rest rfl]
          cases P.advance (if m.pauses then j else j + 1) m.next m.rest with
          | error e => rfl
          | ok p =>
            simp only [Except.bind, Except.map, map_prepend_prepend]
            exact map_prepend_prepend _ _ _

/-! ## More input -/

/-- A failure does not go away with more input. -/
theorem advance_extend_error {e : ε} (h : P.advance k s b = .error e) (y : List β) :
    P.advance k s (b ++ y) = .error e := by
  induction hn : b.length using Nat.strong_induction_on generalizing k s b with
  | _ n ih =>
    cases k with
    | zero => simp at h
    | succ k =>
      cases hstep : P.step s b with
      | none =>
        rw [P.advance_of_idle hstep] at h
        cases h
      | some result =>
        cases result with
        | error e' =>
          rw [P.advance_of_error hstep] at h
          cases h
          exact P.advance_of_error (P.extend_error hstep y) k
        | ok m =>
          rw [P.advance_of_ok hstep] at h
          rw [P.advance_of_ok (P.extend_ok hstep y)]
          cases hrest : P.advance (if m.pauses then k else k + 1) m.next m.rest with
          | error e' =>
            rw [hrest] at h
            cases h
            rw [ih m.rest.length (hn ▸ P.consumes hstep) hrest rfl]
            rfl
          | ok p =>
            rw [hrest] at h
            cases h

/-- Fed once, the parser stops at a pause, and then it would have stopped
there with more input too; or it has no move left, and then it goes on from
there when the input goes on. -/
theorem advance_extend_ok {p : σ × List β × List ω} (h : P.advance 1 s b = .ok p) (y : List β) :
    P.advance 1 s (b ++ y) = .ok (p.1, p.2.1 ++ y, p.2.2) ∨
    (P.step p.1 p.2.1 = none ∧ ∀ k, P.advance (k + 1) s (b ++ y) =
      (P.advance (k + 1) p.1 (p.2.1 ++ y)).map (prepend p.2.2)) := by
  induction hn : b.length using Nat.strong_induction_on generalizing s b p with
  | _ n ih =>
    cases hstep : P.step s b with
    | none =>
      rw [P.advance_of_idle hstep] at h
      cases h
      exact Or.inr ⟨hstep, fun k => by simp⟩
    | some result =>
      cases result with
      | error e =>
        rw [P.advance_of_error hstep] at h
        cases h
      | ok m =>
        rw [P.advance_of_ok hstep] at h
        cases hpause : m.pauses with
        | true =>
          rw [hpause, if_pos rfl, advance_zero] at h
          cases h
          refine Or.inl ?_
          rw [P.advance_of_ok (P.extend_ok hstep y)]
          simp [hpause, Except.map, prepend]
        | false =>
          rw [hpause, if_neg (by simp)] at h
          obtain ⟨q, hrest, rfl⟩ := exists_of_map_eq_ok h
          rcases ih m.rest.length (hn ▸ P.consumes hstep) hrest rfl with
            hq | ⟨hidle, hgo⟩
          · refine Or.inl ?_
            rw [P.advance_of_ok (P.extend_ok hstep y)]
            simp only [hpause, Bool.false_eq_true, if_false, hq]
            rfl
          · refine Or.inr ⟨hidle, fun k => ?_⟩
            rw [P.advance_of_ok (P.extend_ok hstep y)]
            simp only [hpause, Bool.false_eq_true, if_false, hgo,
              map_prepend_prepend]
            rfl

/-- A parser that never pauses may be fed in two parts. -/
theorem advance_append (hfree : ∀ {s b m}, P.step s b = some (.ok m) → m.pauses = false)
    (s : σ) (b y : List β) :
    P.advance 1 s (b ++ y) =
      (P.advance 1 s b).bind fun p => (P.advance 1 p.1 (p.2.1 ++ y)).map (prepend p.2.2) := by
  induction hn : b.length using Nat.strong_induction_on generalizing s b with
  | _ n ih =>
    cases hstep : P.step s b with
    | none =>
      rw [P.advance_of_idle hstep]
      simp [Except.bind]
    | some result =>
      cases result with
      | error e =>
        rw [P.advance_of_error hstep, P.advance_of_error (P.extend_error hstep y)]
        rfl
      | ok m =>
        rw [P.advance_of_ok hstep, P.advance_of_ok (P.extend_ok hstep y)]
        simp only [hfree hstep, Bool.false_eq_true, if_false]
        rw [ih m.rest.length (hn ▸ P.consumes hstep) m.next m.rest rfl]
        cases P.advance 1 m.next m.rest with
        | error e => rfl
        | ok p => exact map_prepend_prepend _ _ _

/-! ## Chunks -/

/-- Feed chunks one after another. -/
def deliver : σ → List β → List (List β) → Except ε (σ × List β × List ω)
  | s, b, [] => .ok (s, b, [])
  | s, b, c :: cs =>
    (P.advance 1 s (b ++ c)).bind fun p => (deliver p.1 p.2.1 cs).map (prepend p.2.2)

/-- Fed `n` chunks, the parser passes at least one and at most `n` pauses of
the whole input. -/
theorem deliver_eq_advance : ∀ (cs : List (List β)), cs ≠ [] → ∀ (s : σ) (b : List β),
    ∃ k, 1 ≤ k ∧ k ≤ cs.length ∧ P.deliver s b cs = P.advance k s (b ++ cs.flatten)
  | [], h, _, _ => absurd rfl h
  | [c], _, s, b => by
      refine ⟨1, Nat.le_refl _, Nat.le_refl _, ?_⟩
      simp only [deliver, List.flatten_cons, List.flatten_nil, List.append_nil]
      cases P.advance 1 s (b ++ c) with
      | error e => rfl
      | ok p => simp [Except.bind, Except.map, prepend]
  | c :: c' :: cs, _, s, b => by
      rw [deliver, List.flatten_cons, ← List.append_assoc]
      cases h : P.advance 1 s (b ++ c) with
      | error e =>
        refine ⟨1, Nat.le_refl _, by simp, ?_⟩
        rw [P.advance_extend_error h]
        rfl
      | ok p =>
        obtain ⟨k, hk, hle, heq⟩ :=
          deliver_eq_advance (c' :: cs) (by simp) p.1 p.2.1
        rcases P.advance_extend_ok h (c' :: cs).flatten with hpause | ⟨-, hgo⟩
        · refine ⟨1 + k, by omega, by simp only [List.length_cons] at hle ⊢; omega, ?_⟩
          rw [P.advance_add, hpause]
          simp only [Except.bind, heq]
        · refine ⟨k, hk, by simp only [List.length_cons] at hle ⊢; omega, ?_⟩
          obtain ⟨k, rfl⟩ : ∃ j, k = j + 1 := ⟨k - 1, by omega⟩
          rw [hgo]
          simp only [Except.bind, heq]

theorem deliver_append : ∀ (cs ds : List (List β)) (s : σ) (b : List β),
    P.deliver s b (cs ++ ds) =
      (P.deliver s b cs).bind fun p => (P.deliver p.1 p.2.1 ds).map (prepend p.2.2)
  | [], ds, s, b => by simp [deliver, Except.bind]
  | c :: cs, ds, s, b => by
      rw [List.cons_append, deliver, deliver]
      cases P.advance 1 s (b ++ c) with
      | error e => rfl
      | ok p =>
        simp only [Except.bind, deliver_append cs ds p.1 p.2.1]
        cases P.deliver p.1 p.2.1 cs with
        | error e => rfl
        | ok q => exact map_prepend_prepend _ _ _

/-- A parser that never pauses does not see what the chunks are. -/
theorem deliver_eq_advance_one (hfree : ∀ {s b m}, P.step s b = some (.ok m) → m.pauses = false) :
    ∀ (cs : List (List β)), cs ≠ [] → ∀ (s : σ) (b : List β),
      P.deliver s b cs = P.advance 1 s (b ++ cs.flatten)
  | [], h, _, _ => absurd rfl h
  | [c], _, s, b => by
      simp only [deliver, List.flatten_cons, List.flatten_nil, List.append_nil]
      cases P.advance 1 s (b ++ c) with
      | error e => rfl
      | ok p => simp [Except.bind, Except.map, prepend]
  | c :: c' :: cs, _, s, b => by
      rw [deliver, List.flatten_cons, ← List.append_assoc, P.advance_append hfree s (b ++ c)]
      simp only [deliver_eq_advance_one hfree (c' :: cs) (by simp)]

/-- When one feeding of the whole input uses it up, so do its pieces. -/
theorem deliver_of_consumed {t : σ} {out : List ω}
    (h : P.advance 1 s (b ++ cs.flatten) = .ok (t, [], out)) (hcs : cs ≠ []) :
    P.deliver s b cs = .ok (t, [], out) := by
  obtain ⟨k, hk, -, heq⟩ := P.deliver_eq_advance cs hcs s b
  obtain ⟨j, rfl⟩ : ∃ j, k = 1 + j := ⟨k - 1, by omega⟩
  rw [heq, advance_add, h]
  simp [Except.bind, Except.map, prepend, P.advance_of_idle (P.idle_nil t)]

/-- Input that is used up can be fed in two parts. -/
theorem advance_split {t : σ} {c : List β} {out : List ω}
    (h : P.advance 1 s (b ++ (c ++ w)) = .ok (t, [], out)) :
    ∃ p out', P.advance 1 s (b ++ c) = .ok p ∧
      P.advance 1 p.1 (p.2.1 ++ w) = .ok (t, [], out') ∧ out = p.2.2 ++ out' := by
  have hparts : P.advance 1 s (b ++ [c, w].flatten) = .ok (t, [], out) := by
    rw [List.flatten_cons, List.flatten_cons, List.flatten_nil, List.append_nil]
    exact h
  have hdeliver := P.deliver_of_consumed hparts (by simp)
  simp only [deliver] at hdeliver
  obtain ⟨p, hfirst, hdeliver⟩ := exists_of_bind_eq_ok hdeliver
  obtain ⟨_, hrest, hdeliver⟩ := exists_of_map_eq_ok hdeliver
  obtain ⟨q, hsecond, hq⟩ := exists_of_bind_eq_ok hrest
  cases hq
  simp only [prepend, List.append_nil, Prod.mk.injEq] at hdeliver
  obtain ⟨rfl, hrest, rfl⟩ := hdeliver
  exact ⟨p, q.2.2, hfirst, by rw [hsecond, ← hrest], rfl⟩

/-- A change of state that commutes with every move commutes with feeding. -/
theorem advance_map {f : σ → σ} (hf : ∀ s b, P.step (f s) b =
      (P.step s b).map (Except.map fun m => { m with next := f m.next })) (k : Nat) (s : σ)
    (b : List β) : P.advance k (f s) b = (P.advance k s b).map fun p => (f p.1, p.2) := by
  cases k with
  | zero => simp [Except.map]
  | succ k =>
    cases hstep : P.step s b with
    | none =>
      rw [P.advance_of_idle hstep, P.advance_of_idle (by rw [hf, hstep]; rfl)]
      rfl
    | some result =>
      cases result with
      | error e =>
        have hstep' : P.step (f s) b = some (.error e) := by rw [hf, hstep]; rfl
        rw [P.advance_of_error hstep, P.advance_of_error hstep']
        rfl
      | ok m =>
        have hlt := P.consumes hstep
        have hstep' : P.step (f s) b = some (.ok { m with next := f m.next }) := by
          rw [hf, hstep]
          rfl
        rw [P.advance_of_ok hstep, P.advance_of_ok hstep', advance_map hf]
        cases P.advance (if m.pauses then k else k + 1) m.next m.rest <;> rfl
termination_by b.length

/-- A way of cutting `w` into chunks that are not empty. -/
structure IsChunking (w : List β) (cs : List (List β)) : Prop where
  flatten : cs.flatten = w
  nonempty : ∀ c ∈ cs, c ≠ []

theorem IsChunking.length_le (h : IsChunking w cs) : cs.length ≤ w.length := by
  obtain ⟨rfl, hne⟩ := h
  induction cs with
  | nil => simp
  | cons c cs ih =>
    have hc : 0 < c.length := List.length_pos_iff.mpr (hne c List.mem_cons_self)
    have hrest := ih (fun d hd => hne d (List.mem_cons_of_mem _ hd))
    simp only [List.length_cons, List.flatten_cons, List.length_append]
    omega

theorem IsChunking.ne_nil (h : IsChunking w cs) (hw : w ≠ []) : cs ≠ [] := by
  rintro rfl
  exact hw h.flatten.symm

/-- Nothing happens before the `k`-th pause: no output and no failure. -/
def Quiet (k : Nat) (s : σ) (b : List β) : Prop := ∃ t r, P.advance k s b = .ok (t, r, [])

theorem Quiet.mono {P : Incremental σ β ω ε} {j : Nat} (hjk : j ≤ k) (h : P.Quiet k s b) :
    P.Quiet j s b := by
  obtain ⟨t, r, h⟩ := h
  obtain ⟨i, rfl⟩ : ∃ i, k = j + i := ⟨k - j, by omega⟩
  rw [advance_add] at h
  obtain ⟨p, hj, h⟩ := exists_of_bind_eq_ok h
  obtain ⟨q, hi, h⟩ := exists_of_map_eq_ok h
  simp only [prepend, Prod.mk.injEq, List.append_eq_nil_iff] at h
  exact ⟨p.1, p.2.1, by rw [hj, ← h.2.2.1]⟩

end Incremental

end PyWebTransport.Lib
