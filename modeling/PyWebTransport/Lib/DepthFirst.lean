/-
PyWebTransport.Lib.DepthFirst — a work queue whose items raise new items at
the front.

A step handles one item: it changes the state, produces output, and raises
items. `loop` is the loop over an explicit queue; raised items go to the
front. `run` handles an item with all that it raises, to a bounded depth.
The two agree when every item raises items of lower rank only
(`loop_iff_run`).

`run_invariant` is the induction rule for both: an invariant of the state,
the queue and the output that every step preserves holds when the item and
all that it raised have been handled.
-/
import Mathlib.Data.List.Basic

namespace PyWebTransport.Lib.DepthFirst

universe u v w

variable {σ : Type u} {ι : Type v} {ω : Type w} {s : σ} {item : ι} {r : σ × List ω}
  {K : σ → List ι → List ω → Prop}

/-- Handle items one after the other. -/
def runAll (run : σ → ι → Option (σ × List ω)) : σ → List ι → Option (σ × List ω)
  | s, [] => some (s, [])
  | s, item :: rest =>
    (run s item).bind fun first =>
      (runAll run first.1 rest).map fun others => (others.1, first.2 ++ others.2)

variable (step : σ → ι → Option (σ × List ω × List ι))

/-- Handle an item and, before anything else, what it raises. -/
def run : Nat → σ → ι → Option (σ × List ω)
  | 0 => fun _ _ => none
  | depth + 1 => fun s item =>
    (step s item).bind fun turn =>
      (runAll (run depth) turn.1 turn.2.2).map fun others => (others.1, turn.2.1 ++ others.2)

/-- The loop over a queue, one unit of fuel per turn. -/
def loop : Nat → σ → List ι → Option (σ × List ω)
  | 0, _, _ => none
  | _ + 1, s, [] => some (s, [])
  | fuel + 1, s, item :: queue =>
    (step s item).bind fun turn =>
      (loop fuel turn.1 (turn.2.2 ++ queue)).map fun others => (others.1, turn.2.1 ++ others.2)

variable {step}

/-! ## Inversion -/

theorem runAll_cons {run : σ → ι → Option (σ × List ω)} {rest : List ι}
    (h : runAll run s (item :: rest) = some r) :
    ∃ first others, run s item = some first ∧ runAll run first.1 rest = some others ∧
      r = (others.1, first.2 ++ others.2) := by
  simp only [runAll, Option.bind_eq_some_iff, Option.map_eq_some_iff] at h
  obtain ⟨first, hfirst, others, hothers, rfl⟩ := h
  exact ⟨first, others, hfirst, hothers, rfl⟩

theorem run_succ {depth : Nat} (h : run step (depth + 1) s item = some r) :
    ∃ turn others, step s item = some turn ∧
      runAll (run step depth) turn.1 turn.2.2 = some others ∧
      r = (others.1, turn.2.1 ++ others.2) := by
  simp only [run, Option.bind_eq_some_iff, Option.map_eq_some_iff] at h
  obtain ⟨turn, hturn, others, hothers, rfl⟩ := h
  exact ⟨turn, others, hturn, hothers, rfl⟩

/-- What an item comes to, from what its step does. -/
theorem run_of_step {turn : σ × List ω × List ι} (h : step s item = some turn) (depth : Nat) :
    run step (depth + 1) s item =
      (runAll (run step depth) turn.1 turn.2.2).map fun others =>
        (others.1, turn.2.1 ++ others.2) := by
  simp only [run, h, Option.bind_some]

theorem runAll_append (run : σ → ι → Option (σ × List ω)) (first second : List ι) :
    ∀ s : σ, runAll run s (first ++ second) =
      (runAll run s first).bind fun done =>
        (runAll run done.1 second).map fun others => (others.1, done.2 ++ others.2) := by
  induction first with
  | nil =>
    intro s
    cases h : runAll run s second <;> simp [runAll, h]
  | cons item rest ih =>
    intro s
    rw [List.cons_append, runAll, runAll, Option.bind_assoc]
    congr 1
    funext turn
    rw [ih, Option.map_bind, Option.bind_map]
    congr 1
    funext done
    simp [Option.map_map, Function.comp_def]

/-- Only what is done to the items of the list matters. -/
theorem runAll_congr {run run' : σ → ι → Option (σ × List ω)} (items : List ι)
    (h : ∀ item ∈ items, ∀ s, run s item = run' s item) :
    ∀ s : σ, runAll run s items = runAll run' s items := by
  induction items with
  | nil => exact fun s => rfl
  | cons item rest ih =>
    intro s
    have hrest := ih fun i hi => h i (List.mem_cons_of_mem _ hi)
    simp only [runAll, h item List.mem_cons_self, hrest]

/-- An item that raises nothing is done in one turn, to whatever depth. -/
theorem run_of_calm {turn : σ × List ω} (h : step s item = some (turn.1, turn.2, []))
    (depth : Nat) : run step (depth + 1) s item = some turn := by
  simp [run, h, runAll]

/-! ## The induction rule -/

theorem runAll_invariant {run : σ → ι → Option (σ × List ω)}
    (hrun : ∀ {s item queue out r}, run s item = some r → K s (item :: queue) out →
      K r.1 queue (out ++ r.2)) :
    ∀ (items : List ι) {s : σ} {queue : List ι} {out : List ω} {r : σ × List ω},
      runAll run s items = some r → K s (items ++ queue) out → K r.1 queue (out ++ r.2) := by
  intro items
  induction items with
  | nil =>
    intro s queue out r h hK
    cases h
    simpa using hK
  | cons item rest ih =>
    intro s queue out r h hK
    obtain ⟨first, others, hfirst, hothers, rfl⟩ := runAll_cons h
    have hK' : K first.1 (rest ++ queue) (out ++ first.2) := hrun hfirst hK
    have hdone := ih hothers hK'
    rwa [List.append_assoc] at hdone

/-- What every turn preserves holds when an item and all that it raised have
been handled. -/
theorem run_invariant
    (hstep : ∀ {s item queue out turn}, K s (item :: queue) out → step s item = some turn →
      K turn.1 (turn.2.2 ++ queue) (out ++ turn.2.1)) :
    ∀ (depth : Nat) {s : σ} {item : ι} {queue : List ι} {out : List ω} {r : σ × List ω},
      run step depth s item = some r → K s (item :: queue) out → K r.1 queue (out ++ r.2) := by
  intro depth
  induction depth with
  | zero =>
    intro s item queue out r h _
    cases h
  | succ depth ih =>
    intro s item queue out r h hK
    obtain ⟨turn, others, hturn, hothers, rfl⟩ := run_succ h
    have hdone := runAll_invariant ih turn.2.2 hothers (hstep hK hturn)
    rwa [List.append_assoc] at hdone

/-! ## The loop -/

/-- The loop gets through the items in front of the queue as `runAll` does. -/
theorem loop_of_runAll {run : σ → ι → Option (σ × List ω)}
    (hrun : ∀ {s item r}, run s item = some r → ∃ n, ∀ fuel queue,
      loop step (n + fuel) s (item :: queue) =
        (loop step fuel r.1 queue).map fun others => (others.1, r.2 ++ others.2)) :
    ∀ (items : List ι) {s : σ} {r : σ × List ω}, runAll run s items = some r →
      ∃ n, ∀ fuel queue, loop step (n + fuel) s (items ++ queue) =
        (loop step fuel r.1 queue).map fun others => (others.1, r.2 ++ others.2) := by
  intro items
  induction items with
  | nil =>
    intro s r h
    cases h
    exact ⟨0, fun fuel queue => by simp⟩
  | cons item rest ih =>
    intro s r h
    obtain ⟨first, others, hfirst, hothers, rfl⟩ := runAll_cons h
    obtain ⟨n, hn⟩ := hrun hfirst
    obtain ⟨m, hm⟩ := ih hothers
    refine ⟨n + m, fun fuel queue => ?_⟩
    rw [List.cons_append, Nat.add_assoc, hn, hm]
    cases loop step fuel others.1 queue with
    | none => rfl
    | some rest => simp

/-- Handling an item to a bounded depth is what the loop does with it. -/
theorem loop_of_run : ∀ (depth : Nat) {s : σ} {item : ι} {r : σ × List ω},
    run step depth s item = some r → ∃ n, ∀ fuel queue,
      loop step (n + fuel) s (item :: queue) =
        (loop step fuel r.1 queue).map fun others => (others.1, r.2 ++ others.2) := by
  intro depth
  induction depth with
  | zero =>
    intro s item r h
    cases h
  | succ depth ih =>
    intro s item r h
    obtain ⟨turn, others, hturn, hothers, rfl⟩ := run_succ h
    obtain ⟨n, hn⟩ := loop_of_runAll ih turn.2.2 hothers
    refine ⟨n + 1, fun fuel queue => ?_⟩
    have hfuel : n + 1 + fuel = n + fuel + 1 := by omega
    rw [hfuel, loop, hturn, Option.bind_some, hn]
    cases loop step fuel others.1 queue with
    | none => rfl
    | some rest => simp

/-! ## Depth

A rank that falls from an item to what it raises bounds the depth. The rank
may depend on an invariant of the state. -/

section Ranked

variable {I : σ → Prop} {rank : ι → Nat}

theorem runAll_of_loop {run : σ → ι → Option (σ × List ω)} {depth : Nat}
    (hrun : ∀ {fuel s item queue r}, I s → rank item < depth →
      loop step fuel s (item :: queue) = some r →
      ∃ first others fuel', run s item = some first ∧ I first.1 ∧
        loop step fuel' first.1 queue = some others ∧ r = (others.1, first.2 ++ others.2)) :
    ∀ (items : List ι) {fuel : Nat} {s : σ} {queue : List ι} {r : σ × List ω}, I s →
      (∀ item ∈ items, rank item < depth) → loop step fuel s (items ++ queue) = some r →
      ∃ first others fuel', runAll run s items = some first ∧ I first.1 ∧
        loop step fuel' first.1 queue = some others ∧ r = (others.1, first.2 ++ others.2) := by
  intro items
  induction items with
  | nil =>
    intro fuel s queue r hI _ hloop
    exact ⟨(s, []), r, fuel, rfl, hI, hloop, rfl⟩
  | cons item rest ih =>
    intro fuel s queue r hI hrank hloop
    obtain ⟨first, others, fuel', hfirst, hI', hothers, rfl⟩ :=
      hrun hI (hrank item List.mem_cons_self) hloop
    obtain ⟨second, last, fuel'', hsecond, hI'', hlast, rfl⟩ :=
      ih hI' (fun i hi => hrank i (List.mem_cons_of_mem _ hi)) hothers
    refine ⟨(second.1, first.2 ++ second.2), last, fuel'', ?_, hI'', hlast, ?_⟩
    · simp only [runAll, hfirst, Option.bind_some, hsecond, Option.map_some]
    · rw [List.append_assoc]

/-- What the loop does with an item, `run` does to the depth of its rank. -/
theorem run_of_loop (hstep : ∀ {s item turn}, I s → step s item = some turn →
      I turn.1 ∧ ∀ raised ∈ turn.2.2, rank raised < rank item) :
    ∀ (depth : Nat) {fuel : Nat} {s : σ} {item : ι} {queue : List ι} {r : σ × List ω}, I s →
      rank item < depth → loop step fuel s (item :: queue) = some r →
      ∃ first others fuel', run step depth s item = some first ∧ I first.1 ∧
        loop step fuel' first.1 queue = some others ∧ r = (others.1, first.2 ++ others.2) := by
  intro depth
  induction depth with
  | zero =>
    intro fuel s item queue r _ hrank _
    exact absurd hrank (Nat.not_lt_zero _)
  | succ depth ih =>
    intro fuel s item queue r hI hrank hloop
    cases fuel with
    | zero => cases hloop
    | succ fuel =>
      simp only [loop, Option.bind_eq_some_iff, Option.map_eq_some_iff] at hloop
      obtain ⟨turn, hturn, rest, hrest, rfl⟩ := hloop
      obtain ⟨hI', hraised⟩ := hstep hI hturn
      obtain ⟨first, others, fuel', hfirst, hI'', hothers, rfl⟩ :=
        runAll_of_loop ih turn.2.2 hI'
          (fun item hitem => by have := hraised item hitem; omega) hrest
      refine ⟨(first.1, turn.2.1 ++ first.2), others, fuel', ?_, hI'', hothers, ?_⟩
      · simp only [run, hturn, Option.bind_some, hfirst, Option.map_some]
      · rw [List.append_assoc]

/-- The loop on one item and `run` to the depth of its rank are the same. -/
theorem loop_iff_run (hstep : ∀ {s item turn}, I s → step s item = some turn →
      I turn.1 ∧ ∀ raised ∈ turn.2.2, rank raised < rank item) {depth : Nat} {s : σ} {item : ι}
    (hI : I s) (hrank : rank item < depth) (r : σ × List ω) :
    (∃ fuel, loop step fuel s [item] = some r) ↔ run step depth s item = some r := by
  constructor
  · rintro ⟨fuel, hloop⟩
    obtain ⟨first, others, fuel', hfirst, -, hothers, rfl⟩ :=
      run_of_loop hstep depth hI hrank hloop
    cases fuel' with
    | zero => cases hothers
    | succ fuel' =>
      cases hothers
      rw [hfirst, List.append_nil]
  · intro hrun
    obtain ⟨n, hn⟩ := loop_of_run depth hrun
    exact ⟨n + 1, by rw [hn]; simp [loop]⟩

end Ranked

end PyWebTransport.Lib.DepthFirst
