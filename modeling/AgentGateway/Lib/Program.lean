import Mathlib

/-!
# Programs that call their surroundings

A program computes on its own and, every now and then, makes a request and goes on from the
reply: a query, a write, a call of somebody else's code. What the reply is, is not the program's
business. A run of a program is therefore a trace of requests with replies, and what is known about
the surroundings is a condition on the trace.

* `Program`: a tree with a request at each inner node and one branch for each reply,
* `Runs`: the traces of a program, up to any point; `Returns` and `Reaches`: up to a result, up to
  a request, with a rule for each way to build a program,
* `Path`: a trace as seen by the surroundings, which change from event to event.
-/

namespace AgentGateway.Lib

universe u

/-- A program that makes requests of type `ι`; a request `op` is answered by a `ρ op`. -/
inductive Program (ι : Type) (ρ : ι → Type) (α : Type u) : Type u
  | done (result : α)
  | call (op : ι) (next : ρ op → Program ι ρ α)

namespace Program

variable {ι : Type} {ρ : ι → Type} {α β : Type}

/-- Run a program and go on with its result. -/
def bind : Program ι ρ α → (α → Program ι ρ β) → Program ι ρ β
  | .done result, f => f result
  | .call op next, f => .call op fun reply => (next reply).bind f

instance : Monad (Program ι ρ) where
  pure := .done
  bind := .bind

@[simp] lemma call_bind (op : ι) (next : ρ op → Program ι ρ α) (f : α → Program ι ρ β) :
    (Program.call op next >>= f) = .call op fun reply => next reply >>= f := rfl

/-! ## Traces -/

/-- A request and its reply. -/
abbrev Event (ι : Type) (ρ : ι → Type) := (op : ι) × ρ op

/-- After these events, this is left of the program. -/
inductive Runs : Program ι ρ α → List (Event ι ρ) → Program ι ρ α → Prop
  | refl (program) : Runs program [] program
  | call {op next reply events program} (h : Runs (next reply) events program) :
      Runs (.call op next) (⟨op, reply⟩ :: events) program

/-- The program ends with this result after these events. -/
def Returns (p : Program ι ρ α) (events : List (Event ι ρ)) (a : α) : Prop :=
  Runs p events (.done a)

/-- The program makes this request after these events. -/
def Reaches (p : Program ι ρ α) (events : List (Event ι ρ)) (op : ι) : Prop :=
  ∃ next, Runs p events (.call op next)

variable {p q r : Program ι ρ α} {f : α → Program ι ρ β} {events events' : List (Event ι ρ)}
  {a b : α} {op : ι} {next : ρ op → Program ι ρ α}

lemma runs_call : Runs (.call op next) events q ↔
    events = [] ∧ q = .call op next ∨
      ∃ reply rest, events = ⟨op, reply⟩ :: rest ∧ Runs (next reply) rest q := by
  constructor
  · intro h
    cases h with
    | refl => exact Or.inl ⟨rfl, rfl⟩
    | call h => exact Or.inr ⟨_, _, rfl, h⟩
  · rintro (⟨rfl, rfl⟩ | ⟨reply, rest, rfl, h⟩)
    · exact Runs.refl _
    · exact Runs.call h

/-- A run can be cut anywhere. -/
lemma Runs.of_append (h : Runs p (events ++ events') r) :
    ∃ q, Runs p events q ∧ Runs q events' r := by
  induction events generalizing p with
  | nil => exact ⟨p, Runs.refl p, h⟩
  | cons event events ih =>
    cases h with
    | call h =>
      obtain ⟨q, hfirst, hsecond⟩ := ih h
      exact ⟨q, Runs.call hfirst, hsecond⟩

/-- A run of a composed program is a run of its first part, or that part has ended and the second
one runs. -/
lemma runs_bind {q : Program ι ρ β} : Runs (p >>= f) events q ↔
    (∃ p', Runs p events p' ∧ q = p' >>= f) ∨
    ∃ first a second, events = first ++ second ∧ Returns p first a ∧ Runs (f a) second q := by
  induction p generalizing events with
  | done a =>
    constructor
    · intro h
      exact Or.inr ⟨[], a, events, rfl, Runs.refl _, h⟩
    · rintro (⟨p', hp, rfl⟩ | ⟨first, a', second, rfl, hp, hf⟩)
      · cases hp
        exact Runs.refl _
      · cases hp
        exact hf
  | call op next ih =>
    rw [call_bind, runs_call]
    constructor
    · rintro (⟨rfl, rfl⟩ | ⟨reply, rest, rfl, h⟩)
      · exact Or.inl ⟨.call op next, Runs.refl _, rfl⟩
      · rcases (ih reply).mp h with ⟨p', hp, rfl⟩ | ⟨first, a, second, rfl, hp, hf⟩
        · exact Or.inl ⟨p', Runs.call hp, rfl⟩
        · exact Or.inr ⟨_, a, second, rfl, Runs.call hp, hf⟩
    · rintro (⟨p', hp, rfl⟩ | ⟨first, a, second, rfl, hp, hf⟩)
      · cases hp with
        | refl => exact Or.inl ⟨rfl, rfl⟩
        | call hp => exact Or.inr ⟨_, _, rfl, (ih _).mpr (Or.inl ⟨p', hp, rfl⟩)⟩
      · cases hp with
        | call hp =>
          exact Or.inr ⟨_, _, rfl, (ih _).mpr (Or.inr ⟨_, a, second, rfl, hp, hf⟩)⟩

@[simp] lemma runs_call_cons {reply : ρ op} :
    Runs (.call op next) (⟨op, reply⟩ :: events) q ↔ Runs (next reply) events q := by
  constructor
  · intro h
    cases h with
    | call h => exact h
  · exact Runs.call

/-! ### Results -/

@[simp] lemma returns_done : Returns (.done a : Program ι ρ α) events b ↔ events = [] ∧ a = b := by
  constructor
  · intro h
    cases h
    exact ⟨rfl, rfl⟩
  · rintro ⟨rfl, rfl⟩
    exact Runs.refl _

@[simp] lemma returns_pure : Returns (pure a : Program ι ρ α) events b ↔ events = [] ∧ a = b :=
  returns_done

@[simp] lemma returns_call : Returns (.call op next) events a ↔
    ∃ reply rest, events = ⟨op, reply⟩ :: rest ∧ Returns (next reply) rest a := by
  refine runs_call.trans (or_iff_right ?_)
  rintro ⟨-, h⟩
  cases h

/-- The first program returns, then the second. -/
lemma returns_bind {b : β} : Returns (p >>= f) events b ↔
    ∃ first a second, events = first ++ second ∧ Returns p first a ∧ Returns (f a) second b := by
  refine runs_bind.trans ⟨?_, Or.inr⟩
  rintro (⟨p', hp, hdone⟩ | h)
  · cases p' with
    | done a =>
      refine ⟨events, a, [], (List.append_nil _).symm, hp, ?_⟩
      rw [Returns, hdone]
      exact Runs.refl _
    | call op next => cases hdone
  · exact h

/-! ### Requests -/

@[simp] lemma reaches_done : ¬ Reaches (.done a : Program ι ρ α) events op := by
  rintro ⟨next, h⟩
  cases h

@[simp] lemma reaches_pure : ¬ Reaches (pure a : Program ι ρ α) events op := reaches_done

@[simp] lemma reaches_call {op' : ι} {next : ρ op' → Program ι ρ α} :
    Reaches (.call op' next) events op ↔
      events = [] ∧ op' = op ∨
        ∃ reply rest, events = ⟨op', reply⟩ :: rest ∧ Reaches (next reply) rest op := by
  constructor
  · rintro ⟨next', h⟩
    rcases runs_call.mp h with ⟨rfl, hcall⟩ | ⟨reply, rest, rfl, hrest⟩
    · cases hcall
      exact Or.inl ⟨rfl, rfl⟩
    · exact Or.inr ⟨reply, rest, rfl, next', hrest⟩
  · rintro (⟨rfl, rfl⟩ | ⟨reply, rest, rfl, next', h⟩)
    · exact ⟨next, Runs.refl _⟩
    · exact ⟨next', Runs.call h⟩

/-- A request of the first program, or of the second one after it. -/
lemma reaches_bind : Reaches (p >>= f) events op ↔
    Reaches p events op ∨
      ∃ first a second, events = first ++ second ∧ Returns p first a ∧
        Reaches (f a) second op := by
  constructor
  · rintro ⟨next, h⟩
    rcases runs_bind.mp h with ⟨p', hp, hcall⟩ | ⟨first, a, second, rfl, hp, hf⟩
    · cases p' with
      | done a =>
        refine Or.inr ⟨events, a, [], (List.append_nil _).symm, hp, next, ?_⟩
        rw [hcall]
        exact Runs.refl _
      | call op' next' =>
        cases hcall
        exact Or.inl ⟨_, hp⟩
    · exact Or.inr ⟨first, a, second, rfl, hp, next, hf⟩
  · rintro (⟨next, hp⟩ | ⟨first, a, second, rfl, hp, next, hf⟩)
    · exact ⟨_, runs_bind.mpr (Or.inl ⟨_, hp, rfl⟩)⟩
    · exact ⟨next, runs_bind.mpr (Or.inr ⟨first, a, second, rfl, hp, hf⟩)⟩

/-- Every event of a run answers a request that the run has made. -/
lemma Runs.reaches_of_eq {event : Event ι ρ} {past future : List (Event ι ρ)}
    (h : Runs p events q) (heq : events = past ++ event :: future) : Reaches p past event.1 := by
  induction h generalizing past with
  | refl program => exact absurd heq (by simp)
  | @call op next reply events program h ih =>
    cases past with
    | nil =>
      obtain ⟨rfl, -⟩ := List.cons.inj heq
      exact ⟨next, Runs.refl _⟩
    | cons first past =>
      obtain ⟨rfl, hrest⟩ := List.cons.inj heq
      obtain ⟨next', h'⟩ := ih hrest
      exact ⟨next', Runs.call h'⟩

/-- What is true of all requests of a program is true of the requests of its events. -/
lemma Runs.forall_mem {P : ι → Prop} (h : Runs p events q)
    (hP : ∀ past op, Reaches p past op → P op) : ∀ event ∈ events, P event.1 := by
  intro event hmem
  obtain ⟨past, future, heq⟩ := List.append_of_mem hmem
  exact hP past event.1 (h.reaches_of_eq heq)

/-! ### Exceptions -/

/-- Run a program and go on with its result, unless that is an exception. -/
def bindOk {ε : Type} (p : Program ι ρ (Except ε α)) (f : α → Program ι ρ (Except ε β)) :
    Program ι ρ (Except ε β) :=
  p >>= fun result =>
    match result with
    | .ok a => f a
    | .error error => .done (.error error)

section bindOk

variable {ε : Type} {p : Program ι ρ (Except ε α)} {f : α → Program ι ρ (Except ε β)} {error : ε}

/-- An exception comes out of the first part, or out of the second. -/
lemma returns_bindOk_error : Returns (p.bindOk f) events (.error error) ↔
    Returns p events (.error error) ∨
      ∃ first a second, events = first ++ second ∧ Returns p first (.ok a) ∧
        Returns (f a) second (.error error) := by
  rw [bindOk, returns_bind]
  constructor
  · rintro ⟨first, result, second, rfl, hp, hf⟩
    cases result with
    | ok a => exact Or.inr ⟨first, a, second, rfl, hp, hf⟩
    | error e =>
      obtain ⟨rfl, he⟩ := returns_done.mp hf
      cases he
      exact Or.inl (by rwa [List.append_nil])
  · rintro (hp | ⟨first, a, second, rfl, hp, hf⟩)
    · exact ⟨events, _, [], (List.append_nil _).symm, hp, returns_done.mpr ⟨rfl, rfl⟩⟩
    · exact ⟨first, _, second, rfl, hp, hf⟩

lemma returns_bindOk_ok {b : β} : Returns (p.bindOk f) events (.ok b) ↔
    ∃ first a second, events = first ++ second ∧ Returns p first (.ok a) ∧
      Returns (f a) second (.ok b) := by
  rw [bindOk, returns_bind]
  constructor
  · rintro ⟨first, result, second, rfl, hp, hf⟩
    cases result with
    | ok a => exact ⟨first, a, second, rfl, hp, hf⟩
    | error e => cases (returns_done.mp hf).2
  · rintro ⟨first, a, second, rfl, hp, hf⟩
    exact ⟨first, _, second, rfl, hp, hf⟩

end bindOk

/-! ## The surroundings -/

/-- The surroundings go through these states as the events happen. -/
inductive Path {σ ε : Type} (step : σ → ε → σ → Prop) : σ → List ε → σ → Prop
  | nil (s) : Path step s [] s
  | cons {s s' s'' event events} (hstep : step s event s') (hrest : Path step s' events s'') :
      Path step s (event :: events) s''

section Path

variable {σ ε : Type} {step : σ → ε → σ → Prop} {s s' : σ} {event : ε} {past future : List ε}

@[simp] lemma path_nil : Path step s [] s' ↔ s = s' := by
  constructor
  · intro h
    cases h
    rfl
  · rintro rfl
    exact Path.nil s

@[simp] lemma path_cons : Path step s (event :: past) s' ↔
    ∃ mid, step s event mid ∧ Path step mid past s' := by
  constructor
  · intro h
    cases h with
    | cons hstep hrest => exact ⟨_, hstep, hrest⟩
  · rintro ⟨mid, hstep, hrest⟩
    exact Path.cons hstep hrest

/-- A path can be cut anywhere. -/
lemma path_append : Path step s (past ++ future) s' ↔
    ∃ mid, Path step s past mid ∧ Path step mid future s' := by
  induction past generalizing s with
  | nil => simp
  | cons event past ih =>
    simp only [List.cons_append, path_cons, ih]
    constructor
    · rintro ⟨mid, hstep, mid', hpast, hfuture⟩
      exact ⟨mid', ⟨mid, hstep, hpast⟩, hfuture⟩
    · rintro ⟨mid', ⟨mid, hstep, hpast⟩, hfuture⟩
      exact ⟨mid, hstep, mid', hpast, hfuture⟩

end Path

/-! ## Execution -/

/-- Run a program to its end, with replies by a function of the requests so far. -/
def exec {σ : Type} (answer : σ → (op : ι) → ρ op × σ) :
    Program ι ρ α → σ → List (Event ι ρ) × σ × α
  | .done result, s => ([], s, result)
  | .call op next, s =>
    let replied := answer s op
    let rest := (next replied.1).exec answer replied.2
    (⟨op, replied.1⟩ :: rest.1, rest.2)

/-- An execution is a run. -/
lemma exec_returns {σ : Type} (answer : σ → (op : ι) → ρ op × σ) (p : Program ι ρ α) (s : σ) :
    p.Returns (p.exec answer s).1 (p.exec answer s).2.2 := by
  induction p generalizing s with
  | done a => exact Runs.refl _
  | call op next ih => exact Runs.call (ih (answer s op).1 (answer s op).2)

/-- If every reply is one the surroundings may give, an execution is a path of them. -/
lemma exec_path {σ : Type} {step : σ → Event ι ρ → σ → Prop}
    {answer : σ → (op : ι) → ρ op × σ}
    (h : ∀ s op, step s ⟨op, (answer s op).1⟩ (answer s op).2) (p : Program ι ρ α) (s : σ) :
    Path step s (p.exec answer s).1 (p.exec answer s).2.1 := by
  induction p generalizing s with
  | done a => exact Path.nil s
  | call op next ih => exact Path.cons (h s op) (ih _ _)

end Program
end AgentGateway.Lib
