import AgentGateway.Lib.Program

/-!
# Programs that take turns

Any number of programs make their requests of the same surroundings, in any order. A trace of such
a system lists the moments one after the other: who has made which request, with which reply, and
the surroundings after it. It is an interleaving if each program can take its part of it, and each
moment is a step of the surroundings.

* `stateAfter`, `eventsOf`: the surroundings after a trace, and the part of one program in it,
* `Interleaving.reaches`: a moment is a request that its program makes after its own past,
* `stateAfter_related`, `exists_change`: what follows for the surroundings,
* `Interleaving.solo`, `interleaving_inTurn`: programs that run one after the other.
-/

namespace AgentGateway.Lib
namespace Program

/-- A request of one of the programs, and the surroundings after it. -/
structure Moment (κ σ ι : Type) (ρ : ι → Type) where
  who : κ
  event : Event ι ρ
  state : σ

variable {κ σ ι α : Type} {ρ : ι → Type} {trace past future : List (Moment κ σ ι ρ)}
  {moment : Moment κ σ ι ρ} {s : σ} {k : κ}

/-! ## The surroundings -/

/-- The surroundings after a trace. -/
def stateAfter (s : σ) (trace : List (Moment κ σ ι ρ)) : σ :=
  trace.foldl (fun _ moment => moment.state) s

@[simp] lemma stateAfter_nil : stateAfter s ([] : List (Moment κ σ ι ρ)) = s := rfl

@[simp] lemma stateAfter_concat : stateAfter s (past ++ [moment]) = moment.state := by
  simp [stateAfter]

/-- What every moment does to the surroundings, any part of the trace does. -/
lemma stateAfter_related {R : σ → σ → Prop} (hrefl : ∀ s, R s s)
    (htrans : ∀ {a b c}, R a b → R b c → R a c)
    (hstep : ∀ past moment future, trace = past ++ moment :: future →
      R (stateAfter s past) moment.state)
    {between : List (Moment κ σ ι ρ)} (htrace : trace = past ++ between ++ future) :
    R (stateAfter s past) (stateAfter s (past ++ between)) := by
  induction between using List.reverseRecOn generalizing future with
  | nil =>
    rw [List.append_nil]
    exact hrefl _
  | append_singleton between moment ih =>
    have hsplit : trace = past ++ between ++ moment :: future := by
      rw [htrace]
      simp
    rw [← List.append_assoc, stateAfter_concat]
    exact htrans (ih hsplit) (hstep (past ++ between) moment future hsplit)

/-- What was not so at the beginning has become so at some moment. -/
lemma exists_change {P : σ → Prop} (hfirst : ¬ P s) (hlast : P (stateAfter s trace)) :
    ∃ past moment future, trace = past ++ moment :: future ∧ ¬ P (stateAfter s past) ∧
      P moment.state := by
  induction trace using List.reverseRecOn with
  | nil => exact absurd hlast hfirst
  | append_singleton trace moment ih =>
    rw [stateAfter_concat] at hlast
    by_cases hbefore : P (stateAfter s trace)
    · obtain ⟨past, earlier, future, rfl, hpast, hearlier⟩ := ih hbefore
      exact ⟨past, earlier, future ++ [moment], by simp, hpast, hearlier⟩
    · exact ⟨trace, moment, [], rfl, hbefore, hlast⟩

/-! ## The part of one program -/

variable [DecidableEq κ]

/-- The events of one of the programs. -/
def eventsOf (k : κ) (trace : List (Moment κ σ ι ρ)) : List (Event ι ρ) :=
  (trace.filter (·.who = k)).map (·.event)

@[simp] lemma eventsOf_nil : eventsOf k ([] : List (Moment κ σ ι ρ)) = [] := rfl

@[simp] lemma eventsOf_append :
    eventsOf k (past ++ future) = eventsOf k past ++ eventsOf k future := by
  simp [eventsOf]

lemma eventsOf_cons_self : eventsOf moment.who (moment :: future) =
    moment.event :: eventsOf moment.who future := by
  simp [eventsOf]

lemma eventsOf_cons_of_ne (h : moment.who ≠ k) :
    eventsOf k (moment :: future) = eventsOf k future := by
  simp [eventsOf, h]

/-- An event of a program is a moment of the trace. -/
lemma exists_moment {before after : List (Event ι ρ)} {event : Event ι ρ}
    (h : eventsOf k trace = before ++ event :: after) :
    ∃ past moment future, trace = past ++ moment :: future ∧ moment.who = k ∧
      moment.event = event ∧ eventsOf k past = before ∧ eventsOf k future = after := by
  induction trace generalizing before with
  | nil => exact absurd h (by simp)
  | cons moment trace ih =>
    by_cases hwho : moment.who = k
    · subst hwho
      rw [eventsOf_cons_self] at h
      cases before with
      | nil =>
        obtain ⟨hevent, hrest⟩ := List.cons.inj h
        exact ⟨[], moment, trace, rfl, rfl, hevent, rfl, hrest⟩
      | cons first before =>
        obtain ⟨rfl, hrest⟩ := List.cons.inj h
        obtain ⟨past, later, future, rfl, hlater, hevent, rfl, hafter⟩ := ih hrest
        exact ⟨moment :: past, later, future, rfl, hlater, hevent, eventsOf_cons_self, hafter⟩
    · rw [eventsOf_cons_of_ne hwho] at h
      obtain ⟨past, later, future, rfl, hlater, hevent, rfl, hafter⟩ := ih h
      exact ⟨moment :: past, later, future, rfl, hlater, hevent, eventsOf_cons_of_ne hwho, hafter⟩

/-! ## Interleavings -/

/-- Programs that take turns in the same surroundings. -/
structure Interleaving (step : σ → Event ι ρ → σ → Prop) (programs : κ → Program ι ρ α) (s : σ)
    (trace : List (Moment κ σ ι ρ)) : Prop where
  runs : ∀ k, ∃ rest, (programs k).Runs (eventsOf k trace) rest
  steps : ∀ past moment future, trace = past ++ moment :: future →
    step (stateAfter s past) moment.event moment.state

namespace Interleaving

variable {step step' : σ → Event ι ρ → σ → Prop} {programs : κ → Program ι ρ α}

lemma weaken (h : Interleaving step programs s trace)
    (hstep : ∀ s event s', step s event s' → step' s event s') :
    Interleaving step' programs s trace :=
  ⟨h.runs, fun past moment future heq => hstep _ _ _ (h.steps past moment future heq)⟩

/-- What is true of the event of every step is true of every event. -/
lemma forall_event {P : Event ι ρ → Prop} (h : Interleaving step programs s trace)
    (hstep : ∀ s event s', step s event s' → P event) : ∀ moment ∈ trace, P moment.event := by
  intro moment hmem
  obtain ⟨past, future, heq⟩ := List.append_of_mem hmem
  exact hstep _ _ _ (h.steps past moment future heq)

/-- Up to any moment, an interleaving is one. -/
lemma of_append (h : Interleaving step programs s (past ++ future)) :
    Interleaving step programs s past where
  runs k := by
    obtain ⟨rest, hruns⟩ := h.runs k
    rw [eventsOf_append] at hruns
    obtain ⟨mid, hpast, -⟩ := hruns.of_append
    exact ⟨mid, hpast⟩
  steps earlier moment later heq := by
    refine h.steps earlier moment (later ++ future) ?_
    rw [heq, List.append_assoc, List.cons_append]

/-- From any moment on, an interleaving is one of what is left of the programs. -/
lemma of_suffix (h : Interleaving step programs s (past ++ future)) :
    ∃ rests : κ → Program ι ρ α, (∀ k, (programs k).Runs (eventsOf k past) (rests k)) ∧
      Interleaving step rests (stateAfter s past) future := by
  have hcut : ∀ k, ∃ rest, (programs k).Runs (eventsOf k past) rest ∧
      ∃ last, rest.Runs (eventsOf k future) last := by
    intro k
    obtain ⟨last, hruns⟩ := h.runs k
    rw [eventsOf_append] at hruns
    obtain ⟨rest, hpast, hfuture⟩ := hruns.of_append
    exact ⟨rest, hpast, last, hfuture⟩
  choose rests hpast hfuture using hcut
  refine ⟨rests, hpast, hfuture, fun earlier moment later heq => ?_⟩
  have hstep := h.steps (past ++ earlier) moment later (by rw [heq, List.append_assoc])
  rwa [stateAfter, List.foldl_append] at hstep

/-- A moment is a request that its program makes after its own past. -/
lemma reaches (h : Interleaving step programs s trace) (htrace : trace = past ++ moment :: future) :
    (programs moment.who).Reaches (eventsOf moment.who past) moment.event.1 := by
  obtain ⟨rest, hruns⟩ := h.runs moment.who
  have hevents : eventsOf moment.who trace =
      eventsOf moment.who past ++ moment.event :: eventsOf moment.who future := by
    rw [htrace, eventsOf_append, eventsOf_cons_self]
  exact hruns.reaches_of_eq hevents

end Interleaving

/-! ## One after the other -/

/-- The moments of a program that runs to its end on its own. -/
def soloMoments (answer : σ → (op : ι) → ρ op × σ) (k : κ) :
    Program ι ρ α → σ → List (Moment κ σ ι ρ)
  | .done _, _ => []
  | .call op next, s =>
    ⟨k, ⟨op, (answer s op).1⟩, (answer s op).2⟩ ::
      soloMoments answer k (next (answer s op).1) (answer s op).2

section Solo

variable {answer : σ → (op : ι) → ρ op × σ} {p : Program ι ρ α}
  {step : σ → Event ι ρ → σ → Prop} {programs : κ → Program ι ρ α}

lemma eventsOf_soloMoments : eventsOf k (soloMoments answer k p s) = (p.exec answer s).1 := by
  induction p generalizing s with
  | done a => rfl
  | call op next ih =>
    rw [soloMoments, exec]
    exact eventsOf_cons_self.trans (congrArg _ (ih _))

lemma eventsOf_soloMoments_of_ne {j : κ} (h : k ≠ j) :
    eventsOf j (soloMoments answer k p s) = [] := by
  induction p generalizing s with
  | done a => rfl
  | call op next ih =>
    rw [soloMoments, eventsOf_cons_of_ne h]
    exact ih _

omit [DecidableEq κ] in
lemma stateAfter_append {first second : List (Moment κ σ ι ρ)} :
    stateAfter s (first ++ second) = stateAfter (stateAfter s first) second :=
  List.foldl_append

omit [DecidableEq κ] in
/-- Every moment of a program on its own is a step. -/
lemma soloMoments_steps (hanswer : ∀ s op, step s ⟨op, (answer s op).1⟩ (answer s op).2) :
    ∀ past moment future, soloMoments answer k p s = past ++ moment :: future →
      step (stateAfter s past) moment.event moment.state := by
  induction p generalizing s with
  | done a =>
    intro past moment future h
    exact absurd h.symm (by simp [soloMoments])
  | call op next ih =>
    intro past moment future h
    cases past with
    | nil =>
      obtain ⟨rfl, -⟩ := List.cons.inj h
      exact hanswer s op
    | cons first past =>
      obtain ⟨rfl, hrest⟩ := List.cons.inj h
      exact ih _ past moment future hrest

/-- A program that has not begun yet can run to its end when the others have paused. -/
theorem Interleaving.solo (h : Interleaving step programs s trace) (hfresh : eventsOf k trace = [])
    (hanswer : ∀ s op, step s ⟨op, (answer s op).1⟩ (answer s op).2) :
    Interleaving step programs s
      (trace ++ soloMoments answer k (programs k) (stateAfter s trace)) where
  runs j := by
    rw [eventsOf_append]
    by_cases hj : k = j
    · subst hj
      rw [hfresh, eventsOf_soloMoments]
      exact ⟨_, exec_returns answer (programs k) (stateAfter s trace)⟩
    · rw [eventsOf_soloMoments_of_ne hj, List.append_nil]
      exact h.runs j
  steps past moment future heq := by
    rcases List.append_eq_append_iff.mp heq with ⟨rest, rfl, hrest⟩ | ⟨rest, rfl, hrest⟩
    · rw [stateAfter_append]
      exact soloMoments_steps hanswer rest moment future hrest
    · cases rest with
      | nil =>
        rw [List.append_nil] at *
        exact soloMoments_steps hanswer [] moment future hrest.symm
      | cons first rest =>
        obtain ⟨rfl, -⟩ := List.cons.inj hrest
        exact h.steps past moment rest rfl

end Solo

/-- The moments of programs that run to their ends one after the other, the first of these last. -/
def inTurn (answer : κ → σ → (op : ι) → ρ op × σ) (programs : κ → Program ι ρ α) (s : σ) :
    List κ → List (Moment κ σ ι ρ)
  | [] => []
  | k :: earlier =>
    let past := inTurn answer programs s earlier
    past ++ soloMoments (answer k) k (programs k) (stateAfter s past)

section Turns

variable {answer : κ → σ → (op : ι) → ρ op × σ} {step : σ → Event ι ρ → σ → Prop}
  {programs : κ → Program ι ρ α} {j : κ} {earlier turns : List κ}

lemma eventsOf_inTurn_of_ne (h : j ≠ k) : eventsOf k (inTurn answer programs s (j :: earlier)) =
    eventsOf k (inTurn answer programs s earlier) := by
  rw [inTurn, eventsOf_append, eventsOf_soloMoments_of_ne h, List.append_nil]

lemma eventsOf_inTurn_of_notMem (h : k ∉ turns) :
    eventsOf k (inTurn answer programs s turns) = [] := by
  induction turns with
  | nil => rfl
  | cons j earlier ih =>
    rw [List.mem_cons, not_or] at h
    rw [eventsOf_inTurn_of_ne (Ne.symm h.1), ih h.2]

/-- The events of the last program. -/
lemma eventsOf_inTurn (h : k ∉ earlier) : eventsOf k (inTurn answer programs s (k :: earlier)) =
    ((programs k).exec (answer k) (stateAfter s (inTurn answer programs s earlier))).1 := by
  rw [inTurn, eventsOf_append, eventsOf_inTurn_of_notMem h, eventsOf_soloMoments, List.nil_append]

/-- Programs that run one after the other are an interleaving. -/
theorem interleaving_inTurn (hturns : turns.Nodup)
    (hanswer : ∀ k s op, step s ⟨op, (answer k s op).1⟩ (answer k s op).2) :
    Interleaving step programs s (inTurn answer programs s turns) := by
  induction turns with
  | nil => exact ⟨fun k => ⟨_, Runs.refl _⟩, fun past moment future heq => by simp [inTurn] at heq⟩
  | cons k earlier ih =>
    obtain ⟨hfresh, hearlier⟩ := List.nodup_cons.mp hturns
    exact (ih hearlier).solo (eventsOf_inTurn_of_notMem hfresh) (hanswer k)

end Turns

end Program
end AgentGateway.Lib
