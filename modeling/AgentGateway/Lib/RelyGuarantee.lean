import AgentGateway.Lib.Interleaving

/-!
# What programs rely on and guarantee

To reason about one of many programs, it is enough to know what the others never undo. A contract
says how a request changes the surroundings, what is always true of them, and in which direction
they may move between two requests of one program. A program is safe if each of its requests keeps
the contract, whatever the others do in between, and if it ends in its postcondition.

* `Contract.Safe`: the condition on one program, with a rule for each way to build a program,
* `Contract.SafeOk`: the same for a program that may raise,
* `Contract.interleaving`: safe programs that take turns keep the contract.
-/

namespace AgentGateway.Lib
namespace Program

/-- What all programs of a system keep. -/
structure Contract (σ ι : Type) (ρ : ι → Type) where
  step : σ → Event ι ρ → σ → Prop
  inv : σ → Prop
  rely : σ → σ → Prop
  refl : ∀ s, rely s s
  trans : ∀ {a b c}, rely a b → rely b c → rely a c

/-- Nothing has happened yet. -/
lemma runs_nil {ι α : Type} {ρ : ι → Type} {p q : Program ι ρ α} : Runs p [] q ↔ q = p := by
  constructor
  · intro h
    generalize hevents : ([] : List (Event ι ρ)) = events at h
    cases h with
    | refl => rfl
    | call h => cases hevents
  · rintro rfl
    exact Runs.refl q

/-- A program that has ended makes no more requests. -/
lemma Returns.eq_nil {ι α : Type} {ρ : ι → Type} {p q : Program ι ρ α}
    {events events' : List (Event ι ρ)} {a : α} (h : Returns p events a)
    (hruns : Runs p (events ++ events') q) : events' = [] := by
  unfold Returns at h
  generalize hdone : Program.done a = d at h
  induction h with
  | refl program =>
    rw [← hdone] at hruns
    cases hruns
    rfl
  | call h ih => exact ih (runs_call_cons.mp hruns) hdone

namespace Contract

variable {κ σ ι α β ε : Type} {ρ : ι → Type} {C : Contract σ ι ρ} {s s' : σ}

/-- From any time on when the surroundings have been `s`, the program keeps the contract, and its
result is as it should be. -/
def Safe (C : Contract σ ι ρ) (post : α → σ → Prop) : Program ι ρ α → σ → Prop
  | .done a, s => ∀ u, C.rely s u → C.inv u → post a u
  | .call op next, s => ∀ u reply u', C.rely s u → C.inv u → C.step u ⟨op, reply⟩ u' →
      C.inv u' ∧ C.rely u u' ∧ C.Safe post (next reply) u'

section Safe

variable {post post' : α → σ → Prop} {p : Program ι ρ α}

lemma safe_done {a : α} :
    C.Safe post (.done a) s ↔ ∀ u, C.rely s u → C.inv u → post a u := Iff.rfl

/-- A request is safe if it keeps the contract and the rest is safe, whatever the reply. -/
lemma safe_call {op : ι} {next : ρ op → Program ι ρ α} :
    C.Safe post (.call op next) s ↔
      ∀ u reply u', C.rely s u → C.inv u → C.step u ⟨op, reply⟩ u' →
        C.inv u' ∧ C.rely u u' ∧ C.Safe post (next reply) u' := Iff.rfl

/-- What is safe stays safe. -/
lemma Safe.of_rely (h : C.Safe post p s) (hrely : C.rely s s') : C.Safe post p s' := by
  cases p with
  | done a => exact fun u hu => h u (C.trans hrely hu)
  | call op next => exact fun u reply u' hu => h u reply u' (C.trans hrely hu)

/-- It is enough to be safe from any later time on at which the invariant holds. -/
lemma safe_of_forall (h : ∀ u, C.rely s u → C.inv u → C.Safe post p u) : C.Safe post p s := by
  cases p with
  | done a => exact fun u hu hinv => h u hu hinv u (C.refl u) hinv
  | call op next =>
    exact fun u reply u' hu hinv hstep => h u hu hinv u reply u' (C.refl u) hinv hstep

/-- The first request of a safe program. -/
lemma Safe.first {q : Program ι ρ α} {event : Event ι ρ} {mid : σ} (h : C.Safe post p s)
    (hruns : Runs p [event] q) (hrely : C.rely s mid) (hinv : C.inv mid)
    (hstep : C.step mid event s') : C.inv s' ∧ C.rely mid s' ∧ C.Safe post q s' := by
  cases p with
  | done a => cases hruns
  | call op next =>
    rcases runs_call.mp hruns with ⟨hnil, -⟩ | ⟨reply, rest, hevents, hrest⟩
    · cases hnil
    · obtain ⟨rfl, rfl⟩ := List.cons.inj hevents
      obtain rfl := runs_nil.mp hrest
      exact h mid reply s' hrely hinv hstep

/-- Postconditions may be weakened. -/
lemma Safe.mono (h : C.Safe post p s)
    (hpost : ∀ a u, C.rely s u → C.inv u → post a u → post' a u) : C.Safe post' p s := by
  induction p generalizing s with
  | done a => exact fun u hu hinv => hpost a u hu hinv (h u hu hinv)
  | call op next ih =>
    intro u reply u' hu hinv hstep
    obtain ⟨hinv', hrely, hnext⟩ := h u reply u' hu hinv hstep
    have hmoved : C.rely s u' := C.trans hu hrely
    exact ⟨hinv', hrely, ih reply hnext fun a v hv => hpost a v (C.trans hmoved hv)⟩

/-- The second part of a composed program has to be safe from wherever the first part ends. -/
lemma Safe.bind {post : β → σ → Prop} {f : α → Program ι ρ β}
    (h : C.Safe (fun a u => C.Safe post (f a) u) p s) : C.Safe post (p >>= f) s := by
  induction p generalizing s with
  | done a => exact safe_of_forall h
  | call op next ih =>
    intro u reply u' hu hinv hstep
    obtain ⟨hinv', hrely, hnext⟩ := h u reply u' hu hinv hstep
    exact ⟨hinv', hrely, ih reply hnext⟩

end Safe

/-! ### Exceptions -/

/-- A program that may raise: the result has the postcondition, or the exception is one of these. -/
def SafeOk (C : Contract σ ι ρ) (raised : ε → Prop) (post : α → σ → Prop)
    (p : Program ι ρ (Except ε α)) (s : σ) : Prop :=
  C.Safe (fun result u =>
    match result with
    | .ok a => post a u
    | .error error => raised error) p s

section SafeOk

variable {raised : ε → Prop} {post post' : α → σ → Prop} {p : Program ι ρ (Except ε α)}

lemma safeOk_ok {a : α} (h : ∀ u, C.rely s u → C.inv u → post a u) :
    C.SafeOk raised post (.done (.ok a)) s := h

/-- A request whose reply is the result. -/
lemma safeOk_request {op : ι} {post : ρ op → σ → Prop}
    (h : ∀ u reply u', C.rely s u → C.inv u → C.step u ⟨op, reply⟩ u' →
      C.inv u' ∧ C.rely u u' ∧ ∀ v, C.rely u' v → C.inv v → post reply v) :
    C.SafeOk raised post (.call op fun reply => .done (.ok reply)) s := h

lemma safeOk_error {error : ε} (h : raised error) : C.SafeOk raised post (.done (.error error)) s :=
  fun _ _ _ => h

lemma SafeOk.mono (h : C.SafeOk raised post p s)
    (hpost : ∀ a u, C.rely s u → C.inv u → post a u → post' a u) : C.SafeOk raised post' p s := by
  refine Safe.mono h fun result u hu hinv hresult => ?_
  cases result with
  | ok a => exact hpost a u hu hinv hresult
  | error error => exact hresult

/-- What comes after a safe program has to be safe where it ends. -/
lemma SafeOk.bindOk {post : β → σ → Prop} {f : α → Program ι ρ (Except ε β)}
    (h : C.SafeOk raised (fun a u => C.SafeOk raised post (f a) u) p s) :
    C.SafeOk raised post (p.bindOk f) s := by
  refine Safe.bind (Safe.mono h fun result u _ _ hresult => ?_)
  cases result with
  | ok a => exact hresult
  | error error => exact safeOk_error hresult

/-- The second part may count on what the first part ends with, and on what was known before. -/
lemma SafeOk.andThen {post : β → σ → Prop} {first : α → σ → Prop}
    {f : α → Program ι ρ (Except ε β)} (h : C.SafeOk raised first p s)
    (hnext : ∀ a u, C.rely s u → C.inv u → first a u → C.SafeOk raised post (f a) u) :
    C.SafeOk raised post (p.bindOk f) s :=
  (h.mono hnext).bindOk

end SafeOk

-- The conditions are used through their rules only.
attribute [irreducible] Safe SafeOk

/-! ## Systems -/

/-- What a program that may raise ends with. -/
lemma SafeOk.safe {raised : ε → Prop} {post : α → σ → Prop} {p : Program ι ρ (Except ε α)}
    (h : C.SafeOk raised post p s) : C.Safe (fun result u =>
      match result with
      | .ok a => post a u
      | .error error => raised error) p s := by
  unfold SafeOk at h
  exact h

/-- The contract of one program whose replies have a property of their own. -/
def restrict (C : Contract σ ι ρ) (own : Event ι ρ → Prop) : Contract σ ι ρ :=
  { C with step := fun s event s' => C.step s event s' ∧ own event }

lemma restrict_true : C.restrict (fun _ => True) = C := by
  cases C
  simp [restrict]

variable [DecidableEq κ] {programs : κ → Program ι ρ α} {post : κ → α → σ → Prop}
  {env : σ → σ → Prop} {trace : List (Moment κ σ ι ρ)}

/-- Safe programs that take turns keep the contract, and what is left of each of them is safe. Others
may change the surroundings before each request, as far as the contract allows it. -/
theorem interleaving_restrict (own : κ → Event ι ρ → Prop)
    (h : Interleaving (fun s event s' => ∃ mid, env s mid ∧ C.step mid event s') programs s trace)
    (henv : ∀ s s', C.inv s → env s s' → C.inv s' ∧ C.rely s s')
    (hown : ∀ moment ∈ trace, own moment.who moment.event)
    (hinv : C.inv s) (hsafe : ∀ k, (C.restrict (own k)).Safe (post k) (programs k) s) :
    C.inv (stateAfter s trace) ∧ C.rely s (stateAfter s trace) ∧
      ∀ k p, (programs k).Runs (eventsOf k trace) p →
        (C.restrict (own k)).Safe (post k) p (stateAfter s trace) := by
  induction trace using List.reverseRecOn with
  | nil =>
    refine ⟨hinv, C.refl s, fun k p hruns => ?_⟩
    obtain rfl := runs_nil.mp hruns
    exact hsafe k
  | append_singleton trace moment ih =>
    obtain ⟨hinv', hrely', hleft⟩ := ih h.of_append fun moment' hmem =>
      hown moment' (List.mem_append_left _ hmem)
    obtain ⟨mid, hmid, hstep⟩ := h.steps trace moment [] rfl
    obtain ⟨hmidInv, hmidRely⟩ := henv _ _ hinv' hmid
    have hmomentOwn := hown moment (List.mem_append_right _ (List.mem_singleton_self _))
    -- what the program of this moment does with the reply
    have hmine : ∀ p, (programs moment.who).Runs (eventsOf moment.who (trace ++ [moment])) p →
        C.inv moment.state ∧ C.rely mid moment.state ∧
          (C.restrict (own moment.who)).Safe (post moment.who) p moment.state := by
      intro p hruns
      rw [eventsOf_append, eventsOf_cons_self, eventsOf_nil] at hruns
      obtain ⟨q, hpast, hlast⟩ := hruns.of_append
      exact (hleft moment.who q hpast).first hlast hmidRely hmidInv ⟨hstep, hmomentOwn⟩
    obtain ⟨rest, hrest⟩ := h.runs moment.who
    obtain ⟨hnow, hguarantee, -⟩ := hmine rest hrest
    have hmoved : C.rely (stateAfter s trace) moment.state := C.trans hmidRely hguarantee
    rw [stateAfter_concat]
    refine ⟨hnow, C.trans hrely' hmoved, fun k p hruns => ?_⟩
    by_cases hk : moment.who = k
    · subst hk
      exact (hmine p hruns).2.2
    · rw [eventsOf_append, eventsOf_cons_of_ne hk, eventsOf_nil, List.append_nil] at hruns
      exact (hleft k p hruns).of_rely hmoved

/-- The result of a program that has ended is as it should be, then and ever after. -/
theorem interleaving_restrict_returns (own : κ → Event ι ρ → Prop)
    (h : Interleaving (fun s event s' => ∃ mid, env s mid ∧ C.step mid event s') programs s trace)
    (henv : ∀ s s', C.inv s → env s s' → C.inv s' ∧ C.rely s s')
    (hown : ∀ moment ∈ trace, own moment.who moment.event)
    (hinv : C.inv s) (hsafe : ∀ k, (C.restrict (own k)).Safe (post k) (programs k) s) {k : κ}
    {a : α} (hreturns : (programs k).Returns (eventsOf k trace) a) :
    post k a (stateAfter s trace) := by
  obtain ⟨hinv', -, hleft⟩ := interleaving_restrict own h henv hown hinv hsafe
  exact safe_done.mp (hleft k (.done a) hreturns) _ (C.refl _) hinv'

section Alone

variable (h : Interleaving C.step programs s trace) (hinv : C.inv s)
  (hsafe : ∀ k, C.Safe (post k) (programs k) s)

include h hinv hsafe

/-- Programs with nothing of their own, and with nobody else in their surroundings. -/
theorem interleaving : C.inv (stateAfter s trace) ∧ C.rely s (stateAfter s trace) ∧
    ∀ k p, (programs k).Runs (eventsOf k trace) p → C.Safe (post k) p (stateAfter s trace) := by
  have halone : Interleaving (fun s event s' => ∃ mid, s = mid ∧ C.step mid event s') programs s
      trace := h.weaken fun _ _ _ hstep => ⟨_, rfl, hstep⟩
  have hrestrict := interleaving_restrict (fun _ _ => True) halone
    (fun s _ hinv heq => heq ▸ ⟨hinv, C.refl s⟩) (fun _ _ => trivial) hinv fun k =>
      (restrict_true (C := C)).symm ▸ hsafe k
  rwa [restrict_true] at hrestrict

theorem interleaving_returns {k : κ} {a : α}
    (hreturns : (programs k).Returns (eventsOf k trace) a) : post k a (stateAfter s trace) := by
  obtain ⟨hinv', -, hleft⟩ := interleaving h hinv hsafe
  exact safe_done.mp (hleft k (.done a) hreturns) _ (C.refl _) hinv'

end Alone

end Contract
end Program
end AgentGateway.Lib
