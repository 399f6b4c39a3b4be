import AgentGateway.Polling.Database

/-!
# One cycle

`poll_once` goes on with the next chat after a chat has failed. The list may show a conversation
twice, and then a failure of the first entry must keep the second one from handing over messages
out of order.
-/

namespace AgentGateway.Polling.WechatPollingService

open Lib Lib.Program

variable {service : WechatPollingService} {sourceAccountId : String} {entry : ChatEntry}
  {entries : List ChatEntry} {failed : List String} {events : List PollEvent}
  {lifecycle state : WechatPollingLifecycleState} {results : List ChatPollResult}

/-- A conversation that has failed is left alone. -/
lemma pollChat_of_failed {conversationId : String} {name : Option String} {out : ChatOutcome}
    (hparse : parseChat entry = .ok (conversationId, name)) (hfailed : conversationId ∈ failed)
    (h : (service.pollChat sourceAccountId entry failed lifecycle).Returns events out) :
    events = [] ∧ ∀ result, out.2 = .ok result → result.succeeded = false := by
  unfold pollChat at h
  rw [hparse] at h
  dsimp only at h
  rw [if_pos hfailed] at h
  obtain ⟨rfl, rfl⟩ := returns_done.mp h
  refine ⟨rfl, fun result hresult => ?_⟩
  cases hresult
  rfl

/-- The conversations that have failed are those of the results that say so. -/
lemma mem_foldl_addFailed {conversationId : String} :
    conversationId ∈ results.foldl addFailed failed ↔ conversationId ∈ failed ∨
      ∃ result ∈ results, result.succeeded = false ∧
        result.conversationId = some conversationId := by
  induction results generalizing failed with
  | nil => simp
  | cons result results ih =>
    have hfirst : conversationId ∈ addFailed failed result ↔ conversationId ∈ failed ∨
        result.succeeded = false ∧ result.conversationId = some conversationId := by
      unfold addFailed
      cases result.succeeded <;> simp
    rw [List.foldl_cons, ih, hfirst, or_assoc, List.exists_mem_cons_iff]

/-- Each block of requests is a run of `_poll_chat` on its entry, which was told of the
conversations that had failed before and ended with the result of the entry. -/
def PolledBy (service : WechatPollingService) (sourceAccountId : String) (entries : List ChatEntry)
    (failed : List String) (segments : List (List PollEvent)) (results : List ChatPollResult) :
    Prop :=
  ∀ (j : ℕ) segment, segments[j]? = some segment →
    ∃ entry result before after, entries[j]? = some entry ∧ results[j]? = some result ∧
      (service.pollChat sourceAccountId entry ((results.take j).foldl addFailed failed)
        before).Returns segment (after, .ok result)

/-- What the later entries of failed conversations ask for and report: nothing, and a failure. -/
def SkipsFailed (entries : List ChatEntry) (segments : List (List PollEvent))
    (results : List ChatPollResult) : Prop :=
  ∀ (i j : ℕ) entry conversationId name earlier, i < j → entries[j]? = some entry →
    parseChat entry = .ok (conversationId, name) → results[i]? = some earlier →
    earlier.succeeded = false → earlier.conversationId = some conversationId →
    segments[j]? = some [] ∧ ∃ result : ChatPollResult, results[j]? = some result ∧
      result.succeeded = false

/-- The loop over the chats is one run of `_poll_chat` after the other. -/
lemma pollChats_returns
    (h : (service.pollChats sourceAccountId entries failed lifecycle).Returns events
      (state, .ok results)) :
    results.length = entries.length ∧ ∃ segments : List (List PollEvent),
      events = segments.flatten ∧ segments.length = entries.length ∧
      service.PolledBy sourceAccountId entries failed segments results := by
  induction entries generalizing failed lifecycle events results with
  | nil =>
    obtain ⟨rfl, hout⟩ := returns_done.mp h
    cases hout
    exact ⟨rfl, [], rfl, rfl, fun _ _ h => absurd h (by simp)⟩
  | cons entry rest ih =>
    obtain ⟨first, ⟨state', polled⟩, later, rfl, hfirst, hlater⟩ := returns_bind.mp h
    cases polled with
    | error error => cases (returns_pure.mp hlater).2
    | ok result =>
      obtain ⟨middle, ⟨state'', polled⟩, last, rfl, hmiddle, hlast⟩ := returns_bind.mp hlater
      obtain ⟨rfl, hout⟩ := returns_pure.mp hlast
      cases polled with
      | error error => cases hout
      | ok results' =>
        cases hout
        obtain ⟨hlength, segments, rfl, hsegments, hpolled⟩ := ih hmiddle
        refine ⟨congrArg (· + 1) hlength, first :: segments, by simp,
          congrArg (· + 1) hsegments, fun j segment hsegment => ?_⟩
        cases j with
        | zero =>
          cases hsegment
          exact ⟨entry, result, lifecycle, state', rfl, rfl, hfirst⟩
        | succ j => exact hpolled j segment hsegment

/-- A run of `_poll_chat` on an entry of a conversation that has failed is empty. -/
lemma PolledBy.skipsFailed {segments : List (List PollEvent)}
    (h : service.PolledBy sourceAccountId entries failed segments results)
    (hlength : segments.length = entries.length) : SkipsFailed entries segments results := by
  intro i j entry conversationId name earlier hij hentry hparse hearlier hnot hsame
  obtain ⟨hj, -⟩ := List.getElem?_eq_some_iff.mp hentry
  have hsegment := List.getElem?_eq_getElem (hlength ▸ hj)
  obtain ⟨entry', result, before, after, hentry', hresult, hreturns⟩ := h j _ hsegment
  cases hentry.symm.trans hentry'
  have hfailed : conversationId ∈ (results.take j).foldl addFailed failed := by
    refine mem_foldl_addFailed.mpr (Or.inr ⟨earlier, ?_, hnot, hsame⟩)
    exact List.mem_of_getElem? ((List.getElem?_take_of_lt hij).trans hearlier)
  obtain ⟨hempty, hnotOk⟩ := pollChat_of_failed hparse hfailed hreturns
  exact ⟨hempty ▸ hsegment, result, hresult, hnotOk result rfl⟩

/-- **A cycle polls every chat and leaves failed conversations alone.** The requests of a `poll_once`
that returns are those of one `_poll_chat` for each entry of the list, in the order of the list and
with the result of the entry; and once an entry has failed, the later entries of its conversation
cause no request at all. -/
theorem pollOnce_leaves_failed_alone {auth : AgentWechatAuthStatus} {chats : List ChatEntry}
    {result : PollResult}
    (h : (service.pollOnce lifecycle).Returns
      (⟨.getAuthStatus, .ok auth⟩ :: ⟨.listChats, .ok chats⟩ :: events) (state, .ok result)) :
    result.chatResults.length = chats.length ∧ ∃ sourceAccountId segments,
      auth.sourceAccountId = some sourceAccountId ∧ events = List.flatten segments ∧
      segments.length = chats.length ∧
      service.PolledBy sourceAccountId chats [] segments result.chatResults ∧
      SkipsFailed chats segments result.chatResults := by
  obtain ⟨reply, rest, heq, hauth⟩ := returns_call.mp h
  cases heq
  dsimp only at hauth
  split at hauth
  · cases (returns_done.mp hauth).1
  · split at hauth
    · cases (returns_done.mp hauth).1
    · rename_i sourceAccountId haccount
      obtain ⟨reply, rest, heq, hchats⟩ := returns_call.mp hauth
      cases heq
      obtain ⟨first, ⟨state', polled⟩, last, rfl, hfirst, hlast⟩ := returns_bind.mp hchats
      cases polled with
      | error error => cases (returns_pure.mp hlast).2
      | ok results =>
        obtain ⟨rfl, hout⟩ := returns_pure.mp hlast
        cases hout
        rw [List.append_nil]
        obtain ⟨hresults, segments, hevents, hsegments, hpolled⟩ := pollChats_returns hfirst
        exact ⟨hresults, sourceAccountId, segments, haccount, hevents, hsegments, hpolled,
          hpolled.skipsFailed hsegments⟩

/-- The client lists a friend twice and fails to read their messages: the second entry is a block
without requests. -/
theorem pollOnce_leaves_failed_alone_twice : ∃ segments : List (List PollEvent),
    [⟨.listMessages "friend", .error .other⟩] = segments.flatten ∧ segments[1]? = some [] := by
  have h : (pollOnce ⟨.latest, coarseCodecs⟩ .initial).Returns
      [⟨.getAuthStatus, .ok ⟨"logged_in", some "me"⟩⟩, ⟨.listChats, .ok [friendEntry, friendEntry]⟩,
        ⟨.listMessages "friend", .error .other⟩] _ :=
    Runs.call (Runs.call (Runs.call (Runs.refl _)))
  obtain ⟨-, -, segments, -, hevents, -, -, hskips⟩ := pollOnce_leaves_failed_alone h
  exact ⟨segments, hevents, (hskips 0 1 friendEntry "friend" _ _ Nat.zero_lt_one rfl rfl rfl rfl
    rfl).1⟩

end AgentGateway.Polling.WechatPollingService
