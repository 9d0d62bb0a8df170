import Mathlib.Tactic.IntervalCases
import Mathlib.Tactic.NormNum
import Rehearsal.Proofs.ExactClock
import Rehearsal.Proofs.LaunchFailure

/-!
# Probing an endpoint

A probe checks its deadline, asks, and pauses unless the answer settled the matter. On an
exact clock that only its pauses advance it asks at most as often as the interval fits into its
time, rounded up, and it stops at the first answer that settles the matter. A launch connects
to an endpoint only on a good answer, and starts no browser of its own where it has an
endpoint to connect to.
-/

namespace Rehearsal

open Play

/-- Does the answer end a probe? -/
def Answer.settles : Answer → Bool
  | status code => code = 200
  | unreachable => false
  | unreadable => true

/-- How a probe ends after an answer that ends it. -/
def Answer.verdict : Answer → Ending Bool
  | status code => .done (code = 200)
  | unreachable => .done false
  | unreadable => .failed (.badResponse "bad response")

/-- The endpoint's answer after so many others. -/
def Stage.answer {τ : Type} (s : Stage τ) (n : Nat) : Answer :=
  s.answers[n]?.getD (s.answers.getLast?.getD (.status 200))

namespace Endpoint

section Rounds

variable {τ : Type} {url : String} {s : Stage τ}

/-- From one stage to another by a request: it takes an answer and no time. -/
structure Asked (url : String) (s t : Stage τ) : Prop where
  epoch : t.epoch = s.epoch
  now : t.now = s.now
  meanwhile : t.meanwhile = s.meanwhile
  calls : t.calls = s.calls ++ [.httpGet url]
  answer : ∀ n, t.answer n = s.answer (n + 1)

lemma asked (url : String) (s : Stage τ) : Asked url s (ask url s).2 := by
  have noted : (s.note (.httpGet url)).calls = s.calls ++ [.httpGet url] := s.note_calls rfl
  unfold ask
  rcases given : s.answers with _ | ⟨a, _ | ⟨b, rest⟩⟩ <;> dsimp only [Stage.note] <;>
    rw [given]
  · refine ⟨rfl, rfl, rfl, noted, fun n => ?_⟩
    simp [Stage.answer, given]
  · refine ⟨rfl, rfl, rfl, noted, fun n => ?_⟩
    cases n <;> simp [Stage.answer, given]
  · refine ⟨rfl, rfl, rfl, noted, fun n => ?_⟩
    simp [Stage.answer, given]

lemma ask_answer (url : String) (s : Stage τ) :
    ask url s = (.done (s.answer 0), (ask url s).2) := by
  refine Prod.ext ?_ rfl
  unfold ask Stage.answer
  rcases given : s.answers with _ | ⟨a, _ | ⟨b, rest⟩⟩ <;> simp [Stage.note, given]

variable [Clock τ] {due interval : τ} {turns : Nat}

/-- A request and the pause after it. -/
def round (url : String) (interval : τ) (s : Stage τ) : Stage τ := (ask url s).2.sleep interval

lemma poll_late (late : Clock.lt s.wall due = false) :
    poll url due interval (turns + 1) s = (.done false, s) := by
  unfold poll
  rw [bind_done (look_run _ s), late]
  rfl

lemma poll_settled (early : Clock.lt s.wall due = true) (h : (s.answer 0).settles = true) :
    poll url due interval (turns + 1) s = ((s.answer 0).verdict, (ask url s).2) := by
  unfold poll
  rw [bind_done (look_run _ s), early]
  refine (bind_done (ask_answer url s)).trans ?_
  generalize s.answer 0 = a at h ⊢
  rcases a with code | _ | _
  · obtain rfl : code = 200 := of_decide_eq_true h
    rfl
  · cases h
  · rfl

lemma poll_again (early : Clock.lt s.wall due = true) (h : (s.answer 0).settles = false) :
    poll url due interval (turns + 1) s =
      poll url due interval turns (round url interval s) := by
  conv_lhs => unfold poll
  rw [bind_done (look_run _ s), early]
  refine (bind_done (ask_answer url s)).trans ?_
  generalize s.answer 0 = a at h ⊢
  split
  · cases h
  · cases h
  · rfl

/-- Rounds that settle nothing before the deadline follow one another. -/
lemma poll_rounds (n : Nat)
    (early : ∀ k < n, Clock.lt ((round url interval)^[k] s).wall due = true)
    (unsettled : ∀ k < n, (((round url interval)^[k] s).answer 0).settles = false) :
    poll url due interval (n + turns) s =
      poll url due interval turns ((round url interval)^[n] s) := by
  induction n generalizing s with
  | zero => rw [Nat.zero_add]; rfl
  | succ n ih =>
    have first : Clock.lt s.wall due = true := early 0 (Nat.succ_pos n)
    have open' : (s.answer 0).settles = false := unsettled 0 (Nat.succ_pos n)
    rw [Nat.add_right_comm, poll_again first open',
      ih (fun k hk => early (k + 1) (Nat.succ_lt_succ hk))
        (fun k hk => unsettled (k + 1) (Nat.succ_lt_succ hk))]
    rfl

/-- A poll that succeeds ends with a request that is answered well. -/
lemma poll_true {t : Stage τ} (h : poll url due interval turns s = (.done true, t)) :
    ∃ u, ask url u = (.done (.status 200), t) := by
  induction turns generalizing s with
  | zero => cases h
  | succ turns ih =>
    cases early : Clock.lt s.wall due with
    | false => cases (poll_late early).symm.trans h
    | true =>
      cases settles : (s.answer 0).settles with
      | false => exact ih ((poll_again early settles).symm.trans h)
      | true =>
        have settled : poll url due interval (turns + 1) s =
            ((s.answer 0).verdict, (ask url s).2) := poll_settled early settles
        have verdict := settled.symm.trans h
        have asked := ask_answer url s
        refine ⟨s, ?_⟩
        rcases given : s.answer 0 with code | _ | _ <;> rw [given] at settles verdict asked
        · obtain rfl : code = 200 := of_decide_eq_true settles
          exact asked.trans (congrArg _ (congrArg Prod.snd verdict))
        · cases settles
        · cases verdict

lemma wait_true {endpoint : String} {timeout : τ} {t : Stage τ}
    (h : wait endpoint timeout interval s = (.done true, t)) :
    ∃ url u, Address.versionUrl endpoint = .ok url ∧ ask url u = (.done (.status 200), t) := by
  unfold wait at h
  rcases version : Address.versionUrl endpoint with f | url <;> rw [version] at h
  · cases h
  · dsimp only at h
    split at h
    · cases h
    · obtain ⟨u, answered⟩ := poll_true h
      exact ⟨url, u, rfl, answered⟩

lemma round_epoch (url : String) (interval : τ) (s : Stage τ) :
    (round url interval s).epoch = s.epoch :=
  ((ask url s).2.sleep_settled interval).epoch.trans (asked url s).epoch

lemma round_answer (url : String) (interval : τ) (s : Stage τ) (n : Nat) :
    (round url interval s).answer n = s.answer (n + 1) := by
  rw [← (asked url s).answer]
  unfold Stage.answer round
  rw [((ask url s).2.sleep_settled interval).answers]

lemma round_calls (url : String) (interval : τ) (s : Stage τ) :
    (round url interval s).calls = s.calls ++ [.httpGet url, .sleep interval] := by
  rw [round, Stage.sleep_calls, (asked url s).calls, List.append_assoc]
  rfl

omit [Clock τ] in
lemma steady_ask (h : s.Steady) : (ask url s).2.Steady := by
  unfold Stage.Steady
  rw [(asked url s).meanwhile]
  exact h

lemma rounds_answer (n k : Nat) :
    ((round url interval)^[n] s).answer k = s.answer (n + k) := by
  induction n generalizing k with
  | zero => rw [Nat.zero_add]; rfl
  | succ n ih => rw [Function.iterate_succ_apply', round_answer, ih, Nat.add_right_comm]; rfl

lemma rounds_calls (n : Nat) : ((round url interval)^[n] s).calls =
    s.calls ++ (List.replicate n [.httpGet url, .sleep interval]).flatten := by
  induction n with
  | zero => exact (List.append_nil _).symm
  | succ n ih =>
    rw [Function.iterate_succ_apply', round_calls, ih, List.append_assoc, List.replicate_succ',
      List.flatten_append, List.flatten_singleton]

end Rounds

variable {url : String} {interval : ℚ} {s : Stage ℚ}

/-- Rounds take as long as their pauses. -/
lemma rounds_wall (steady : s.Steady) (n : Nat) :
    ((round url interval)^[n] s).Steady ∧
      ((round url interval)^[n] s).wall = s.wall + n * interval := by
  induction n with
  | zero => exact ⟨steady, by rw [Nat.cast_zero, zero_mul, add_zero]; rfl⟩
  | succ n ih =>
    obtain ⟨steady, wall⟩ := ih
    rw [Function.iterate_succ_apply']
    refine ⟨(steady_ask steady).sleep interval, ?_⟩
    have clock : (round url interval ((round url interval)^[n] s)).wall =
        ((round url interval)^[n] s).wall + interval := by
      unfold Stage.wall Clock.wall
      rw [round_epoch, round, (steady_ask steady).sleep_now, (asked url _).now, Clock.add_exact,
        Clock.add_exact, Clock.add_exact, add_assoc]
    rw [clock, wall]
    push_cast
    ring

/-- How many requests a probe has time for. -/
def requests (timeout interval : ℚ) : Nat := ⌈max timeout 1 / interval⌉₊

/-- The calls of a probe before its request of that number, the first being number zero. -/
def callsBefore (url : String) (interval : ℚ) (n : Nat) : List (Call ℚ) :=
  .httpClient :: (List.replicate n [.httpGet url, .sleep interval]).flatten

/-- How a probe ends that has time for so many requests, where the endpoint answers so. -/
inductive Probed (url : String) (interval : ℚ) (limit : Nat) (answers : Nat → Answer)
    (s : Stage ℚ) : Ending Bool → Stage ℚ → Prop
  | answered {n : Nat} {t : Stage ℚ} (within : n < limit)
      (before : ∀ k < n, (answers k).settles = false) (h : answers n = .status 200)
      (calls : t.calls = s.calls ++ (callsBefore url interval n ++ [.httpGet url])) :
      Probed url interval limit answers s (.done true) t
  | unreadable {n : Nat} {t : Stage ℚ} (within : n < limit)
      (before : ∀ k < n, (answers k).settles = false) (h : answers n = .unreadable)
      (calls : t.calls = s.calls ++ (callsBefore url interval n ++ [.httpGet url])) :
      Probed url interval limit answers s (.failed (.badResponse "bad response")) t
  | late {t : Stage ℚ} (unsettled : ∀ k < limit, (answers k).settles = false)
      (calls : t.calls = s.calls ++ callsBefore url interval limit) :
      Probed url interval limit answers s (.done false) t

lemma Probed.settled {limit : Nat} {answers : Nat → Answer} {n : Nat} {t : Stage ℚ}
    (within : n < limit) (before : ∀ k < n, (answers k).settles = false)
    (h : (answers n).settles = true)
    (calls : t.calls = s.calls ++ (callsBefore url interval n ++ [.httpGet url])) :
    Probed url interval limit answers s (answers n).verdict t := by
  rcases given : answers n with code | _ | _ <;> rw [given] at h
  · obtain rfl : code = 200 := of_decide_eq_true h
    exact .answered within before given calls
  · cases h
  · exact .unreadable within before given calls

section Tried

/-- The stage of a probe after so many rounds. -/
def tried (url : String) (interval : ℚ) (s : Stage ℚ) (n : Nat) : Stage ℚ :=
  (round url interval)^[n] (s.note .httpClient)

lemma tried_calls (n : Nat) :
    (tried url interval s n).calls = s.calls ++ callsBefore url interval n := by
  rw [tried, rounds_calls, s.note_calls rfl, List.append_assoc]
  rfl

lemma tried_answer (n : Nat) : (tried url interval s n).answer 0 = s.answer n :=
  rounds_answer n 0

/-- There is time for a request as long as the limit is not reached. -/
lemma early_iff (url : String) (positive : 0 < interval) (steady : s.Steady) (timeout : ℚ)
    (n : Nat) :
    Clock.lt (tried url interval s n).wall (Clock.add s.wall (Clock.atLeastOne timeout)) = true ↔
      n < requests timeout interval := by
  have wall : (tried url interval s n).wall = s.wall + n * interval :=
    (rounds_wall (s := s.note .httpClient) steady n).2
  rw [Clock.lt_exact, wall, Clock.add_exact, Clock.atLeastOne_exact, requests, Nat.lt_ceil,
    lt_div_iff₀ positive]
  exact add_lt_add_iff_left _

/-- As long as nothing is settled, the rounds before the limit leave one more turn. -/
lemma poll_reaches (url : String) (positive : 0 < interval) (steady : s.Steady) {timeout : ℚ}
    (patient : requests timeout interval < s.patience) {n : Nat}
    (within : n ≤ requests timeout interval)
    (unsettled : ∀ k < n, (s.answer k).settles = false) :
    ∃ turns, poll url (Clock.add s.wall (Clock.atLeastOne timeout)) interval s.patience
        (s.note .httpClient) =
      poll url (Clock.add s.wall (Clock.atLeastOne timeout)) interval (turns + 1)
        (tried url interval s n) := by
  obtain ⟨turns, enough⟩ := Nat.exists_eq_add_of_lt (Nat.lt_of_le_of_lt within patient)
  refine ⟨turns, ?_⟩
  rw [enough, Nat.add_assoc]
  refine poll_rounds n (fun k hk => ?_) fun k hk => ?_
  · exact (early_iff url positive steady timeout k).mpr (Nat.lt_of_lt_of_le hk within)
  · exact (congrArg Answer.settles (tried_answer k)).trans (unsettled k hk)

end Tried

/-- A probe of a located endpoint asks for the version there. -/
lemma wait_located {endpoint scheme authority : String} (timeout : ℚ)
    (address : Address.split endpoint = .ok (scheme, authority)) (located : authority ≠ "") :
    wait endpoint timeout interval s =
      poll (Address.requestScheme scheme ++ "://" ++ authority ++ "/json/version")
        (Clock.add s.wall (Clock.atLeastOne timeout)) interval s.patience
        (s.note .httpClient) := by
  have version : Address.versionUrl endpoint =
      .ok (Address.requestScheme scheme ++ "://" ++ authority ++ "/json/version") := by
    unfold Address.versionUrl
    rw [address]
    exact congrArg _ (if_neg located)
  unfold wait
  rw [version]
  dsimp only
  rw [if_neg (by simp)]
  rfl

/-- A probe stops at the first answer that settles the matter, if it has time to ask for it. -/
lemma wait_probed {endpoint scheme authority : String} {timeout : ℚ} {answers : Nat → Answer}
    (address : Address.split endpoint = .ok (scheme, authority)) (located : authority ≠ "")
    (positive : 0 < interval) (steady : s.Steady) (patient : requests timeout interval < s.patience)
    (given : ∀ n < requests timeout interval, s.answer n = answers n) :
    ∃ e t, wait endpoint timeout interval s = (e, t) ∧
      Probed (Address.requestScheme scheme ++ "://" ++ authority ++ "/json/version") interval
        (requests timeout interval) answers s e t := by
  rw [wait_located timeout address located]
  generalize Address.requestScheme scheme ++ "://" ++ authority ++ "/json/version" = url
  by_cases settles : ∃ n, n < requests timeout interval ∧ (s.answer n).settles = true
  · classical
    obtain ⟨within, settled⟩ := Nat.find_spec settles
    have before : ∀ k < Nat.find settles, (s.answer k).settles = false := by
      intro k hk
      have missed := Nat.find_min settles hk
      rw [not_and, Bool.not_eq_true] at missed
      exact missed (hk.trans within)
    generalize Nat.find settles = n at within settled before
    obtain ⟨turns, reached⟩ := poll_reaches url positive steady patient (le_of_lt within) before
    have early := (early_iff url positive steady timeout n).mpr within
    refine ⟨_, _, reached.trans (poll_settled early ((tried_answer n).symm ▸ settled)), ?_⟩
    rw [tried_answer, given n within]
    refine .settled within (fun k hk => ?_) (given n within ▸ settled) ?_
    · rw [← given k (hk.trans within)]
      exact before k hk
    · rw [(asked _ _).calls, tried_calls, List.append_assoc]
  · have unsettled : ∀ k < requests timeout interval, (s.answer k).settles = false := by
      intro k hk
      exact Bool.not_eq_true _ ▸ fun settled => settles ⟨k, hk, settled⟩
    obtain ⟨turns, reached⟩ := poll_reaches url positive steady patient (le_refl _) unsettled
    have ended := Bool.eq_false_iff.mpr fun early =>
      lt_irrefl _ ((early_iff url positive steady timeout _).mp early)
    refine ⟨_, _, reached.trans (poll_late ended), .late (fun k hk => ?_) (tried_calls _)⟩
    rw [← given k hk]
    exact unsettled k hk

end Endpoint

/-- Does the call come by a browser? -/
def Call.obtains {τ : Type} : Call τ → Bool
  | .service c => c.obtains
  | _ => false

lemma Call.obtains_of_plain {τ : Type} {c : Call τ} (h : c.isService = false) :
    c.obtains = false := by
  cases c <;> first | rfl | cases h

lemma Browser.service_called (c : ServiceCall) (s : Stage Float) :
    Stage.Called [.service c] s (Browser.service c s).2 := by
  rcases fault : s.faults.lookup c.name with _ | message
  · rw [Browser.service_done fault]
    exact .note s _
  · rw [Browser.service_failed fault]
    exact .note s _

namespace Session

variable (settings : Settings) (s : Stage Float)

/-- Calls of a launch that has an endpoint. It launches no browser, and where it connects to
the endpoint, the last request before had a good answer. -/
structure Attached (calls : List (Call Float)) : Prop where
  foreign : ∀ headless args, .service (.launch headless args) ∉ calls
  answered : ∀ before endpoint after, calls = before ++ .service (.connect endpoint) :: after →
    endpoint = settings .cdpUrl ∧
    ∃ url u t, Address.versionUrl endpoint = .ok url ∧
      probe settings (s.note (.service .start)) = (.done true, t) ∧
      Endpoint.ask url u = (.done (.status 200), t) ∧ t.trace = s.trace ++ before

variable {settings s}

lemma Attached.of_plain {calls : List (Call Float)} (plain : ∀ c ∈ calls, c.obtains = false) :
    Attached settings s calls := by
  refine ⟨fun headless args mem => ?_, ?_⟩
  · cases plain _ mem
  · rintro before endpoint after rfl
    cases plain (.service (.connect endpoint)) (by simp)

lemma Attached.of_connect {asked rest : List (Call Float)} {t : Stage Float}
    (h : probe settings (s.note (.service .start)) = (.done true, t))
    (called : Stage.Called asked s t) (before : ∀ c ∈ asked, c.obtains = false)
    (after : ∀ c ∈ rest, c.obtains = false) :
    Attached settings s (asked ++ .service (.connect (settings .cdpUrl)) :: rest) := by
  constructor
  · intro headless args mem
    rcases List.mem_append.mp mem with mem | mem
    · cases before _ mem
    · rcases List.mem_cons.mp mem with same | mem
      · cases same
      · cases after _ mem
  · intro pre endpoint post split
    have alone : Call.service (.connect endpoint) ∉ asked ∧
        Call.service (.connect endpoint) ∉ rest := by
      constructor <;> intro mem
      · cases before _ mem
      · cases after _ mem
    obtain ⟨rfl, same, -⟩ := (List.append_cons_inj_of_notMem alone.1 alone.2).mp split
    cases same
    obtain ⟨url, u, version, answered⟩ := Endpoint.wait_true h
    exact ⟨rfl, url, u, t, version, h, answered, called.trace⟩

/-- What follows once a browser has been come by, or has not, calls for no other. -/
lemma launch_rest (started : s.faults.lookup ServiceCall.start.name = none) : ∃ rest,
    Stage.Called rest (obtain settings (s.note (.service .start))).2 (launch settings s).2 ∧
      ∀ c ∈ rest, c.obtains = false := by
  rcases ho : obtain settings (s.note (.service .start)) with ⟨⟨⟩ | f | _, t⟩
  · have left {f : Failure} {u : Stage Float} {calls : List (Call Float)}
        (hc : openContext settings t = (.failed f, u)) (called : Stage.Called calls t u) :
        Stage.Called (calls ++ [.service .closeBrowser] ++ [.service .stop]) t
          (launch settings s).2 := by
      rw [launch_unfurnished started ho hc]
      exact (called.trans (.note _ _)).trans (.note _ _)
    rcases furnished settings t with
      ⟨-, -, page, u, hc, called⟩ | ⟨-, f, u, hc, called⟩ | ⟨-, -, f, u, hc, called⟩
    · obtain ⟨v, hv, begun⟩ := begin_called page (settings .browserTimeout) u
      rw [launch_furnished started ((bind_done ho).trans hc), hv]
      refine ⟨_, called.trans begun, ?_⟩
      simp [Call.obtains, ServiceCall.obtains]
    · refine ⟨_, left hc called, ?_⟩
      simp [Call.obtains, ServiceCall.obtains]
    · refine ⟨_, left hc called, ?_⟩
      simp [Call.obtains, ServiceCall.obtains]
  · rw [launch_unobtained started ho]
    refine ⟨_, .note t (.service .stop), ?_⟩
    simp [Call.obtains, ServiceCall.obtains]
  · rw [launch_endless started (bind_endless ho)]
    exact ⟨[], .of_same rfl rfl rfl rfl, by simp⟩

lemma launch_attached (remote : (settings .cdpUrl : String) ≠ "") : ∃ calls,
    Stage.Called calls s (launch settings s).2 ∧ Attached settings s calls := by
  rcases started : s.faults.lookup ServiceCall.start.name with _ | message
  · obtain ⟨rest, after, plain⟩ : ∃ rest,
        Stage.Called rest (obtain settings (s.note (.service .start))).2 (launch settings s).2 ∧
          ∀ c ∈ rest, c.obtains = false := launch_rest started
    obtain ⟨asked, probed, silent⟩ := probe_called settings (s.note (.service .start))
    have begun := (Stage.Called.note s (.service .start)).trans probed
    have before : ∀ c ∈ [.service .start] ++ asked, c.obtains = false := by
      intro c mem
      rcases List.mem_append.mp mem with mem | mem
      · cases List.mem_singleton.mp mem
        rfl
      · exact Call.obtains_of_plain (silent c mem)
    have unconnected {t : Stage Float}
        (reached : (obtain settings (s.note (.service .start))).2 = t)
        (begun : Stage.Called ([.service .start] ++ asked) s t) : ∃ calls,
        Stage.Called calls s (launch settings s).2 ∧ Attached settings s calls := by
      rw [reached] at after
      refine ⟨_, begun.trans after, .of_plain fun c mem => ?_⟩
      exact (List.mem_append.mp mem).elim (before c) (plain c)
    rcases hp : probe settings (s.note (.service .start)) with ⟨up | f | _, t⟩ <;>
      rw [hp] at begun
    · cases up with
      | true =>
        rw [obtain_remote remote, bind_done hp] at after
        have connected := Browser.service_called (.connect (settings .cdpUrl)) t
        refine ⟨_, (begun.trans connected).trans after, ?_⟩
        rw [List.append_assoc]
        exact .of_connect hp begun before plain
      | false =>
        refine unconnected ?_ begun
        rw [obtain_remote remote, bind_done hp]
        rfl
    · refine unconnected ?_ begun
      rw [obtain_remote remote, bind_failed hp]
    · refine unconnected ?_ begun
      rw [obtain_remote remote, bind_endless hp]
  · unfold launch
    rw [bind_failed (Browser.service_failed (c := .start) started)]
    refine ⟨_, .note s (.service .start), .of_plain ?_⟩
    simp [Call.obtains, ServiceCall.obtains]

lemma launch_unavailable (remote : (settings .cdpUrl : String) ≠ "")
    (started : s.faults.lookup ServiceCall.start.name = none) {t : Stage Float}
    (h : probe settings (s.note (.service .start)) = (.done false, t)) :
    launch settings s =
      (.failed (toldAfterStop s.faults (unavailable settings)), t.note (.service .stop)) := by
  have missed : obtain settings (s.note (.service .start)) =
      (.failed (unavailable settings), t) := by
    rw [obtain_remote remote]
    exact bind_done h
  obtain ⟨calls, called, -⟩ := probe_called settings (s.note (.service .start))
  rw [h] at called
  rw [launch_unobtained started missed, called.faults]
  rfl

/-- On an exact clock that only its pauses advance, a probe asks as often as its interval fits
into its time, which is at least a second, and stops before at the first answer that is good or
that cannot be read. A launch that has an endpoint launches no browser, connects to the
endpoint only after a good answer to its probe, and where the probe gets none in time it stops
the driver and, if that can be stopped, fails because the browser is unavailable. -/
theorem endpoint_probed :
    (∀ (endpoint scheme authority : String) (timeout interval : ℚ) (answers : Nat → Answer)
        (s : Stage ℚ), Address.split endpoint = .ok (scheme, authority) → authority ≠ "" →
      0 < interval → s.Steady → Endpoint.requests timeout interval < s.patience →
      (∀ n < Endpoint.requests timeout interval, s.answer n = answers n) →
      ∃ e t, Endpoint.wait endpoint timeout interval s = (e, t) ∧
        Endpoint.Probed (Address.requestScheme scheme ++ "://" ++ authority ++ "/json/version")
          interval (Endpoint.requests timeout interval) answers s e t) ∧
    ∀ (settings : Settings) (s : Stage Float), (settings .cdpUrl : String) ≠ "" →
      (∃ calls, Stage.Called calls s (launch settings s).2 ∧ Attached settings s calls) ∧
      ∀ t, s.faults.lookup ServiceCall.start.name = none →
        probe settings (s.note (.service .start)) = (.done false, t) →
        ∃ f, launch settings s = (.failed f, t.note (.service .stop)) ∧
          (s.faults.lookup ServiceCall.stop.name = none →
            f = unavailable settings ∧ f.code? = some "BROWSER_UNAVAILABLE") := by
  refine ⟨fun _ _ _ _ _ _ _ address located positive steady patient given =>
    Endpoint.wait_probed address located positive steady patient given, ?_⟩
  intro settings s remote
  refine ⟨launch_attached remote, fun t started silent => ?_⟩
  refine ⟨_, launch_unavailable remote started silent, fun fault => ?_⟩
  rw [toldAfterStop, fault]
  exact ⟨rfl, rfl⟩

/-- Settings for a browser behind an endpoint. -/
def remoteSettings : Settings := Settings.standard.assign .cdpUrl "ws://localhost:9222/devtools"

/-- The third answer is the first good one, and there is time for three; an endpoint that cannot
be reached is given up. -/
theorem endpoint_probed_retried :
    (∃ t, Endpoint.wait "ws://localhost:9222/devtools" (1 / 2 : ℚ) (2 / 5)
        { now := 0, answers := [.unreachable, .status 503, .status 200] } = (.done true, t) ∧
      t.calls = .httpClient ::
        [.httpGet "http://localhost:9222/json/version", .sleep (2 / 5),
          .httpGet "http://localhost:9222/json/version", .sleep (2 / 5),
          .httpGet "http://localhost:9222/json/version"]) ∧
    ∃ t, launch remoteSettings { now := 0, answers := [.unreachable] } =
      (.failed (unavailable remoteSettings), t) := by
  constructor
  · let answers (n : Nat) : Answer :=
      [.unreachable, .status 503, .status 200][n]?.getD (.status 200)
    have limit : Endpoint.requests (1 / 2) (2 / 5) = 3 := by
      norm_num [Endpoint.requests, Nat.ceil_eq_iff]
    obtain ⟨e, t, waited, probed⟩ := endpoint_probed.1 "ws://localhost:9222/devtools" "ws"
      "localhost:9222" (1 / 2) (2 / 5) answers
      { now := 0, answers := [.unreachable, .status 503, .status 200] } (by decide +kernel)
      (by decide) (by norm_num) nofun (by rw [limit]; norm_num) fun n _ => rfl
    rw [limit] at probed
    cases probed with
    | @answered n _ within before h calls =>
      interval_cases n
      · cases h
      · cases h
      · exact ⟨t, waited, calls⟩
    | @unreadable n _ within before h calls => interval_cases n <;> cases h
    | late unsettled calls => cases unsettled 2 (by decide)
  · let s : Stage Float := { now := 0, answers := [.unreachable] }
    have silent : (probe remoteSettings (s.note (.service .start))).1.value? = some false := by
      decide +kernel
    rcases h : probe remoteSettings (s.note (.service .start)) with ⟨up | f | _, t⟩ <;>
      rw [h] at silent
    · obtain rfl := Option.some.inj silent
      obtain ⟨f, failed, unnoticed⟩ :=
        (endpoint_probed.2 remoteSettings s (by decide +kernel)).2 t rfl h
      obtain ⟨rfl, -⟩ := unnoticed rfl
      exact ⟨_, failed⟩
    · cases silent
    · cases silent

end Session
end Rehearsal
