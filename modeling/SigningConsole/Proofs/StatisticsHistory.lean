import SigningConsole.Proofs.After
import SigningConsole.Statistics.State
/-!
What the statistics know of the calls that were made for them, and over which window the
growth was counted.

A history is what happened in order: changes of the window, and calls with their replies. The counts
that are shown are those that were fetched last. The growth that is shown was counted over the
window that is shown beside it, and it is the last one that was (`StatisticsEvent.Shows`): a change
of the window takes the growth away.

Nothing is assumed of the replies. `StatisticsCalls.noted` notes each call beside the state of the
calls, and `Statistics.perform` notes the changes of the window there as well.
-/

namespace SigningConsole

variable {σ : Type}

/-- A change of the window, or a call with its reply. -/
inductive StatisticsEvent where
  | turned (window : TimeWindow)
  | counted (reply : Except BackendError Json)
  | grown (params : Parameters) (reply : Except BackendError Json)

namespace StatisticsEvent

/-- The window to which the event changes. -/
def window? : StatisticsEvent → Option TimeWindow
  | turned window => some window
  | _ => none

/-- The counts that were fetched. -/
def counts? : StatisticsEvent → Option Json
  | counted (.ok counts) => some counts
  | _ => none

/-- Whether the growth from before the event is out of date after it. -/
def outdates : StatisticsEvent → Bool
  | turned _ => true
  | grown _ (.ok _) => true
  | _ => false

/-- What the operation comes to that causes the event. -/
def outcome : StatisticsEvent → Except BackendError Unit
  | turned _ => .ok ()
  | counted reply => reply.map fun _ => ()
  | grown _ reply => reply.map fun _ => ()

/-- The history has a growth that was counted over the window and is not out of date. -/
def Shows (history : List StatisticsEvent) (window : TimeWindow) (growth : Json) : Prop :=
  ∃ before after, history = before ++ grown window.params (.ok growth) :: after ∧
    ∀ e ∈ after, e.outdates = false

theorem not_shows_nil (window : TimeWindow) (growth : Json) : ¬ Shows [] window growth := by
  rintro ⟨before, after, h, -⟩
  simp at h

/-- The last event counts the growth that is shown, or leaves the one that was shown before it. -/
theorem shows_append {history : List StatisticsEvent} {e : StatisticsEvent} {window : TimeWindow}
    {growth : Json} :
    Shows (history ++ [e]) window growth ↔
      e = grown window.params (.ok growth) ∨ e.outdates = false ∧ Shows history window growth := by
  constructor
  · rintro ⟨before, after, h, hafter⟩
    obtain rfl | ⟨earlier, last, rfl⟩ := List.eq_nil_or_concat after
    · exact .inl (List.cons.inj (List.append_inj' h rfl).2).1
    · have h : history ++ [e] = (before ++ grown window.params (.ok growth) :: earlier) ++
          [last] := by simpa using h
      obtain ⟨rfl, hlast⟩ := List.append_inj' h rfl
      obtain ⟨rfl, -⟩ := List.cons.inj hlast
      exact .inr ⟨hafter e (by simp), before, earlier, rfl, fun e' he' => hafter e' (by simp [he'])⟩
  · rintro (rfl | ⟨he, before, after, rfl, hafter⟩)
    · exact ⟨history, [], rfl, by simp⟩
    · refine ⟨before, after ++ [e], by simp, fun e' he' => ?_⟩
      obtain he' | he' := List.mem_append.1 he'
      · exact hafter e' he'
      · rw [List.mem_singleton.1 he']
        exact he

end StatisticsEvent

/-- The calls with a note of each, beside their own state. -/
def StatisticsCalls.noted (calls : StatisticsCalls σ) :
    StatisticsCalls (σ × List StatisticsEvent) :=
  let note (m : Call σ Json) (event : Except BackendError Json → StatisticsEvent) :
      Call (σ × List StatisticsEvent) Json := ExceptT.mk do
    let reply ← Part.first.run m.run
    Part.second.modify (· ++ [event reply])
    return reply
  { certificateCounts := note calls.certificateCounts .counted
    certificateGrowth := fun params => note (calls.certificateGrowth params) (.grown params) }

/-- An operation of the statistics. -/
inductive StatisticsAction where
  | turn (window : TimeWindow)
  | fetchCounts
  | fetchIncrease

/-- What an operation does to the history, beside a window: one event, with any reply if it is a
call. -/
inductive StatisticsAction.Causes (window : TimeWindow) :
    StatisticsAction → StatisticsEvent → Prop where
  | turn (window') : Causes window (.turn window') (.turned window')
  | fetchCounts (reply) : Causes window .fetchCounts (.counted reply)
  | fetchIncrease (reply) : Causes window .fetchIncrease (.grown window.params reply)

namespace Statistics

/-- Performs an operation, with a note of what happens. -/
def perform (calls : StatisticsCalls σ) (s : Statistics) :
    StatisticsAction → StateM (σ × List StatisticsEvent) (Except BackendError Unit × Statistics)
  | .turn window => do
    Part.second.modify (· ++ [.turned window])
    return (.ok (), s.withWindow window)
  | .fetchCounts => s.fetchCounts calls.noted
  | .fetchIncrease => s.fetchIncrease calls.noted

/-- The statistics after operations in order. -/
def run (calls : StatisticsCalls σ) (actions : List StatisticsAction) (s : Statistics) :
    StateM (σ × List StatisticsEvent) Statistics :=
  actions.foldlM (fun s action => Prod.snd <$> s.perform calls action) s

/-- What an event makes of the statistics. -/
def after (s : Statistics) : StatisticsEvent → Statistics
  | .turned window => s.withWindow window
  | .counted (.ok counts) => { s with byCooperator := some counts }
  | .grown _ (.ok growth) => { s with growth := some growth }
  | _ => s

theorem window_after (s : Statistics) (e : StatisticsEvent) :
    (s.after e).window = e.window?.getD s.window := by
  cases e with
  | turned window => rfl
  | counted reply => cases reply <;> rfl
  | grown params reply => cases reply <;> rfl

theorem counts_after (s : Statistics) (e : StatisticsEvent) :
    (s.after e).byCooperator = e.counts?.or s.byCooperator := by
  cases e with
  | turned window => rfl
  | counted reply => cases reply <;> rfl
  | grown params reply => cases reply <;> rfl

theorem after_failure {s : Statistics} {e : StatisticsEvent} {cause : BackendError}
    (h : e.outcome = .error cause) :
    s.after e = s := by
  cases e with
  | turned window => cases h
  | counted reply =>
    cases reply with
    | ok counts => cases h
    | error e => rfl
  | grown params reply =>
    cases reply with
    | ok growth => cases h
    | error e => rfl

/-! ## One operation -/

/-- An operation causes one event, and the statistics are what the event makes of them. -/
theorem perform_causes (calls : StatisticsCalls σ) (s : Statistics) (action : StatisticsAction)
    (w : σ × List StatisticsEvent) :
    After (s.perform calls action) w fun step w' => ∃ event, w'.2 = w.2 ++ [event] ∧
      action.Causes s.window event ∧ step.1 = event.outcome ∧ step.2 = s.after event := by
  cases action with
  | turn window => exact ⟨_, rfl, .turn window, rfl, rfl⟩
  | fetchCounts =>
    have hnote : After calls.noted.certificateCounts.run w fun reply w' =>
        w'.2 = w.2 ++ [.counted reply] := rfl
    unfold perform fetchCounts
    refine hnote.bind fun reply w' hw' => ?_
    cases reply with
    | ok counts => exact ⟨_, hw', .fetchCounts _, rfl, rfl⟩
    | error e => exact ⟨_, hw', .fetchCounts _, rfl, rfl⟩
  | fetchIncrease =>
    have hnote : After (calls.noted.certificateGrowth s.window.params).run w fun reply w' =>
        w'.2 = w.2 ++ [.grown s.window.params reply] := rfl
    unfold perform fetchIncrease
    refine hnote.bind fun reply w' hw' => ?_
    cases reply with
    | ok growth => exact ⟨_, hw', .fetchIncrease _, rfl, rfl⟩
    | error e => exact ⟨_, hw', .fetchIncrease _, rfl, rfl⟩

/-! ## Runs -/

/-- The statistics show what a history that began with a window leaves to be shown. -/
structure Follows (start : TimeWindow) (history : List StatisticsEvent)
    (s : Statistics) : Prop where
  window : s.window = (history.filterMap StatisticsEvent.window?).getLast?.getD start
  counts : s.byCooperator = (history.filterMap StatisticsEvent.counts?).getLast?
  growth : ∀ v, s.growth = some v ↔ StatisticsEvent.Shows history s.window v

theorem follows_nil (window : TimeWindow) : Follows window [] { window } where
  window := rfl
  counts := rfl
  growth v := by simp [StatisticsEvent.not_shows_nil]

/-- Growth is only ever counted over the present window, so that it is not out of date when it is
shown. -/
theorem growth_after {history : List StatisticsEvent} {s : Statistics} {e : StatisticsEvent}
    {action : StatisticsAction} (h : ∀ v, s.growth = some v ↔
      StatisticsEvent.Shows history s.window v) (he : action.Causes s.window e) (v : Json) :
    (s.after e).growth = some v ↔ StatisticsEvent.Shows (history ++ [e]) (s.after e).window v := by
  rw [StatisticsEvent.shows_append]
  cases he with
  | turn window => simp [StatisticsEvent.outdates, Statistics.after, withWindow]
  | fetchCounts reply => cases reply <;> simp [StatisticsEvent.outdates, Statistics.after, h]
  | fetchIncrease reply =>
    cases reply with
    | ok growth => simp [StatisticsEvent.outdates, Statistics.after, eq_comm]
    | error cause => simp [StatisticsEvent.outdates, Statistics.after, h]

/-- Statistics that show their history go on showing it. -/
theorem Follows.after {start : TimeWindow} {history : List StatisticsEvent} {s : Statistics}
    {e : StatisticsEvent} {action : StatisticsAction} (h : Follows start history s)
    (he : action.Causes s.window e) :
    Follows start (history ++ [e]) (s.after e) where
  window := by
    rw [window_after, h.window]
    cases hw : e.window? <;> simp [hw]
  counts := by
    rw [counts_after, h.counts]
    cases hc : e.counts? <;> simp [hc]
  growth := growth_after h.growth he

theorem run_follows (calls : StatisticsCalls σ) (actions : List StatisticsAction)
    {start : TimeWindow} {s : Statistics} {w : σ × List StatisticsEvent} (h : Follows start w.2 s) :
    After (run calls actions s) w fun s' w' => Follows start w'.2 s' := by
  induction actions generalizing s w with
  | nil => exact h
  | cons action rest ih =>
    have hstep : After (Prod.snd <$> s.perform calls action) w
        fun s' w' => Follows start w'.2 s' := by
      refine After.map_iff.2 ((perform_causes calls s action w).mono fun step w' hw' => ?_)
      obtain ⟨e, hw', he, -, hs'⟩ := hw'
      rw [hw', hs']
      exact h.after he
    unfold run
    rw [List.foldlM_cons]
    exact hstep.bind fun s' w' hs' => ih hs'

/-- At every moment of a run the window is the one that was set last, the counts are those that were
fetched last, and a growth is shown just when it was the last to be fetched, for the parameters of
this window, and the window was not set since. A further operation causes its one event, with the
parameters of the window if it fetches the growth, and comes to what the event comes to; one that
fails leaves everything as it was. -/
theorem growth_counted_over_window (calls : StatisticsCalls σ) (window : TimeWindow)
    (actions : List StatisticsAction) (w : σ) :
    After (run calls actions { window }) (w, []) fun s w' =>
      s.window = (w'.2.filterMap StatisticsEvent.window?).getLast?.getD window ∧
      s.byCooperator = (w'.2.filterMap StatisticsEvent.counts?).getLast? ∧
      (∀ v, s.growth = some v ↔ StatisticsEvent.Shows w'.2 s.window v) ∧
      ∀ action, After (s.perform calls action) w' fun step w'' => ∃ event,
        w''.2 = w'.2 ++ [event] ∧ action.Causes s.window event ∧ step.1 = event.outcome ∧
        ∀ cause, step.1 = .error cause → step.2 = s := by
  refine (run_follows calls actions (follows_nil window)).mono fun s w' hs => ?_
  refine ⟨hs.window, hs.counts, hs.growth, fun action => ?_⟩
  refine (perform_causes calls s action w').mono fun step w'' hstep => ?_
  obtain ⟨event, hw'', hcauses, hresult, hs'⟩ := hstep
  refine ⟨event, hw'', hcauses, hresult, fun cause hcause => ?_⟩
  rw [hs']
  exact after_failure (hresult.symm.trans hcause)

end Statistics

end SigningConsole
