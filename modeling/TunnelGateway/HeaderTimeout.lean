import TunnelGateway.Execution

/-!
The header timeout of the h2c transport. `RoundTrip` and the callback of its
timer run concurrently and meet in an atomic flag, a `sync.Once` and the channel
`timerDone`; the callback, the deferred function, the body wrapper and the parent
context can each cancel the derived context. Every statement that touches shared
state is a step of its own. `Timer.Stop` returns true exactly when it prevents the
callback. The `Once` counts as one step: its other callers wait for it.
-/
namespace TunnelGateway.HeaderTimeout

open Execution

inductive Err where
  | deadlineExceeded
  | other (message : String)
  | wrapped (message : String) (cause : Err)
  deriving DecidableEq

/-- `errors.Is`. -/
def Err.wraps : Err → Err → Prop
  | .deadlineExceeded, target => target = .deadlineExceeded
  | .other message, target => target = .other message
  | .wrapped message cause, target => target = .wrapped message cause ∨ cause.wraps target

/-- How the inner `RoundTrip` returns. -/
inductive Returned where
  | response
  | failure (err : Err)
  deriving DecidableEq

inductive InnerResult where
  | returned (r : Returned)
  | panic
  deriving DecidableEq

inductive Outcome where
  | response
  | error (err : Err)
  | panicked
  deriving DecidableEq

/-- Where `RoundTrip` stands. -/
inductive Main where
  | calling
  | stopping (r : Returned)
  | settling (r : Returned)
  | waiting (r : Returned)
  | deciding (r : Returned)
  | deferred (outcome : Outcome)
  | deferStop (outcome : Outcome)
  | deferSettle (outcome : Outcome)
  | done (outcome : Outcome)
  deriving DecidableEq

/-- Where the timer and its callback stand. -/
inductive Timer where
  | armed
  | stopped
  | fired
  | stored
  | cancelled
  | finished
  deriving DecidableEq

/-- Who calls `cancel`. -/
inductive Canceller where
  | callback
  | roundTrip
  | body
  | parent
  deriving DecidableEq

structure State where
  main : Main := .calling
  timer : Timer := .armed
  timerFired : Bool := false
  onceDone : Bool := false
  /-- How often `timerDone` was closed. -/
  closes : ℕ := 0
  cancels : List Canceller := []
  result : Option InnerResult := none
  transferred : Bool := false
  /-- The body of the inner response was closed. -/
  bodyClosed : Bool := false

/-- After `AfterFunc`, when the inner call begins. -/
def initial : State := {}

/-- `settleOnce.Do(settle)`. -/
def State.settle (s : State) : State :=
  if s.onceDone then s else { s with onceDone := true, closes := s.closes + 1 }

def State.cancel (s : State) (who : Canceller) : State := { s with cancels := who :: s.cancels }

def headerTimeoutError (timeout : String) : Err :=
  .wrapped ("h2c header timeout after " ++ timeout ++ ": ") .deadlineExceeded

/-- What follows `<-timerDone`. -/
def State.decide (timeout : String) (s : State) : Returned → State
  | .response =>
      if s.timerFired then
        { s with bodyClosed := true, main := .deferred (.error (headerTimeoutError timeout)) }
      else { s with transferred := true, main := .deferred .response }
  | .failure err =>
      if s.timerFired then { s with main := .deferred (.error (headerTimeoutError timeout)) }
      else { s with main := .deferred (.error (.wrapped "h2c header-timeout transport: " err)) }

/-- One step of `RoundTrip` after the inner call. -/
def advance (timeout : String) (s : State) : Option State :=
  match s.main with
  | .calling => none
  | .stopping r =>
      if s.timer = .armed then some { s with timer := .stopped, main := .settling r }
      else some { s with main := .waiting r }
  | .settling r => some { s.settle with main := .waiting r }
  | .waiting r => if s.closes > 0 then some { s with main := .deciding r } else none
  | .deciding r => some (s.decide timeout r)
  | .deferred outcome =>
      some { (if s.transferred then s else s.cancel .roundTrip) with main := .deferStop outcome }
  | .deferStop outcome =>
      if s.timer = .armed then some { s with timer := .stopped, main := .deferSettle outcome }
      else some { s with main := .done outcome }
  | .deferSettle outcome => some { s.settle with main := .done outcome }
  | .done _ => none

/-- One step of the callback. -/
def runCallback (s : State) : Option State :=
  match s.timer with
  | .fired => some { s with timerFired := true, timer := .stored }
  | .stored => some { s.cancel .callback with timer := .cancelled }
  | .cancelled => some { s.settle with timer := .finished }
  | _ => none

inductive Action where
  | innerReturns (result : InnerResult)
  | advance
  | fire
  | callback
  | parentCancels
  | closeBody

def step (timeout : String) (a : Action) (s : State) : Option State :=
  match a with
  | .innerReturns result =>
      if s.main = .calling then
        match result with
        | .returned r => some { s with result := some result, main := .stopping r }
        | .panic => some { s with result := some result, main := .deferred .panicked }
      else none
  | .advance => advance timeout s
  | .fire => if s.timer = .armed then some { s with timer := .fired } else none
  | .callback => runCallback s
  | .parentCancels => if .parent ∈ s.cancels then none else some (s.cancel .parent)
  | .closeBody =>
      if s.main = .done .response then some { s.cancel .body with bodyClosed := true } else none

/-- The callback has begun. -/
def State.callbackRan (s : State) : Prop := s.timer ≠ .armed ∧ s.timer ≠ .stopped

section Settle

variable (s : State)

@[simp]
theorem settle_onceDone : s.settle.onceDone = true := by
  rw [State.settle]
  split
  · assumption
  · rfl

theorem settle_closes (h : s.closes = if s.onceDone then 1 else 0) : s.settle.closes = 1 := by
  rw [State.settle]
  split
  · rename_i hdone
    rw [h, if_pos hdone]
  · rename_i hnot
    simp [h, hnot]

/-- The `Once` and the channel are all that `settle` touches. -/
theorem settle_frame :
    s.settle = { s with onceDone := s.settle.onceDone, closes := s.settle.closes } := by
  rw [State.settle]
  split <;> rfl

@[simp]
theorem settle_timer : s.settle.timer = s.timer := by rw [settle_frame]

@[simp]
theorem settle_timerFired : s.settle.timerFired = s.timerFired := by rw [settle_frame]

@[simp]
theorem settle_cancels : s.settle.cancels = s.cancels := by rw [settle_frame]

@[simp]
theorem settle_result : s.settle.result = s.result := by rw [settle_frame]

@[simp]
theorem settle_transferred : s.settle.transferred = s.transferred := by rw [settle_frame]

@[simp]
theorem settle_main : s.settle.main = s.main := by rw [settle_frame]

end Settle

section Invariant

/-- What the outcome says about the timer and the inner call once it is decided. -/
def Decided (s : State) : Outcome → Prop
  | .response => s.timer = .stopped ∧ s.transferred = true
  | .error err => s.transferred = false ∧ (∃ r, s.result = some (.returned r)) ∧
      (s.timer = .stopped ∨ (s.timer = .finished ∧ err.wraps .deadlineExceeded))
  | .panicked => s.transferred = false ∧ s.result = some .panic

/-- What holds where `RoundTrip` stands. -/
def MainInvariant (s : State) : Prop :=
  match s.main with
  | .calling => s.timer ≠ .stopped ∧ s.transferred = false
  | .stopping r => s.timer ≠ .stopped ∧ s.transferred = false ∧ s.result = some (.returned r)
  | .settling r => s.timer = .stopped ∧ s.transferred = false ∧ s.result = some (.returned r)
  | .waiting r => s.timer ≠ .armed ∧ (s.timer = .stopped → s.onceDone = true) ∧
      s.transferred = false ∧ s.result = some (.returned r)
  | .deciding r => (s.timer = .stopped ∨ s.timer = .finished) ∧ s.transferred = false ∧
      s.result = some (.returned r)
  | .deferred outcome => Decided s outcome
  | .deferStop outcome => Decided s outcome ∧ (outcome ≠ .response → .roundTrip ∈ s.cancels)
  | .deferSettle outcome => Decided s outcome ∧ (outcome ≠ .response → .roundTrip ∈ s.cancels) ∧
      s.timer = .stopped
  | .done outcome => Decided s outcome ∧ (outcome ≠ .response → .roundTrip ∈ s.cancels)

structure Invariant (s : State) : Prop where
  closes : s.closes = if s.onceDone then 1 else 0
  /-- Only a timer that cannot run any more or has run lets `timerDone` be closed. -/
  once : s.onceDone = true → s.timer = .stopped ∨ s.timer = .finished
  finished : s.timer = .finished → s.onceDone = true
  fired : s.timerFired = true ↔ s.timer = .stored ∨ s.timer = .cancelled ∨ s.timer = .finished
  cancels : .callback ∈ s.cancels ↔ s.timer = .cancelled ∨ s.timer = .finished
  main : MainInvariant s

/-- A step of the callback or of the world around: `RoundTrip` stays where it is and the
timer goes on. -/
structure Aside (s s' : State) : Prop where
  main : s'.main = s.main
  result : s'.result = s.result
  transferred : s'.transferred = s.transferred
  stopped : s'.timer = .stopped ↔ s.timer = .stopped
  armed : s.timer ≠ .armed → s'.timer ≠ .armed
  finished : s.timer = .finished → s'.timer = .finished
  once : s.onceDone = true → s'.onceDone = true
  cancels : ∀ who ∈ s.cancels, who ∈ s'.cancels

variable {outcome : Outcome} {s s' : State} {next : Main}

theorem Aside.decided (h : Aside s s') (hdecided : Decided s outcome) : Decided s' outcome := by
  cases outcome with
  | response => exact ⟨h.stopped.mpr hdecided.1, h.transferred.trans hdecided.2⟩
  | error err =>
    obtain ⟨htransferred, hresult, htimer⟩ := hdecided
    refine ⟨h.transferred.trans htransferred, h.result ▸ hresult, ?_⟩
    rcases htimer with hstopped | ⟨hfinished, hwraps⟩
    · exact Or.inl (h.stopped.mpr hstopped)
    · exact Or.inr ⟨h.finished hfinished, hwraps⟩
  | panicked => exact ⟨h.transferred.trans hdecided.1, h.result.trans hdecided.2⟩

theorem Aside.mainInvariant (h : Aside s s') (hmain : MainInvariant s) : MainInvariant s' := by
  unfold MainInvariant at hmain ⊢
  rw [h.main]
  cases hpc : s.main with
  | calling =>
    rw [hpc] at hmain
    exact ⟨mt h.stopped.mp hmain.1, h.transferred.trans hmain.2⟩
  | stopping r =>
    rw [hpc] at hmain
    exact ⟨mt h.stopped.mp hmain.1, h.transferred.trans hmain.2.1, h.result.trans hmain.2.2⟩
  | settling r =>
    rw [hpc] at hmain
    exact ⟨h.stopped.mpr hmain.1, h.transferred.trans hmain.2.1, h.result.trans hmain.2.2⟩
  | waiting r =>
    rw [hpc] at hmain
    obtain ⟨harmed, honce, htransferred, hresult⟩ := hmain
    exact ⟨h.armed harmed, fun hstopped => h.once (honce (h.stopped.mp hstopped)),
      h.transferred.trans htransferred, h.result.trans hresult⟩
  | deciding r =>
    rw [hpc] at hmain
    obtain ⟨htimer, htransferred, hresult⟩ := hmain
    exact ⟨htimer.imp h.stopped.mpr h.finished, h.transferred.trans htransferred,
      h.result.trans hresult⟩
  | deferred outcome =>
    rw [hpc] at hmain
    exact h.decided hmain
  | deferStop outcome =>
    rw [hpc] at hmain
    exact ⟨h.decided hmain.1, fun hne => h.cancels _ (hmain.2 hne)⟩
  | deferSettle outcome =>
    rw [hpc] at hmain
    exact ⟨h.decided hmain.1, fun hne => h.cancels _ (hmain.2.1 hne), h.stopped.mpr hmain.2.2⟩
  | done outcome =>
    rw [hpc] at hmain
    exact ⟨h.decided hmain.1, fun hne => h.cancels _ (hmain.2 hne)⟩

/-- `timerDone` is open as long as the callback can still run. -/
theorem Invariant.onceDone_eq_false (hinv : Invariant s)
    (h : s.timer ≠ .stopped ∧ s.timer ≠ .finished) : s.onceDone = false := by
  rw [← Bool.not_eq_true]
  intro hdone
  exact (hinv.once hdone).elim h.1 h.2

theorem invariant_fire (hinv : Invariant s) (harmed : s.timer = .armed) :
    Invariant { s with timer := .fired } := by
  have honce := hinv.onceDone_eq_false (by simp [harmed])
  have hfired := hinv.fired
  have hcancels := hinv.cancels
  rw [harmed] at hfired hcancels
  refine ⟨hinv.closes, ?_, nofun, ?_, ?_, ?_⟩
  · intro hdone
    rw [honce] at hdone
    cases hdone
  · simpa using hfired
  · simpa using hcancels
  · refine Aside.mainInvariant ?_ hinv.main
    exact ⟨rfl, rfl, rfl, by simp [harmed], nofun, by simp [harmed], id, fun _ => id⟩

theorem invariant_callback (hinv : Invariant s) (h : runCallback s = some s') : Invariant s' := by
  have hfired := hinv.fired
  have hcancels := hinv.cancels
  rw [runCallback] at h
  split at h
  · rename_i htimer
    cases h
    rw [htimer] at hcancels
    refine ⟨hinv.closes, ?_, nofun, by simp, by simpa using hcancels, ?_⟩
    · intro hdone
      rw [hinv.onceDone_eq_false (by simp [htimer])] at hdone
      cases hdone
    · refine Aside.mainInvariant ?_ hinv.main
      exact ⟨rfl, rfl, rfl, by simp [htimer], nofun, by simp [htimer], id, fun _ => id⟩
  · rename_i htimer
    cases h
    rw [htimer] at hfired
    refine ⟨hinv.closes, ?_, nofun, by simpa [State.cancel] using hfired, by simp [State.cancel], ?_⟩
    · intro hdone
      rw [State.cancel, hinv.onceDone_eq_false (by simp [htimer])] at hdone
      cases hdone
    · refine Aside.mainInvariant ?_ hinv.main
      exact ⟨rfl, rfl, rfl, by simp [htimer], nofun, by simp [htimer], id,
        fun _ => List.mem_cons_of_mem _⟩
  · rename_i htimer
    cases h
    rw [htimer] at hfired hcancels
    refine ⟨by simp [settle_closes s hinv.closes], fun _ => Or.inr rfl, by simp,
      by simpa using hfired, by simpa using hcancels, ?_⟩
    refine Aside.mainInvariant ?_ hinv.main
    exact ⟨by simp, by simp, by simp, by simp [htimer], nofun, by simp, by simp, by simp⟩
  · cases h

theorem invariant_cancel (hinv : Invariant s) {who : Canceller} (hwho : who ≠ .callback) :
    Invariant (s.cancel who) := by
  refine ⟨hinv.closes, hinv.once, hinv.finished, hinv.fired, ?_, ?_⟩
  · rw [State.cancel, List.mem_cons]
    exact ⟨fun h => hinv.cancels.mp (h.resolve_left hwho.symm), fun h => Or.inr (hinv.cancels.mpr h)⟩
  · refine Aside.mainInvariant ?_ hinv.main
    exact ⟨rfl, rfl, rfl, Iff.rfl, id, id, id, fun _ => List.mem_cons_of_mem _⟩

theorem Invariant.goto (hinv : Invariant s) (h : MainInvariant { s with main := next }) :
    Invariant { s with main := next } :=
  ⟨hinv.closes, hinv.once, hinv.finished, hinv.fired, hinv.cancels, h⟩

/-- `Stop` returned true. -/
theorem Invariant.stop (hinv : Invariant s) (harmed : s.timer = .armed)
    (h : MainInvariant { s with timer := .stopped, main := next }) :
    Invariant { s with timer := .stopped, main := next } := by
  have hfired := hinv.fired
  have hcancels := hinv.cancels
  rw [harmed] at hfired hcancels
  exact ⟨hinv.closes, fun _ => Or.inl rfl, nofun, by simpa using hfired, by simpa using hcancels, h⟩

/-- `timerDone` is closed behind a stopped timer. -/
theorem Invariant.settled (hinv : Invariant s) (hstopped : s.timer = .stopped)
    (h : MainInvariant { s.settle with main := next }) :
    Invariant { s.settle with main := next } := by
  refine ⟨by simp [settle_closes s hinv.closes], ?_, by simp, ?_, ?_, h⟩
  · exact fun _ => Or.inl (by simpa using hstopped)
  · simpa using hinv.fired
  · simpa using hinv.cancels

/-- The decision after `<-timerDone`: the flag tells a finished callback from one that will
never run. -/
theorem invariant_decide (timeout : String) (hinv : Invariant s) {r : Returned}
    (hpc : s.main = .deciding r) : Invariant (s.decide timeout r) := by
  have hmain := hinv.main
  unfold MainInvariant at hmain
  rw [hpc] at hmain
  obtain ⟨htimer, htransferred, hresult⟩ := hmain
  have hlate : s.timerFired = true → s.timer = .finished := by
    intro hfired
    rcases htimer with hstopped | hfinished
    · rw [hinv.fired, hstopped] at hfired
      simp at hfired
    · exact hfinished
  have hnever : ¬ s.timerFired = true → s.timer = .stopped := by
    intro hnot
    rcases htimer with hstopped | hfinished
    · exact hstopped
    · exact absurd (hinv.fired.mpr (Or.inr (Or.inr hfinished))) hnot
  have herror : s.timerFired = true →
      Decided s (.error (headerTimeoutError timeout)) := fun hfired =>
    ⟨htransferred, ⟨r, hresult⟩, Or.inr ⟨hlate hfired, .inr rfl⟩⟩
  cases r with
  | response =>
    rw [State.decide]
    split
    · rename_i hfired
      exact ⟨hinv.closes, hinv.once, hinv.finished, hinv.fired, hinv.cancels, herror hfired⟩
    · rename_i hnot
      exact ⟨hinv.closes, hinv.once, hinv.finished, hinv.fired, hinv.cancels, hnever hnot, rfl⟩
  | failure err =>
    rw [State.decide]
    split
    · rename_i hfired
      exact hinv.goto (herror hfired)
    · rename_i hnot
      exact hinv.goto ⟨htransferred, ⟨_, hresult⟩, Or.inl (hnever hnot)⟩

theorem decided_of_stop (hdecided : Decided s outcome) :
    Decided { s with timer := .stopped, main := next } outcome := by
  cases outcome with
  | response => exact ⟨rfl, hdecided.2⟩
  | error err => exact ⟨hdecided.1, hdecided.2.1, Or.inl rfl⟩
  | panicked => exact hdecided

/-- The body wrapper takes over `cancel` exactly when a response is returned. -/
theorem Decided.transferred_iff (h : Decided s outcome) :
    s.transferred = true ↔ outcome = .response := by
  cases outcome with
  | response => simp [h.2]
  | error err => simp [h.1]
  | panicked => simp [h.1]

theorem invariant_advance (timeout : String) (hinv : Invariant s)
    (h : advance timeout s = some s') : Invariant s' := by
  have hmain := hinv.main
  unfold MainInvariant at hmain
  rw [advance] at h
  split at h
  · cases h
  · rename_i r hpc
    rw [hpc] at hmain
    obtain ⟨hstopped, htransferred, hresult⟩ := hmain
    split at h
    · rename_i harmed
      cases h
      exact hinv.stop harmed ⟨rfl, htransferred, hresult⟩
    · rename_i harmed
      cases h
      exact hinv.goto ⟨harmed, fun heq => absurd heq hstopped, htransferred, hresult⟩
  · rename_i r hpc
    rw [hpc] at hmain
    obtain ⟨hstopped, htransferred, hresult⟩ := hmain
    cases h
    refine hinv.settled hstopped ?_
    simp [MainInvariant, hstopped, htransferred, hresult]
  · rename_i r hpc
    rw [hpc] at hmain
    obtain ⟨harmed, -, htransferred, hresult⟩ := hmain
    split at h
    · rename_i hclosed
      cases h
      -- The channel is closed, so the callback is prevented or has run.
      have hdone : s.onceDone = true := by
        by_contra hnot
        rw [hinv.closes, if_neg hnot] at hclosed
        exact Nat.lt_irrefl 0 hclosed
      exact hinv.goto ⟨hinv.once hdone, htransferred, hresult⟩
    · cases h
  · rename_i r hpc
    cases h
    exact invariant_decide timeout hinv hpc
  · rename_i outcome hpc
    rw [hpc] at hmain
    cases h
    split
    · rename_i htransferred
      refine hinv.goto ⟨hmain, ?_⟩
      intro hne
      exact absurd (hmain.transferred_iff.mp htransferred) hne
    · refine (invariant_cancel hinv (by decide)).goto ⟨?_, fun _ => List.mem_cons_self⟩
      cases outcome <;> exact hmain
  · rename_i outcome hpc
    rw [hpc] at hmain
    obtain ⟨hdecided, hcancelled⟩ := hmain
    split at h
    · rename_i harmed
      cases h
      exact hinv.stop harmed ⟨decided_of_stop hdecided, hcancelled, rfl⟩
    · cases h
      exact hinv.goto ⟨hdecided, hcancelled⟩
  · rename_i outcome hpc
    rw [hpc] at hmain
    obtain ⟨hdecided, hcancelled, hstopped⟩ := hmain
    cases h
    refine hinv.settled hstopped ⟨?_, by simpa using hcancelled⟩
    cases outcome <;> simpa [Decided] using hdecided
  · cases h

theorem invariant_step (timeout : String) (s : State) (a : Action) (s' : State)
    (hinv : Invariant s) (h : step timeout a s = some s') : Invariant s' := by
  cases a with
  | innerReturns result =>
    by_cases hcalling : s.main = .calling
    · have hmain := hinv.main
      unfold MainInvariant at hmain
      rw [hcalling] at hmain
      cases result with
      | returned r =>
        rw [step, if_pos hcalling] at h
        cases h
        exact ⟨hinv.closes, hinv.once, hinv.finished, hinv.fired, hinv.cancels, hmain.1, hmain.2,
          rfl⟩
      | panic =>
        rw [step, if_pos hcalling] at h
        cases h
        exact ⟨hinv.closes, hinv.once, hinv.finished, hinv.fired, hinv.cancels, hmain.2, rfl⟩
    · simp [step, hcalling] at h
  | advance => exact invariant_advance timeout hinv h
  | fire =>
    rw [step] at h
    split at h
    · rename_i harmed
      cases h
      exact invariant_fire hinv harmed
    · cases h
  | callback => exact invariant_callback hinv h
  | parentCancels =>
    rw [step] at h
    split at h
    · cases h
    · cases h
      exact invariant_cancel hinv (by decide)
  | closeBody =>
    rw [step] at h
    split at h
    · cases h
      have hcancel : Invariant (s.cancel .body) := invariant_cancel hinv (by decide)
      exact ⟨hcancel.closes, hcancel.once, hcancel.finished, hcancel.fired, hcancel.cancels,
        hcancel.main⟩
    · cases h

end Invariant

section Termination

def Main.rank : Main → ℕ
  | .calling => 8
  | .stopping _ => 7
  | .settling _ => 6
  | .waiting _ => 5
  | .deciding _ => 4
  | .deferred _ => 3
  | .deferStop _ => 2
  | .deferSettle _ => 1
  | .done _ => 0

def Timer.rank : Timer → ℕ
  | .armed => 4
  | .fired => 3
  | .stored => 2
  | .cancelled => 1
  | .stopped => 0
  | .finished => 0

def State.rank (s : State) : ℕ :=
  s.main.rank + s.timer.rank + if .parent ∈ s.cancels then 0 else 1

/-- `RoundTrip` has returned, or panics on. -/
def State.Done (s : State) : Prop := ∃ outcome, s.main = .done outcome

variable {s s' : State}

/-- What a step does to the measure: `RoundTrip` and the timer only go on, and one of them or
the parent context does. -/
structure Progress (s s' : State) : Prop where
  main : s'.main = s.main ∨ s'.main.rank < s.main.rank
  timer : s'.timer.rank ≤ s.timer.rank
  parent : .parent ∈ s.cancels → .parent ∈ s'.cancels
  strict : s.Done ∨ s'.main.rank < s.main.rank ∨ s'.timer.rank < s.timer.rank ∨
    .parent ∉ s.cancels ∧ .parent ∈ s'.cancels

theorem progress_advance (timeout : String) (h : advance timeout s = some s') : Progress s s' := by
  rw [advance] at h
  split at h
  case h_5 r hpc =>
    cases h
    cases r <;> rw [State.decide] <;> split <;> constructor <;> simp [hpc, Main.rank]
  all_goals
    rename_i hpc
    repeat' split at h
    all_goals cases h
    all_goals constructor <;> simp [*, Main.rank, Timer.rank, State.cancel]

theorem progress_step (timeout : String) (s : State) (a : Action) (s' : State)
    (h : step timeout a s = some s') : Progress s s' := by
  cases a with
  | advance => exact progress_advance timeout h
  | _ =>
    simp only [step, runCallback] at h
    repeat' split at h
    all_goals cases h
    all_goals constructor <;> simp [*, Main.rank, Timer.rank, State.cancel, State.Done]

theorem Progress.rank_lt (h : Progress s s') (hdone : ¬ s.Done) : s'.rank < s.rank := by
  have hmain : s'.main.rank ≤ s.main.rank := by
    rcases h.main with heq | hlt
    · exact Nat.le_of_eq (congrArg Main.rank heq)
    · exact Nat.le_of_lt hlt
  have htimer := h.timer
  have hparent := h.parent
  rw [State.rank, State.rank]
  rcases h.strict.resolve_left hdone with hlt | hlt | ⟨hnot, hnow⟩
  · split <;> split <;> first | omega | exact absurd (hparent ‹_›) ‹_›
  · split <;> split <;> first | omega | exact absurd (hparent ‹_›) ‹_›
  · rw [if_pos hnow, if_neg hnot]
    omega

/-- `RoundTrip` waits for a callback that can still go on. -/
theorem step_possible (timeout : String) (s : State) (hinv : Invariant s) (hdone : ¬ s.Done) :
    ∃ a s', step timeout a s = some s' := by
  have hmain := hinv.main
  unfold MainInvariant at hmain
  cases hpc : s.main with
  | calling => exact ⟨.innerReturns .panic, _, by rw [step, if_pos hpc]⟩
  | stopping r =>
    refine ⟨.advance, ?_⟩
    rw [step, advance, hpc]
    dsimp only
    split <;> exact ⟨_, rfl⟩
  | settling r => exact ⟨.advance, _, by rw [step, advance, hpc]⟩
  | waiting r =>
    rw [hpc] at hmain
    obtain ⟨harmed, hstopped, -, -⟩ := hmain
    by_cases hclosed : s.closes > 0
    · exact ⟨.advance, _, by rw [step, advance, hpc]; exact if_pos hclosed⟩
    · have hopen : ¬ s.onceDone = true := by
        intro hdone
        rw [hinv.closes, if_pos hdone] at hclosed
        exact hclosed Nat.one_pos
      refine ⟨.callback, ?_⟩
      rw [step, runCallback]
      cases htimer : s.timer with
      | armed => exact absurd htimer harmed
      | stopped => exact absurd (hstopped htimer) hopen
      | fired => exact ⟨_, rfl⟩
      | stored => exact ⟨_, rfl⟩
      | cancelled => exact ⟨_, rfl⟩
      | finished => exact absurd (hinv.finished htimer) hopen
  | deciding r => exact ⟨.advance, _, by rw [step, advance, hpc]⟩
  | deferred outcome => exact ⟨.advance, _, by rw [step, advance, hpc]⟩
  | deferStop outcome =>
    refine ⟨.advance, ?_⟩
    rw [step, advance, hpc]
    dsimp only
    split <;> exact ⟨_, rfl⟩
  | deferSettle outcome => exact ⟨.advance, _, by rw [step, advance, hpc]⟩
  | done outcome => exact absurd ⟨outcome, hpc⟩ hdone

end Termination

section Settlement

variable (timeout : String)

variable {outcome : Outcome} {s s' : State}

/-- What `RoundTrip` has returned it has returned for good. -/
theorem step_done {a : Action} (hpc : s.main = .done outcome) (h : step timeout a s = some s') :
    s'.main = .done outcome := by
  rcases (progress_step timeout s a s' h).main with heq | hlt
  · rw [heq, hpc]
  · rw [hpc] at hlt
    exact absurd hlt (Nat.not_lt_zero _)

theorem Invariant.decided (hinv : Invariant s) (hpc : s.main = .done outcome) :
    Decided s outcome ∧ (outcome ≠ .response → .roundTrip ∈ s.cancels) := by
  have hmain := hinv.main
  unfold MainInvariant at hmain
  rwa [hpc] at hmain

/-- Behind a returned response the callback never runs. -/
theorem never_ran_of_response (hinv : Invariant s) (hpc : s.main = .done .response)
    (run : Exec (step timeout) Unguarded s s') : ¬ s'.callbackRan ∧ .callback ∉ s'.cancels := by
  have hlater : Invariant s' ∧ s'.main = .done .response := by
    refine run.invariant (I := fun s => Invariant s ∧ s.main = .done .response) ?_ ⟨hinv, hpc⟩
    intro s a s' h _ hstep
    exact ⟨invariant_step timeout s a s' h.1 hstep, step_done timeout h.2 hstep⟩
  have hstopped : s'.timer = .stopped := (hlater.1.decided hlater.2).1.1
  refine ⟨fun hran => hran.2 hstopped, ?_⟩
  rw [hlater.1.cancels, hstopped]
  simp

/-- In every interleaving of `RoundTrip`, its timer and the world around: the channel is
closed at most once; behind a returned response the callback has not run and never will, so
the timeout never cancels its context; where the callback has run and the inner call did not
panic, the error of the deadline is returned; without a response the context is cancelled;
and `RoundTrip` comes to its end. -/
theorem header_timeout_settles {s : State} (run : Exec (step timeout) Unguarded initial s) :
    s.closes ≤ 1 ∧
    (s.main = .done .response → ∀ s', Exec (step timeout) Unguarded s s' →
      ¬ s'.callbackRan ∧ .callback ∉ s'.cancels) ∧
    (∀ outcome, s.main = .done outcome → s.callbackRan → s.result ≠ some .panic →
      ∃ err, outcome = .error err ∧ err.wraps .deadlineExceeded) ∧
    (∀ outcome, s.main = .done outcome → outcome ≠ .response → .roundTrip ∈ s.cancels) ∧
    Inevitably (step timeout) State.Done s := by
  have hinv := run.invariant (fun s a s' hinv _ h => invariant_step timeout s a s' hinv h)
    (⟨rfl, nofun, nofun, by simp [initial], by simp [initial], nofun, rfl⟩ : Invariant initial)
  refine ⟨?_, ?_, ?_, ?_, ?_⟩
  · rw [hinv.closes]
    split <;> omega
  · intro hpc s' run'
    exact never_ran_of_response timeout hinv hpc run'
  · intro outcome hpc hran hresult
    have hdecided := (hinv.decided hpc).1
    cases outcome with
    | response => exact absurd hdecided.1 hran.2
    | error err =>
      rcases hdecided.2.2 with hstopped | ⟨-, hwraps⟩
      · exact absurd hstopped hran.2
      · exact ⟨err, rfl, hwraps⟩
    | panicked => exact absurd hdecided.2 hresult
  · intro outcome hpc
    exact (hinv.decided hpc).2
  · exact inevitably_of_measure State.rank (invariant_step timeout)
      (fun s a s' _ hdone hstep => (progress_step timeout s a s' hstep).rank_lt hdone)
      (step_possible timeout) hinv

/-- The inner call returns a response and the timer is stopped in time. -/
def promptResponse : List Action :=
  [.innerReturns (.returned .response), .advance, .advance, .advance, .advance, .advance, .advance]

/-- The timer fires, the inner call returns a response before the callback cancels the
context, and the response is discarded. -/
def lateTimer : List Action :=
  [.fire, .innerReturns (.returned .response), .callback, .advance, .callback, .callback, .advance,
    .advance, .advance, .advance]

theorem prompt_and_late_settle :
    (∃ s, Exec (step "1s") Unguarded initial s ∧ s.main = .done .response ∧
      ∀ s', Exec (step "1s") Unguarded s s' → ¬ s'.callbackRan ∧ .callback ∉ s'.cancels) ∧
    ∃ s err, Exec (step "1s") Unguarded initial s ∧ s.main = .done (.error err) ∧
      err.wraps .deadlineExceeded := by
  obtain ⟨s, hs⟩ := Option.isSome_iff_exists.mp
    (show (execute (step "1s") promptResponse initial).isSome = true from rfl)
  obtain ⟨t, ht⟩ := Option.isSome_iff_exists.mp
    (show (execute (step "1s") lateTimer initial).isSome = true from rfl)
  have hrun := exec_of_execute hs
  have hlate := exec_of_execute ht
  have hprompt := header_timeout_settles "1s" hrun
  have hsettled := header_timeout_settles "1s" hlate
  cases hs
  cases ht
  refine ⟨⟨_, hrun, rfl, hprompt.2.1 rfl⟩, _, _, hlate, rfl, ?_⟩
  obtain ⟨err, herr, hwraps⟩ := hsettled.2.2.1 _ rfl ⟨nofun, nofun⟩ nofun
  cases herr
  exact hwraps

end Settlement

end TunnelGateway.HeaderTimeout
