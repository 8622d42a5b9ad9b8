import SpacewayScenarios.Script.Talks

/-!
# The life of an instance

The scripts give every engine instance the same life: `subprocess.Popen` starts it, command
lines go to its standard input while it runs, the `finally` block sends it `terminate`, and
it is killed only when a wait for it times out. This module states that life as a **state
machine per instance** (`Life`, `Life.next`) and reads a run's recorded events through it
(`replay`). A history the machine accepts is one where

* each instance is started at most once;
* command lines go only to an instance that was started and not yet sent `terminate`;
* `terminate` goes once to a started instance;
* `kill` goes once to an instance already sent `terminate`;
* the script reads a log whenever it likes.

A run **ends settled** (`Settled`) when the machine accepts its history and no instance is
left running; it has then sent `terminate` to every instance it started
(`Settled.startsStopped`). The lemmas carry the machine through the scripts' pieces:

* a body that only talks to the instances it started keeps every life as it is
  (`KeepsLives`, an invariant of the history, and `Talks.keepsLives`);
* a loop that moves each of its instances one step moves them all and leaves the others
  alone (`forM_moves`); `terminate`, `kill` and `stop()` are such steps, and so is each
  `Popen` of the clients until one raises `OSError` (`forM_startClient_lives`);
* the teardown of the hand-written scripts settles the instances it is given
  (`terminateAll_settles`), and so does every `launch` whose teardown settles the clients it
  started (`launch_settled`), unless a `Popen` raised `OSError` before the `try`: that run
  ends with a history of starts only, the instances it started running (`Abandoned`).
-/

namespace SpacewayScenarios

open Script (wp_mono wp_and wp_bind_of wp_tryCatch wp_tryFinally)

/-! ### The lifecycle -/

/-- Where an instance stands in its life: not started, running, sent `terminate`, killed. -/
inductive Life where
  | idle
  | running
  | terminated
  | killed
  deriving DecidableEq, Repr

/-- The instance an event concerns. -/
def Event.party : Event → Party
  | .spawn p _ | .write p _ | .read p _ | .terminate p | .kill p => p

/-- The move an event makes in the life of the instance it concerns; `none` where the
lifecycle does not allow the event. A read of the log leaves the instance as it is. -/
def Life.next : Life → Event → Option Life
  | x, .read _ _ => some x
  | .idle, .spawn _ _ => some .running
  | .running, .write _ _ => some .running
  | .running, .terminate _ => some .terminated
  | .terminated, .kill _ => some .killed
  | _, _ => none

/-- The lives a history leaves, from every instance idle; the history is most recent event
first, as `World.events` holds it. `none` when some event breaks its instance's lifecycle. -/
def replay : List Event → Option (Party → Life)
  | [] => some fun _ => .idle
  | e :: es => (replay es).bind fun l => ((l e.party).next e).map (Function.update l e.party)

theorem replay_cons {es : List Event} {l : Party → Life} {e : Event} {x : Life}
    (h : replay es = some l) (hx : (l e.party).next e = some x) :
    replay (e :: es) = some (Function.update l e.party x) := by
  simp [replay, h, hx]

/-- A command line written before the instance was started breaks its lifecycle. -/
example : (replay [.spawn .alice [], .write .alice "whoami"]).isNone := by decide

/-- The instances `ps` run; the others were never started. -/
def lives (ps : List Party) : Party → Life := fun p => if p ∈ ps then .running else .idle

/-- The history is one the lifecycle accepts, and it leaves no instance running. -/
def Settled (events : List Event) : Prop := ∃ l, replay events = some l ∧ ∀ p, l p ≠ .running

/-- The run ended at start-up: its history holds only starts and the lifecycle accepts it,
and the instances it started are left running. -/
def Abandoned (events : List Event) : Prop := StartupOnly events ∧ ∃ l, replay events = some l

/-- Every instance the history started was sent `terminate`. -/
def StartsStopped (events : List Event) : Prop :=
  ∀ p argv, Event.spawn p argv ∈ events → Event.terminate p ∈ events

/-- An instance that an accepted history started still runs, or was sent `terminate`. -/
theorem running_or_terminated : ∀ {es : List Event} {l : Party → Life}, replay es = some l →
    ∀ {p : Party} {argv : List String}, Event.spawn p argv ∈ es →
      l p = .running ∨ Event.terminate p ∈ es
  | [], _, _, _, _, hm => nomatch hm
  | e :: es, l', h, p, argv, hm => by
    obtain ⟨l, hl, x, hx, rfl⟩ : ∃ l, replay es = some l ∧ ∃ x, (l e.party).next e = some x ∧
        Function.update l e.party x = l' := by
      simpa [replay, Option.bind_eq_some, Option.map_eq_some'] using h
    rcases List.mem_cons.mp hm with rfl | hm
    · -- the newest event starts `p`
      cases hl' : l p <;> simp_all [Life.next, Event.party]
    by_cases hp : e.party = p
    · subst hp
      rcases running_or_terminated hl hm with hr | ht
      · cases e <;> simp_all [Life.next, Event.party]
      · exact .inr (List.mem_cons_of_mem _ ht)
    · rw [Function.update_noteq (Ne.symm hp)]
      exact (running_or_terminated hl hm).imp_right (List.mem_cons_of_mem _)

/-- **A settled history stopped every instance it started.** -/
theorem Settled.startsStopped {es : List Event} (h : Settled es) : StartsStopped es :=
  fun p _ hm => let ⟨_, hl, hrun⟩ := h; (running_or_terminated hl hm).resolve_left (hrun p)

/-! ### Bodies that keep every life as it is -/

/-- `s` leaves the lives `l` as it finds them: it writes only to instances running in `l`,
and starts, terminates and kills none. -/
def KeepsLives {α : Type} (l : Party → Life) (s : Script α) : Prop :=
  Preserves (fun es => replay es = some l) s

/-- A command line accepted by a running instance leaves its life as it is. -/
theorem replay_write {es : List Event} {l : Party → Life} {p : Party} (h : replay es = some l)
    (hp : l p = .running) (line : String) : replay (.write p line :: es) = some l :=
  (replay_cons h (x := .running) (by simp [Event.party, hp, Life.next])).trans <| by
    rw [Event.party, ← hp, Function.update_eq_self]

/-- A read of a log leaves every life as it is. -/
theorem replay_read {es : List Event} {l : Party → Life} (h : replay es = some l) (p : Party)
    (c : List Char) : replay (.read p c :: es) = some l := by
  simp [replay, h, Event.party, Life.next]

/-- **A body that only talks to the instances it started keeps every life**: its writes go
to running instances, and it starts, terminates and kills none. -/
theorem Talks.keepsLives {α : Type} {ps : List Party} {s : Script α} (h : Talks ps s) :
    KeepsLives (lives ps) s :=
  h.preserves (fun _ _ _ hw => replay_read hw _ _) fun _ _ _ hp hw => replay_write hw (if_pos hp) _

/-! ### Loops that move every instance they are given -/

/-- The instances of a loop's other steps keep their life when its first instance moves. -/
theorem update_rest {γ : Type} {party : γ → Party} {c : γ} {cs : List γ} {l : Party → Life}
    {s x : Life} (hnd : party c ∉ cs.map party) (hl : ∀ c' ∈ c :: cs, l (party c') = s) :
    ∀ c' ∈ cs, Function.update l (party c) x (party c') = s := fun c' hc' => by
  have hne : party c' ≠ party c := fun h => hnd (h ▸ List.mem_map_of_mem party hc')
  rw [Function.update_noteq hne]
  exact hl c' (List.mem_cons_of_mem _ hc')

/-- The first instance of a loop moved to `x`, then the loop's other steps moved theirs. -/
theorem moves_cons {γ : Type} {party : γ → Party} {c : γ} {cs : List γ} {l l' : Party → Life}
    {x : Life} {D : Life → Prop} (hnd : party c ∉ cs.map party) (hx : D x)
    (h : ∀ p, (p ∈ cs.map party → D (l' p)) ∧
      (p ∉ cs.map party → l' p = Function.update l (party c) x p)) (p : Party) :
    (p ∈ (c :: cs).map party → D (l' p)) ∧ (p ∉ (c :: cs).map party → l' p = l p) := by
  by_cases hp : p = party c
  · subst hp
    refine ⟨fun _ => ?_, fun h => absurd (List.mem_cons_self _ _) h⟩
    rwa [(h _).2 hnd, Function.update_same]
  · simp only [List.map_cons, List.mem_cons, hp, false_or]
    exact ⟨(h p).1, fun h' => ((h p).2 h').trans (Function.update_noteq hp _ _)⟩

/-- **A loop that moves each of its instances one step**, from `s` to a life satisfying `D`,
moves all of them and leaves every other instance as it was. -/
theorem forM_moves {γ : Type} {party : γ → Party} {f : γ → Script Unit} {s : Life}
    {D : Life → Prop}
    (hf : ∀ c l w, l (party c) = s → replay w.events = some l → (f c).wp (fun r w' =>
      r = .ok () ∧ ∃ x, D x ∧ replay w'.events = some (Function.update l (party c) x)) w) :
    ∀ (cs : List γ) (l : Party → Life) (w : World), (cs.map party).Nodup →
      (∀ c ∈ cs, l (party c) = s) → replay w.events = some l →
      (cs.forM f).wp (fun r w' => r = .ok () ∧ ∃ l', replay w'.events = some l' ∧
        ∀ p, (p ∈ cs.map party → D (l' p)) ∧ (p ∉ cs.map party → l' p = l p)) w
  | [], l, _, _, _, hw => ⟨rfl, l, hw, fun _ => ⟨(fun h => nomatch h), fun _ => rfl⟩⟩
  | c :: cs, l, w, hnd, hl, hw => by
    rw [List.map_cons, List.nodup_cons] at hnd
    refine wp_bind_of (hf c l w (hl c (List.mem_cons_self _ _)) hw) (fun _ _ h => nomatch h.1) ?_
    rintro _ w₁ ⟨_, x, hx, h₁⟩
    exact wp_mono (fun r w' ⟨hr, l', h', hl'⟩ => ⟨hr, l', h', moves_cons hnd.1 hx hl'⟩)
      (forM_moves hf cs _ w₁ hnd.2 (update_rest hnd.1 hl) h₁)

/-- After a loop of `forM_moves` into lives that are not running, from lives where only
the loop's instances ran, no instance runs. -/
theorem not_running_of_moves {qs : List Party} {l l' : Party → Life} {D : Life → Prop}
    (hD : ∀ x, D x → x ≠ .running) (hl : ∀ p, p ∉ qs → l p ≠ .running)
    (h : ∀ p, (p ∈ qs → D (l' p)) ∧ (p ∉ qs → l' p = l p)) (p : Party) : l' p ≠ .running := by
  by_cases hp : p ∈ qs
  · exact hD _ ((h p).1 hp)
  · exact (h p).2 hp ▸ hl p hp

/-- `Popen` starts an idle instance, or raises `OSError` and leaves every life as it is. -/
theorem startClient_moves (binary : String) (c : Party × String × String) (l : Party → Life)
    (w : World) (hl : l c.1 = .idle) (hw : replay w.events = some l) :
    (startClient binary c).wp (fun r w' =>
      r = .ok () ∧ replay w'.events = some (Function.update l c.1 .running) ∨
      r = .error .osError ∧ replay w'.events = some l) w :=
  startClient_wp binary c (fun _ => .inr ⟨rfl, hw⟩)
    fun _ => .inl ⟨rfl, replay_cons hw (by simp [Event.party, hl, Life.next])⟩

/-- **Starting the clients**: from lives where the clients are idle, the loop of `Popen`s
leaves a history the lifecycle accepts, and when it returns every client runs and the other
instances are as they were. -/
theorem forM_startClient_lives (binary : String) :
    ∀ (cs : List (Party × String × String)) (l : Party → Life) (w : World),
      (cs.map Prod.fst).Nodup → (∀ c ∈ cs, l c.1 = .idle) → replay w.events = some l →
      (cs.forM (startClient binary)).wp (fun r w' => ∃ l', replay w'.events = some l' ∧
        (r = .ok () → ∀ p, (p ∈ cs.map Prod.fst → l' p = .running) ∧
          (p ∉ cs.map Prod.fst → l' p = l p))) w
  | [], l, _, _, _, hw => ⟨l, hw, fun _ _ => ⟨nofun, fun _ => rfl⟩⟩
  | c :: cs, l, w, hnd, hl, hw => by
    rw [List.map_cons, List.nodup_cons] at hnd
    refine wp_bind_of (startClient_moves binary c l w (hl c (List.mem_cons_self _ _)) hw)
      (fun _ _ h => ?_) fun _ w₁ h => ?_
    · obtain ⟨h, -⟩ | ⟨-, h⟩ := h
      · nomatch h
      · exact ⟨l, h, nofun⟩
    · obtain ⟨-, h₁⟩ | ⟨h, -⟩ := h
      · exact wp_mono (fun r w' ⟨l', h', hl'⟩ => ⟨l', h', fun hr => moves_cons (D := (· = .running)) hnd.1 rfl (hl' hr)⟩)
          (forM_startClient_lives binary cs _ w₁ hnd.2 (update_rest hnd.1 hl) h₁)
      · nomatch h

theorem terminate_moves (p : Party) (l : Party → Life) (w : World) (hl : l p = .running)
    (hw : replay w.events = some l) :
    (terminate p).wp (fun r w' => r = .ok () ∧
      ∃ x, x = .terminated ∧ replay w'.events = some (Function.update l p x)) w :=
  fun _ => ⟨rfl, _, rfl, replay_cons hw (by simp [Event.party, hl, Life.next])⟩

theorem kill_moves (p : Party) (l : Party → Life) (w : World) (hl : l p = .terminated)
    (hw : replay w.events = some l) :
    (kill p).wp (fun r w' => r = .ok () ∧
      ∃ x, x = .killed ∧ replay w'.events = some (Function.update l p x)) w :=
  fun _ => ⟨rfl, _, rfl, replay_cons hw (by simp [Event.party, hl, Life.next])⟩

/-- `stop()` sends `terminate` to a running instance, and `kill` after it when the wait times
out. -/
theorem stopClient_moves (secs : Nat) (p : Party) (l : Party → Life) (w : World)
    (hl : l p = .running) (hw : replay w.events = some l) :
    (stopClient p secs).wp (fun r w' => r = .ok () ∧ ∃ x, (x = .terminated ∨ x = .killed) ∧
      replay w'.events = some (Function.update l p x)) w :=
  wp_bind_of (terminate_moves p l w hl hw) (fun _ _ h => nomatch h.1) fun _ w₁ ⟨_, _, hx, h₁⟩ =>
    (wp_tryCatch _ _ _ _).2 fun t => by
      subst hx
      simp only [waitFor, Op.exec]
      split
      · exact ⟨rfl, _, .inl rfl, h₁⟩
      · refine fun _ => ⟨rfl, _, .inr rfl, (replay_cons h₁ (x := .killed) ?_).trans ?_⟩
        · simp [Event.party, Life.next]
        · rw [Event.party, Function.update_idem]

/-- **The teardown of the hand-written scripts settles its instances**: from every instance of
`ps` running and no other started, `terminateAll ps` ends with each sent `terminate`, and
killed when some wait timed out. -/
theorem terminateAll_settles {ps : List Party} (hnd : ps.Nodup) (secs : Nat) (w : World)
    (hw : replay w.events = some (lives ps)) :
    (terminateAll ps secs).wp (fun _ w' => Settled w'.events) w := by
  refine wp_bind_of (forM_moves terminate_moves ps _ w (by simpa using hnd)
    (fun p hp => if_pos hp) hw) (fun _ _ h => nomatch h.1) ?_
  rintro _ w₁ ⟨_, l₁, h₁, hl₁⟩
  simp only [List.map_id'] at hl₁
  have hrun : ∀ p, l₁ p ≠ .running := not_running_of_moves (D := (· = .terminated))
    (by rintro _ rfl ⟨⟩) (fun p hp => by simp [hp]) hl₁
  refine (wp_tryCatch _ _ _ _).2 <| wp_mono (fun r w₂ h₂ => ?_)
    ((forM_preserves fun p (_ : p ∈ ps) =>
      waitFor_preserves (fun es => replay es = some l₁) p secs).keeps
      w₁ h₁)
  cases r with
  | ok _ => exact ⟨l₁, h₂, hrun⟩
  | error _ =>
    refine wp_mono (fun _ _ ⟨_, l₂, h₃, hl₂⟩ => ⟨l₂, h₃, ?_⟩)
      (forM_moves kill_moves ps l₁ w₂ (by simpa using hnd) (fun p hp => (hl₁ p).1 hp) h₂)
    exact not_running_of_moves (D := (· = .killed)) (by rintro _ rfl ⟨⟩) (fun p _ => hrun p)
      (by simpa using hl₂)

/-- **`launch` ends settled** when its teardown settles the clients it started: from a world
with no events, every run, whether the build failed, the body returned or it raised,
leaves a history the lifecycle accepts with no instance running; only a start-up that raised
`OSError` before the `try` leaves its history of starts, with the instances it started
running. -/
theorem launch_settled {binary : String} {clients : List (Party × String × String)}
    {body : Script Nat} {teardown : Script Unit} {ps : List Party}
    (hps : clients.map Prod.fst = ps) (hnd : ps.Nodup) (hbody : KeepsLives (lives ps) body)
    (hteardown : ∀ w, replay w.events = some (lives ps) →
      teardown.wp (fun _ w' => Settled w'.events) w)
    {w : World} (hw : w.events = []) :
    (launch binary clients body teardown).wp (fun r w' =>
      Settled w'.events ∨ r = .error .osError ∧ Abandoned w'.events) w := by
  have h₀ : StartupOnly w.events := hw ▸ fun _ h => nomatch h
  have hr₀ : replay w.events = some fun _ => .idle := by simp [hw, replay]
  intro t
  simp only [launch, Op.exec]
  split
  · subst hps
    refine wp_bind_of (wp_and (forM_startClient_lives binary clients _ _ hnd (fun _ _ => rfl) hr₀)
      (forM_startClient_startup binary clients h₀)) (fun _ _ ⟨⟨l₁, h₁, _⟩, hs, he⟩ => ?_)
      fun _ w₁ ⟨⟨l₁, h₁, hl₁⟩, _⟩ => ?_
    · exact .inr ⟨congrArg _ (Except.error.inj (he.resolve_left nofun)), hs, l₁, h₁⟩
    have hl : l₁ = lives (clients.map Prod.fst) := funext fun p => by
      by_cases hp : p ∈ clients.map Prod.fst
      · simp [lives, hp, (hl₁ rfl p).1 hp]
      · simp [lives, hp, (hl₁ rfl p).2 hp]
    refine (wp_tryFinally _ _ _ _).2 <| wp_mono (fun r w₂ h₂ => wp_mono (fun r' _ h => ?_)
      (hteardown w₂ h₂)) (hbody.keeps w₁ (hl ▸ h₁))
    cases r' <;> exact .inl h
  · exact .inl ⟨fun _ => .idle, hr₀, fun _ => nofun⟩
  · exact .inr ⟨rfl, h₀, _, hr₀⟩

end SpacewayScenarios
