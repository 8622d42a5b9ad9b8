import SpacewayScenarios.Script.Basic
import SpacewayScenarios.Facts
import Mathlib.Data.Bool.Count

/-!
# Client handles and the shape of a scenario's `main`

The helpers every script defines at its top: `run_command` writes a line and sleeps,
`find_in_log` and `check_log` read a whole log and search it. The scripts' copies of them
are identical except in test-permissions, whose `run_command` swallows a broken pipe and
whose `check_log` can report context lines (`Scenario.Permissions`).

Every script but test-e2ee then has the same `main` around its scenario: check for the
binary, start the instances, and run the scenario inside `try ... finally` with a
teardown (`launch`). The check and the starts come before the `try`: a failed build returns
1, and a missing `cargo` or a `Popen` that cannot start the binary raises `OSError` that no
`finally` block sees. The lemmas here are the reasoning kit for all scenarios:

* **forgetting**: a step whose result and world do not matter (`wp_forget`, `wp_bind_forget`);
* **append-only logs**: every run only extends every log (`wp_log_grows`);
* **teardown keeps the reads**: the `finally` blocks read no log (`terminateAll_seen`,
  `stopClient_seen`), so what the scoring read is what the run leaves in `World.seen`;
* **start-up**: the starts record nothing but starts, whether they all succeed or one raises
  (`forM_startClient_startup`), and past them the `finally` block runs on every path
  (`launch_teardown`);
* **exit 0 only from the body**: `launch_exit_zero`.
-/

namespace SpacewayScenarios

open Script

/-- Python's `f'{x}'` for an extracted id: the id, or `None`. -/
def strOf : Option String → String
  | some s => s
  | none => "None"

/-- A command line built as `s + t` starts with `s`. -/
theorem prefix_toList_append (s t : String) : s.toList <+: (s ++ t).toList := by
  simp only [String.toList, String.data_append]
  exact List.prefix_append _ _

/-- Sleep, as `time.sleep(secs)`. -/
def sleep (secs : Nat) : Script Unit := op (.sleep secs) fun _ => .pure ()

/-- Helper `run_command(client, cmd, wait)`: write the command line to the instance's
standard input, then sleep `wait` seconds. A write to an exited instance raises
`BrokenPipeError`, which the scripts do not catch. -/
def runCommand (p : Party) (cmd : String) (wait : Nat) : Script Unit :=
  op (.write p cmd) fun (ok : Bool) => if ok then sleep wait else .raise .brokenPipe

/-- Helper `open(log).read()`. -/
def readLog (p : Party) : Script (List Char) := op (.read p) fun (c : List Char) => .pure c

/-- Helper `find_in_log(log, pattern)`: group 1 of the first match in the whole log. -/
def findInLog (p : Party) (pattern : Re) : Script (Option String) :=
  op (.read p) fun (c : List Char) => .pure (firstGroup pattern c)

/-- Helper `check_log(log, pattern)`: whether the pattern occurs anywhere in the log. -/
def checkLog (p : Party) (pattern : Re) : Script Bool :=
  op (.read p) fun (c : List Char) => .pure (found pattern c)

/-- Python's `if x: body(x)` on an extracted id. -/
def whenSome (o : Option String) (body : String → Script Unit) : Script Unit :=
  o.elim (.pure ()) body

/-- Start an instance: `subprocess.Popen([binary, '--account', account, '--port', port])`,
which raises `OSError` when it cannot start the binary. -/
def startClient (binary : String) (c : Party × String × String) : Script Unit :=
  op (.spawn c.1 [binary, "--account", c.2.1, "--port", c.2.2]) fun (ok : Bool) =>
    if ok then .pure () else .raise .osError

/-- Send `proc.terminate()`. -/
def terminate (p : Party) : Script Unit := op (.terminate p) fun _ => .pure ()

/-- Send `proc.kill()`. -/
def kill (p : Party) : Script Unit := op (.kill p) fun _ => .pure ()

/-- Wait as `proc.wait(timeout=secs)`, raising `TimeoutExpired` if the instance is alive. -/
def waitFor (p : Party) (secs : Nat) : Script Unit :=
  op (.wait p secs) fun (gone : Bool) => if gone then .pure () else .raise .timeoutExpired

/-- The `finally` block of the hand-written scripts: terminate every instance, wait for
each in turn, and kill them all as soon as one wait times out. -/
def terminateAll (ps : List Party) (secs : Nat) : Script Unit :=
  (ps.forM terminate).bind fun _ =>
    tryCatch (ps.forM fun p => waitFor p secs) fun _ => ps.forM kill

/-- Method `SpacewayClient.stop()`, and test-permissions' per-client cleanup: terminate,
wait, and kill when the wait times out. -/
def stopClient (p : Party) (secs : Nat) : Script Unit :=
  (terminate p).bind fun _ => tryCatch (waitFor p secs) fun _ => kill p

/-- Python's `sys.exit(main())`: the code `main` returns, or 1 when an exception escapes. -/
def exitStatus : Except PyExc Nat → Nat
  | .ok n => n
  | .error _ => 1

/-- The environment of the concrete runs below: every instance prints `out p` just before
step `n` of the script and none exits; the binary is in place, every `Popen` succeeds and
every shell command ends with status 0. -/
def printsAt (n : Nat) (out : Party → String) : Nat → Tick := fun m =>
  ⟨fun p => if m = n then (out p).toList else [], fun _ => false, .ready, false, true⟩

/-- The `main` all scripts but test-e2ee share around their scenario: return 1 when the
build of a missing binary fails, and raise `FileNotFoundError` when `cargo` is missing;
otherwise start the `clients` (instance, account, port) and run `body` under
`try ... finally teardown`. The build and the `Popen`s come before the `try`: a `Popen` that
raises `OSError` ends the run with the instances started before it left running. -/
def launch (binary : String) (clients : List (Party × String × String)) (body : Script Nat)
    (teardown : Script Unit) : Script Nat :=
  op .prepare fun (b : Build) =>
    match b with
    | .ready => (clients.forM (startClient binary)).bind fun _ => tryFinally body teardown
    | .failed => .pure 1
    | .noCargo => .raise .osError

/-- The scripts' `if not x: print(...); return 1` right after extracting `x`. -/
def requireId {σ : Type} (x : Script (Option σ)) (rest : σ → Script Nat) : Script Nat :=
  x.bind fun o => o.elim (.pure 1) rest

/-- The verdict of the scripts with a partial-success threshold: 0 on a full score, 0 on a
score of at least `threshold`, 1 below it. -/
def partialVerdict (total threshold passed : Nat) : Nat :=
  if passed = total then 0 else if threshold ≤ passed then 0 else 1

/-- The verdict of the scripts without one: 0 on a full score, 1 otherwise. -/
def fullVerdict (total passed : Nat) : Nat := if passed = total then 0 else 1

theorem partialVerdict_eq_zero {total threshold passed : Nat} (h : threshold ≤ total) :
    partialVerdict total threshold passed = 0 ↔ threshold ≤ passed := by
  unfold partialVerdict
  split <;> [omega; (split <;> simp_all)]

theorem fullVerdict_eq_zero {total passed : Nat} :
    fullVerdict total passed = 0 ↔ passed = total := by
  unfold fullVerdict; split <;> simp_all

/-- A threshold verdict of 0 leaves at most `total - threshold` failed checks. -/
theorem count_false_le_of_partialVerdict {checks : List Bool} {total threshold : Nat}
    (hl : checks.length = total) (ht : threshold ≤ total)
    (h : partialVerdict total threshold (checks.count true) = 0) :
    checks.count false ≤ total - threshold := by
  have hsum := List.count_true_add_count_false checks
  have hpass := (partialVerdict_eq_zero ht).1 h
  omega

theorem count_true_eraseIdx_of_false {checks : List Bool} {i : Nat}
    (h : checks[i]? = some false) : (checks.eraseIdx i).count true = checks.count true := by
  induction checks generalizing i with
  | nil => simp at h
  | cons b l ih =>
    cases i with
    | zero =>
      obtain rfl : b = false := by simpa using h
      simp
    | succ i => simp [List.count_cons, ih (by simpa using h)]

/-- **A failed check is left to the others**: with one check failed, a threshold verdict of 0
needs the threshold from the remaining checks alone. -/
theorem threshold_le_eraseIdx {checks : List Bool} {total threshold i : Nat}
    (ht : threshold ≤ total) (hi : checks[i]? = some false)
    (h : partialVerdict total threshold (checks.count true) = 0) :
    threshold ≤ (checks.eraseIdx i).count true := by
  rw [count_true_eraseIdx_of_false hi]
  exact (partialVerdict_eq_zero ht).1 h

/-! ### Reasoning kit -/

namespace Script

variable {α β : Type}

theorem wp_forget {s : Script α} {Q : Except PyExc α → World → Prop} {w : World}
    (h : ∀ r w', Q r w') : s.wp Q w := by
  induction s generalizing w with
  | pure a => exact h _ _
  | raise e => exact h _ _
  | op o k ih => exact fun t => ih _

theorem wp_and {s : Script α} {Q Q' : Except PyExc α → World → Prop} {w : World}
    (h : s.wp Q w) (h' : s.wp Q' w) : s.wp (fun r w' => Q r w' ∧ Q' r w') w := by
  induction s generalizing w with
  | pure a => exact ⟨h, h'⟩
  | raise e => exact ⟨h, h'⟩
  | op o k ih => exact fun t => ih _ (h t) (h' t)

/-- Sequencing by what the first part establishes of its normal results. -/
theorem wp_bind_of {s : Script α} {f : α → Script β} {R : Except PyExc α → World → Prop}
    {Q : Except PyExc β → World → Prop} {w : World} (hs : s.wp R w)
    (herr : ∀ e w', R (.error e) w' → Q (.error e) w') (hf : ∀ a w', R (.ok a) w' → (f a).wp Q w') :
    (s.bind f).wp Q w :=
  (wp_bind _ _ _ _).2 <| wp_mono (fun r w' h => by
    cases r with
    | ok a => exact hf a w' h
    | error e => exact herr e w' h) hs

/-- A step whose result and final world do not matter. -/
theorem wp_bind_forget {s : Script α} {f : α → Script β} {Q : Except PyExc β → World → Prop}
    {w : World} (herr : ∀ e w', Q (.error e) w') (hf : ∀ a w', (f a).wp Q w') :
    (s.bind f).wp Q w :=
  @wp_bind_of _ _ _ _ (fun _ _ => True) _ _ (wp_forget fun _ _ => trivial) (fun e w' _ => herr e w')
    fun a w' _ => hf a w'

/-- **Monotone observations**: a reflexive, transitive relation that every operation
advances holds between the first and the last world of every run. -/
theorem wp_advances {R : World → World → Prop} (hrefl : ∀ w, R w w)
    (htrans : ∀ {a b c}, R a b → R b c → R a c) (hop : ∀ t (o : Op) w, R w (o.exec t (w.tick t)).2)
    (s : Script α) (w : World) : s.wp (fun _ w' => R w w') w := by
  induction s generalizing w with
  | pure a => exact hrefl w
  | raise e => exact hrefl w
  | op o k ih => exact fun t => wp_mono (fun _ _ h => htrans (hop t o w) h) (ih _ _)

/-- One operation only extends the logs. -/
theorem Op.exec_log_grows (t : Tick) (o : Op) (w : World) (p : Party) :
    w.log p <+: (o.exec t (w.tick t)).2.log p := by
  cases o <;> simp only [Op.exec] <;> (try split) <;> simp

/-- **Append-only logs**: every run only extends every log. -/
theorem wp_log_grows (s : Script α) (w : World) :
    s.wp (fun _ w' => ∀ p, w.log p <+: w'.log p) w :=
  @wp_advances α (fun a b => ∀ p, a.log p <+: b.log p) (fun _ _ => List.prefix_refl _) (fun h h' p => (h p).trans (h' p))
    (fun t o w p => Op.exec_log_grows t o w p) s w

/-- One operation only extends what the script has seen of each log. -/
theorem Op.exec_seen_grows (t : Tick) (o : Op) (w : World) (p : Party) :
    w.seen p <+: (o.exec t (w.tick t)).2.seen p := by
  cases o with
  | read q =>
    by_cases h : p = q
    · subst h
      simpa [Op.exec] using (w.seen_le_log p).trans (List.prefix_append _ _)
    · simp [Op.exec, Function.update_noteq h]
  | _ => simp only [Op.exec]; (try split) <;> simp

/-- **What the script saw only grows**: every later read of a log extends every earlier one. -/
theorem wp_seen_grows (s : Script α) (w : World) :
    s.wp (fun _ w' => ∀ p, w.seen p <+: w'.seen p) w :=
  @wp_advances α (fun a b => ∀ p, a.seen p <+: b.seen p) (fun _ _ => List.prefix_refl _) (fun h h' p => (h p).trans (h' p))
    (fun t o w p => Op.exec_seen_grows t o w p) s w

/-- One operation only adds events. -/
theorem Op.exec_events_grow (t : Tick) (o : Op) (w : World) :
    w.events <:+ (o.exec t (w.tick t)).2.events := by
  cases o <;> simp only [Op.exec] <;> (try split) <;> simp

/-- **Recorded events stay recorded**: every run only adds events. -/
theorem wp_events_grow (s : Script α) (w : World) :
    s.wp (fun _ w' => w.events <:+ w'.events) w :=
  @wp_advances α (fun a b => a.events <:+ b.events) (fun _ => List.suffix_refl _)
    (fun h h' => h.trans h') Op.exec_events_grow s w

/-- The postcondition of a `finally` block, given the body's result `r`. -/
def finPost (r : Except PyExc α) (Q : Except PyExc α → World → Prop) :
    Except PyExc Unit → World → Prop
  | .ok _, w => Q r w
  | .error e, w => Q (.error e) w

theorem wp_tryFinally (body : Script α) (fin : Script Unit) (Q : Except PyExc α → World → Prop)
    (w : World) :
    (tryFinally body fin).wp Q w ↔ body.wp (fun r w' => fin.wp (finPost r Q) w') w := by
  unfold tryFinally
  rw [wp_bind, wp_tryCatch]
  refine Iff.of_eq (congrArg (fun Q' => body.wp Q' w) (funext₂ fun r w' => ?_))
  cases r with
  | ok a =>
    simp only [catchPost, bindPost, wp_bind]
    exact congrArg (fun Q' => fin.wp Q' w') (funext₂ fun r' _ => by cases r' <;> rfl)
  | error e =>
    simp only [catchPost, wp_bind]
    exact congrArg (fun Q' => fin.wp Q' w') (funext₂ fun r' _ => by cases r' <;> rfl)

/-- Continue after a step knowing only that it extended every log. -/
theorem wp_bind_grows {s : Script α} {f : α → Script β} {Q : Except PyExc β → World → Prop}
    {w : World} (herr : ∀ e w', Q (.error e) w')
    (hf : ∀ a w', (∀ p, w.log p <+: w'.log p) → (f a).wp Q w') : (s.bind f).wp Q w :=
  wp_bind_of (wp_log_grows s w) (fun e w' _ => herr e w') hf

/-- **The `finally` block has the last word**: what the `finally` block establishes from
every world holds at the end of every run of `tryFinally`, after a normal return or an
exception alike. -/
theorem wp_tryFinally_fin {body : Script α} {fin : Script Unit} {P : World → Prop} {w : World}
    (hfin : ∀ w, fin.wp (fun _ w' => P w') w) : (tryFinally body fin).wp (fun _ w' => P w') w :=
  (wp_tryFinally _ _ _ _).2 <| wp_forget fun _ w' =>
    wp_mono (fun r' _ h => by cases r' <;> exact h) (hfin w')

/-- A script that reads no log leaves `World.seen` as it found it. -/
def KeepsSeen (s : Script α) : Prop := ∀ w, s.wp (fun _ w' => w'.seen = w.seen) w

theorem keepsSeen_pure (a : α) : KeepsSeen (pure a) := fun _ => rfl

theorem keepsSeen_bind {s : Script α} {f : α → Script β} (hs : KeepsSeen s)
    (hf : ∀ a, KeepsSeen (f a)) : KeepsSeen (s.bind f) := fun w =>
  (wp_bind _ _ _ _).2 <| wp_mono (fun r w' h => by
    cases r with
    | ok a => exact wp_mono (fun _ _ h' => h'.trans h) (hf a w')
    | error e => exact h) (hs w)

theorem keepsSeen_tryCatch {s : Script α} {h : PyExc → Script α} (hs : KeepsSeen s)
    (hh : ∀ e, KeepsSeen (h e)) : KeepsSeen (s.tryCatch h) := fun w =>
  (wp_tryCatch _ _ _ _).2 <| wp_mono (fun r w' hr => by
    cases r with
    | ok a => exact hr
    | error e => exact wp_mono (fun _ _ h' => h'.trans hr) (hh e w')) (hs w)

theorem keepsSeen_forM {ps : List Party} {f : Party → Script Unit} (hf : ∀ p, KeepsSeen (f p)) :
    KeepsSeen (ps.forM f) := by
  induction ps with
  | nil => exact keepsSeen_pure _
  | cons p ps ih => exact keepsSeen_bind (hf p) fun _ => ih

end Script

open Script

theorem wp_readLog_bind {β : Type} (p : Party) (f : List Char → Script β)
    (Q : Except PyExc β → World → Prop) (w : World) :
    ((readLog p).bind f).wp Q w ↔ ∀ t, (f ((w.tick t).log p)).wp Q
      (((w.tick t).see p).record (.read p ((w.tick t).log p))) :=
  Iff.rfl

/-- Read a log and continue, knowing that what was read stays a prefix of every later read. -/
theorem wp_readLog_seen {β : Type} {p : Party} {f : List Char → Script β}
    {Q : Except PyExc β → World → Prop} (w : World)
    (hf : ∀ c w₁, (f c).wp (fun r w' => c <+: w'.seen p → Q r w') w₁) :
    ((readLog p).bind f).wp Q w := fun t =>
  wp_mono (fun _ _ h => h.1 (by simpa [Op.exec] using h.2 p)) (wp_and (hf _ _) (wp_seen_grows _ _))

/-- `wp_readLog_seen` for `check_log`. -/
theorem wp_checkLog_seen {β : Type} {p : Party} {pattern : Re} {f : Bool → Script β}
    {Q : Except PyExc β → World → Prop} (w : World)
    (hf : ∀ c w₁, (f (found pattern c)).wp (fun r w' => c <+: w'.seen p → Q r w') w₁) :
    ((checkLog p pattern).bind f).wp Q w := fun t =>
  wp_mono (fun _ _ h => h.1 (by simpa [Op.exec] using h.2 p)) (wp_and (hf _ _) (wp_seen_grows _ _))

/-- A guarded body exits 0 only through `rest`. -/
theorem requireId_wp {σ : Type} {x : Script (Option σ)} {rest : σ → Script Nat}
    {Q : Except PyExc Nat → World → Prop} (h1 : ∀ w, Q (.ok 1) w) (herr : ∀ e w, Q (.error e) w)
    (hrest : ∀ a w, (rest a).wp Q w) (w : World) : (requireId x rest).wp Q w :=
  wp_bind_forget herr fun o w' => by cases o <;> simp only [Option.elim, wp_pure, h1, hrest]

/-- The guard on an extracted id: `return 1` with the read that lacks it, or go on with the id
and the read that holds it. -/
theorem wp_requireId_findInLog {p : Party} {pattern : Re} {rest : String → Script Nat}
    {Q : Except PyExc Nat → World → Prop} (w : World)
    (hnone : ∀ w', firstGroup pattern (w'.seen p) = none → Q (.ok 1) w')
    (hsome : ∀ v w', firstGroup pattern (w'.seen p) = some v → (rest v).wp Q w') :
    (requireId (findInLog p pattern) rest).wp Q w := fun t => by
  show (Option.elim (firstGroup pattern ((w.tick t).log p)) (.pure 1) rest).wp Q
    (((w.tick t).see p).record (.read p ((w.tick t).log p)))
  cases h : firstGroup pattern ((w.tick t).log p) with
  | none => exact hnone _ (by simpa using h)
  | some v => exact hsome v _ (by simpa using h)

theorem terminate_keepsSeen (p : Party) : KeepsSeen (terminate p) := fun _ _ => rfl

theorem kill_keepsSeen (p : Party) : KeepsSeen (kill p) := fun _ _ => rfl

theorem waitFor_keepsSeen (p : Party) (secs : Nat) : KeepsSeen (waitFor p secs) :=
  fun _ t => by simp only [waitFor, Op.exec]; split <;> rfl

theorem terminateAll_seen (ps : List Party) (secs : Nat) : KeepsSeen (terminateAll ps secs) :=
  keepsSeen_bind (keepsSeen_forM terminate_keepsSeen) fun _ =>
    keepsSeen_tryCatch (keepsSeen_forM fun p => waitFor_keepsSeen p secs)
      fun _ => keepsSeen_forM kill_keepsSeen

theorem stopClient_seen (p : Party) (secs : Nat) : KeepsSeen (stopClient p secs) :=
  keepsSeen_bind (terminate_keepsSeen p) fun _ =>
    keepsSeen_tryCatch (waitFor_keepsSeen p secs) fun _ => kill_keepsSeen p

/-- Group 1 of the first match in the log read last is what `find_in_log` returns. -/
theorem findInLog_firstGroup (p : Party) (pattern : Re) (w : World) :
    (findInLog p pattern).wp (fun r w' => ∀ o, r = .ok o → o = firstGroup pattern (w'.seen p)) w :=
  fun _ => by
    simp only [findInLog, Op.exec]
    rintro _ ⟨⟩
    simp

/-- **The guard on an extracted id**: when `x` returns the first group of `pattern` in its
last read of `p`'s log, and a first group persists as the log grows, the guarded body
returns 1 on every run whose last read of the log lacks the id. -/
theorem requireId_guard {x : Script (Option String)} {rest : String → Script Nat} {p : Party}
    {pattern : Re}
    (hx : ∀ w, x.wp (fun r w' => ∀ o, r = .ok o → o = firstGroup pattern (w'.seen p)) w)
    (hkeep : ∀ s t v, firstGroup pattern s = some v → firstGroup pattern (s ++ t) = some v)
    (w : World) :
    (requireId x rest).wp (fun r w' => firstGroup pattern (w'.seen p) = none → exitStatus r = 1)
      w :=
  wp_bind_of (hx w) (fun _ _ _ _ => rfl) fun o w₁ ho => by
    cases hv : o with
    | none => exact fun _ => rfl
    | some v =>
      refine wp_mono (fun r w' hs hn => ?_) (wp_seen_grows _ w₁)
      obtain ⟨t, ht⟩ := hs p
      have hfound := hkeep _ t v ((ho o rfl).symm.trans hv)
      rw [ht, hn] at hfound
      exact absurd hfound (Option.some_ne_none v).symm

/-! ### Every started instance is stopped -/

/-- Some instance was started. -/
def Started (w : World) : Prop := ∃ p argv, Event.spawn p argv ∈ w.events

/-- The instances `ps` were sent `terminate`. -/
def Stopped (ps : List Party) (w : World) : Prop := ∀ p ∈ ps, Event.terminate p ∈ w.events

theorem Stopped.of_grows {ps : List Party} {w w' : World} (h : Stopped ps w)
    (he : w.events <:+ w'.events) : Stopped ps w' := fun p hp => he.subset (h p hp)

theorem terminate_stopped (p : Party) (w : World) :
    (terminate p).wp (fun r w' => r = .ok () ∧ Stopped [p] w') w :=
  fun _ => ⟨rfl, by simp [Stopped, Op.exec]⟩

/-- `stop()` returns normally after sending `terminate`, killing the instance if it outlives
the wait. -/
theorem stopClient_stopped (p : Party) (secs : Nat) (w : World) :
    (stopClient p secs).wp (fun r w' => r = .ok () ∧ Stopped [p] w') w :=
  wp_bind_of (terminate_stopped p w) (fun _ _ h => nomatch h.1) fun _ w₁ h =>
    (wp_tryCatch _ _ _ _).2 fun t => by
      simp only [waitFor, Op.exec]
      split
      · exact ⟨rfl, h.2⟩
      · intro t'
        simp only [Op.exec]
        exact ⟨rfl, h.2.of_grows (by simp)⟩

/-- A loop over instances whose every step returns normally and stops its instance stops
them all. -/
theorem forM_stopped {f : Party → Script Unit}
    (hf : ∀ p w, (f p).wp (fun r w' => r = .ok () ∧ Stopped [p] w') w) (ps : List Party)
    (w : World) : (ps.forM f).wp (fun r w' => r = .ok () ∧ Stopped ps w') w := by
  induction ps generalizing w with
  | nil => exact ⟨rfl, fun _ h => nomatch h⟩
  | cons p ps ih =>
    refine wp_bind_of (hf p w) (fun _ _ h => nomatch h.1) fun _ w₁ h₁ => ?_
    refine wp_mono (fun r w' h => ⟨h.1.1, ?_⟩) (wp_and (ih w₁) (wp_events_grow _ w₁))
    intro q hq
    rcases List.mem_cons.mp hq with rfl | hq
    exacts [h.2.subset (h₁.2 q (List.mem_singleton_self q)), h.1.2 q hq]

theorem terminateAll_stopped (ps : List Party) (secs : Nat) (w : World) :
    (terminateAll ps secs).wp (fun _ w' => Stopped ps w') w :=
  wp_bind_of (forM_stopped terminate_stopped ps w) (fun _ _ h => nomatch h.1) fun _ w₁ h =>
    wp_mono (fun _ _ he => h.2.of_grows he) (wp_events_grow _ w₁)

/-! ### Start-up -/

/-- The history holds nothing but starts of instances: the run ended at start-up, before the
scenario's first command. -/
def StartupOnly (es : List Event) : Prop := ∀ e ∈ es, ∃ p argv, e = .spawn p argv

theorem StartupOnly.cons_spawn {es : List Event} (h : StartupOnly es) (p : Party)
    (argv : List String) : StartupOnly (.spawn p argv :: es) := fun _ he =>
  (List.mem_cons.mp he).elim (fun h => ⟨p, argv, h⟩) (h _)

/-- `Popen` either starts the instance, recording its start, or raises `OSError`, recording
nothing. -/
theorem startClient_wp (binary : String) (c : Party × String × String)
    {Q : Except PyExc Unit → World → Prop} {w : World} (hfail : ∀ t, Q (.error .osError) (w.tick t))
    (hok : ∀ t, Q (.ok ())
      ((w.tick t).record (.spawn c.1 [binary, "--account", c.2.1, "--port", c.2.2]))) :
    (startClient binary c).wp Q w := fun t => by
  simp only [startClient, Op.exec]
  split
  exacts [hfail t, hok t]

/-- **Start-up records only starts**: the `Popen`s of the clients start every instance, or
one raises `OSError`; either way the history gains starts only. -/
theorem forM_startClient_startup (binary : String) :
    ∀ (cs : List (Party × String × String)) {w : World}, StartupOnly w.events →
      (cs.forM (startClient binary)).wp (fun r w' => StartupOnly w'.events ∧
        (r = .ok () ∨ r = .error .osError)) w
  | [], _, hw => ⟨hw, .inl rfl⟩
  | c :: cs, _, hw => wp_bind_of (startClient_wp binary c
      (Q := fun r w' => StartupOnly w'.events ∧ (r = .ok () ∨ r = .error .osError))
      (fun _ => ⟨hw, .inr rfl⟩) fun _ => ⟨hw.cons_spawn _ _, .inl rfl⟩) (fun _ _ h => h)
      fun _ _ h => forM_startClient_startup binary cs h.1

/-- **The `finally` block runs once the clients have started**: from a world with no events,
every run of `launch` that started an instance ends in a world where the teardown's property
holds, whether the body returned, returned early or raised; or a `Popen` raised `OSError`
before the `try`, and the history holds only the starts before it. -/
theorem launch_teardown {binary : String} {clients : List (Party × String × String)}
    {body : Script Nat} {teardown : Script Unit} {P : World → Prop}
    (hteardown : ∀ w, teardown.wp (fun _ w' => P w') w) {w : World} (hw : w.events = []) :
    (launch binary clients body teardown).wp (fun r w' => Started w' →
      P w' ∨ r = .error .osError ∧ StartupOnly w'.events) w := by
  have h₀ : StartupOnly w.events := hw ▸ fun _ h => nomatch h
  intro t
  simp only [launch, Op.exec]
  split
  · refine wp_bind_of (forM_startClient_startup binary clients h₀) ?_
      fun _ _ _ => wp_mono (fun _ _ h _ => .inl h) (wp_tryFinally_fin hteardown)
    exact fun _ _ ⟨h, he⟩ _ => .inr ⟨congrArg _ (Except.error.inj (he.resolve_left nofun)), h⟩
  · rintro ⟨_, _, h⟩
    simp [hw] at h
  · exact fun _ => .inr ⟨rfl, h₀⟩

/-- **`main` through its body**: a property of the exit result and the final world holds
of every run of `launch` when it holds after the early `return 1` and after every
exception, every run of `body` establishes it, and the teardown keeps it. -/
theorem launch_wp_of_keeps {binary : String} {clients : List (Party × String × String)}
    {body : Script Nat} {teardown : Script Unit} {P : Except PyExc Nat → World → Prop}
    {w : World} (hprep : ∀ t, P (.ok 1) (w.tick t)) (herr : ∀ e w', P (.error e) w')
    (hbody : ∀ w, body.wp P w)
    (hteardown : ∀ r w, P r w → teardown.wp (fun _ w' => P r w') w) :
    (launch binary clients body teardown).wp P w := by
  intro t
  simp only [launch, Op.exec]
  split
  · refine wp_bind_forget (fun _ _ => herr _ _) fun _ w' => ?_
    rw [wp_tryFinally]
    refine wp_mono (fun r w₁ hr => wp_mono (fun r' w₂ hr' => ?_) (hteardown r w₁ hr)) (hbody w')
    cases r' with
    | ok _ => exact hr'
    | error e => exact herr _ _
  · exact hprep t
  · exact herr _ _

/-- `launch_wp_of_keeps` for a property of the final reads, which a teardown that reads no
log keeps. -/
theorem launch_wp {binary : String} {clients : List (Party × String × String)}
    {body : Script Nat} {teardown : Script Unit}
    {P : Except PyExc Nat → (Party → List Char) → Prop} {w : World}
    (hprep : P (.ok 1) w.seen) (herr : ∀ e seen, P (.error e) seen)
    (hbody : ∀ w, body.wp (fun r w' => P r w'.seen) w) (hteardown : KeepsSeen teardown) :
    (launch binary clients body teardown).wp (fun r w' => P r w'.seen) w :=
  launch_wp_of_keeps (fun _ => hprep) (fun _ _ => herr _ _) hbody
    (fun _ w₁ h => wp_mono (fun _ _ hs => by rw [hs]; exact h) (hteardown w₁))

/-- **Exit 0 only from the body**: if every normal return of `body` with code 0 leaves
reads satisfying `P`, and the teardown reads nothing, then every run of `launch` that
exits with status 0 leaves reads satisfying `P`. -/
theorem launch_exit_zero {binary : String} {clients : List (Party × String × String)}
    {body : Script Nat} {teardown : Script Unit} {P : (Party → List Char) → Prop}
    (hbody : ∀ w, body.wp (fun r w' => r = .ok 0 → P w'.seen) w)
    (hteardown : KeepsSeen teardown) (w : World) :
    (launch binary clients body teardown).wp (fun r w' => exitStatus r = 0 → P w'.seen) w :=
  @launch_wp binary clients body teardown (fun r seen => exitStatus r = 0 → P seen) w
    (fun h => by simp [exitStatus] at h) (fun _ _ h => by simp [exitStatus] at h)
    (fun w => wp_mono (fun r _ h h0 => by cases r <;> simp_all [exitStatus]) (hbody w)) hteardown

end SpacewayScenarios
