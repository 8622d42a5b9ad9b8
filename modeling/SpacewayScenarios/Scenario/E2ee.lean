import SpacewayScenarios.Script.Exit
import SpacewayScenarios.Script.Lifecycle

/-!
# test-e2ee.py

The first two-party scenario, written around a class `SpacewayClient`: `start` opens the log,
spawns the release binary and sleeps, `send_command` is `run_command`, and `stop` terminates,
waits and kills an instance that has a process. Nothing is guarded: every extracted id goes
into the next commands as it is. The results section reads the logs for the same kind of five
checks as test-bidirectional, but only prints them; `main` returns nothing, and the script
calls it without `sys.exit`, so the process exits 0 unless an exception escapes (`exitCode`).

The build is checked through a pipeline, `cargo ... 2>&1 | tail -3`, whose status is that of
`tail`, so a failed build goes unnoticed and the `Popen` of a missing release binary raises
`FileNotFoundError`. The starts are inside the `try`: the `finally` block runs after a failed
start too, and stops the instances whose `Popen` returned (`session`).

* **the logs never decide the exit status** (`exitCode_eq_zero_or_raised`): every run exits
  0, or ends in the `BrokenPipeError` of a write to an instance that has exited, or in the
  `OSError` of a `Popen`, raised before any command line was written;
* **every run follows the instances' lifecycle**, a failed start included: no instance is
  left running (`main_settled`).
-/

namespace SpacewayScenarios.E2ee

open Script (wp_run wp_mono wp_and wp_bind_of wp_tryCatch wp_tryFinally)

/-- The command line of `SpacewayClient.start`. -/
def releaseBinary : String := "./target/release/spaceway"

/-- Method `SpacewayClient.start()`: open the log, start the release binary (`Popen` raises
`OSError` when it cannot), sleep 3 s. -/
def start (c : Party × String × String) : Script Unit := do
  startClient releaseBinary c
  sleep 3

/-- Method `SpacewayClient.stop()`: when the instance has a process (`started`), terminate it,
wait 5 s and kill it when the wait times out. An instance whose `Popen` raised has none. -/
def stop (p : Party) (started : Bool) : Script Unit :=
  if started then stopClient p 5 else .pure ()

/-- The `finally` block, `alice.stop()` then `bob.stop()`, given which instances have a
process. -/
def stopBoth (aliceStarted bobStarted : Bool) : Script Unit :=
  (stop .alice aliceStarted).bind fun _ => stop .bob bobStarted

/-- The `try` block from the wait after the two starts up to the results. -/
def exchange : Script Unit := do
  sleep 2
  runCommand .alice "keypackage publish" 5
  runCommand .bob "keypackage publish" 5
  runCommand .alice "space create bidirectional-test" 3
  let spaceId ← findInLog .alice Pat.createdSpace
  let details ← spaceDetails runCommand
  let bobId ← joinSpace runCommand .bob details 5 2
  runCommand .alice ("member add " ++ strOf bobId) 5
  sleep 3
  runCommand .alice "channel create general" 3
  runCommand .alice "thread create \"E2EE Test\"" 3
  runCommand .alice "send Hello Bob! Can you read this encrypted message?" 4
  sleep 3
  runCommand .bob "space list" 2
  navigate .bob (strOf spaceId) "E2EE Test"
  runCommand .bob "send Yes Alice! I can decrypt and reply with encryption!" 4
  sleep 3
  runCommand .alice "send Perfect! Bidirectional E2EE is working!" 4
  sleep 3

/-- The results section: the reads behind the five printed checks. -/
def results : Script Unit := do
  let _ ← readLog .alice
  let _ ← readLog .bob
  let _ ← checkLog .bob (Pat.text "Can you read this encrypted message")
  let _ ← checkLog .alice (Pat.text "I can decrypt and reply")
  let _ ← checkLog .bob (Pat.text "Bidirectional E2EE is working")
  .pure ()

/-- The `try ... finally` block of `main`. `Popen` gives an instance its process when it
returns, so the `finally` block meets an exception of `alice.start()` with no process, one of
`bob.start()` with Alice's, and one of the exchange with both. -/
def session : Script Unit :=
  ((start (.alice, "alice.key", "9001")).tryCatch fun e =>
    (stopBoth false false).bind fun _ => .raise e).bind fun _ =>
  ((start (.bob, "bob.key", "9002")).tryCatch fun e =>
    (stopBoth true false).bind fun _ => .raise e).bind fun _ =>
  Script.tryFinally (exchange.bind fun _ => results) (stopBoth true true)

/-- The script's `main`: clean old data, build through `| tail -3` and return when the
pipeline's status, that of `tail`, is not 0; otherwise run the session. -/
def main : Script Unit :=
  .op (.shell "rm -rf *-data/ *.key *.history alice_e2ee.log bob_e2ee.log 2>/dev/null") fun _ =>
    .op (.shell "cargo +nightly build --release 2>&1 | tail -3") fun (ok : Bool) =>
      if ok then session else .pure ()

/-- The exchange and the results write only to the two instances. -/
theorem exchange_talks : Talks [.alice, .bob] (exchange.bind fun _ => results) := by
  repeat' first
    | with_reducible exact spaceDetails_talks (by decide)
    | with_reducible exact joinSpace_talks (by decide) _ _ _
    | with_reducible exact navigate_talks (by decide) _ _
    | refine Talks.bind ?_ fun _ => ?_
    | exact runCommand_talks (by decide) _ _
    | exact sleep_talks _ _
    | exact findInLog_talks _ _ _
    | exact readLog_talks _ _
    | exact checkLog_talks _ _ _
    | exact .pure _

/-! ### The exit status -/

/-- `start()` starts an idle instance, or raises `OSError` and leaves every life as it is. -/
theorem start_moves (c : Party × String × String) (l : Party → Life) (w : World)
    (hl : l c.1 = .idle) (hw : replay w.events = some l) :
    (start c).wp (fun r w' => r = .ok () ∧ replay w'.events = some (Function.update l c.1 .running) ∨
      r = .error .osError ∧ replay w'.events = some l) w :=
  wp_bind_of (startClient_moves releaseBinary c l w hl hw) (fun _ _ h => h) fun _ _ h _ => h

/-- The lives after Alice's start, and after Bob's. -/
theorem lives_started : Function.update (fun _ => Life.idle) Party.alice .running = lives [.alice] ∧
    Function.update (lives [.alice]) Party.bob .running = lives [.alice, .bob] :=
  ⟨funext fun p => by cases p <;> rfl, funext fun p => by cases p <;> rfl⟩

/-- The `finally` block settles the instances that have a process, when only they run. -/
theorem stopBoth_settles (w : World) :
    (replay w.events = some (fun _ => .idle) →
      (stopBoth false false).wp (fun _ w' => Settled w'.events) w) ∧
    (replay w.events = some (lives [.alice]) →
      (stopBoth true false).wp (fun _ w' => Settled w'.events) w) ∧
    (replay w.events = some (lives [.alice, .bob]) →
      (stopBoth true true).wp (fun _ w' => Settled w'.events) w) := by
  refine ⟨fun hw => ⟨_, hw, fun _ => nofun⟩, fun hw => ?_, fun hw => ?_⟩
  · refine wp_bind_of (stopClient_moves 5 .alice _ w (by decide) hw) (fun _ _ h => nomatch h.1)
      fun _ _ ⟨_, _, hx, h⟩ => ⟨_, h, fun p => ?_⟩
    rcases hx with rfl | rfl <;> cases p <;> decide
  · refine wp_bind_of (stopClient_moves 5 .alice _ w (by decide) hw) (fun _ _ h => nomatch h.1)
      fun _ w₁ ⟨_, _, hx, h₁⟩ => wp_mono (fun _ _ ⟨_, _, hy, h₂⟩ => ⟨_, h₂, fun p => ?_⟩)
        (stopClient_moves 5 .bob _ w₁ (by rw [Function.update_noteq (by decide)]; rfl) h₁)
    rcases hx with rfl | rfl <;> rcases hy with rfl | rfl <;> cases p <;> decide

/-- A start under its `finally` block, from the lives `l` where its instance is idle: it
returns with the instance running, or it raises after the block, settled. -/
theorem start_catch_settles (c : Party × String × String) (a b : Bool) (l : Party → Life)
    (w : World) (hl : l c.1 = .idle) (hw : replay w.events = some l)
    (hfin : ∀ w, replay w.events = some l → (stopBoth a b).wp (fun _ w' => Settled w'.events) w) :
    ((start c).tryCatch fun e => (stopBoth a b).bind fun _ => .raise e).wp (fun r w' =>
      (r = .ok () → replay w'.events = some (Function.update l c.1 .running)) ∧
        (r ≠ .ok () → Settled w'.events)) w :=
  (wp_tryCatch _ _ _ _).2 <| wp_mono (fun r w' h => by
    rcases h with ⟨rfl, h⟩ | ⟨rfl, h⟩
    · exact ⟨fun _ => h, fun h => absurd rfl h⟩
    · exact wp_bind_of (hfin w' h) (fun _ _ h => ⟨nofun, fun _ => h⟩)
        fun _ _ h => ⟨nofun, fun _ => h⟩) (start_moves c l w hl hw)

theorem session_settles (w : World) (hw : replay w.events = some fun _ => .idle) :
    session.wp (fun _ w' => Settled w'.events) w :=
  wp_bind_of (start_catch_settles _ false false (fun _ => .idle) w rfl hw
      (stopBoth_settles · |>.1)) (fun _ _ h => h.2 nofun) fun _ w₁ h₁ =>
  wp_bind_of (start_catch_settles _ true false (lives [.alice]) w₁ rfl
      (lives_started.1 ▸ h₁.1 rfl) (stopBoth_settles · |>.2.1))
    (fun _ _ h => h.2 nofun) fun _ w₂ h₂ =>
  (wp_tryFinally _ _ _ _).2 <| wp_mono (fun _ w₃ h₃ => wp_mono (fun r' _ h => by
      cases r' <;> exact h) ((stopBoth_settles w₃).2.2 h₃))
    (exchange_talks.keepsLives.keeps w₂ (lives_started.2 ▸ h₂.1 rfl))

/-- **Every run follows the instances' lifecycle**: each instance is started at most once,
takes command lines only while running, and is sent `terminate` once, before any `kill`; a
failed start included, none is left running. -/
theorem main_settled (env : Nat → Tick) : Settled (main.run World.init env).world.events := by
  have h : main.wp (fun _ w' => Settled w'.events) World.init := fun _ t => by
    simp only [main, Op.exec]
    split
    · exact session_settles _ rfl
    · exact ⟨_, rfl, fun _ => nofun⟩
  exact wp_run h env

end SpacewayScenarios.E2ee
