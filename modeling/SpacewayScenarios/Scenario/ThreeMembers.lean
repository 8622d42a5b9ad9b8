import SpacewayScenarios.Script.Exit
import SpacewayScenarios.Script.Lifecycle

/-!
# test-three-members.py

Alice adds Bob and Charlie to the space's group and sends one message; both must decrypt
it. The results section has five checks with a partial-success threshold of three.
-/

namespace SpacewayScenarios.ThreeMembers

open Script (wp_run wp_mono wp_bind_forget)

/-- The variable `binary_path`. -/
def binaryPath : String := "./target/debug/spaceway"

/-- The three instances with their key files and ports. -/
def clients : List (Party × String × String) :=
  [(.alice, "alice.key", "9001"), (.bob, "bob.key", "9002"), (.charlie, "charlie.key", "9003")]

/-- From the start of the `try` block to the extraction of `space_id`. -/
def setup : Script (Option String) := createSpace runCommand [.alice, .bob, .charlie] "three-members"

/-- From the `space_id` guard to the end of the propagation wait. -/
def exchange : Script Unit := do
  let details ← spaceDetails runCommand
  let bobId ← joinSpace runCommand .bob details 5 2
  let charlieId ← joinSpace runCommand .charlie details 5 2
  runCommand .alice ("member add " ++ strOf bobId) 5
  sleep 15
  runCommand .alice ("member add " ++ strOf charlieId) 5
  sleep 8
  runCommand .alice "channel create general" 3
  runCommand .alice "thread create \"Three Members Test\"" 3
  runCommand .alice "send Hello everyone! Can Bob and Charlie both decrypt this?" 4
  sleep 10

/-- The five checks of the results section, in order, on the contents read. -/
def checks (bob charlie : List Char) : List Bool :=
  [decide (3 ≤ decrypts bob),
    decide (3 ≤ decrypts charlie),
    occursIn "Can Bob and Charlie both decrypt this" bob,
    occursIn "Can Bob and Charlie both decrypt this" charlie,
    occursIn "Can Bob and Charlie both decrypt this" bob &&
      occursIn "Can Bob and Charlie both decrypt this" charlie]

/-- The exit code of the results section: `tests_passed` out of 5, threshold 3. -/
def verdict (bob charlie : List Char) : Nat := partialVerdict 5 3 ((checks bob charlie).count true)

/-- The results section: read the three logs (Alice's count is only printed), then score. -/
def results : Script Nat := do
  let _ ← readLog .alice
  let bob ← readLog .bob
  let charlie ← readLog .charlie
  pure (verdict bob charlie)

/-- The body of the `try` block. -/
def body : Script Nat := requireId setup fun _ => do
  exchange
  results

/-- The script's `main`. -/
def main : Script Nat :=
  launch binaryPath clients body (terminateAll [.alice, .bob, .charlie] 3)

theorem results_spec (w : World) :
    results.wp (fun r w' => r = .ok (verdict (w'.seen .bob) (w'.seen .charlie))) w := by
  simp only [results, Script.bind_eq, wp_readLog_bind]
  intro t₁ t₂ t₃
  simp [Function.update_noteq]

theorem body_spec (w : World) :
    body.wp (fun r w' => r = .ok 0 → verdict (w'.seen .bob) (w'.seen .charlie) = 0) w :=
  requireId_wp (fun _ h => by simp at h) (fun _ _ h => by simp at h) (fun _ _ =>
    wp_bind_forget (fun _ _ h => by simp at h) fun _ w' =>
      wp_mono (fun r _ h h0 => (Except.ok.inj (h0 ▸ h)).symm) (results_spec w')) w

/-- Every run that exits with status 0 leaves reads whose verdict is 0. -/
theorem exit_zero_verdict (env : Nat → Tick) :
    exitStatus (main.run World.init env).result = 0 →
      verdict ((main.run World.init env).world.seen .bob)
        ((main.run World.init env).world.seen .charlie) = 0 :=
  wp_run (@launch_exit_zero _ _ _ _ (fun seen => verdict (seen .bob) (seen .charlie) = 0)
    body_spec (terminateAll_seen _ _) _) env

/-! ### What the body does -/

/-- The three parts of the body write only to the three instances `main` started, read their
logs and sleep. -/
theorem parts_talk : Talks [.alice, .bob, .charlie] setup ∧
    Talks [.alice, .bob, .charlie] exchange ∧
    Talks [.alice, .bob, .charlie] results := by
  refine ⟨?_, ?_, ?_⟩ <;>
    repeat' first
      | exact spaceDetails_talks (by decide)
      | exact joinSpace_talks (by decide) _ _ _
      | exact navigate_talks (by decide) _ _
      | refine Talks.bind ?_ fun _ => ?_
      | refine talks_elim ?_ (fun _ => ?_) _
      | exact runCommand_talks (by decide) _ _
      | exact sleep_talks _ _
      | exact findInLog_talks _ _ _
      | exact checkLog_talks _ _ _
      | exact readLog_talks _ _
      | exact .pure _

theorem body_talks : Talks [.alice, .bob, .charlie] body :=
  parts_talk.1.bind fun _ => talks_elim (.pure 1)
    (fun _ => parts_talk.2.1.bind fun _ => parts_talk.2.2) _

/-! ### The exit code -/

/-- **The return code is the guard and the verdict of the final reads**: every run returns
1 when the last read of Alice's log lacks the short space id and the verdict of the final
reads otherwise, unless a write to an instance that has exited raised `BrokenPipeError`. -/
theorem main_exitsBy (env : Nat → Tick) :
    MainExitsBy [Pat.createdSpace] (fun seen => verdict (seen .bob) (seen .charlie))
      (main.run World.init env).result (main.run World.init env).world :=
  wp_run (launch_exitsBy rfl (by decide)
    (fun _ => requireId_firstGroup_exitsBy (keeps_createdId _) parts_talk.1.breaksOnExit
      (createSpace_firstGroup _ _ _)
      fun _ _ _ => bind_exitsBy parts_talk.2.1.breaksOnExit
        fun _ w => wp_mono (fun _ _ h => exitsBy_nil h) (results_spec w))
    (terminateAll_seen _ _) (terminateAll_ok _ _)) env

/-! ### The instances' lifecycle -/

/-- **Every run follows the instances' lifecycle**: each instance is started once, takes
command lines only while running, and is sent `terminate` once, before any `kill`; none is
left running, unless the start-up before the `try` raised `OSError` (no `cargo`, or a failed
`Popen`), in a run of starts only. -/
theorem main_settled (env : Nat → Tick) :
    Settled (main.run World.init env).world.events ∨ (main.run World.init env).result =
      .error .osError ∧ Abandoned (main.run World.init env).world.events :=
  wp_run (launch_settled (rfl : clients.map Prod.fst = [.alice, .bob, .charlie]) (by decide)
    body_talks.keepsLives (terminateAll_settles (by decide) _) rfl) env

end SpacewayScenarios.ThreeMembers
