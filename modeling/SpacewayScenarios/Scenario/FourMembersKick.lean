import SpacewayScenarios.Script.Exit
import SpacewayScenarios.Script.Lifecycle
import SpacewayScenarios.Script.Order

/-!
# tests/scripts/test-four-members-kick.py

Alice, Bob, Charlie and Dave share a space; Alice kicks Bob and sends once more. The
instances keep their files under `tests/test-runs/four-members-kick`; Dave's join and
`whoami` wait longer than the others'. The results section has ten checks, with a
partial-success threshold of seven, and its removal check accepts only the first two of
the confirmations the other kick scripts accept.
-/

namespace SpacewayScenarios.FourMembersKick

open Script (wp_run wp_mono wp_bind_forget)

/-- The variable `binary_path`. -/
def binaryPath : String := "./target/debug/spaceway"

/-- The variable `test_dir`. -/
def testDir : String := "tests/test-runs/four-members-kick"

/-- The four instances with their key files and ports. -/
def clients : List (Party × String × String) :=
  [(.alice, testDir ++ "/alice.key", "9001"), (.bob, testDir ++ "/bob.key", "9002"),
    (.charlie, testDir ++ "/charlie.key", "9003"), (.dave, testDir ++ "/dave.key", "9004")]

/-- From the start of the `try` block to the extraction of `space_id`. -/
def setup : Script (Option String) := createSpace runCommand [.alice, .bob, .charlie, .dave] "kick-test"

/-- From the `space_id` guard to the end of the final propagation wait. -/
def exchange (spaceId : String) : Script Unit := do
  let details ← spaceDetails runCommand
  let bobId ← joinSpace runCommand .bob details 5 2
  let charlieId ← joinSpace runCommand .charlie details 5 2
  let daveId ← joinSpace runCommand .dave details 8 3
  runCommand .alice ("member add " ++ strOf bobId) 5
  sleep 4
  runCommand .alice ("member add " ++ strOf charlieId) 5
  sleep 4
  runCommand .alice ("member add " ++ strOf daveId) 5
  sleep 4
  runCommand .alice "channel create general" 3
  runCommand .alice "thread create \"Kick Test\"" 3
  runCommand .alice "send Message 1: Before kick" 4
  sleep 5
  [Party.bob, .charlie, .dave].forM fun p => navigate p spaceId "Kick Test"
  runCommand .bob "send Message 2: Bob reply before kick" 4
  runCommand .charlie "send Message 3: Charlie reply before kick" 4
  runCommand .dave "send Message 4: Dave reply before kick" 4
  sleep 7
  runCommand .alice ("kick " ++ strOf bobId) 7
  runCommand .alice
    "send Message 5: After kick - Bob should NOT see, Charlie and Dave SHOULD see" 4
  sleep 10

/-- The ten checks of the results section, in order, on the contents read. -/
def checks (alice bob charlie dave : List Char) : List Bool :=
  [occursIn "Before kick" bob,
    occursIn "Bob reply before kick" alice,
    occursIn "Charlie reply before kick" alice,
    occursIn "Dave reply before kick" alice,
    decide (4 ≤ decrypts bob ∧ 3 ≤ decrypts alice ∧ 4 ≤ decrypts charlie ∧ 4 ≤ decrypts dave),
    occursIn "Successfully removed user" alice || occursIn "MLS keys rotated" alice,
    !occursIn "After kick" bob,
    occursIn "After kick" charlie,
    occursIn "After kick" dave,
    decide (decrypts bob ≤ 6 ∧ 5 ≤ decrypts charlie ∧ 5 ≤ decrypts dave)]

/-- The exit code of the results section: `tests_passed` out of 10, threshold 7. -/
def verdict (alice bob charlie dave : List Char) : Nat :=
  partialVerdict 10 7 ((checks alice bob charlie dave).count true)

/-- The results section: read the four logs, then score. -/
def results : Script Nat := do
  let alice ← readLog .alice
  let bob ← readLog .bob
  let charlie ← readLog .charlie
  let dave ← readLog .dave
  pure (verdict alice bob charlie dave)

/-- The body of the `try` block. -/
def body : Script Nat := requireId setup fun spaceId => do
  exchange spaceId
  results

/-- The script's `main`. -/
def main : Script Nat :=
  launch binaryPath clients body (terminateAll [.alice, .bob, .charlie, .dave] 3)

theorem results_spec (w : World) :
    results.wp (fun r w' => r = .ok (verdict (w'.seen .alice) (w'.seen .bob)
      (w'.seen .charlie) (w'.seen .dave))) w := by
  simp only [results, Script.bind_eq, wp_readLog_bind]
  intro t₁ t₂ t₃ t₄
  simp [Function.update_noteq]

theorem body_spec (w : World) :
    body.wp (fun r w' => r = .ok 0 →
      verdict (w'.seen .alice) (w'.seen .bob) (w'.seen .charlie) (w'.seen .dave) = 0) w :=
  requireId_wp (fun _ h => by simp at h) (fun _ _ h => by simp at h) (fun _ _ =>
    wp_bind_forget (fun _ _ h => by simp at h) fun _ w' =>
      wp_mono (fun r _ h h0 => (Except.ok.inj (h0 ▸ h)).symm) (results_spec w')) w

/-- Every run that exits with status 0 leaves reads whose verdict is 0. -/
theorem exit_zero_verdict (env : Nat → Tick) :
    exitStatus (main.run World.init env).result = 0 →
      verdict ((main.run World.init env).world.seen .alice)
        ((main.run World.init env).world.seen .bob)
        ((main.run World.init env).world.seen .charlie)
        ((main.run World.init env).world.seen .dave) = 0 :=
  wp_run (@launch_exit_zero _ _ _ _
    (fun seen => verdict (seen .alice) (seen .bob) (seen .charlie) (seen .dave) = 0)
    body_spec (terminateAll_seen _ _) _) env

/-! ### What the body does -/

/-- The three parts of the body write only to the four instances `main` started, read their
logs and sleep. -/
theorem parts_talk : Talks [.alice, .bob, .charlie, .dave] setup ∧
    (∀ spaceId, Talks [.alice, .bob, .charlie, .dave] (exchange spaceId)) ∧
    Talks [.alice, .bob, .charlie, .dave] results := by
  refine ⟨createSpace_talks (fun _ h => h) (by decide) _, fun _ => ?_, ?_⟩ <;>
    repeat' first
      | exact spaceDetails_talks (by decide)
      | exact joinSpace_talks (by decide) _ _ _
      | exact navigate_talks (by decide) _ _
      | refine Talks.bind ?_ fun _ => ?_
      | refine talks_elim ?_ (fun _ => ?_) _
      | exact runCommand_talks (by decide) _ _
      | exact sleep_talks _ _
      | exact findInLog_talks _ _ _
      | exact checkLog_talks _ _ _
      | exact readLog_talks _ _
      | exact .pure _

theorem body_talks : Talks [.alice, .bob, .charlie, .dave] body :=
  parts_talk.1.bind fun _ => talks_elim (.pure 1)
    (fun _ => (parts_talk.2.1 _).bind fun _ => parts_talk.2.2) _

/-! ### The exit code -/

/-- **The return code is the guard and the verdict of the final reads**: every run returns
1 when the last read of Alice's log lacks the short space id and the verdict of the final
reads otherwise, unless a write to an instance that has exited raised `BrokenPipeError`. -/
theorem main_exitsBy (env : Nat → Tick) :
    MainExitsBy [Pat.createdSpace]
      (fun seen => verdict (seen .alice) (seen .bob) (seen .charlie) (seen .dave))
      (main.run World.init env).result (main.run World.init env).world :=
  wp_run (launch_exitsBy rfl (by decide)
    (fun _ => requireId_firstGroup_exitsBy (keeps_createdId _) parts_talk.1.breaksOnExit
      (createSpace_firstGroup _ _ _)
      fun _ _ _ => bind_exitsBy (parts_talk.2.1 _).breaksOnExit
        fun _ w => wp_mono (fun _ _ h => exitsBy_nil h) (results_spec w))
    (terminateAll_seen _ _) (terminateAll_ok _ _)) env

/-! ### The instances' lifecycle -/

/-- **Every run follows the instances' lifecycle**: each instance is started once, takes
command lines only while running, and is sent `terminate` once, before any `kill`; none is
left running, unless the start-up before the `try` raised `OSError` (no `cargo`, or a failed
`Popen`), in a run of starts only. -/
theorem main_settled (env : Nat → Tick) :
    Settled (main.run World.init env).world.events ∨ (main.run World.init env).result =
      .error .osError ∧ Abandoned (main.run World.init env).world.events :=
  wp_run (launch_settled (rfl : clients.map Prod.fst = [.alice, .bob, .charlie, .dave]) (by decide)
    body_talks.keepsLives (terminateAll_settles (by decide) _) rfl) env

/-! ### The kick comes first -/

/-- The message the script sends after its kick. -/
def sentAfterKick : List (Party × String) :=
  [(.alice, "send Message 5: After kick - Bob should NOT see, Charlie and Dave SHOULD see")]

/-- The body sends the message after the kick only once Alice's instance took the kick. -/
theorem body_kickFirst :
    KeepsOrder KickSent (fun p cmd => (p, cmd) ∈ sentAfterKick) false body := by
  have hb : SendOrKick fun p cmd => (p, cmd) ∈ sentAfterKick := sendOrKick_mem (by decide)
  refine keepsOrder_bind (createSpace_keepsOrder hb _ _)
    (.inr fun _ => keepsOrder_elim (pure_keepsOrder _) (fun _ => ?_) _)
  repeat' first
    | with_reducible exact spaceDetails_keepsOrder hb
    | with_reducible exact joinSpace_keepsOrder hb _ _ _ _
    | with_reducible exact navigate_keepsOrder hb _ _ _
    | apply keepsOrder_bind
    | exact .inl rfl
    | refine .inr fun _ => ?_
    | refine keepsOrder_elim ?_ (fun _ => ?_) _
    | exact runCommand_keepsOrder (by decide) _
    | exact runCommand_first (by exact ⟨rfl, _, rfl⟩)
        (not_mem_of_start (prefix_toList_append _ _) (by decide)) _
    | exact runCommand_keepsOrder (hb.not_of_start (prefix_toList_append _ _) (by decide)) _
    | exact sleep_keepsOrder _
    | exact findInLog_keepsOrder _ _
    | exact readLog_keepsOrder _
    | exact pure_keepsOrder _

/-- **The kick comes first**: in every run, the message after the kick reaches Alice's
instance only after a `kick` did. -/
theorem main_kickFirst (env : Nat → Tick) :
    KickFirst sentAfterKick (main.run World.init env).world.events :=
  launch_precedes body_kickFirst.preserves env

/-! ### The kick names a member added before -/

/-- The body kicks a user id only after adding it. -/
theorem body_kicksAdded (id : String) : KeepsOrder (AddOf id) (KickOf id) false body := by
  have hb := sendOrKick_kickOf id
  refine keepsOrder_bind (createSpace_keepsOrder hb _ _)
    (.inr fun _ => keepsOrder_elim (pure_keepsOrder _) (fun _ => ?_) _)
  repeat' first
    | with_reducible exact spaceDetails_keepsOrder hb
    | with_reducible exact joinSpace_keepsOrder hb _ _ _ _
    | with_reducible exact navigate_keepsOrder hb _ _ _
    | apply keepsOrder_bind
    | refine flag_or_of_ne fun _ _ => ?_
    | refine .inr fun _ => ?_
    | refine keepsOrder_elim ?_ (fun _ => ?_) _
    | exact runCommand_addOf _ _ _
    | exact runCommand_keepsOrder (not_kickOf_of_start (List.prefix_refl _) (by decide)) _
    | exact runCommand_keepsOrder (not_kickOf_of_ne (by assumption)) _
    | exact sleep_keepsOrder _
    | exact findInLog_keepsOrder _ _
    | exact readLog_keepsOrder _
    | exact pure_keepsOrder _

/-- **Alice kicks only a member she added**: in every run, each `kick` reaching Alice's
instance names a user id that a `member add` reaching it named before. -/
theorem main_kicksAdded (env : Nat → Tick) : KicksAdded (main.run World.init env).world.events :=
  fun id => launch_precedes (body_kicksAdded id).preserves env

end SpacewayScenarios.FourMembersKick
