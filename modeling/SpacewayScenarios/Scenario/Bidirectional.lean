import SpacewayScenarios.Script.Steps
import SpacewayScenarios.Growth
import SpacewayScenarios.Script.Lifecycle

/-!
# test-bidirectional.py

Alice creates a space, Bob joins, and the two exchange three messages: Alice's question,
Bob's reply and Alice's confirmation. The only guard is the short space id. The results
section reads both logs for the decrypt counts and then checks each message text with its
own read; the verdict needs all five checks.

Since every later read extends every earlier one, the checks made on the earlier reads
still hold of the last read of each log: **every run that exits with status 0 leaves final
reads in which every message was delivered** (`exit_zero_delivered`).
-/

namespace SpacewayScenarios.Bidirectional

open Script (wp_run wp_mono wp_bind_forget)

/-- The variable `binary_path`. -/
def binaryPath : String := "./target/debug/spaceway"

/-- The two instances with their key files and ports. -/
def clients : List (Party × String × String) :=
  [(.alice, "alice.key", "9001"), (.bob, "bob.key", "9002")]

/-- From the start of the `try` block to the extraction of `space_id`. -/
def setup : Script (Option String) := createSpace runCommand [.alice, .bob] "bidir-test"

/-- From the `space_id` guard to the final propagation wait. -/
def exchange (spaceId : String) : Script Unit := do
  let details ← spaceDetails runCommand
  let bobId ← joinSpace runCommand .bob details 5 2
  runCommand .alice ("member add " ++ strOf bobId) 5
  sleep 4
  runCommand .alice "channel create general" 3
  runCommand .alice "thread create \"Bidir Test\"" 3
  runCommand .alice "send Hello Bob! Can you decrypt this?" 4
  sleep 5
  navigate .bob spaceId "Bidir Test"
  runCommand .bob "send Yes Alice! I can decrypt AND send encrypted messages!" 4
  sleep 7
  runCommand .alice "send Perfect! Bidirectional E2EE confirmed!" 4
  sleep 10

/-- The five checks of the results section, in order. -/
def checks (aliceDecrypts bobDecrypts : Nat) (bobGotHello aliceGotReply bobGotPerfect : Bool) :
    List Bool :=
  [decide (3 ≤ bobDecrypts), bobGotHello, decide (1 ≤ aliceDecrypts), aliceGotReply, bobGotPerfect]

/-- The exit code of the results section: all five checks or 1. -/
def verdict (aliceDecrypts bobDecrypts : Nat) (bobGotHello aliceGotReply bobGotPerfect : Bool) :
    Nat :=
  fullVerdict 5 ((checks aliceDecrypts bobDecrypts bobGotHello aliceGotReply bobGotPerfect).count true)

/-- The results section: two reads for the decrypt counts, then one `check_log` per message. -/
def results : Script Nat := do
  let alice ← readLog .alice
  let bob ← readLog .bob
  let bobGotHello ← checkLog .bob (Pat.text "Can you decrypt this")
  let aliceGotReply ← checkLog .alice (Pat.text "I can decrypt AND send")
  let bobGotPerfect ← checkLog .bob (Pat.text "Bidirectional E2EE confirmed")
  pure (verdict (decrypts alice) (decrypts bob) bobGotHello aliceGotReply bobGotPerfect)

/-- The body of the `try` block. -/
def body : Script Nat := requireId setup fun spaceId => do
  exchange spaceId
  results

/-- The script's `main`. -/
def main : Script Nat := launch binaryPath clients body (terminateAll [.alice, .bob] 3)

/-- Every delivery the scenario checks, on the last reads of the two logs. -/
def Delivered (seen : Party → List Char) : Prop :=
  3 ≤ decrypts (seen .bob) ∧ occursIn "Can you decrypt this" (seen .bob) ∧
    1 ≤ decrypts (seen .alice) ∧ occursIn "I can decrypt AND send" (seen .alice) ∧
    occursIn "Bidirectional E2EE confirmed" (seen .bob)

theorem verdict_eq_zero {a b : Nat} {h r p : Bool} :
    verdict a b h r p = 0 ↔ 3 ≤ b ∧ h ∧ 1 ≤ a ∧ r ∧ p := by
  cases h <;> cases r <;> cases p <;> by_cases hb : 3 ≤ b <;> by_cases ha : 1 ≤ a <;>
    simp [verdict, checks, fullVerdict, ha, hb]

theorem results_spec (w : World) : results.wp (fun r w' => r = .ok 0 → Delivered w'.seen) w :=
  wp_readLog_seen w fun a₁ _ => wp_readLog_seen _ fun b₁ _ => wp_checkLog_seen _ fun b₂ _ =>
    wp_checkLog_seen _ fun a₂ _ => wp_checkLog_seen _ fun b₃ _ => by
      intro hb₃ ha₂ hb₂ hb₁ ha₁ h0
      obtain ⟨hdb, hh, hda, hr, hp⟩ := verdict_eq_zero.mp (Except.ok.inj h0)
      simp only [Delivered, ← found_text]
      exact ⟨hdb.trans (decrypts_mono hb₁), found_mono hb₂ hh,
        hda.trans (decrypts_mono ha₁), found_mono ha₂ hr, found_mono hb₃ hp⟩

theorem body_spec (w : World) : body.wp (fun r w' => r = .ok 0 → Delivered w'.seen) w :=
  requireId_wp (fun _ h => by simp at h) (fun _ _ h => by simp at h) (fun _ _ =>
    wp_bind_forget (fun _ _ h => by simp at h) fun _ w' => results_spec w') w

/-- The body writes only to the two instances `main` started, reads their logs and sleeps. -/
theorem body_talks : Talks [.alice, .bob] body := by
  repeat' first
    | refine Talks.bind ?_ fun _ => ?_
    | refine talks_elim ?_ (fun _ => ?_) _
    | exact runCommand_talks (by decide) _ _
    | exact sleep_talks _ _
    | exact findInLog_talks _ _ _
    | exact checkLog_talks _ _ _
    | exact readLog_talks _ _
    | exact .pure _

/-- **Every run follows the instances' lifecycle**: each instance is started once, takes
command lines only while running, and is sent `terminate` once, before any `kill`; none is
left running, unless the start-up before the `try` raised `OSError` (no `cargo`, or a failed
`Popen`), in a run of starts only. -/
theorem main_settled (env : Nat → Tick) :
    Settled (main.run World.init env).world.events ∨ (main.run World.init env).result =
      .error .osError ∧ Abandoned (main.run World.init env).world.events :=
  wp_run (launch_settled (rfl : clients.map Prod.fst = [.alice, .bob]) (by decide)
    body_talks.keepsLives (terminateAll_settles (by decide) _) rfl) env

end SpacewayScenarios.Bidirectional
