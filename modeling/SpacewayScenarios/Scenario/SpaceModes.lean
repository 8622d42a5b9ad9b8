import SpacewayScenarios.Script.Exit
import SpacewayScenarios.Script.Lifecycle

/-!
# tests/scripts/test-space-modes.py

One instance, Alice, creates three spaces: the default MLS space, a lightweight one and an
explicit MLS one. After each `space create` the script extracts the new space's short id
and returns 1 when it is missing; after the first two it checks for the space's mode
marker. The results section scores six checks and passes at five.

Three of the six checks are the extracted ids, and two more follow from the last one: the
line `Created space: ExplicitMLS (<id>)` contains `MLS`, which passes the fallback
`'MLS' in content` of the MLS-group check, and `ExplicitMLS`, which passes the listing check.
The script's own space names thus meet the fallback whose `else` branch reports
`Cannot confirm MLS encryption`, and neither mode check can fail the run: **every run that
reaches the scoring scores at least five and returns 0, whatever the mode markers say**
(`verdict_eq_zero`), and `main` returns 1 only when a creation line is missing from the
log it read (`main_returns_one`), as at a log with no mode marker (`mode_markers_ignored`).
-/

namespace SpacewayScenarios.SpaceModes

open Script (wp_run wp_mono wp_bind_forget wp_and wp_seen_grows)

/-- The variable `binary_path`. -/
def binaryPath : String := "./target/debug/spaceway"

/-- The variable `test_dir`. -/
def testDir : String := "tests/test-runs/space-modes"

/-- The one instance with its key file and port. -/
def clients : List (Party × String × String) := [(.alice, testDir ++ "/alice.key", "9001")]

/-- Pattern `r'Created MLS-encrypted space|space-level encryption enabled'`. -/
def mlsGroupMarker : Re :=
  .alt (Pat.text "Created MLS-encrypted space") (Pat.text "space-level encryption enabled")

/-- Pattern `r'LIGHTWEIGHT space|no space-level MLS group'`. -/
def lightweightMarker : Re :=
  .alt (Pat.text "LIGHTWEIGHT space") (Pat.text "no space-level MLS group")

/-- The six checks of the results section, in order: the truth of the three ids, the two
mode checks (the first with its fallback `'MLS' in content`) and the listing check. -/
def checks (mlsSpaceId lightSpaceId explicitMlsId : String) (hasMlsGroup hasLightweight : Bool)
    (content : List Char) : List Bool :=
  [mlsSpaceId != "", hasMlsGroup || occursIn "MLS" content, lightSpaceId != "", hasLightweight,
    explicitMlsId != "",
    occursIn "MLSTestSpace" content || occursIn "LightweightTest" content ||
      occursIn "ExplicitMLS" content]

/-- The exit code of the results section: 0 from five passed checks on. -/
def verdict (mlsSpaceId lightSpaceId explicitMlsId : String) (hasMlsGroup hasLightweight : Bool)
    (content : List Char) : Nat :=
  if 5 ≤ (checks mlsSpaceId lightSpaceId explicitMlsId hasMlsGroup hasLightweight content).count true
  then 0 else 1

/-- The results section: one read of Alice's log, then the score. -/
def results (mlsSpaceId lightSpaceId explicitMlsId : String) (hasMlsGroup hasLightweight : Bool) :
    Script Nat := do
  let content ← readLog .alice
  pure (verdict mlsSpaceId lightSpaceId explicitMlsId hasMlsGroup hasLightweight content)

/-- The body of the `try` block: three guarded space creations, the listing, the results. -/
def body : Script Nat := do
  sleep 3
  runCommand .alice "keypackage publish" 5
  runCommand .alice "space create MLSTestSpace" 3
  requireId (findInLog .alice Pat.createdSpace) fun mlsSpaceId => do
  let hasMlsGroup ← checkLog .alice mlsGroupMarker
  runCommand .alice "space create LightweightTest --mode lightweight" 3
  requireId (findInLog .alice (Pat.createdNamedSpace "LightweightTest")) fun lightSpaceId => do
  let hasLightweight ← checkLog .alice lightweightMarker
  runCommand .alice "space create ExplicitMLS --mode mls" 3
  requireId (findInLog .alice (Pat.createdNamedSpace "ExplicitMLS")) fun explicitMlsId => do
  let _ ← checkLog .alice mlsGroupMarker
  runCommand .alice "spaces" 2
  results mlsSpaceId lightSpaceId explicitMlsId hasMlsGroup hasLightweight

/-- The script's `main`. -/
def main : Script Nat := launch binaryPath clients body (terminateAll [.alice] 3)

/-- **The mode checks cannot fail the run**: three ids and a log holding the `ExplicitMLS`
creation line score at least five, whatever the two mode checks found. -/
theorem verdict_eq_zero {a b c : String} {m l : Bool} {content : List Char} (ha : a ≠ "")
    (hb : b ≠ "") (hc : c ≠ "") (hx : "ExplicitMLS".toList <:+: content) :
    verdict a b c m l content = 0 := by
  have hmls : occursIn "MLS" content = true :=
    decide_eq_true ((by decide : "MLS".toList <:+: "ExplicitMLS".toList).trans hx)
  have hexp : occursIn "ExplicitMLS" content = true := decide_eq_true hx
  cases l <;> simp [verdict, checks, bne_iff_ne.mpr ha, bne_iff_ne.mpr hb, bne_iff_ne.mpr hc, hmls,
    hexp]

theorem results_spec (a b c : String) (m l : Bool) (w : World) :
    (results a b c m l).wp (fun r w' => r = .ok (verdict a b c m l (w'.seen .alice))) w := by
  simp only [results, Script.bind_eq, wp_readLog_bind]
  intro t
  simp

/-- The log read lacks one of the three creation lines. -/
def Missing (content : List Char) : Prop :=
  firstGroup Pat.createdSpace content = none ∨
    firstGroup (Pat.createdNamedSpace "LightweightTest") content = none ∨
    firstGroup (Pat.createdNamedSpace "ExplicitMLS") content = none

theorem body_spec (w : World) :
    body.wp (fun r w' => r = .ok 1 → Missing (w'.seen .alice)) w := by
  have herr : ∀ (e : PyExc) (w' : World), (Except.error e : Except PyExc Nat) = .ok 1 →
      Missing (w'.seen .alice) := fun _ _ h => nomatch h
  simp only [body, Script.bind_eq]
  refine wp_bind_forget herr fun _ _ => wp_bind_forget herr fun _ _ =>
    wp_bind_forget herr fun _ _ => wp_requireId_findInLog _ (fun _ h _ => .inl h) fun a _ ha => ?_
  refine wp_bind_forget herr fun m _ => wp_bind_forget herr fun _ _ =>
    wp_requireId_findInLog _ (fun _ h _ => .inr (.inl h)) fun b _ hb => ?_
  refine wp_bind_forget herr fun l _ => wp_bind_forget herr fun _ _ =>
    wp_requireId_findInLog _ (fun _ h _ => .inr (.inr h)) fun c w₃ hc => ?_
  have herr' : ∀ (e : PyExc) (w' : World) n, (Except.error e : Except PyExc Nat) = .ok n →
      n = verdict a b c m l (w'.seen .alice) := fun _ _ _ h => nomatch h
  refine wp_mono (fun r w' h h1 => ?_) (wp_and (wp_seen_grows _ w₃)
    (wp_bind_forget herr' fun _ _ => wp_bind_forget herr' fun _ _ =>
      wp_mono (fun r _ h n (hn : r = .ok n) => Except.ok.inj (hn.symm.trans h))
        (results_spec a b c m l _)))
  have hv := h.2 1 h1
  rw [verdict_eq_zero (firstGroup_ne_empty (captures_createdId _) ha)
    (firstGroup_ne_empty (captures_createdNamedSpace _) hb)
    (firstGroup_ne_empty (captures_createdNamedSpace _) hc)
    (List.IsInfix.trans (by decide) ((infix_of_firstGroup hc).trans (h.1 .alice).isInfix))] at hv
  exact absurd hv (by decide)

/-- **`main` returns 1 only without a creation line**: every run in which `main` returns 1
leaves a last read of Alice's log that lacks one of the three `Created space` lines. -/
theorem main_returns_one (env : Nat → Tick) :
    (main.run World.init env).result = .ok 1 →
      Missing ((main.run World.init env).world.seen .alice) :=
  wp_run (@launch_wp _ _ _ _ (fun r seen => r = .ok 1 → Missing (seen .alice)) World.init
    (fun _ => .inl rfl) (fun _ _ h => nomatch h) body_spec (terminateAll_seen _ _)) env

theorem main_returns_one_witness :
    (main.run World.init (printsAt 0 fun _ => "")).result = .ok 1 ∧
      Missing ((main.run World.init (printsAt 0 fun _ => "")).world.seen .alice) :=
  have h : (main.run World.init (printsAt 0 fun _ => "")).result = .ok 1 := by rfl
  ⟨h, main_returns_one _ h⟩

set_option maxRecDepth 10000 in
/-- A log with the three creation lines and neither mode marker: the run exits 0. -/
theorem mode_markers_ignored :
    let o := main.run World.init (printsAt 1 fun
      | .alice => "Created space: MLSTestSpace (0123456789abcdef)\n" ++
          "Created space: LightweightTest (1123456789abcdef)\n" ++
          "Created space: ExplicitMLS (2123456789abcdef)\n"
      | _ => "")
    exitStatus o.result = 0 ∧ found lightweightMarker (o.world.seen .alice) = false ∧
      found mlsGroupMarker (o.world.seen .alice) = false := by
  decide

/-! ### The exit code -/

/-- The three creation lines are the script's guards; past them it returns 0. -/
theorem body_exitsBy (w : World) :
    body.wp (ExitsBy [Pat.createdSpace, Pat.createdNamedSpace "LightweightTest",
      Pat.createdNamedSpace "ExplicitMLS"] fun _ => 0) w := by
  have rc := runCommand_breaksOnExit
  refine bind_exitsBy (sleep_breaksOnExit _) fun _ _ => bind_exitsBy (rc _ _ _) fun _ _ =>
    bind_exitsBy (rc _ _ _) fun _ _ => requireId_firstGroup_exitsBy (keeps_createdId _)
      (findInLog_breaksOnExit _ _) (findInLog_firstGroup _ _) fun a _ ha => ?_
  refine bind_exitsBy (checkLog_breaksOnExit _ _) fun m _ => bind_exitsBy (rc _ _ _) fun _ _ =>
    requireId_firstGroup_exitsBy (keeps_createdNamedSpace _) (findInLog_breaksOnExit _ _)
      (findInLog_firstGroup _ _) fun b _ hb => ?_
  refine bind_exitsBy (checkLog_breaksOnExit _ _) fun l _ => bind_exitsBy (rc _ _ _) fun _ _ =>
    requireId_firstGroup_exitsBy (keeps_createdNamedSpace _) (findInLog_breaksOnExit _ _)
      (findInLog_firstGroup _ _) fun c w₃ hc => ?_
  refine wp_mono (fun r w' h => ?_) (wp_and (wp_seen_grows _ w₃)
    (bind_exitsBy (checkLog_breaksOnExit _ _) fun _ _ => bind_exitsBy (rc _ _ _)
      fun _ w => wp_mono
        (fun _ _ h => @exitsBy_nil (fun seen => verdict a b c m l (seen .alice)) _ _ h)
        (results_spec a b c m l w)))
  rcases h.2 with h₂ | h₂
  · refine .inl (h₂.trans (congrArg _ (verdict_eq_zero
      (firstGroup_ne_empty (captures_createdId _) ha)
      (firstGroup_ne_empty (captures_createdNamedSpace _) hb)
      (firstGroup_ne_empty (captures_createdNamedSpace _) hc)
      (List.IsInfix.trans (by decide) ((infix_of_firstGroup hc).trans (h.1 .alice).isInfix)))))
  · exact .inr h₂

/-- **The return code is the three guards**: every run returns 1 when the last read of
Alice's log lacks one of the three creation lines and 0 otherwise, unless a write to the
instance after it exited raised `BrokenPipeError`. -/
theorem main_exitsBy (env : Nat → Tick) :
    MainExitsBy [Pat.createdSpace, Pat.createdNamedSpace "LightweightTest",
      Pat.createdNamedSpace "ExplicitMLS"] (fun _ => 0)
      (main.run World.init env).result (main.run World.init env).world :=
  wp_run (launch_exitsBy rfl (by decide) body_exitsBy (terminateAll_seen _ _) (terminateAll_ok _ _)) env

/-! ### The instances' lifecycle -/

/-- The body writes only to the one instance `main` started, reads its log and sleeps. -/
theorem body_talks : Talks [.alice] body := by
  repeat' first
    | refine Talks.bind ?_ fun _ => ?_
    | refine talks_elim ?_ (fun _ => ?_) _
    | exact runCommand_talks (by decide) _ _
    | exact sleep_talks _ _
    | exact findInLog_talks _ _ _
    | exact checkLog_talks _ _ _
    | exact readLog_talks _ _
    | exact .pure _

/-- **Every run follows the instances' lifecycle**: each instance is started once, takes
command lines only while running, and is sent `terminate` once, before any `kill`; none is
left running, unless the start-up before the `try` raised `OSError` (no `cargo`, or a failed
`Popen`), in a run of starts only. -/
theorem main_settled (env : Nat → Tick) :
    Settled (main.run World.init env).world.events ∨ (main.run World.init env).result =
      .error .osError ∧ Abandoned (main.run World.init env).world.events :=
  wp_run (launch_settled (rfl : clients.map Prod.fst = [.alice]) (by decide)
    body_talks.keepsLives (terminateAll_settles (by decide) _) rfl) env

end SpacewayScenarios.SpaceModes
