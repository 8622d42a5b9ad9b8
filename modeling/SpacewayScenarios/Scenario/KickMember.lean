import SpacewayScenarios.Script.Exit
import SpacewayScenarios.Script.Lifecycle
import SpacewayScenarios.Script.Order

/-!
# test-kick-member.py

Alice creates a space, invites Bob, both exchange a message, Alice kicks Bob and sends
once more. `main` is `launch` around three phases, in the script's order:

* `setup`: up to the extraction of the short space id, the only identifier the script
  checks (`if not space_id: return 1`);
* `exchange`: the rest of the setup, Bob's navigation and reply, the kick and the message
  after it;
* `results`: the final read of both logs and the score, six checks with a
  partial-success threshold of four.

`exit_zero_verdict` is what every run guarantees: it exits with status 0 only when the
verdict of the contents the scoring read is 0.

The other ids are extracted and used unchecked. Python formats a missing one as `None`, so
**a run without Alice's peer id sends Bob `connect /ip4/127.0.0.1/tcp/9001/p2p/None` and
can still exit 0** (`exit_zero_sends_peer_none`).
-/

namespace SpacewayScenarios.KickMember

open Script (wp_run wp_mono wp_and wp_bind_of wp_bind_forget wp_seen_grows wp_events_grow)

/-- The variable `binary_path`. -/
def binaryPath : String := "./target/debug/spaceway"

/-- The two instances with their key files and ports. -/
def clients : List (Party × String × String) :=
  [(.alice, "alice.key", "9001"), (.bob, "bob.key", "9002")]

/-- From the start of the `try` block to the extraction of `space_id`. -/
def setup : Script (Option String) := createSpace runCommand [.alice, .bob] "kick-test"

/-- From the `space_id` guard to the end of the final propagation wait. -/
def exchange (spaceId : String) : Script Unit := do
  let details ← spaceDetails runCommand
  let bobId ← joinSpace runCommand .bob details 5 2
  runCommand .alice ("member add " ++ strOf bobId) 5
  sleep 4
  runCommand .alice "channel create general" 3
  runCommand .alice "thread create \"Kick Test\"" 3
  runCommand .alice "send Message 1: Before kick" 4
  sleep 5
  navigate .bob spaceId "Kick Test"
  runCommand .bob "send Message 2: Bob reply before kick" 4
  sleep 7
  runCommand .alice ("kick " ++ strOf bobId) 7
  runCommand .alice "send Message 3: After kick - Bob should NOT see this" 4
  sleep 10

/-- The six checks of the results section, in order, on the contents read. -/
def checks (alice bob : List Char) : List Bool :=
  [occursIn "Before kick" bob,
    occursIn "Bob reply before kick" alice,
    decide (1 ≤ decrypts bob ∧ 1 ≤ decrypts alice),
    occursIn "Successfully removed user" alice || occursIn "MLS keys rotated" alice ||
      occursIn "removed member can't decrypt" (lower alice),
    !occursIn "After kick" bob,
    decide (decrypts bob ≤ 4)]

/-- The exit code of the results section: `tests_passed` out of 6, threshold 4. -/
def verdict (alice bob : List Char) : Nat := partialVerdict 6 4 ((checks alice bob).count true)

/-- The results section: read both logs, then score. -/
def results : Script Nat := do
  let alice ← readLog .alice
  let bob ← readLog .bob
  pure (verdict alice bob)

/-- The body of the `try` block. -/
def body : Script Nat := requireId setup fun spaceId => do
  exchange spaceId
  results

/-- The script's `main`. -/
def main : Script Nat := launch binaryPath clients body (terminateAll [.alice, .bob] 3)

theorem results_spec (w : World) :
    results.wp (fun r w' => r = .ok (verdict (w'.seen .alice) (w'.seen .bob))) w := by
  simp only [results, Script.bind_eq, wp_readLog_bind]
  intro t₁ t₂
  simp [Function.update_noteq]

theorem body_spec (w : World) :
    body.wp (fun r w' => r = .ok 0 → verdict (w'.seen .alice) (w'.seen .bob) = 0) w :=
  requireId_wp (fun _ h => by simp at h) (fun _ _ h => by simp at h) (fun _ _ =>
    wp_bind_forget (fun _ _ h => by simp at h) fun _ w' =>
      wp_mono (fun r _ h h0 => (Except.ok.inj (h0 ▸ h)).symm) (results_spec w')) w

/-- Every run that exits with status 0 leaves reads whose verdict is 0. -/
theorem exit_zero_verdict (env : Nat → Tick) :
    exitStatus (main.run World.init env).result = 0 →
      verdict ((main.run World.init env).world.seen .alice)
        ((main.run World.init env).world.seen .bob) = 0 :=
  wp_run (@launch_exit_zero _ _ _ _ (fun seen => verdict (seen .alice) (seen .bob) = 0)
    body_spec (terminateAll_seen _ _) _) env

/-! ### Ids that are not guarded -/

/-- The run exited 0 with no peer id in Alice's last read, and Bob was sent a `connect` to
`.../p2p/None`. -/
def PeerNoneSent (r : Except PyExc Nat) (w : World) : Prop :=
  exitStatus r = 0 → firstGroup Pat.peerId (w.seen .alice) = none →
    Event.write .bob "connect /ip4/127.0.0.1/tcp/9001/p2p/None" ∈ w.events

theorem peerNoneSent_error (e : PyExc) (w : World) : PeerNoneSent (.error e) w :=
  fun h => nomatch h

/-- A later read that shows no peer id, and events that only grew since Bob was sent the
`connect`, make `PeerNoneSent` hold. -/
theorem peerNoneSent_of_grows {r : Except PyExc Nat} {w w' : World}
    (hs : ∀ p, w.seen p <+: w'.seen p) (he : w.events <:+ w'.events) :
    PeerNoneSent r w → PeerNoneSent r w' := fun h h0 hn =>
  he.subset (h h0 (firstGroup_token_eq_none (hs .alice) hn))

theorem body_sends_peer_none (w : World) : body.wp PeerNoneSent w := by
  refine requireId_wp (fun _ h => nomatch h) peerNoneSent_error (fun _ w => ?_) w
  simp only [exchange, Script.bind_eq, Script.bind_assoc]
  refine wp_bind_of (spaceDetails_peerId runCommand w) (fun e w _ => peerNoneSent_error e w)
    fun d w₁ hd => ?_
  cases hp : firstGroup Pat.peerId (w₁.seen .alice) with
  | some v =>
    refine wp_mono (fun r w' hs _ hn => ?_) (wp_seen_grows _ w₁)
    exact absurd (hp.symm.trans (firstGroup_token_eq_none (hs .alice) hn)) (Option.some_ne_none v)
  | none =>
    refine wp_bind_of (joinSpace_connects .bob d 5 2 w₁) (fun e w _ => peerNoneSent_error e w)
      fun b w₂ hb => ?_
    have hsent := hb b rfl
    rw [hd d rfl, hp] at hsent
    exact wp_mono (fun _ _ he _ _ => he.subset hsent) (wp_events_grow _ w₂)

/-- **A missing peer id is sent on**: every run that exits with status 0 while Alice's log,
as the scoring read it, shows no `Peer ID:` line has sent Bob
`connect /ip4/127.0.0.1/tcp/9001/p2p/None`. -/
theorem exit_zero_sends_peer_none (env : Nat → Tick) :
    exitStatus (main.run World.init env).result = 0 →
      firstGroup Pat.peerId ((main.run World.init env).world.seen .alice) = none →
      Event.write .bob "connect /ip4/127.0.0.1/tcp/9001/p2p/None" ∈
        (main.run World.init env).world.events :=
  wp_run (launch_wp_of_keeps (fun _ h => nomatch h) peerNoneSent_error body_sends_peer_none
    fun _ w h => wp_mono (fun _ _ hw => peerNoneSent_of_grows (fun _ => hw.1 ▸ List.prefix_refl _)
      hw.2 h) (wp_and (terminateAll_seen _ _ w) (wp_events_grow _ w))) env

/-- Alice's log shows the new space and none of the other ids, Bob's log no user id; the
checks of the results section all pass. -/
def missingIds : Nat → Tick := printsAt 3 fun
  | .alice => "Created space: kick-test (0123456789abcdef)\nBob reply before kick\n" ++
      "MLS keys rotated\nDecrypted MLS message\n"
  | .bob => "Before kick\nDecrypted MLS message\n"
  | _ => ""

set_option maxRecDepth 10000 in
theorem exit_zero_sends_peer_none_missing_ids :
    exitStatus (main.run World.init missingIds).result = 0 ∧
      firstGroup Pat.peerId ((main.run World.init missingIds).world.seen .alice) = none ∧
      Event.write .bob "connect /ip4/127.0.0.1/tcp/9001/p2p/None" ∈
        (main.run World.init missingIds).world.events :=
  have h : exitStatus (main.run World.init missingIds).result = 0 ∧
      firstGroup Pat.peerId ((main.run World.init missingIds).world.seen .alice) = none := by
    decide
  ⟨h.1, h.2, exit_zero_sends_peer_none missingIds h.1 h.2⟩

set_option maxRecDepth 10000 in
/-- On `missingIds` the run sends the peer id, the full space id, the invite code and Bob's id
as `None`, and exits 0. -/
theorem missing_ids_sent_as_none :
    let o := main.run World.init missingIds
    exitStatus o.result = 0 ∧
      Event.write .bob "connect /ip4/127.0.0.1/tcp/9001/p2p/None" ∈ o.world.events ∧
      Event.write .bob "join None None" ∈ o.world.events ∧
      Event.write .alice "member add None" ∈ o.world.events ∧
      Event.write .alice "kick None" ∈ o.world.events := by
  decide

/-! ### What the body does -/

/-- The three parts of the body write only to the two instances `main` started, read their
logs and sleep. -/
theorem parts_talk : Talks [.alice, .bob] setup ∧
    (∀ spaceId, Talks [.alice, .bob] (exchange spaceId)) ∧
    Talks [.alice, .bob] results := by
  refine ⟨createSpace_talks (fun _ h => h) (by decide) _, fun _ => ?_, ?_⟩ <;>
    repeat' first
      | exact spaceDetails_talks (by decide)
      | exact joinSpace_talks (by decide) _ _ _
      | exact navigate_talks (by decide) _ _
      | refine Talks.bind ?_ fun _ => ?_
      | refine talks_elim ?_ (fun _ => ?_) _
      | exact runCommand_talks (by decide) _ _
      | exact sleep_talks _ _
      | exact findInLog_talks _ _ _
      | exact checkLog_talks _ _ _
      | exact readLog_talks _ _
      | exact .pure _

theorem body_talks : Talks [.alice, .bob] body :=
  parts_talk.1.bind fun _ => talks_elim (.pure 1)
    (fun _ => (parts_talk.2.1 _).bind fun _ => parts_talk.2.2) _

/-! ### The exit code -/

/-- **The return code is the guard and the verdict of the final reads**: every run returns
1 when the last read of Alice's log lacks the short space id and the verdict of the final
reads otherwise, unless a write to an instance that has exited raised `BrokenPipeError`. -/
theorem main_exitsBy (env : Nat → Tick) :
    MainExitsBy [Pat.createdSpace] (fun seen => verdict (seen .alice) (seen .bob))
      (main.run World.init env).result (main.run World.init env).world :=
  wp_run (launch_exitsBy rfl (by decide)
    (fun _ => requireId_firstGroup_exitsBy (keeps_createdId _) parts_talk.1.breaksOnExit
      (createSpace_firstGroup _ _ _)
      fun _ _ _ => bind_exitsBy (parts_talk.2.1 _).breaksOnExit
        fun _ w => wp_mono (fun _ _ h => exitsBy_nil h) (results_spec w))
    (terminateAll_seen _ _) (terminateAll_ok _ _)) env

/-! ### The instances' lifecycle -/

/-- **Every run follows the instances' lifecycle**: each instance is started once, takes
command lines only while running, and is sent `terminate` once, before any `kill`; none is
left running, unless the start-up before the `try` raised `OSError` (no `cargo`, or a failed
`Popen`), in a run of starts only. -/
theorem main_settled (env : Nat → Tick) :
    Settled (main.run World.init env).world.events ∨ (main.run World.init env).result =
      .error .osError ∧ Abandoned (main.run World.init env).world.events :=
  wp_run (launch_settled (rfl : clients.map Prod.fst = [.alice, .bob]) (by decide)
    body_talks.keepsLives (terminateAll_settles (by decide) _) rfl) env

/-! ### The kick comes first -/

/-- The message the script sends after its kick. -/
def sentAfterKick : List (Party × String) :=
  [(.alice, "send Message 3: After kick - Bob should NOT see this")]

/-- The body sends the message after the kick only once Alice's instance took the kick. -/
theorem body_kickFirst :
    KeepsOrder KickSent (fun p cmd => (p, cmd) ∈ sentAfterKick) false body := by
  have hb : SendOrKick fun p cmd => (p, cmd) ∈ sentAfterKick := sendOrKick_mem (by decide)
  refine keepsOrder_bind (createSpace_keepsOrder hb _ _)
    (.inr fun _ => keepsOrder_elim (pure_keepsOrder _) (fun _ => ?_) _)
  repeat' first
    | with_reducible exact spaceDetails_keepsOrder hb
    | with_reducible exact joinSpace_keepsOrder hb _ _ _ _
    | with_reducible exact navigate_keepsOrder hb _ _ _
    | apply keepsOrder_bind
    | exact .inl rfl
    | refine .inr fun _ => ?_
    | refine keepsOrder_elim ?_ (fun _ => ?_) _
    | exact runCommand_keepsOrder (by decide) _
    | exact runCommand_first (by exact ⟨rfl, _, rfl⟩)
        (not_mem_of_start (prefix_toList_append _ _) (by decide)) _
    | exact runCommand_keepsOrder (hb.not_of_start (prefix_toList_append _ _) (by decide)) _
    | exact sleep_keepsOrder _
    | exact findInLog_keepsOrder _ _
    | exact readLog_keepsOrder _
    | exact pure_keepsOrder _

/-- **The kick comes first**: in every run, the message after the kick reaches Alice's
instance only after a `kick` did. -/
theorem main_kickFirst (env : Nat → Tick) :
    KickFirst sentAfterKick (main.run World.init env).world.events :=
  launch_precedes body_kickFirst.preserves env

/-! ### The kick names a member added before -/

/-- The body kicks a user id only after adding it. -/
theorem body_kicksAdded (id : String) : KeepsOrder (AddOf id) (KickOf id) false body := by
  have hb := sendOrKick_kickOf id
  refine keepsOrder_bind (createSpace_keepsOrder hb _ _)
    (.inr fun _ => keepsOrder_elim (pure_keepsOrder _) (fun _ => ?_) _)
  repeat' first
    | with_reducible exact spaceDetails_keepsOrder hb
    | with_reducible exact joinSpace_keepsOrder hb _ _ _ _
    | with_reducible exact navigate_keepsOrder hb _ _ _
    | apply keepsOrder_bind
    | refine flag_or_of_ne fun _ _ => ?_
    | refine .inr fun _ => ?_
    | refine keepsOrder_elim ?_ (fun _ => ?_) _
    | exact runCommand_addOf _ _ _
    | exact runCommand_keepsOrder (not_kickOf_of_start (List.prefix_refl _) (by decide)) _
    | exact runCommand_keepsOrder (not_kickOf_of_ne (by assumption)) _
    | exact sleep_keepsOrder _
    | exact findInLog_keepsOrder _ _
    | exact readLog_keepsOrder _
    | exact pure_keepsOrder _

/-- **Alice kicks only a member she added**: in every run, each `kick` reaching Alice's
instance names a user id that a `member add` reaching it named before. -/
theorem main_kicksAdded (env : Nat → Tick) : KicksAdded (main.run World.init env).world.events :=
  fun id => launch_precedes (body_kicksAdded id).preserves env

end SpacewayScenarios.KickMember
