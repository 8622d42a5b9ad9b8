import SpacewayScenarios.Script.Exit
import SpacewayScenarios.Script.Lifecycle
import SpacewayScenarios.Script.Order

/-!
# tests/scripts/test-channel-kick.py

Alice creates two channels, `general` and `private`, a thread in each, and all three
members post in both; Alice then kicks Charlie from channel 2. Charlie must stop seeing
channel 2 and keep seeing channel 1. Two guards can end the scenario early: the short
space id after `space create`, and the two channel ids after the `channels` listing. The
two thread ids are read with one pattern, each right after its `thread create`
(`createThreads`). The results section has ten checks with a partial-success threshold of
seven.
-/

namespace SpacewayScenarios.ChannelKick

open Script (wp_run wp_mono wp_bind_forget wp_bind_grows)

/-- The variable `binary_path`. -/
def binaryPath : String := "./target/debug/spaceway"

/-- The variable `test_dir`. -/
def testDir : String := "tests/test-runs/channel-kick"

/-- The three instances with their key files and ports. -/
def clients : List (Party × String × String) :=
  [(.alice, testDir ++ "/alice.key", "9001"), (.bob, testDir ++ "/bob.key", "9002"),
    (.charlie, testDir ++ "/charlie.key", "9003")]

/-- From the start of the `try` block to the extraction of `space_id`. -/
def setup : Script (Option String) := createSpace runCommand [.alice, .bob, .charlie] "channel-kick-test"

/-- The channel ids the script takes from one read of Alice's log: `re.search` for both
rows, and `None` unless both are there. Charlie's user id rides along. -/
def channelIds (charlieId : Option String) (content : List Char) :
    Option (Option String × String × String) := do
  let channel1Id ← firstGroup (Pat.channelRow "general") content
  let channel2Id ← firstGroup (Pat.channelRow "private") content
  pure (charlieId, channel1Id, channel2Id)

/-- From the `space_id` guard to the channel-id guard. -/
def prepareChannels : Script (Option (Option String × String × String)) := do
  let details ← spaceDetails runCommand
  let bobId ← joinSpace runCommand .bob details 5 2
  let charlieId ← joinSpace runCommand .charlie details 5 2
  runCommand .alice ("member add " ++ strOf bobId) 5
  sleep 4
  runCommand .alice ("member add " ++ strOf charlieId) 5
  sleep 4
  runCommand .alice "channel create general" 3
  runCommand .alice "channel create private" 3
  runCommand .alice "channels" 2
  let content ← readLog .alice
  Script.pure (channelIds charlieId content)

/-- Alice creates a thread in each channel and reads each thread's id right after creating
it, with the same pattern: `thread1_id` and `thread2_id`. -/
def createThreads (channel1Id channel2Id : String) : Script (Option String × Option String) := do
  runCommand .alice ("channel " ++ channel1Id) 2
  runCommand .alice "thread create \"General Discussion\"" 3
  let thread1Id ← findInLog .alice Pat.createdThread
  runCommand .alice ("channel " ++ channel2Id) 2
  runCommand .alice "thread create \"Private Discussion\"" 3
  let thread2Id ← findInLog .alice Pat.createdThread
  Script.pure (thread1Id, thread2Id)

/-- **`thread2_id` is `thread1_id`**: both reads take the first match of one pattern in
Alice's log, which only grows between them, so whenever the first read finds a thread id
the second returns the same one, whatever Alice's engine prints in between. -/
theorem createThreads_repeats_first (channel1Id channel2Id : String) (w : World) :
    (createThreads channel1Id channel2Id).wp
      (fun r _ => ∀ v thread2Id, r = .ok (some v, thread2Id) → thread2Id = some v) w := by
  have herr : ∀ (e : PyExc) (w' : World), ∀ v thread2Id,
      (Except.error e : Except PyExc (Option String × Option String)) = .ok (some v, thread2Id) →
        thread2Id = some v := fun _ _ _ _ h => nomatch h
  simp only [createThreads, Script.bind_eq, findInLog, Script.bind_op, Script.bind_pure']
  refine wp_bind_grows herr fun _ w₁ _ => wp_bind_grows herr fun _ w₂ _ => fun t => ?_
  refine wp_bind_grows herr fun _ w₃ h₃ => wp_bind_grows herr fun _ w₄ h₄ => fun t' => ?_
  simp only [Op.exec, Script.wp_pure, World.see_log, World.tick_log] at h₃ ⊢
  rintro v thread2Id h
  simp only [Except.ok.injEq, Prod.mk.injEq] at h
  obtain ⟨h1, rfl⟩ := h
  obtain ⟨d, hd⟩ := (h₃ .alice).trans ((h₄ .alice).trans (List.prefix_append _ (t'.out .alice)))
  rw [← hd]
  exact firstGroup_append (keeps_createdId "thread") d h1

/-- Alice's engine prints one creation line per `thread create`, each during the wait after its
command; both reads return the General Discussion thread's id. -/
theorem createThreads_reads_first_thread_twice :
    let o := (createThreads "aaaaaaaaaaaaaaaa" "bbbbbbbbbbbbbbbb").run World.init
      fun n => ⟨fun p => if p = .alice then
          (if n = 3 then "Created thread: General Discussion (1111111111111111)\n".toList
           else if n = 8 then "Created thread: Private Discussion (2222222222222222)\n".toList
           else []) else [], fun _ => false, .ready, false, true⟩
    o.result.toOption = some (some "1111111111111111", some "1111111111111111") ∧
      o.world.log .alice = ("Created thread: General Discussion (1111111111111111)\n" ++
        "Created thread: Private Discussion (2222222222222222)\n").toList := by
  decide

/-- From the channel-id guard to the end of Charlie's last navigation. -/
def exchange (spaceId : String) (ids : Option String × String × String) : Script Unit := do
  let (charlieId, channel1Id, channel2Id) := ids
  [Party.bob, .charlie].forM fun p => do
    runCommand p ("space " ++ spaceId) 2
    runCommand p "channels" 2
  let (thread1Id, thread2Id) ← createThreads channel1Id channel2Id
  [Party.alice, .bob, .charlie].forM fun p => do
    runCommand p ("space " ++ spaceId) 2
    runCommand p ("channel " ++ channel1Id) 2
    runCommand p ("thread " ++ strOf thread1Id) 2
  runCommand .alice "send Channel 1: Alice initial message" 4
  sleep 5
  runCommand .bob "send Channel 1: Bob reply" 4
  sleep 4
  runCommand .charlie "send Channel 1: Charlie reply" 4
  sleep 4
  [Party.alice, .bob, .charlie].forM fun p => do
    runCommand p ("channel " ++ channel2Id) 2
    runCommand p ("thread " ++ strOf thread2Id) 2
  runCommand .alice "send Channel 2: Alice initial message" 4
  sleep 5
  runCommand .bob "send Channel 2: Bob reply" 4
  sleep 4
  runCommand .charlie "send Channel 2: Charlie reply" 4
  sleep 4
  runCommand .alice ("channel " ++ channel2Id) 2
  runCommand .alice ("kick " ++ strOf charlieId) 7
  runCommand .alice ("thread " ++ strOf thread2Id) 2
  runCommand .alice "send Channel 2: After kick - Charlie should NOT see this" 4
  sleep 5
  runCommand .bob ("channel " ++ channel2Id) 2
  runCommand .bob ("thread " ++ strOf thread2Id) 2
  runCommand .bob "send Channel 2: Bob after Charlie kick" 4
  sleep 5
  runCommand .alice ("channel " ++ channel1Id) 2
  runCommand .alice ("thread " ++ strOf thread1Id) 2
  runCommand .alice "send Channel 1: After Channel 2 kick - Charlie SHOULD see this" 4
  sleep 5
  runCommand .bob ("channel " ++ channel1Id) 2
  runCommand .bob ("thread " ++ strOf thread1Id) 2
  runCommand .bob "send Channel 1: Bob after Channel 2 kick" 4
  sleep 5
  runCommand .charlie ("channel " ++ channel2Id) 2
  runCommand .charlie ("thread " ++ strOf thread2Id) 2
  sleep 3
  runCommand .charlie ("channel " ++ channel1Id) 2
  runCommand .charlie ("thread " ++ strOf thread1Id) 2
  sleep 3

/-- The ten checks of the results section, in order, on the contents read. -/
def checks (alice bob charlie : List Char) : List Bool :=
  [occursIn "Channel 1: Alice initial message" charlie && occursIn "Channel 1: Bob reply" charlie,
    occursIn "Channel 2: Alice initial message" charlie && occursIn "Channel 2: Bob reply" charlie,
    !occursIn "Channel 2: After kick" charlie,
    !occursIn "Channel 2: Bob after Charlie kick" charlie,
    occursIn "Channel 1: After Channel 2 kick" charlie,
    occursIn "Channel 1: Bob after Channel 2 kick" charlie,
    occursIn "Channel 2: After kick" bob,
    occursIn "Channel 1: After Channel 2 kick" bob,
    occursIn "Successfully removed user" alice || occursIn "MLS keys rotated" alice,
    decide (6 ≤ decrypts charlie ∧ decrypts charlie ≤ 10)]

/-- The exit code of the results section: `tests_passed` out of 10, threshold 7. -/
def verdict (alice bob charlie : List Char) : Nat :=
  partialVerdict 10 7 ((checks alice bob charlie).count true)

/-- The results section: read the three logs, then score. -/
def results : Script Nat := do
  let alice ← readLog .alice
  let bob ← readLog .bob
  let charlie ← readLog .charlie
  pure (verdict alice bob charlie)

/-- The body of the `try` block. -/
def body : Script Nat := requireId setup fun spaceId => requireId prepareChannels fun ids => do
  exchange spaceId ids
  results

/-- The script's `main`. -/
def main : Script Nat :=
  launch binaryPath clients body (terminateAll [.alice, .bob, .charlie] 3)

theorem results_spec (w : World) :
    results.wp (fun r w' =>
      r = .ok (verdict (w'.seen .alice) (w'.seen .bob) (w'.seen .charlie))) w := by
  simp only [results, Script.bind_eq, wp_readLog_bind]
  intro t₁ t₂ t₃
  simp [Function.update_noteq]

theorem body_spec (w : World) :
    body.wp (fun r w' =>
      r = .ok 0 → verdict (w'.seen .alice) (w'.seen .bob) (w'.seen .charlie) = 0) w :=
  requireId_wp (fun _ h => by simp at h) (fun _ _ h => by simp at h) (fun _ _ =>
    requireId_wp (fun _ h => by simp at h) (fun _ _ h => by simp at h) (fun _ _ =>
      wp_bind_forget (fun _ _ h => by simp at h) fun _ w' =>
        wp_mono (fun r _ h h0 => (Except.ok.inj (h0 ▸ h)).symm) (results_spec w')) _) w

/-- Every run that exits with status 0 leaves reads whose verdict is 0. -/
theorem exit_zero_verdict (env : Nat → Tick) :
    exitStatus (main.run World.init env).result = 0 →
      verdict ((main.run World.init env).world.seen .alice)
        ((main.run World.init env).world.seen .bob)
        ((main.run World.init env).world.seen .charlie) = 0 :=
  wp_run (@launch_exit_zero _ _ _ _
    (fun seen => verdict (seen .alice) (seen .bob) (seen .charlie) = 0)
    body_spec (terminateAll_seen _ _) _) env

/-! ### What the body does -/

/-- The parts of the body write only to the three instances `main` started, read their logs
and sleep. -/
theorem parts_talk : Talks [.alice, .bob, .charlie] setup ∧
    Talks [.alice, .bob, .charlie] prepareChannels ∧
    (∀ spaceId ids, Talks [.alice, .bob, .charlie] (exchange spaceId ids)) ∧
    Talks [.alice, .bob, .charlie] results := by
  refine ⟨createSpace_talks (fun _ h => h) (by decide) _, ?_, fun _ _ => ?_, ?_⟩ <;>
    repeat' first
      | exact spaceDetails_talks (by decide)
      | exact joinSpace_talks (by decide) _ _ _
      | exact navigate_talks (by decide) _ _
      | refine Talks.bind ?_ fun _ => ?_
      | refine talks_elim ?_ (fun _ => ?_) _
      | exact runCommand_talks (by decide) _ _
      | exact sleep_talks _ _
      | exact findInLog_talks _ _ _
      | exact checkLog_talks _ _ _
      | exact readLog_talks _ _
      | exact .pure _

theorem body_talks : Talks [.alice, .bob, .charlie] body :=
  parts_talk.1.bind fun _ => talks_elim (.pure 1) (fun _ => parts_talk.2.1.bind fun _ =>
    talks_elim (.pure 1) (fun _ => (parts_talk.2.2.1 _ _).bind fun _ => parts_talk.2.2.2) _) _

/-! ### The exit code -/

/-- The channel-id guard passes exactly when the content read shows both channel rows. -/
theorem isSome_channelIds (charlieId : Option String) (content : List Char) :
    (channelIds charlieId content).isSome =
      hasIds [Pat.channelRow "general", Pat.channelRow "private"] content := by
  simp only [channelIds, hasIds, List.all_cons, List.all_nil, Bool.and_true]
  cases firstGroup (Pat.channelRow "general") content <;>
    cases firstGroup (Pat.channelRow "private") content <;> rfl

/-- The channel ids come from the last read of Alice's log. -/
theorem prepareChannels_channelIds (w : World) :
    prepareChannels.wp (fun r w' => ∀ o, r = .ok o → ∃ c, o = channelIds c (w'.seen .alice)) w := by
  unfold prepareChannels
  repeat' first
    | exact wp_mono (fun _ _ h o ho => ⟨_, h o ho⟩) (readLog_bind_pure .alice _ _)
    | refine wp_bind_forget (fun _ _ _ h => nomatch h) fun _ _ => ?_

/-- **The return code is the two guards and the verdict of the final reads**: every run
returns 1 when the last read of Alice's log lacks the short space id or one of the two
channel rows, and the verdict of the final reads otherwise, unless a write to an instance
that has exited raised `BrokenPipeError`. -/
theorem main_exitsBy (env : Nat → Tick) :
    MainExitsBy [Pat.createdSpace, Pat.channelRow "general", Pat.channelRow "private"]
      (fun seen => verdict (seen .alice) (seen .bob) (seen .charlie))
      (main.run World.init env).result (main.run World.init env).world :=
  wp_run (launch_exitsBy rfl (by decide)
    (fun _ => requireId_firstGroup_exitsBy (keeps_createdId _) parts_talk.1.breaksOnExit
      (createSpace_firstGroup _ _ _)
      fun _ _ _ => @requireId_exitsBy _ _ _ [Pat.channelRow "general", Pat.channelRow "private"]
        _ _ _ _ (fun _ hg => by
          rcases List.mem_pair.mp hg with rfl | rfl <;>
            exact keeps_listingRow (shortEntry_lit (by decide)))
        (fun _ _ ⟨c, h⟩ => h ▸ isSome_channelIds c _) parts_talk.2.1.breaksOnExit
        prepareChannels_channelIds fun _ _ _ => bind_exitsBy (parts_talk.2.2.1 _ _).breaksOnExit
          fun _ w => wp_mono (fun _ _ h => exitsBy_nil h) (results_spec w))
    (terminateAll_seen _ _) (terminateAll_ok _ _)) env

/-! ### The instances' lifecycle -/

/-- **Every run follows the instances' lifecycle**: each instance is started once, takes
command lines only while running, and is sent `terminate` once, before any `kill`; none is
left running, unless the start-up before the `try` raised `OSError` (no `cargo`, or a failed
`Popen`), in a run of starts only. -/
theorem main_settled (env : Nat → Tick) :
    Settled (main.run World.init env).world.events ∨ (main.run World.init env).result =
      .error .osError ∧ Abandoned (main.run World.init env).world.events :=
  wp_run (launch_settled (rfl : clients.map Prod.fst = [.alice, .bob, .charlie]) (by decide)
    body_talks.keepsLives (terminateAll_settles (by decide) _) rfl) env

/-! ### The kick comes first -/

/-- The messages the script sends after its kick, into each channel. -/
def sentAfterKick : List (Party × String) :=
  [(.alice, "send Channel 2: After kick - Charlie should NOT see this"),
    (.bob, "send Channel 2: Bob after Charlie kick"),
    (.alice, "send Channel 1: After Channel 2 kick - Charlie SHOULD see this"),
    (.bob, "send Channel 1: Bob after Channel 2 kick")]

/-- The body sends the messages after the kick only once Alice's instance took the kick. -/
theorem body_kickFirst :
    KeepsOrder KickSent (fun p cmd => (p, cmd) ∈ sentAfterKick) false body := by
  have hb : SendOrKick fun p cmd => (p, cmd) ∈ sentAfterKick := sendOrKick_mem (by decide)
  refine keepsOrder_bind (createSpace_keepsOrder hb _ _)
    (.inr fun _ => keepsOrder_elim (pure_keepsOrder _) (fun _ => ?_) _)
  repeat' first
    | with_reducible exact spaceDetails_keepsOrder hb
    | with_reducible exact joinSpace_keepsOrder hb _ _ _ _
    | with_reducible exact navigate_keepsOrder hb _ _ _
    | apply keepsOrder_bind
    | exact .inl rfl
    | refine .inr fun _ => ?_
    | refine keepsOrder_elim ?_ (fun _ => ?_) _
    | exact runCommand_keepsOrder (by decide) _
    | exact runCommand_first (by exact ⟨rfl, _, rfl⟩)
        (not_mem_of_start (prefix_toList_append _ _) (by decide)) _
    | exact runCommand_keepsOrder (hb.not_of_start (prefix_toList_append _ _) (by decide)) _
    | exact runCommand_keepsOrder (by simp [sentAfterKick, String.ext_iff, String.data_append]) _
    | exact sleep_keepsOrder _
    | exact findInLog_keepsOrder _ _
    | exact readLog_keepsOrder _
    | exact pure_keepsOrder _

/-- **The kick comes first**: in every run, each message after the kick reaches its
sender's instance only after a `kick` reached Alice's. -/
theorem main_kickFirst (env : Nat → Tick) :
    KickFirst sentAfterKick (main.run World.init env).world.events :=
  launch_precedes body_kickFirst.preserves env

/-! ### The kick names a member added before -/

/-- The channel-id guard hands its continuation Charlie's id as `prepareChannels` extracted
it. -/
theorem keepsOrder_elim_channelIds {a b : Party → String → Prop} {charlieId : Option String}
    {content : List Char} {x : Script Nat} {k : Option String × String × String → Script Nat}
    (hx : KeepsOrder a b false x) (hk : ∀ channel1Id channel2Id,
      KeepsOrder a b false (k (charlieId, channel1Id, channel2Id))) :
    KeepsOrder a b false ((channelIds charlieId content).elim x k) := by
  simp only [channelIds]
  cases firstGroup (Pat.channelRow "general") content <;>
    cases firstGroup (Pat.channelRow "private") content
  exacts [hx, hx, hx, hk _ _]

/-- The body kicks a user id only after adding it. -/
theorem body_kicksAdded (id : String) : KeepsOrder (AddOf id) (KickOf id) false body := by
  simp only [body, requireId, prepareChannels, Script.bind_eq, Script.bind_assoc,
    Script.bind_pure']
  have hb := sendOrKick_kickOf id
  refine keepsOrder_bind (createSpace_keepsOrder hb _ _)
    (.inr fun _ => keepsOrder_elim (pure_keepsOrder _) (fun _ => ?_) _)
  repeat' first
    | with_reducible exact spaceDetails_keepsOrder hb
    | with_reducible exact joinSpace_keepsOrder hb _ _ _ _
    | with_reducible exact navigate_keepsOrder hb _ _ _
    | apply keepsOrder_bind
    | refine flag_or_of_ne fun _ _ => ?_
    | refine .inr fun _ => ?_
    | refine keepsOrder_elim_channelIds ?_ fun _ _ => ?_
    | refine keepsOrder_elim ?_ (fun _ => ?_) _
    | exact runCommand_addOf _ _ _
    | exact runCommand_keepsOrder (not_kickOf_of_start (List.prefix_refl _) (by decide)) _
    | exact runCommand_keepsOrder (not_kickOf_of_start (prefix_toList_append _ _) (by decide)) _
    | exact runCommand_keepsOrder (not_kickOf_of_ne (by assumption)) _
    | exact sleep_keepsOrder _
    | exact findInLog_keepsOrder _ _
    | exact readLog_keepsOrder _
    | exact pure_keepsOrder _

/-- **Alice kicks only a member she added**: in every run, each `kick` reaching Alice's
instance names a user id that a `member add` reaching it named before; the id Charlie is
kicked by is the one `prepareChannels` added, carried through the channel-id guard. -/
theorem main_kicksAdded (env : Nat → Tick) : KicksAdded (main.run World.init env).world.events :=
  fun id => launch_precedes (body_kicksAdded id).preserves env

end SpacewayScenarios.ChannelKick
