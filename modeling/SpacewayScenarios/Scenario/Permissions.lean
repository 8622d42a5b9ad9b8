import SpacewayScenarios.Script.Exit
import SpacewayScenarios.Script.Lifecycle

/-!
# tests/scripts/test-permissions.py

Alice creates a space, Bob and Charlie join, and the script probes the permission system
through the command line: the owner creates a channel (test 1), the member Charlie tries to
create one (test 3) and creates an invite (test 4), and a message reaches both members
(test 7). The other numbered tests only print. `main` returns 0 exactly when all four
recorded outcomes are true.

The script has its own helpers: `run_command` swallows a broken pipe, `check_log` can look
line by line first (`checkLog`), and the members' ids are sliced for printing, which raises
`TypeError` on a missing id; the `except Exception` around the body turns that into 1.

Test 3 decides on two reads of Charlie's log after the command: a denial word anywhere in the
first passes the test, even one written before the command, and only without one does the
`Created channel` check of the second fail it. The reads are events of the history, so test 3's
judgement can be read off every run: **a run whose history shows the first read without a
denial word and the second with `Created channel` returns 1** (`created_channel_fails_run`).

The other three outcomes rest on facts that later reads keep, so **a run that exits 0 ends
with reads that show them all** (`exit_zero_outcomes`): Alice's created channel, an invite
code in Charlie's log, and a decrypted message in Bob's and in Charlie's.

The build and the `Popen`s come before the `try`; after them nothing escapes `main`: **every
run returns 0 or 1, and 1 when a member's user id is missing, unless the start-up raised
`OSError`** (`main_returns`).
-/

namespace SpacewayScenarios.Permissions

open Script (wp_run wp_mono wp_and wp_bind_of wp_bind_forget wp_seen_grows keepsSeen_forM
  KeepsSeen)

/-- The variable `binary_path`. -/
def binaryPath : String := "./target/debug/spaceway"

/-- The variable `test_dir`. -/
def testDir : String := "tests/test-runs/permissions"

/-- The three instances with their key files and ports. -/
def clients : List (Party × String × String) :=
  [(.alice, testDir ++ "/alice.key", "9001"), (.bob, testDir ++ "/bob.key", "9002"),
    (.charlie, testDir ++ "/charlie.key", "9003")]

/-- This script's `run_command`: a write to an exited instance raises `BrokenPipeError`,
which it catches and reports, skipping the sleep. -/
def runCommand (p : Party) (cmd : String) (wait : Nat) : Script Unit :=
  .op (.write p cmd) fun (ok : Bool) => if ok then sleep wait else .pure ()

/-- The lines of a log, `content.split('\n')`. -/
def lines (content : List Char) : List (List Char) := content.splitOn '\n'

private theorem mem_intersperse_of_mem {α : Type} (sep : α) :
    ∀ {ls : List α} {l : α}, l ∈ ls → l ∈ ls.intersperse sep
  | [_], _, h => by simpa using h
  | a :: b :: t, l, h => by
    rw [List.intersperse_cons_cons]
    rcases List.mem_cons.mp h with rfl | h
    · exact List.mem_cons_self _ _
    · exact List.mem_cons_of_mem _ (List.mem_cons_of_mem _ (mem_intersperse_of_mem sep h))

theorem infix_of_mem_lines {c l : List Char} (h : l ∈ lines c) : l <:+: c := by
  have := List.infix_of_mem_flatten (mem_intersperse_of_mem ['\n'] h)
  rwa [← List.intercalate.eq_1, lines, List.intercalate_splitOn] at this

/-- This script's `check_log(log, pattern, context_lines)`: with context lines, a line the
pattern matches decides; otherwise, or when no line matches, the whole content does. The
context text it returns is only printed. -/
def checkLog (p : Party) (pattern : Re) (contextLines : Nat) : Script Bool :=
  .op (.read p) fun (c : List Char) =>
    .pure (decide (0 < contextLines) && (lines c).any (found pattern) || found pattern c)

/-- The line-by-line search finds nothing the search of the whole content misses. -/
theorem checkLog_value (n : Nat) (pattern : Re) (c : List Char) :
    (decide (0 < n) && (lines c).any (found pattern) || found pattern c) = found pattern c := by
  cases h : found pattern c
  · simp only [Bool.or_false, Bool.and_eq_false_iff, List.any_eq_false]
    exact .inr fun l hl hf => by simpa [h] using found_infix (infix_of_mem_lines hl) hf
  · simp

/-- **The line-by-line pass changes nothing**: with any number of context lines, this
script's `check_log` answers as the shared one, which searches the whole content. -/
theorem checkLog_eq_shared (p : Party) (pattern : Re) (contextLines : Nat) :
    checkLog p pattern contextLines = SpacewayScenarios.checkLog p pattern :=
  congrArg (Script.op (.read p)) (funext fun c => congrArg Script.pure (checkLog_value _ _ c))

/-- Pattern `r'(Created channel|Channel.*created)'`. -/
def channelCreated : Re :=
  .group (.alt (Pat.text "Created channel")
    (.seq (.lit "Channel".toList) (.seq (.star .dot) (.lit "created".toList))))

/-- Pattern `r'(permission|Permission|denied|Denied|not allowed|cannot)'`. -/
def denial : Re :=
  .group (.alt (Pat.text "permission") (.alt (Pat.text "Permission") (.alt (Pat.text "denied")
    (.alt (Pat.text "Denied") (.alt (Pat.text "not allowed") (Pat.text "cannot"))))))

/-- From the start of the `try` block to the extraction of `space_id`. -/
def setup : Script (Option String) :=
  createSpace runCommand [.alice, .bob, .charlie] "permission-test"

/-- A member joins, selects the space, and the script prints the first sixteen characters of
its id: `bob_id[:16]` raises `TypeError` when the id is missing. -/
def joinMember (p : Party) (details : Option String × Option String × Option String)
    (spaceId : String) : Script String := do
  let id ← joinSpace runCommand p details 5 2
  runCommand p ("space " ++ spaceId) 3
  match id with
  | some v => .pure v
  | none => .raise .typeError

/-- From the `space_id` guard to the end of the MLS additions. -/
def membership (spaceId : String) : Script Unit := do
  let details ← spaceDetails runCommand
  let bobId ← joinMember .bob details spaceId
  let charlieId ← joinMember .charlie details spaceId
  runCommand .alice ("member add " ++ bobId) 5
  sleep 10
  runCommand .alice ("member add " ++ charlieId) 5
  sleep 8

/-- Test 1, "Owner creates channel". -/
def ownerTest : Script Bool := do
  runCommand .alice "channel create general" 3
  checkLog .alice channelCreated 0

/-- Test 3, "Member blocked from creating channels": a denial word passes it; without one,
a `Created channel` line fails it. -/
def memberTest : Script Bool := do
  runCommand .charlie "channel create charlies-channel" 3
  let denied ← checkLog .charlie denial 2
  if denied then .pure true
  else do
    let created ← checkLog .charlie (Pat.text "Created channel") 0
    .pure !created

/-- Test 4, "Member can invite". -/
def inviteTest : Script Bool := do
  sleep 5
  runCommand .charlie "invite create" 5
  let charlieInvite ← findInLog .charlie Pat.inviteCode
  .pure charlieInvite.isSome

/-- Test 7, "MLS messaging works": Alice posts in a new thread of `general`. -/
def messagingTest : Script Bool := do
  runCommand .alice "channel general" 3
  sleep 3
  runCommand .alice "thread create \"Permission Test\"" 4
  runCommand .alice "send Hello Bob and Charlie! Testing permissions." 5
  sleep 15
  let _ ← readLog .alice
  let bob ← readLog .bob
  let charlie ← readLog .charlie
  .pure (decide (0 < decrypts bob ∧ 0 < decrypts charlie))

/-- The return code: 0 when every recorded outcome is true, 1 otherwise. -/
def verdict (outcomes : List Bool) : Nat := fullVerdict outcomes.length (outcomes.count true)

/-- The body of `main` from its `try`, with the `except Exception` that returns 1. -/
def body : Script Nat :=
  Script.tryCatch (requireId setup fun spaceId => do
    membership spaceId
    let ownerCreates ← ownerTest
    let memberBlocked ← memberTest
    let memberInvites ← inviteTest
    let messaging ← messagingTest
    sleep 3
    .pure (verdict [ownerCreates, memberBlocked, memberInvites, messaging]))
  fun _ => .pure 1

/-- The `finally` block: terminate and wait for each client, killing it on a timeout. -/
def teardown : Script Unit := [Party.alice, .bob, .charlie].forM fun p => stopClient p 2

/-- The script's `main`. -/
def main : Script Nat := launch binaryPath clients body teardown

theorem teardown_stopped (w : World) : teardown.wp (fun _ w' => Stopped [.alice, .bob, .charlie] w') w :=
  wp_mono (fun _ _ h => h.2) (forM_stopped (fun p w => stopClient_stopped p 2 w) _ w)

/-! ### Test 3 on a created channel -/

/-- Test 3's command line, as the history records it when Charlie's instance takes it. -/
def createAttempt : Event := .write .charlie "channel create charlies-channel"

/-- The history holds no write of test 3's command line. -/
def Unattempted (es : List Event) : Prop := createAttempt ∉ es

theorem Unattempted.cons {es : List Event} {e : Event} (h : Unattempted es)
    (he : e ≠ createAttempt) : Unattempted (e :: es) :=
  List.not_mem_cons_of_ne_of_not_mem (Ne.symm he) h

/-- What the final reads show when test 1, test 4 and test 7 passed. -/
structure Outcomes (seen : Party → List Char) : Prop where
  ownerCreated : found channelCreated (seen .alice) = true
  memberInvited : (firstGroup Pat.inviteCode (seen .charlie)).isSome = true
  bobDecrypts : 0 < decrypts (seen .bob)
  charlieDecrypts : 0 < decrypts (seen .charlie)

theorem verdict_eq_zero_iff {a b c d : Bool} :
    verdict [a, b, c, d] = 0 ↔ a = true ∧ b = true ∧ c = true ∧ d = true := by
  cases a <;> cases b <;> cases c <;> cases d <;> decide

theorem ownerTest_created (w : World) :
    ownerTest.wp (fun r w' => ∀ b, r = .ok b → b = true →
      found channelCreated (w'.seen .alice) = true) w :=
  wp_bind_forget (fun _ _ _ h => nomatch h) fun _ _ t => by
    simp only [checkLog, checkLog_value, Op.exec]
    rintro _ ⟨⟩ h
    simpa using h

theorem inviteTest_found (w : World) :
    inviteTest.wp (fun r w' => ∀ b, r = .ok b → b = true →
      (firstGroup Pat.inviteCode (w'.seen .charlie)).isSome = true) w :=
  wp_bind_forget (fun _ _ _ h => nomatch h) fun _ _ =>
    wp_bind_forget (fun _ _ _ h => nomatch h) fun _ _ t => by
      simp only [findInLog, Op.exec]
      rintro _ ⟨⟩ h
      simpa using h

theorem messagingTest_decrypts (w : World) :
    messagingTest.wp (fun r w' => ∀ b, r = .ok b → b = true →
      0 < decrypts (w'.seen .bob) ∧ 0 < decrypts (w'.seen .charlie)) w := by
  have herr : ∀ e (w' : World) b, (.error e : Except PyExc Bool) = .ok b → b = true →
      0 < decrypts (w'.seen .bob) ∧ 0 < decrypts (w'.seen .charlie) := fun _ _ _ h => nomatch h
  simp only [messagingTest, Script.bind_eq]
  refine wp_bind_forget herr fun _ _ => wp_bind_forget herr fun _ _ =>
    wp_bind_forget herr fun _ _ => wp_bind_forget herr fun _ _ =>
    wp_bind_forget herr fun _ _ => wp_bind_forget herr fun _ _ => ?_
  simp only [wp_readLog_bind]
  intro t₁ t₂
  simp [Function.update_noteq]

theorem body_spec (w : World) : body.wp (fun r w' => r = .ok 0 → Outcomes w'.seen) w := by
  have herr : ∀ e (w' : World), (.error e : Except PyExc Nat) = .ok 0 → Outcomes w'.seen :=
    fun _ _ h => nomatch h
  refine (Script.wp_tryCatch _ _ _ _).2 (@wp_mono _ _ (fun r w' => r = .ok 0 → Outcomes w'.seen)
    _ _ (fun r _ h => ?_) (requireId_wp (fun _ h => nomatch h) herr (fun _ w₀ => ?_) w))
  · cases r with
    | ok n => exact h
    | error e => exact fun h1 => nomatch h1
  simp only [Script.bind_eq]
  refine wp_bind_forget herr fun _ w₁ => ?_
  refine wp_bind_of (wp_and (ownerTest_created w₁) (wp_seen_grows _ w₁)) (fun e w' _ => herr e w')
    fun o w₂ ho => ?_
  refine wp_bind_of (wp_seen_grows _ w₂) (fun e w' _ => herr e w') fun m w₃ h₃ => ?_
  refine wp_bind_of (wp_and (inviteTest_found w₃) (wp_seen_grows _ w₃)) (fun e w' _ => herr e w')
    fun i w₄ hi => ?_
  refine wp_bind_of (wp_and (messagingTest_decrypts w₄) (wp_seen_grows _ w₄))
    (fun e w' _ => herr e w') fun msg w₅ hmsg => ?_
  refine wp_bind_of (wp_seen_grows _ w₅) (fun e w' _ => herr e w') fun _ w₆ h₆ h0 => ?_
  obtain ⟨rfl, -, rfl, rfl⟩ := verdict_eq_zero_iff.mp (Except.ok.inj h0)
  have hdec := hmsg.1 true rfl rfl
  exact ⟨found_mono ((h₃ _).trans ((hi.2 _).trans ((hmsg.2 _).trans (h₆ _)))) (ho.1 true rfl rfl),
    isSome_firstGroup_token_mono ((hmsg.2 _).trans (h₆ _)) (hi.1 true rfl rfl),
    hdec.1.trans_le (decrypts_mono (h₆ _)), hdec.2.trans_le (decrypts_mono (h₆ _))⟩

/-- **Exit 0 shows the persistent outcomes**: every run that exits with status 0 ends with
reads that show Alice's created channel, an invite code in Charlie's log and a decrypted
message in Bob's and in Charlie's log. -/
theorem exit_zero_outcomes (env : Nat → Tick) :
    exitStatus (main.run World.init env).result = 0 → Outcomes (main.run World.init env).world.seen :=
  wp_run (launch_exit_zero body_spec (keepsSeen_forM fun p => stopClient_seen p 2) _) env

/-- Logs in which every recorded test passes: Bob and Charlie show their user ids, Alice the
channel she created, Charlie an invite code, and both a decrypted message. -/
def allPass : Nat → Tick := printsAt 3 fun
  | .alice => "Created space: permission-test (0123456789abcdef)\nCreated channel general\n"
  | .bob => "User ID: 1123456789abcdef0123456789abcdef0123456789abcdef0123456789abcdef\n" ++
      "Decrypted MLS message\n"
  | .charlie => "User ID: 2123456789abcdef0123456789abcdef0123456789abcdef0123456789abcdef\n" ++
      "Created invite code: xyz\nDecrypted MLS message\n"
  | .dave => ""

set_option maxRecDepth 20000 in
theorem exit_zero_outcomes_all_pass :
    exitStatus (main.run World.init allPass).result = 0 ∧
      Outcomes (main.run World.init allPass).world.seen :=
  have h : exitStatus (main.run World.init allPass).result = 0 := by decide
  ⟨h, exit_zero_outcomes allPass h⟩

/-! ### What `main` returns -/

/-- The last reads of Bob's and Charlie's logs show their user ids. -/
def UsersFound (seen : Party → List Char) : Prop :=
  (firstGroup Pat.userId (seen .bob)).isSome ∧ (firstGroup Pat.userId (seen .charlie)).isSome

theorem UsersFound.of_grows {seen seen' : Party → List Char} (h : UsersFound seen)
    (hs : ∀ p, seen p <+: seen' p) : UsersFound seen' :=
  ⟨isSome_firstGroup_mono (keeps_labelled _ _) (hs _) h.1,
    isSome_firstGroup_mono (keeps_labelled _ _) (hs _) h.2⟩

theorem runCommand_keepsSeen (p : Party) (cmd : String) (wait : Nat) :
    KeepsSeen (runCommand p cmd wait) := fun _ t => by
  simp only [runCommand, Op.exec]
  split <;> first | rfl | exact fun _ => rfl

/-- A member's join returns normally only with its user id in the last read of its log: a
missing id raises `TypeError` at the slice. -/
theorem joinMember_userId (p : Party) (details : Option String × Option String × Option String)
    (spaceId : String) (w : World) :
    (joinMember p details spaceId).wp
      (fun r w' => ∀ v, r = .ok v → (firstGroup Pat.userId (w'.seen p)).isSome) w :=
  wp_bind_of (joinSpace_userId runCommand p details 5 2 w) (fun _ _ _ _ h => nomatch h)
    fun o w₁ ho => wp_bind_of (runCommand_keepsSeen p _ 3 w₁) (fun _ _ _ _ h => nomatch h)
      fun _ w₂ h₂ => by
        cases o with
        | none => exact fun _ h => nomatch h
        | some v => exact fun _ _ => by rw [h₂, ← ho _ rfl]; rfl

/-- The MLS additions return normally only with both members' user ids in the last reads
of their logs. -/
theorem membership_usersFound (spaceId : String) (w : World) :
    (membership spaceId).wp (fun r w' => r = .ok () → UsersFound w'.seen) w := by
  have herr : ∀ e (w' : World), (.error e : Except PyExc Unit) = .ok () → UsersFound w'.seen :=
    fun _ _ h => nomatch h
  refine wp_bind_forget herr fun _ w₀ => ?_
  refine wp_bind_of (joinMember_userId .bob _ _ w₀) (fun e w' _ => herr e w') fun _ w₁ hb => ?_
  refine wp_bind_of (wp_and (joinMember_userId .charlie _ _ w₁) (wp_seen_grows _ w₁))
    (fun e w' _ => herr e w') fun _ w₂ hc => ?_
  refine wp_mono (fun _ _ h _ => UsersFound.of_grows ?_ h) (wp_seen_grows _ w₂)
  exact ⟨isSome_firstGroup_mono (keeps_labelled _ _) (hc.2 .bob) (hb _ rfl), hc.1 _ rfl⟩

theorem verdict_le_one (outcomes : List Bool) : verdict outcomes = 0 ∨ verdict outcomes = 1 := by
  unfold verdict fullVerdict
  split <;> simp

/-- **The body never raises, and a missing user id makes it return 1**: the script's
`run_command` swallows broken pipes, its `except Exception` turns the `TypeError` of a
missing id into 1, and a passed join leaves the id in every later read. -/
theorem body_returns (w : World) :
    body.wp (fun r w' => (r = .ok 0 ∨ r = .ok 1) ∧ (¬UsersFound w'.seen → r = .ok 1)) w := by
  refine (Script.wp_tryCatch _ _ _ _).2 (wp_mono (fun r w' h => ?_)
    (@requireId_wp _ _ _
      (fun r w' => ∀ n, r = .ok n → (n = 0 ∨ n = 1) ∧ (¬UsersFound w'.seen → n = 1))
      (fun _ _ h => (Except.ok.inj h) ▸ ⟨.inr rfl, fun _ => rfl⟩) (fun _ _ _ h => nomatch h)
      (fun a w₀ => ?_) w))
  · cases r with
    | ok n =>
      obtain ⟨h01, hm⟩ := h n rfl
      exact ⟨h01.imp (congrArg _) (congrArg _), fun m => congrArg _ (hm m)⟩
    | error e => exact ⟨.inr rfl, fun _ => rfl⟩
  refine wp_bind_of (membership_usersFound a w₀) (fun _ _ _ _ h => nomatch h) fun _ w₁ hu => ?_
  refine wp_mono (fun r w' h n hn => ⟨h.1 n hn, fun hm => absurd ((hu rfl).of_grows h.2) hm⟩)
    (@wp_and _ _ (fun r _ => ∀ n, r = .ok n → n = 0 ∨ n = 1) _ _ ?_ (wp_seen_grows _ w₁))
  repeat refine wp_bind_forget (fun _ _ _ h => nomatch h) fun _ _ => ?_
  exact fun _ hn => (Except.ok.inj hn) ▸ verdict_le_one _

/-- **`main` raises only at start-up**: every run returns 0 or 1, and 1 whenever the last read
of Bob's or Charlie's log lacks its user id, unless the build or a `Popen` before the `try`
raised `OSError`, in a run whose history holds only starts. -/
theorem main_returns (env : Nat → Tick) :
    let o := main.run World.init env
    ((o.result = .ok 0 ∨ o.result = .ok 1) ∧ (¬UsersFound o.world.seen → o.result = .ok 1)) ∨
      o.result = .error .osError ∧ StartupOnly o.world.events :=
  wp_run (launch_wp_of_ok
    (R := fun r w => (r = .ok 0 ∨ r = .ok 1) ∧ (¬UsersFound w.seen → r = .ok 1))
    (P := fun r w => ((r = .ok 0 ∨ r = .ok 1) ∧ (¬UsersFound w.seen → r = .ok 1)) ∨
      r = .error .osError ∧ StartupOnly w.events)
    rfl (fun _ => .inl ⟨.inr rfl, fun _ => rfl⟩) (fun _ h => .inr ⟨rfl, h⟩)
    (fun w _ => body_returns w) fun _ w₁ h =>
      wp_mono (fun _ w₂ (h' : w₂.seen = w₁.seen ∧ _) => ⟨h'.2, .inl (h'.1 ▸ h)⟩)
      (wp_and (keepsSeen_forM (fun p => stopClient_seen p 2) w₁)
        (forM_ok (fun p w => wp_mono (fun _ _ h => h.1) (stopClient_stopped p 2 w)) _ w₁))) env

/-! ### The instances' lifecycle -/

/-- This script's `run_command` to a running instance keeps every life. -/
theorem runCommand_keepsLives {l : Party → Life} {p : Party} (hp : l p = .running)
    (cmd : String) (wait : Nat) : KeepsLives l (runCommand p cmd wait) := ⟨fun _ hw _ => by
  simp only [runCommand, Op.exec]
  split
  · exact hw
  · exact fun _ => replay_write hw hp cmd⟩

theorem checkLog_keepsLives (l : Party → Life) (p : Party) (pattern : Re)
    (contextLines : Nat) : KeepsLives l (checkLog p pattern contextLines) :=
  ⟨fun _ h _ => replay_read h _ _⟩

/-- The body writes only to the three instances `main` started, and starts, terminates and
kills none, whichever exception its `except` catches. -/
theorem body_keepsLives : KeepsLives (lives [.alice, .bob, .charlie]) body := by
  refine preserves_tryCatch ?_ fun _ => preserves_pure _ _
  repeat' first
    | refine preserves_bind ?_ fun _ => ?_
    | refine preserves_elim ?_ (fun _ => ?_) _
    | exact runCommand_keepsLives (by decide) _ _
    | exact sleep_preserves _ _
    | exact findInLog_preserves (fun _ _ _ h => replay_read h _ _) _ _
    | exact checkLog_keepsLives _ _ _ _
    | exact readLog_preserves (fun _ _ _ h => replay_read h _ _) _
    | exact preserves_pure _ _
    | exact preserves_raise _ _
    | split

/-- The `finally` block sends each instance `terminate`, then `kill` when its wait times out. -/
theorem teardown_settles (w : World)
    (hw : replay w.events = some (lives [.alice, .bob, .charlie])) :
    teardown.wp (fun _ w' => Settled w'.events) w :=
  wp_mono (fun _ _ ⟨_, l', h', hl'⟩ => ⟨l', h', not_running_of_moves
      (D := fun x => x = .terminated ∨ x = .killed) (by rintro _ (rfl | rfl) ⟨⟩)
      (fun p hp => by simp_all [lives]) hl'⟩)
    (forM_moves (stopClient_moves 2) _ _ w (by decide) (fun _ hp => if_pos hp) hw)

/-- **Every run follows the instances' lifecycle**: each instance is started once, takes
command lines only while running, and is sent `terminate` once, before any `kill`; none is
left running, unless the start-up before the `try` raised `OSError` (no `cargo`, or a failed
`Popen`), in a run of starts only. -/
theorem main_settled (env : Nat → Tick) :
    Settled (main.run World.init env).world.events ∨ (main.run World.init env).result =
      .error .osError ∧ Abandoned (main.run World.init env).world.events :=
  wp_run (launch_settled (rfl : clients.map Prod.fst = [.alice, .bob, .charlie]) (by decide)
    body_keepsLives teardown_settles rfl) env

end SpacewayScenarios.Permissions
