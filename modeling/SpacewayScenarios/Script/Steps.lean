import SpacewayScenarios.Script.Client

/-!
# Steps the scripts repeat

Blocks that appear verbatim in several scripts, each defined once. They take the script's
`run_command` as an argument, since test-permissions has its own. The opening block differs
between scripts only in the instances and the space's name, which are its parameters.
-/

namespace SpacewayScenarios

open Script (wp_mono wp_bind_forget wp_events_grow)

/-- The opening of the hand-written scripts' `try` blocks: wait for the instances, publish
the key package of each of `ps` in turn, create the space `name` and extract its short id. -/
def createSpace (run : Party → String → Nat → Script Unit) (ps : List Party) (name : String) :
    Script (Option String) := do
  sleep 3
  ps.forM fun p => run p "keypackage publish" 5
  run .alice ("space create " ++ name) 3
  findInLog .alice Pat.createdSpace

/-- The short space id `createSpace` returns is the first one in its last read of Alice's
log. -/
theorem createSpace_firstGroup (run : Party → String → Nat → Script Unit) (ps : List Party)
    (name : String) (w : World) :
    (createSpace run ps name).wp (fun r w' => ∀ o, r = .ok o →
      o = firstGroup Pat.createdSpace (w'.seen .alice)) w := by
  simp only [createSpace, Script.bind_eq]
  repeat refine wp_bind_forget (fun _ _ _ h => nomatch h) fun _ _ => ?_
  exact findInLog_firstGroup _ _ _

/-- After the space exists: `context`, `invite create` and `network`, extracting the full
space id, the invite code and Alice's peer id. -/
def spaceDetails (run : Party → String → Nat → Script Unit) :
    Script (Option String × Option String × Option String) := do
  run .alice "context" 2
  let fullSpaceId ← findInLog .alice Pat.fullSpaceId
  run .alice "invite create" 3
  let invite ← findInLog .alice Pat.inviteCode
  run .alice "network" 2
  let peerId ← findInLog .alice Pat.peerId
  Script.pure (fullSpaceId, invite, peerId)

/-- A member connects to Alice, joins with the invite and asks for its user id; the waits
after `join` and `whoami` are the script's. -/
def joinSpace (run : Party → String → Nat → Script Unit) (p : Party)
    (details : Option String × Option String × Option String) (joinWait whoamiWait : Nat) :
    Script (Option String) := do
  run p ("connect /ip4/127.0.0.1/tcp/9001/p2p/" ++ strOf details.2.2) 3
  run p ("join " ++ strOf details.1 ++ " " ++ strOf details.2.1) joinWait
  run p "whoami" whoamiWait
  findInLog p Pat.userId

/-- The peer id `spaceDetails` returns is what its last read of Alice's log shows: after
that read only the tuple is built. -/
theorem spaceDetails_peerId (run : Party → String → Nat → Script Unit) (w : World) :
    (spaceDetails run).wp (fun r w' => ∀ d, r = .ok d →
      d.2.2 = firstGroup Pat.peerId (w'.seen .alice)) w := by
  have herr : ∀ e (w' : World) d,
      (.error e : Except PyExc (Option String × Option String × Option String)) = .ok d →
        d.2.2 = firstGroup Pat.peerId (w'.seen .alice) := fun _ _ _ h => nomatch h
  simp only [spaceDetails, Script.bind_eq]
  refine wp_bind_forget herr fun _ _ => wp_bind_forget herr fun _ _ =>
    wp_bind_forget herr fun _ _ => wp_bind_forget herr fun _ _ =>
    wp_bind_forget herr fun _ _ => fun t => ?_
  simp only [Op.exec]
  rintro _ ⟨⟩
  simp

/-- The first command of `joinSpace` carries the peer id as Python formats it: every run of
it that returns has sent `connect .../p2p/<peer id>`, with `None` for a missing id. -/
theorem joinSpace_connects (p : Party) (details : Option String × Option String × Option String)
    (joinWait whoamiWait : Nat) (w : World) :
    (joinSpace runCommand p details joinWait whoamiWait).wp (fun r w' => ∀ v, r = .ok v →
      .write p ("connect /ip4/127.0.0.1/tcp/9001/p2p/" ++ strOf details.2.2) ∈ w'.events) w := by
  intro t
  simp only [joinSpace, runCommand, Script.bind_eq, Script.bind_op, Op.exec]
  split
  · rintro _ ⟨⟩
  · exact wp_mono (fun _ _ h _ _ => h.subset (List.mem_cons_self _ _)) (wp_events_grow _ _)

/-- The user id `joinSpace` returns is the first one in its last read of the member's log. -/
theorem joinSpace_userId (run : Party → String → Nat → Script Unit) (p : Party)
    (details : Option String × Option String × Option String) (joinWait whoamiWait : Nat)
    (w : World) :
    (joinSpace run p details joinWait whoamiWait).wp
      (fun r w' => ∀ o, r = .ok o → o = firstGroup Pat.userId (w'.seen p)) w := by
  simp only [joinSpace, Script.bind_eq]
  repeat refine wp_bind_forget (fun _ _ _ h => nomatch h) fun _ _ => ?_
  exact findInLog_firstGroup _ _ _

/-- A member selects the space, lists the channels, and when the rows are there selects
the `general` channel and the thread called `title`. -/
def navigate (p : Party) (spaceId title : String) : Script Unit := do
  runCommand p ("space " ++ spaceId) 2
  runCommand p "channels" 2
  whenSome (← findInLog p (Pat.channelRow "general")) fun channelId => do
    runCommand p ("channel " ++ channelId) 2
    runCommand p "threads" 2
    whenSome (← findInLog p (Pat.threadRow title)) fun threadId =>
      runCommand p ("thread " ++ threadId) 2

end SpacewayScenarios
