import SpacewayScenarios.Scenario.KickMember
import SpacewayScenarios.Scenario.ThreeMembersKick
import SpacewayScenarios.Scenario.FourMembersKick
import SpacewayScenarios.Scenario.ChannelKick
import SpacewayScenarios.Scenario.ThreeMembers
import SpacewayScenarios.Scenario.Bidirectional
import SpacewayScenarios.Scenario.SpaceModes
import SpacewayScenarios.Scenario.Permissions
import SpacewayScenarios.Scenario.E2ee

/-!
# What every run does on its way out

Properties of the scripts' `main` that hold on every path through it, whatever the
instances print and whenever they exit:

* **every started instance is stopped**: the `finally` blocks send `terminate` to every
  instance, after a normal return, the early `return 1` and an exception alike. The
  hand-written scripts start their instances before the `try`, so a `Popen` that raises
  `OSError` leaves the instances started before it running; test-e2ee starts them inside
  the `try` and stops every one that started (`started_instances_stopped`);
* **the guarded id**: the scripts check one identifier, the short space id; a run whose
  last read of Alice's log holds no `Created space:` line exits with status 1
  (`missing_space_id_exits_one`). The other ids have no such guard: `Scenario.KickMember`
  shows a run that sends them on as `None`;
* **the return code is a function of the final reads**: in the six scenarios whose verdict
  reads each log once, every run returns what the scenario's guards and verdict give on
  the logs as the run last read them (`guardedExit`); the only other endings are a
  `BrokenPipeError`, in a run where some instance has exited, and the `OSError` of a
  start-up, in a run that recorded only starts (`exit_code_of_final_reads`);
* **the instances' lifecycle**: every run's history is one the per-instance machine of
  `Script.Lifecycle` accepts, with no instance left running but after a failed start-up
  (`instances_follow_lifecycle`);
* **the kick comes first**: in the member-removal scenarios, every message the script sends
  after its kick reaches an instance only after a `kick` reached Alice's
  (`after_kick_messages_follow_kick`), and every `kick` names a user id that a `member add`
  named before it (`kicks_name_added_members`).
-/

namespace SpacewayScenarios

open Script (wp_run wp_mono wp_tryCatch KeepsSeen keepsSeen_forM)

/-! ### Teardown -/

/-- **Every started instance is stopped**: in every hand-written scenario, every run that
started an instance ends with every instance of the scenario sent `terminate`, unless a
`Popen` raised `OSError` before the `try`, in a run that recorded only starts; in test-e2ee,
whose starts are inside the `try`, every run sends `terminate` to every instance it
started. -/
theorem started_instances_stopped (env : Nat → Tick) :
    (let o := KickMember.main.run World.init env
    Started o.world → Stopped [.alice, .bob] o.world ∨
      o.result = .error .osError ∧ StartupOnly o.world.events) ∧
    (let o := ThreeMembersKick.main.run World.init env
    Started o.world → Stopped [.alice, .bob, .charlie] o.world ∨
      o.result = .error .osError ∧ StartupOnly o.world.events) ∧
    (let o := FourMembersKick.main.run World.init env
    Started o.world → Stopped [.alice, .bob, .charlie, .dave] o.world ∨
      o.result = .error .osError ∧ StartupOnly o.world.events) ∧
    (let o := ChannelKick.main.run World.init env
    Started o.world → Stopped [.alice, .bob, .charlie] o.world ∨
      o.result = .error .osError ∧ StartupOnly o.world.events) ∧
    (let o := ThreeMembers.main.run World.init env
    Started o.world → Stopped [.alice, .bob, .charlie] o.world ∨
      o.result = .error .osError ∧ StartupOnly o.world.events) ∧
    (let o := Bidirectional.main.run World.init env
    Started o.world → Stopped [.alice, .bob] o.world ∨
      o.result = .error .osError ∧ StartupOnly o.world.events) ∧
    (let o := SpaceModes.main.run World.init env
    Started o.world → Stopped [.alice] o.world ∨
      o.result = .error .osError ∧ StartupOnly o.world.events) ∧
    (let o := Permissions.main.run World.init env
    Started o.world → Stopped [.alice, .bob, .charlie] o.world ∨
      o.result = .error .osError ∧ StartupOnly o.world.events) ∧
    StartsStopped (E2ee.main.run World.init env).world.events :=
  ⟨wp_run (launch_teardown (terminateAll_stopped _ _) rfl) env,
    wp_run (launch_teardown (terminateAll_stopped _ _) rfl) env,
    wp_run (launch_teardown (terminateAll_stopped _ _) rfl) env,
    wp_run (launch_teardown (terminateAll_stopped _ _) rfl) env,
    wp_run (launch_teardown (terminateAll_stopped _ _) rfl) env,
    wp_run (launch_teardown (terminateAll_stopped _ _) rfl) env,
    wp_run (launch_teardown (terminateAll_stopped _ _) rfl) env,
    wp_run (launch_teardown Permissions.teardown_stopped rfl) env,
    (E2ee.main_settled env).startsStopped⟩

/-! ### The space id guard -/

theorem firstGroup_createdSpace_append (s t : List Char) (v : String)
    (h : firstGroup Pat.createdSpace s = some v) : firstGroup Pat.createdSpace (s ++ t) = some v :=
  firstGroup_append (keeps_createdId "space") t h

/-- The guard in a `main` of the common shape: a body that starts with
`requireId setup`, where `setup` returns the space id of its last read of Alice's log. -/
theorem launch_requireId_guard {binary : String} {clients : List (Party × String × String)}
    {setup : Script (Option String)} {rest : String → Script Nat} {teardown : Script Unit}
    (hsetup : ∀ w, setup.wp (fun r w' => ∀ o, r = .ok o →
      o = firstGroup Pat.createdSpace (w'.seen .alice)) w)
    (hteardown : KeepsSeen teardown) (env : Nat → Tick) :
    firstGroup Pat.createdSpace
        (((launch binary clients (requireId setup rest) teardown).run World.init env).world.seen
          .alice) = none →
      exitStatus ((launch binary clients (requireId setup rest) teardown).run World.init env).result
        = 1 :=
  wp_run (@launch_wp _ _ _ _
    (fun r seen => firstGroup Pat.createdSpace (seen .alice) = none → exitStatus r = 1) World.init
    (fun _ => rfl) (fun _ _ _ => rfl) (requireId_guard hsetup firstGroup_createdSpace_append)
    hteardown) env

/-- **A missing space id ends the run with status 1**: in every scenario that guards the
short space id, every run whose last read of Alice's log holds no `Created space:` line
exits with status 1. -/
theorem missing_space_id_exits_one (env : Nat → Tick) :
    (firstGroup Pat.createdSpace ((KickMember.main.run World.init env).world.seen .alice) = none →
      exitStatus (KickMember.main.run World.init env).result = 1) ∧
    (firstGroup Pat.createdSpace
        ((ThreeMembersKick.main.run World.init env).world.seen .alice) = none →
      exitStatus (ThreeMembersKick.main.run World.init env).result = 1) ∧
    (firstGroup Pat.createdSpace
        ((FourMembersKick.main.run World.init env).world.seen .alice) = none →
      exitStatus (FourMembersKick.main.run World.init env).result = 1) ∧
    (firstGroup Pat.createdSpace ((ChannelKick.main.run World.init env).world.seen .alice) = none →
      exitStatus (ChannelKick.main.run World.init env).result = 1) ∧
    (firstGroup Pat.createdSpace ((ThreeMembers.main.run World.init env).world.seen .alice) = none →
      exitStatus (ThreeMembers.main.run World.init env).result = 1) ∧
    (firstGroup Pat.createdSpace
        ((Bidirectional.main.run World.init env).world.seen .alice) = none →
      exitStatus (Bidirectional.main.run World.init env).result = 1) ∧
    (firstGroup Pat.createdSpace ((Permissions.main.run World.init env).world.seen .alice) = none →
      exitStatus (Permissions.main.run World.init env).result = 1) :=
  ⟨launch_requireId_guard (createSpace_firstGroup _ _ _) (terminateAll_seen _ _) env,
    launch_requireId_guard (createSpace_firstGroup _ _ _) (terminateAll_seen _ _) env,
    launch_requireId_guard (createSpace_firstGroup _ _ _) (terminateAll_seen _ _) env,
    launch_requireId_guard (createSpace_firstGroup _ _ _) (terminateAll_seen _ _) env,
    launch_requireId_guard (createSpace_firstGroup _ _ _) (terminateAll_seen _ _) env,
    launch_requireId_guard (createSpace_firstGroup _ _ _) (terminateAll_seen _ _) env,
    wp_run (@launch_wp _ _ _ _
      (fun r seen => firstGroup Pat.createdSpace (seen .alice) = none → exitStatus r = 1)
      World.init (fun _ => rfl) (fun _ _ _ => rfl)
      (fun w => (wp_tryCatch _ _ _ _).2 <| wp_mono (fun r _ h => by cases r <;> exact h)
        (requireId_guard (createSpace_firstGroup _ _ _) firstGroup_createdSpace_append w))
      (keepsSeen_forM fun p => stopClient_seen p 2)) env⟩

/-! ### The return code -/

/-- **The return code is a function of the final reads**: in each scenario whose verdict
reads every log once, every run returns the exit function of its guards and verdict on the
run's final reads, unless some instance has exited and a write to it raised
`BrokenPipeError`, or a `Popen` raised `OSError` before the `try`, in a run that recorded
only starts. -/
theorem exit_code_of_final_reads (env : Nat → Tick) :
    MainExitsBy [Pat.createdSpace] (fun seen => KickMember.verdict (seen .alice) (seen .bob))
      (KickMember.main.run World.init env).result (KickMember.main.run World.init env).world ∧
    MainExitsBy [Pat.createdSpace]
      (fun seen => ThreeMembersKick.verdict (seen .alice) (seen .bob) (seen .charlie))
      (ThreeMembersKick.main.run World.init env).result
      (ThreeMembersKick.main.run World.init env).world ∧
    MainExitsBy [Pat.createdSpace]
      (fun seen => FourMembersKick.verdict (seen .alice) (seen .bob) (seen .charlie) (seen .dave))
      (FourMembersKick.main.run World.init env).result
      (FourMembersKick.main.run World.init env).world ∧
    MainExitsBy [Pat.createdSpace, Pat.channelRow "general", Pat.channelRow "private"]
      (fun seen => ChannelKick.verdict (seen .alice) (seen .bob) (seen .charlie))
      (ChannelKick.main.run World.init env).result (ChannelKick.main.run World.init env).world ∧
    MainExitsBy [Pat.createdSpace] (fun seen => ThreeMembers.verdict (seen .bob) (seen .charlie))
      (ThreeMembers.main.run World.init env).result
      (ThreeMembers.main.run World.init env).world ∧
    MainExitsBy [Pat.createdSpace, Pat.createdNamedSpace "LightweightTest",
        Pat.createdNamedSpace "ExplicitMLS"] (fun _ => 0)
      (SpaceModes.main.run World.init env).result (SpaceModes.main.run World.init env).world :=
  ⟨KickMember.main_exitsBy env, ThreeMembersKick.main_exitsBy env,
    FourMembersKick.main_exitsBy env, ChannelKick.main_exitsBy env, ThreeMembers.main_exitsBy env,
    SpaceModes.main_exitsBy env⟩

/-! ### The instances' lifecycle -/

/-- **Every run follows the instances' lifecycle**: in every scenario, whatever the instances
print and whenever they exit, the run's history is one the per-instance machine `Life`
accepts: each instance is started at most once, takes command lines only between its start
and its `terminate`, is sent `terminate` at most once, and is killed only after it. It
leaves no instance running, except in a hand-written scenario where a `Popen` raised
`OSError` before the `try`: that history holds only starts, and the instances started before
the failed one still run. -/
theorem instances_follow_lifecycle (env : Nat → Tick) :
    (let o := KickMember.main.run World.init env
    Settled o.world.events ∨ o.result = .error .osError ∧ Abandoned o.world.events) ∧
    (let o := ThreeMembersKick.main.run World.init env
    Settled o.world.events ∨ o.result = .error .osError ∧ Abandoned o.world.events) ∧
    (let o := FourMembersKick.main.run World.init env
    Settled o.world.events ∨ o.result = .error .osError ∧ Abandoned o.world.events) ∧
    (let o := ChannelKick.main.run World.init env
    Settled o.world.events ∨ o.result = .error .osError ∧ Abandoned o.world.events) ∧
    (let o := ThreeMembers.main.run World.init env
    Settled o.world.events ∨ o.result = .error .osError ∧ Abandoned o.world.events) ∧
    (let o := Bidirectional.main.run World.init env
    Settled o.world.events ∨ o.result = .error .osError ∧ Abandoned o.world.events) ∧
    (let o := SpaceModes.main.run World.init env
    Settled o.world.events ∨ o.result = .error .osError ∧ Abandoned o.world.events) ∧
    (let o := Permissions.main.run World.init env
    Settled o.world.events ∨ o.result = .error .osError ∧ Abandoned o.world.events) ∧
    Settled (E2ee.main.run World.init env).world.events :=
  ⟨KickMember.main_settled env, ThreeMembersKick.main_settled env,
    FourMembersKick.main_settled env, ChannelKick.main_settled env, ThreeMembers.main_settled env,
    Bidirectional.main_settled env, SpaceModes.main_settled env, Permissions.main_settled env,
    E2ee.main_settled env⟩

/-! ### The order of the kick -/

/-- **The kick comes first**: in every member-removal scenario, whatever the instances print
and whenever they exit, every message the script sends after its kick command is written to
its sender's instance only after a `kick` command was written to Alice's running instance;
a run whose kick does not go through sends none of them. -/
theorem after_kick_messages_follow_kick (env : Nat → Tick) :
    KickFirst KickMember.sentAfterKick (KickMember.main.run World.init env).world.events ∧
    KickFirst ThreeMembersKick.sentAfterKick
      (ThreeMembersKick.main.run World.init env).world.events ∧
    KickFirst FourMembersKick.sentAfterKick
      (FourMembersKick.main.run World.init env).world.events ∧
    KickFirst ChannelKick.sentAfterKick (ChannelKick.main.run World.init env).world.events :=
  ⟨KickMember.main_kickFirst env, ThreeMembersKick.main_kickFirst env,
    FourMembersKick.main_kickFirst env, ChannelKick.main_kickFirst env⟩

/-- **Alice kicks only members she added**: in every member-removal scenario, whatever the
instances print and whenever they exit, every `kick` command written to Alice's instance
names a user id that a `member add` command written to it before named, `None` included
when the id was not found. -/
theorem kicks_name_added_members (env : Nat → Tick) :
    KicksAdded (KickMember.main.run World.init env).world.events ∧
    KicksAdded (ThreeMembersKick.main.run World.init env).world.events ∧
    KicksAdded (FourMembersKick.main.run World.init env).world.events ∧
    KicksAdded (ChannelKick.main.run World.init env).world.events :=
  ⟨KickMember.main_kicksAdded env, ThreeMembersKick.main_kicksAdded env,
    FourMembersKick.main_kicksAdded env, ChannelKick.main_kicksAdded env⟩

end SpacewayScenarios
