import SpacewayScenarios.Scenario.KickMember
import SpacewayScenarios.Scenario.ThreeMembersKick
import SpacewayScenarios.Scenario.FourMembersKick
import SpacewayScenarios.Scenario.ChannelKick
import SpacewayScenarios.Scenario.ThreeMembers
import SpacewayScenarios.Scenario.Bidirectional
import SpacewayScenarios.Scenario.E2ee

/-!
# What an exit status of 0 says across the scenarios

Each scenario module proves that `main` refines its exit function (`MainExitsBy`), and
`Script.Exit` reads that back into the exit status: 0 exactly when the run returns normally
past its guards with a verdict of 0. The scripts with a partial-success threshold return 0
from `threshold` of `total` checks on, and this module states what that means for the checks
the scripts make:

* **a leak is one failed check among the others**: a removal scenario whose removed member
  shows a message sent after the kick exits 0 exactly when the other checks reach the
  threshold on their own (`exit_zero_iff_with_leak`), as they do at `kickLeak`;
* **the threshold absorbs any failed checks up to its margin**: a threshold scenario exits 0
  exactly when at most `total - threshold` checks fail, delivery checks included; only
  test-bidirectional, whose verdict needs every check, guarantees every delivery, and
  test-e2ee's exit status never reads its logs (`exit_zero_iff_failed_checks`);
* **the decrypt-count bound**: the removed member's decrypt-count check fails once the
  markers before and after the kick together exceed its bound
  (`leaked_decrypts_fail_count`).
-/

namespace SpacewayScenarios

/-! ### Revocation checks -/

/-- **A leak is one failed check among the others**: in every removal scenario, a run whose
removed member's last read shows a text sent into the revoked scope after the kick exits with
status 0 exactly when it returns normally past its guards and the checks other than the
failed revocation check reach the threshold on their own. -/
theorem exit_zero_iff_with_leak :
    (∀ env, let o := KickMember.main.run World.init env
      occursIn "After kick" (o.world.seen .bob) = true →
      (exitStatus o.result = 0 ↔ (∃ n, o.result = .ok n) ∧
        hasIds [Pat.createdSpace] (o.world.seen .alice) = true ∧
        4 ≤ ((KickMember.checks (o.world.seen .alice) (o.world.seen .bob)).eraseIdx 4).count
          true)) ∧
    (∀ env, let o := ThreeMembersKick.main.run World.init env
      occursIn "After kick" (o.world.seen .bob) = true →
      (exitStatus o.result = 0 ↔ (∃ n, o.result = .ok n) ∧
        hasIds [Pat.createdSpace] (o.world.seen .alice) = true ∧
        6 ≤ ((ThreeMembersKick.checks (o.world.seen .alice) (o.world.seen .bob)
          (o.world.seen .charlie)).eraseIdx 5).count true)) ∧
    (∀ env, let o := FourMembersKick.main.run World.init env
      occursIn "After kick" (o.world.seen .bob) = true →
      (exitStatus o.result = 0 ↔ (∃ n, o.result = .ok n) ∧
        hasIds [Pat.createdSpace] (o.world.seen .alice) = true ∧
        7 ≤ ((FourMembersKick.checks (o.world.seen .alice) (o.world.seen .bob)
          (o.world.seen .charlie) (o.world.seen .dave)).eraseIdx 6).count true)) ∧
    (∀ env, let o := ChannelKick.main.run World.init env
      occursIn "Channel 2: After kick" (o.world.seen .charlie) = true →
      (exitStatus o.result = 0 ↔ (∃ n, o.result = .ok n) ∧
        hasIds [Pat.createdSpace, Pat.channelRow "general", Pat.channelRow "private"]
          (o.world.seen .alice) = true ∧
        7 ≤ ((ChannelKick.checks (o.world.seen .alice) (o.world.seen .bob)
          (o.world.seen .charlie)).eraseIdx 2).count true)) ∧
    (∀ env, let o := ChannelKick.main.run World.init env
      occursIn "Channel 2: Bob after Charlie kick" (o.world.seen .charlie) = true →
      (exitStatus o.result = 0 ↔ (∃ n, o.result = .ok n) ∧
        hasIds [Pat.createdSpace, Pat.channelRow "general", Pat.channelRow "private"]
          (o.world.seen .alice) = true ∧
        7 ≤ ((ChannelKick.checks (o.world.seen .alice) (o.world.seen .bob)
          (o.world.seen .charlie)).eraseIdx 3).count true)) :=
  ⟨fun env hleak => (KickMember.main_exitsBy env).exitStatus_eq_zero_iff_eraseIdx (by decide)
      (by simp [KickMember.checks, hleak]),
    fun env hleak => (ThreeMembersKick.main_exitsBy env).exitStatus_eq_zero_iff_eraseIdx
      (by decide) (by simp [ThreeMembersKick.checks, hleak]),
    fun env hleak => (FourMembersKick.main_exitsBy env).exitStatus_eq_zero_iff_eraseIdx
      (by decide) (by simp [FourMembersKick.checks, hleak]),
    fun env hleak => (ChannelKick.main_exitsBy env).exitStatus_eq_zero_iff_eraseIdx (by decide)
      (by simp [ChannelKick.checks, hleak]),
    fun env hleak => (ChannelKick.main_exitsBy env).exitStatus_eq_zero_iff_eraseIdx (by decide)
      (by simp [ChannelKick.checks, hleak])⟩

/-- Bob's log holds `After kick` and two decrypt markers, Alice's the space line, Bob's reply,
the key rotation and one marker: test-kick-member scores 5 of 6. -/
def kickLeak : Nat → Tick := printsAt 3 fun
  | .alice => "Created space: kick-test (0123456789abcdef)\nBob reply before kick\n" ++
      "MLS keys rotated\nDecrypted MLS message\n"
  | .bob => "Before kick\nAfter kick\nDecrypted MLS message\nDecrypted MLS message\n"
  | _ => ""

set_option maxRecDepth 10000 in
/-- At that input the other five checks pass: the leak is absorbed. -/
theorem exit_zero_iff_with_leak_at_kickLeak :
    let o := KickMember.main.run World.init kickLeak
    occursIn "After kick" (o.world.seen .bob) = true ∧
      (exitStatus o.result = 0 ↔ (∃ n, o.result = .ok n) ∧
        hasIds [Pat.createdSpace] (o.world.seen .alice) = true ∧
        4 ≤ ((KickMember.checks (o.world.seen .alice) (o.world.seen .bob)).eraseIdx 4).count
          true) :=
  have hleak : occursIn "After kick"
      ((KickMember.main.run World.init kickLeak).world.seen .bob) = true := by decide
  ⟨hleak, exit_zero_iff_with_leak.1 kickLeak hleak⟩

set_option maxRecDepth 10000 in
/-- At that input test-kick-member exits 0 although Bob's last read shows `After kick`. -/
theorem kick_leak_exits_zero :
    let o := KickMember.main.run World.init kickLeak
    exitStatus o.result = 0 ∧ occursIn "After kick" (o.world.seen .bob) = true := by
  decide

/-! ### Delivery checks -/

/-- **The decrypt-count bound**: for every split of the removed member's log into the part
before and the part after the kick, the decrypt-count check fails once the markers in the
two parts together exceed its bound (4, 5 and 6). -/
theorem leaked_decrypts_fail_count :
    (∀ alice pre post : List Char, 4 < decrypts pre + decrypts post →
      (KickMember.checks alice (pre ++ post)).getLast? = some false) ∧
    (∀ alice charlie pre post : List Char, 5 < decrypts pre + decrypts post →
      (ThreeMembersKick.checks alice (pre ++ post) charlie).getLast? = some false) ∧
    (∀ alice charlie dave pre post : List Char, 6 < decrypts pre + decrypts post →
      (FourMembersKick.checks alice (pre ++ post) charlie dave).getLast? = some false) := by
  refine ⟨fun _ pre post h => ?_, fun _ _ pre post h => ?_, fun _ _ _ pre post h => ?_⟩ <;>
  · have hsplit := decrypts_append pre post
    simp [KickMember.checks, ThreeMembersKick.checks, FourMembersKick.checks]
    omega

/-- Three markers before the kick and two after it fail test-kick-member's decrypt-count
check. -/
theorem two_leaked_decrypts_fail :
    let m := "Decrypted MLS message\n"
    4 < decrypts (m ++ m ++ m).toList + decrypts (m ++ m).toList ∧
      (KickMember.checks [] ((m ++ m ++ m).toList ++ (m ++ m).toList)).getLast? = some false :=
  have h : 4 < decrypts ("Decrypted MLS message\n" ++ "Decrypted MLS message\n" ++
      "Decrypted MLS message\n").toList +
      decrypts ("Decrypted MLS message\n" ++ "Decrypted MLS message\n").toList := by decide
  ⟨h, leaked_decrypts_fail_count.1 _ _ _ h⟩

/-- With the pre-kick markers the scripts' comments expect (3, 4 and 5) before the kick, where
the removed member's pre-kick checks hold, and one marker after it, each removed member's
decrypt-count check passes. -/
theorem one_leaked_decrypt_passes :
    let m := "Decrypted MLS message\n"
    let post := m.toList
    let pre₁ := ("Before kick\n" ++ m ++ m ++ m).toList
    let pre₂ := ("Before kick\n" ++ m ++ m ++ m ++ m).toList
    let pre₃ := ("Before kick\n" ++ m ++ m ++ m ++ m ++ m).toList
    decrypts post = 1 ∧
    (occursIn "Before kick" pre₁ = true ∧ decrypts pre₁ = 3 ∧
      (KickMember.checks (m ++ m).toList (pre₁ ++ post)).getLast? = some true) ∧
    (occursIn "Before kick" pre₂ = true ∧ decrypts pre₂ = 4 ∧
      (ThreeMembersKick.checks (m ++ m).toList (pre₂ ++ post)
        (m ++ m ++ m ++ m).toList).getLast? = some true) ∧
    (occursIn "Before kick" pre₃ = true ∧ decrypts pre₃ = 5 ∧
      (FourMembersKick.checks (m ++ m ++ m).toList (pre₃ ++ post) (m ++ m ++ m ++ m ++ m).toList
        (m ++ m ++ m ++ m ++ m).toList).getLast? = some true) := by
  decide

end SpacewayScenarios
